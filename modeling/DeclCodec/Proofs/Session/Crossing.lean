import DeclCodec.Proofs.Session.Fits
import Mathlib.Data.List.Nodup
import Mathlib.Data.List.Pairwise

/-!
# Records that cross the wire

Each member of a struct crosses the wire by itself: for what its field holds an
entry is sent, or none, and what is received under the member's names decides what
the field holds afterwards. Where different members receive under different names,
none gets what was sent for another one. So a record crosses if its members do:
what is read into a new instance is the normal form of the record.
-/

namespace DeclCodec

/-- The text of an entry. -/
def entryText (entry : Points × Json) : List Char :=
  Json.quote entry.1 ++ ':' :: entry.2.compact

/-- An entry as it is read from its text: the surrogate pairs in its name are joined. -/
def rereadEntry (entry : Points × Json) : Points × Json := (Text.joined entry.1, entry.2)

/-- The text of an entry is that of the entry as it is read. -/
theorem entryText_rereadEntry (entry : Points × Json) :
    entryText (rereadEntry entry) = entryText entry := by
  rw [entryText, rereadEntry, Json.quote_joined, entryText]

/-- What is received under a name if no other entry than this one may have it. -/
def receiver (codecs : Codecs) (sent : Option (Points × Json)) (name : Points) : Option Reader :=
  ((sent.map rereadEntry).filter (·.1 == name)).map fun entry =>
    ⟨entry.2.toValue, entry.2.toValue.decode codecs⟩

/-! ## Entries of different rows -/

section Rows

variable {ρ : Type} {rows : List ρ} {names : ρ → List Points} {sent : ρ → Option (Points × Json)}

/-- The names of the entries sent are among the names of the rows. -/
theorem mem_flatMap_of_sent (own : ∀ row ∈ rows, ∀ entry ∈ sent row, entry.1 ∈ names row)
    {entry : Points × Json} (member : entry ∈ rows.filterMap sent) :
    entry.1 ∈ rows.flatMap names := by
  obtain ⟨row, among, isSent⟩ := List.mem_filterMap.1 member
  exact List.mem_flatMap.2 ⟨row, among, own row among entry isSent⟩

/-- Where rows have different names, no name is sent twice. -/
theorem nodup_sent (own : ∀ row ∈ rows, ∀ entry ∈ sent row, entry.1 ∈ names row)
    (distinct : (rows.flatMap names).Nodup) : ((rows.filterMap sent).map (·.1)).Nodup := by
  induction rows with
  | nil => exact List.nodup_nil
  | cons first rest inductionHypothesis =>
    rw [List.flatMap_cons, List.nodup_append] at distinct
    have ownRest : ∀ row ∈ rest, ∀ entry ∈ sent row, entry.1 ∈ names row :=
      fun row among => own row (List.mem_cons_of_mem _ among)
    have later := inductionHypothesis ownRest distinct.2.1
    cases isSent : sent first with
    | none => rwa [List.filterMap_cons_none isSent]
    | some entry =>
      rw [List.filterMap_cons_some isSent, List.map_cons, List.nodup_cons]
      refine ⟨?_, later⟩
      intro again
      obtain ⟨other, member, same⟩ := List.mem_map.1 again
      have ownFirst := own first List.mem_cons_self entry isSent
      exact distinct.2.2 entry.1 ownFirst entry.1 (same ▸ mem_flatMap_of_sent ownRest member) rfl

/-- Where rows have different names, nothing but what a row has sent is found under its names. -/
theorem lookup_sent (own : ∀ row ∈ rows, ∀ entry ∈ sent row, entry.1 ∈ names row)
    (distinct : (rows.flatMap names).Nodup) {row : ρ} (among : row ∈ rows) {name : Points}
    (isName : name ∈ names row) :
    (rows.filterMap sent).lookup name = ((sent row).filter (·.1 == name)).map (·.2) := by
  have distinctSent := nodup_sent own distinct
  cases isSent : (sent row).filter (·.1 == name) with
  | some entry =>
    obtain ⟨isEntry, isHere⟩ := Option.filter_eq_some_iff.1 isSent
    have sameName : entry.1 = name := eq_of_beq isHere
    exact Table.lookup_of_mem distinctSent
      (List.mem_filterMap.2 ⟨row, among, by rw [isEntry, ← sameName]⟩)
  | none =>
    cases found : (rows.filterMap sent).lookup name with
    | none => rfl
    | some json =>
      obtain ⟨other, otherAmong, otherSent⟩ := List.mem_filterMap.1 (Table.mem_of_lookup found)
      have otherOwn := own other otherAmong _ otherSent
      have sameRow : row = other := by
        by_contra different
        have symmetric : Std.Symm (Function.onFun List.Disjoint names) :=
          ⟨fun _ _ apart _ inSecond inFirst => apart inFirst inSecond⟩
        have disjoint := (List.nodup_flatMap.1 distinct).2.forall among otherAmong different
        exact disjoint isName otherOwn
      rw [sameRow, otherSent] at isSent
      simp at isSent

end Rows

/-- What is found under a name among the entries of an object is the value of the member of that
name. -/
theorem lookup_toEntries (members : List (Points × Json)) (name : Points) :
    (Json.toEntries members).lookup (.str name) = (members.lookup name).map Json.toValue := by
  rw [Json.toEntries_eq]
  induction members with
  | nil => rfl
  | cons member rest inductionHypothesis =>
    obtain ⟨key, json⟩ := member
    have sameKey : ((Value.str name) == (Value.str key)) = (name == key) := by
      change Value.same (.str name) (.str key) = _
      rw [Value.same]
    by_cases here : name == key
    · simp [List.lookup_cons, sameKey, here]
    · simpa [List.lookup_cons, sameKey, here] using inductionHypothesis

/-- What is found among the entries of a text under a name is what was sent under it. -/
theorem lookup_readers (codecs : Codecs) (entries : List (Points × Json)) (name : Points) :
    (Value.readers codecs (Json.toEntries entries)).lookup (.str name) =
      (entries.lookup name).map fun json => ⟨json.toValue, json.toValue.decode codecs⟩ := by
  rw [Value.readers_eq, Table.lookup_map (fun value => (⟨value, value.decode codecs⟩ : Reader)),
    lookup_toEntries, Option.map_map]
  rfl

namespace Package

variable {package : Package} {codecs : Codecs} {struct : String} {members : List Member}

/-- A member of a struct crosses the wire: what its field holds is sent as an entry, or as none, and
what arrives under its names, or its default if nothing does, is the normal form of what was
held. -/
structure Crosses (package : Package) (codecs : Codecs) (struct : String) (member : Member)
    (value : Value) (sent : Option (Points × Json)) : Prop where
  keyed : ∀ entry ∈ sent, ∃ write, member.write? = some write ∧ entry.1 = write.key
  readable : ∀ entry ∈ sent, entry.2.Readable
  silent : member.write? = none → sent = none
  written : ∀ write, member.write? = some write → ∀ fields : List (String × Writer),
    fields.lookup member.name = some ⟨value, value.write codecs⟩ →
      write.text? fields = .ok (sent.map entryText)
  arrives : ∀ entries : List (Value × Reader),
    (∀ name ∈ member.receivedNames, entries.lookup (.str name) = receiver codecs sent name) →
      ∃ arrived : Option Value,
        (∀ read, package.read? member = .ok (some read) →
          (read.scoped struct).incoming codecs entries = .ok arrived) ∧
        (package.read? member = .ok none → arrived = none) ∧
        (arrived.getD (codecs.defaultValue (package.fieldDefault member))).same
          (package.normField codecs member value (norm package codecs value)) = true

/-- The key of the entry that a member writes is a name under which something is received for it. -/
theorem key_of_write? {member : Member} {write : Write} (writes : member.write? = some write) :
    write.key ∈ member.receivedNames := by
  unfold Member.write? at writes
  split at writes
  case h_4 => cases writes
  all_goals
    next policy =>
      cases writes
      simp [Member.receivedNames, policy]

/-! ## Names of their own -/

/-- Members are kept apart by names: no two have one name, what a member writes is read under one of
its names, and whatever is read for it is read under one of them. -/
structure KeptApart (members : List Member) (names : Member → List Points) : Prop where
  distinct : (members.flatMap names).Nodup
  written : ∀ member ∈ members, ∀ write, member.write? = some write →
    Text.joined write.key ∈ names member
  received : ∀ member ∈ members, ∀ name ∈ member.receivedNames, Text.IsJoined name →
    name ∈ names member
  own : ∀ member ∈ members, member.receivedNames.Nodup

/-- Members are kept apart by the names under which something is received for them, if these are
different and those that are written have no surrogate pairs to be joined. -/
theorem KeptApart.of_isJoined (distinct : (members.flatMap Member.receivedNames).Nodup)
    (joined : ∀ member ∈ members, ∀ write, member.write? = some write → Text.IsJoined write.key) :
    KeptApart members Member.receivedNames where
  distinct := distinct
  written member among write writes :=
    (joined member among write writes).symm ▸ key_of_write? writes
  received _ _ _ isName _ := isName
  own := (List.nodup_flatMap.1 distinct).1

/-- The members of a struct write the entries that they send. -/
theorem filterMapM_writes {rows : List (Member × Value)} {fields : List (String × Writer)}
    {sent : Member × Value → Option (Points × Json)}
    (silent : ∀ row ∈ rows, row.1.write? = none → sent row = none)
    (written : ∀ row ∈ rows, ∀ write, row.1.write? = some write →
      write.text? fields = .ok ((sent row).map entryText)) :
    (((rows.map (·.1)).filterMap Member.write?).filterMapM fun entry => entry.text? fields) =
      .ok ((rows.filterMap sent).map entryText) := by
  induction rows with
  | nil => rfl
  | cons row rest inductionHypothesis =>
    have later := inductionHypothesis
      (fun other member => silent other (List.mem_cons_of_mem _ member))
      (fun other member => written other (List.mem_cons_of_mem _ member))
    rw [List.map_cons]
    cases writes : row.1.write? with
    | none =>
      rw [List.filterMap_cons_none writes,
        List.filterMap_cons_none (silent row List.mem_cons_self writes)]
      exact later
    | some write =>
      rw [List.filterMap_cons_some writes, List.filterMapM_cons,
        written row List.mem_cons_self write writes]
      cases isSent : sent row with
      | none =>
        rw [List.filterMap_cons_none isSent]
        exact later
      | some entry =>
        rw [List.filterMap_cons_some isSent]
        simp only [bind, Except.bind, Option.map_some, later, pure, Except.pure, List.map_cons]

end Package

end DeclCodec

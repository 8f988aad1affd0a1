import DeclCodec.Proofs.Session.Arrival
import DeclCodec.Proofs.Session.Members
import Mathlib.Tactic.Choose

/-!
# Instances that come back

If every field of an instance is ready, and different members receive under different
names, the instance is written as an object. Reading the object into a new instance
succeeds, and leaves it equal to the normal form of the first. So the instance
travels by the shape of its struct, as long as the struct can be made from a map.
-/

namespace DeclCodec.Package

variable {package : Package} {codecs : Codecs} {struct : String} {members : List Member}
variable {rows : List (Member × Value)}

/-- The members on the wire have shapes, once the module is loaded. -/
theorem Loads.exists_shape (loaded : package.Loads codecs)
    (declared : package.structs.lookup struct = some members) {member : Member}
    (among : member ∈ members) (wired : member.isWired = true) :
    ∃ shape, package.shape member.type = .ok shape := by
  obtain ⟨codec, _, isCodec⟩ := loaded.exists_codec declared
  obtain ⟨reads, emitted, _⟩ := isCodec.reads
  obtain ⟨read?, isRead⟩ := exists_of_filterMapM_ok emitted among
  cases read?_eq_ok_iff.1 isRead with
  | plain policy isShape | reference policy isShape => exact ⟨_, isShape⟩
  | nothing offWire =>
    rw [wired] at offWire
    cases offWire

section Crossing

variable {sent : Member × Value → Option (Points × Json)}

/-- The entries that are sent, as they are read from their text. -/
def sentEntries (rows : List (Member × Value)) (sent : Member × Value → Option (Points × Json)) :
    List (Points × Json) :=
  rows.filterMap fun row => (sent row).map rereadEntry

/-- What is sent for a member is read under a name of the member. -/
theorem name_of_sent {names : Member → List Points} (apart : KeptApart (rows.map (·.1)) names)
    (crosses : ∀ row ∈ rows, Crosses package codecs struct row.1 row.2 (sent row)) :
    ∀ row ∈ rows, ∀ entry ∈ (sent row).map rereadEntry, entry.1 ∈ names row.1 := by
  intro row among entry isSent
  obtain ⟨raw, isRaw, rfl⟩ := Option.map_eq_some_iff.1 isSent
  obtain ⟨write, writes, isKey⟩ := (crosses row among).keyed raw isRaw
  rw [rereadEntry, isKey]
  exact apart.written row.1 (List.mem_map_of_mem among) write writes

/-- The object that is sent is read back from its text. -/
theorem readable_sent {names : Member → List Points} (apart : KeptApart (rows.map (·.1)) names)
    (crosses : ∀ row ∈ rows, Crosses package codecs struct row.1 row.2 (sent row)) :
    (Json.object (sentEntries rows sent)).Readable := by
  have distinct := apart.distinct
  rw [List.flatMap_map] at distinct
  refine .object _ (nodup_sent (name_of_sent apart crosses) distinct) ?_ ?_
  · intro entry member
    obtain ⟨row, among, isSent⟩ := List.mem_filterMap.1 member
    obtain ⟨raw, isRaw, rfl⟩ := Option.map_eq_some_iff.1 isSent
    exact Text.joined_joined raw.1
  · intro entry member
    obtain ⟨row, among, isSent⟩ := List.mem_filterMap.1 member
    obtain ⟨raw, isRaw, rfl⟩ := Option.map_eq_some_iff.1 isSent
    exact (crosses row among).readable raw isRaw

/-- The texts of the entries do not tell whether their names have been joined. -/
theorem entryText_sentEntries (rows : List (Member × Value))
    (sent : Member × Value → Option (Points × Json)) :
    (sentEntries rows sent).map entryText = (rows.filterMap sent).map entryText := by
  rw [sentEntries, List.map_filterMap, List.map_filterMap]
  refine List.filterMap_congr fun row _ => ?_
  rw [Option.map_map]
  exact Option.map_congr fun entry _ => entryText_rereadEntry entry

/-- Under a name of a member what is sent for the member is found. -/
theorem lookup_sentEntries {names : Member → List Points}
    (apart : KeptApart (rows.map (·.1)) names)
    (crosses : ∀ row ∈ rows, Crosses package codecs struct row.1 row.2 (sent row))
    {row : Member × Value} (among : row ∈ rows) {name : Points}
    (isName : name ∈ row.1.receivedNames) :
    (sentEntries rows sent).lookup name =
      (((sent row).map rereadEntry).filter (·.1 == name)).map (·.2) := by
  have distinct := apart.distinct
  rw [List.flatMap_map] at distinct
  by_cases isJoined : Text.IsJoined name
  · exact lookup_sent (name_of_sent apart crosses) distinct among
      (apart.received row.1 (List.mem_map_of_mem among) name isName isJoined)
  · -- No name that is read has pairs to be joined.
    have notRead (raw : Points × Json) : (rereadEntry raw).1 ≠ name :=
      fun same => isJoined (same ▸ Text.joined_joined raw.1)
    have nothing : (sentEntries rows sent).lookup name = none := by
      refine List.lookup_eq_none_iff.2 fun entry member => ?_
      obtain ⟨other, _, isSent⟩ := List.mem_filterMap.1 member
      obtain ⟨raw, _, rfl⟩ := Option.map_eq_some_iff.1 isSent
      exact bne_iff_ne.2 (notRead raw).symm
    rw [nothing]
    cases sent row with
    | none => rfl
    | some raw => simp [notRead raw]

/-- An instance is written as the object that is sent. -/
theorem Loads.write_record (loaded : package.Loads codecs) (collected : Collected package)
    (declared : package.structs.lookup struct = some members) (sides : rows.map (·.1) = members)
    (crosses : ∀ row ∈ rows, Crosses package codecs struct row.1 row.2 (sent row)) :
    (Value.record struct (rows.map fun row => (scopedName struct row.1.name, row.2))).write codecs
      .whole = .ok (Json.object (sentEntries rows sent)).compact := by
  obtain ⟨codec, found, isCodec⟩ := loaded.exists_codec declared
  have ok := collected.members _ (Table.mem_of_lookup declared)
  subst sides
  have names : (rows.map fun row => row.1.name).Nodup := by
    simpa [List.map_map, Function.comp_def] using ok.distinct
  have held : ∀ row ∈ rows, ∀ write, row.1.write? = some write →
      (Value.fieldWriters codecs (rows.map fun row =>
        (scopedName struct row.1.name, row.2))).lookup row.1.name =
          some ⟨row.2, row.2.write codecs⟩ := by
    intro row among write writes
    have wired : row.1.isWired = true := by
      rw [← row.1.isSome_write?, writes]
      rfl
    have exported := ok.exported row.1 (List.mem_map_of_mem among) (Member.isSome_policy wired)
    rw [Value.fieldWriters_eq, Table.lookup_map
      (fun value => (⟨value, value.write codecs⟩ : Writer)),
      lookup_exported names struct (fun row => row.2) among exported]
    rfl
  have texts := filterMapM_writes (fun row among => (crosses row among).silent)
    (fun row among write writes =>
      (crosses row among).written write writes _ (held row among write writes))
  rw [Value.write, Codecs.writeRecord, found]
  dsimp only
  rw [isCodec.writes_eq ok, texts, ← entryText_sentEntries, Json.compact, Json.compactMembers_eq]
  rfl

/-- What is read of the object into a new instance equals the normal form of the instance that it
was written from. -/
theorem Loads.exists_assigned (loaded : package.Loads codecs) (collected : Collected package)
    (declared : package.structs.lookup struct = some members) (sides : rows.map (·.1) = members)
    {names : Member → List Points} (apart : KeptApart members names)
    (crosses : ∀ row ∈ rows, Crosses package codecs struct row.1 row.2 (sent row)) :
    ∃ result, codecs.assignRecord (Value.readers codecs (Json.toEntries (sentEntries rows sent)))
        (.record struct (members.map (package.freshField codecs struct))) = (result, none) ∧
      result.same (norm package codecs
        (.record struct (rows.map fun row => (scopedName struct row.1.name, row.2))) .whole) =
        true := by
  let entries := Json.toEntries (sentEntries rows sent)
  obtain ⟨codec, found, isCodec⟩ := loaded.exists_codec declared
  obtain ⟨reads, emitted, _⟩ := isCodec.reads
  subst sides
  have received : ∀ row ∈ rows, ∀ name ∈ row.1.receivedNames,
      (Value.readers codecs entries).lookup (.str name) = receiver codecs (sent row) name := by
    intro row among name isName
    rw [lookup_readers, lookup_sentEntries apart crosses among isName, Option.map_map]
    rfl
  have arrives : ∀ row ∈ rows, ∃ arrived,
      package.arrival codecs struct entries row.1 = .ok arrived ∧
        (arrived.getD (codecs.defaultValue (package.fieldDefault row.1))).same
          (package.normField codecs row.1 row.2 (norm package codecs row.2)) = true := by
    intro row among
    obtain ⟨arrived, incoming, nothing, same⟩ := (crosses row among).arrives _ (received row among)
    obtain ⟨read?, isRead⟩ := exists_of_filterMapM_ok emitted (List.mem_map_of_mem among)
    refine ⟨arrived, ?_, same⟩
    cases read? with
    | none =>
      rw [nothing isRead]
      exact arrival_eq_none isRead entries
    | some read =>
      rw [← incoming_eq_arrival isRead]
      exact incoming read isRead
  have arrivals : ∀ member ∈ rows.map (·.1), ∃ arrived,
      package.arrival codecs struct entries member = .ok arrived := by
    intro member among
    obtain ⟨row, held, rfl⟩ := List.mem_map.1 among
    obtain ⟨arrived, isArrival, _⟩ := arrives row held
    exact ⟨arrived, isArrival⟩
  choose! arrived fine using arrivals
  have same : ∀ row ∈ rows,
      ((arrived row.1).getD (codecs.defaultValue (package.fieldDefault row.1))).same
        (package.normField codecs row.1 row.2 (norm package codecs row.2)) = true := by
    intro row among
    obtain ⟨other, isArrival, same⟩ := arrives row among
    rw [fine row.1 (List.mem_map_of_mem among)] at isArrival
    cases isArrival
    exact same
  have freshMembers : (package.defaultRows codecs (rows.map (·.1))).map (·.1) = rows.map (·.1) :=
    members_defaultRows codecs _
  have assigned := loaded.assignRecord_eq collected (freshMembers.symm ▸ declared) entries
  rw [afterReading_of_ok fun row among => fine row.1 (freshMembers ▸ List.mem_map_of_mem among)]
    at assigned
  rw [freshFields_eq]
  refine ⟨_, assigned, ?_⟩
  rw [instanceOf, fieldsOf, defaultRows, List.map_map, List.map_map, List.map_map, norm, declared,
    Option.getD_some, normFields_eq codecs fun member => scopedName struct member.name, Value.same,
    beq_self_eq_true, Bool.true_and]
  exact Value.sameFields_map _ same

end Crossing

/-- An instance whose fields are ready travels as an object, if its members are kept apart by names
and lose nothing that is written. -/
theorem Loads.exists_object (loaded : package.Loads codecs) (collected : Collected package)
    (leaves : package.LeavesDecorator) (visible : Visible package struct)
    (declared : package.structs.lookup struct = some members) (sides : rows.map (·.1) = members)
    {names : Member → List Points} (apart : KeptApart members names)
    (keeps : ∀ row ∈ rows, Keeps package codecs row.1 row.2)
    (ready : ∀ row ∈ rows, Ready package codecs struct row.1 row.2)
    (settled : ∀ row ∈ rows,
      (package.normField codecs row.1 row.2 (norm package codecs row.2)).Settled) :
    ∃ entries : List (Points × Json), Travels codecs (.named (.declared struct))
      (.record struct (rows.map fun row => (scopedName struct row.1.name, row.2)))
      (.object entries) (norm package codecs
        (.record struct (rows.map fun row => (scopedName struct row.1.name, row.2))) .whole) := by
  choose! sent crosses using fun (row : Member × Value) (among : row ∈ rows) =>
    (ready row among).exists_crosses (settled row among) (keeps row among)
      (apart.own row.1 (sides ▸ List.mem_map_of_mem among))
  have written := loaded.write_record collected declared sides crosses
  obtain ⟨result, assigned, same⟩ :=
    loaded.exists_assigned collected declared sides apart crosses
  have readable := readable_sent (sides ▸ apart) crosses
  refine ⟨sentEntries rows sent, readable, written, result, ?_, same⟩
  obtain ⟨codec, found, _⟩ := loaded.exists_codec declared
  have fromMaps := leaves.fromMaps loaded found
  obtain ⟨made, _⟩ := loaded.make_eq collected visible declared
  rw [Json.toValue, Value.decode_declared, Codecs.fromEntries, Codecs.checkMakes, found]
  dsimp only
  rw [if_pos fromMaps, made]
  simp only [bind, Except.bind, assigned]
  rfl

end DeclCodec.Package

import DeclCodec.Proofs.Emit.Loaded
import DeclCodec.Proofs.Json.RoundTrip
import DeclCodec.Proofs.Wire.Parts
import DeclCodec.Wire.Session

/-!
# The names that a struct writes

An instance writes a member name for every entry of its codec that selects
something of its field. So the names written are some of those that the members of
the struct have for their entries, in the same order: the wire name of a plain
member or of a reference by value, and the identifier's name of a reference by
identifier. Surrogate pairs in them are joined by being written.

Nothing in collecting compares these names. They are different in all that the
instances of a struct write exactly if the members have different ones when joined,
since there is an instance that writes every entry.
-/

namespace DeclCodec

/-- Do fields with these values write the entry? -/
def Write.isWritten (fields : List (String × Value)) (entry : Write) : Bool :=
  match fields.lookup entry.field with
  | none => false
  | some value =>
    match entry.part.select value with
    | .ok (some _) => true
    | _ => false

/-- The names of the entries that members have, as they are on the wire: with surrogate pairs
joined. -/
def entryNames (members : List Member) : List Points :=
  (members.filterMap Member.write?).map fun entry => Text.joined entry.key

/-- The names of the entries that fields with these values write, as they are on the wire. -/
def writtenNames (members : List Member) (fields : List (String × Value)) : List Points :=
  ((members.filterMap Member.write?).filter (Write.isWritten fields)).map fun entry =>
    Text.joined entry.key

/-- The names written are among those of the members, in their order. -/
theorem writtenNames_sublist (members : List Member) (fields : List (String × Value)) :
    (writtenNames members fields).Sublist (entryNames members) :=
  List.filter_sublist.map _

/-- What an entry writes, if it writes anything, is its name and the text of a value. -/
theorem Write.text?_ok {codecs : Codecs} {fields : List (String × Value)} {entry : Write}
    {written : Option (List Char)}
    (success : entry.text? (Value.fieldWriters codecs fields) = .ok written) :
    (entry.isWritten fields = false ∧ written = none) ∨
      (entry.isWritten fields = true ∧
        ∃ text, written = some (Json.quote entry.key ++ ':' :: text)) := by
  unfold text? at success
  unfold isWritten
  rw [Value.fieldWriters_eq, Table.lookup_map (fun value => (⟨value, value.write codecs⟩ : Writer))]
    at success
  cases found : fields.lookup entry.field with
  | none => simp [found] at success
  | some value =>
    simp only [found, Option.map_some, bind_eq_ok] at success
    obtain ⟨selected, selects, rest⟩ := success
    simp only [selects]
    cases selected with
    | none =>
      cases rest
      exact .inl ⟨rfl, rfl⟩
    | some aspect =>
      simp only [bind_eq_ok] at rest
      obtain ⟨text, _, same⟩ := rest
      cases same
      exact .inr ⟨rfl, text, rfl⟩

/-- Entries write their names, except those that write nothing. -/
theorem exists_entries_of_writes {codecs : Codecs} {fields : List (String × Value)}
    {writes : List Write} {texts : List (List Char)}
    (success : (writes.filterMapM fun entry => entry.text? (Value.fieldWriters codecs fields)) =
      .ok texts) :
    ∃ entries : List (Points × List Char),
      texts = entries.map (fun entry => Json.quote entry.1 ++ ':' :: entry.2) ∧
        entries.map (·.1) = (writes.filter (Write.isWritten fields)).map (·.key) := by
  induction writes generalizing texts with
  | nil =>
    cases success
    exact ⟨[], rfl, rfl⟩
  | cons entry rest inductionHypothesis =>
    rw [List.filterMapM_cons, bind_eq_ok] at success
    obtain ⟨written, first, success⟩ := success
    rcases Write.text?_ok first with ⟨skipped, rfl⟩ | ⟨isWritten, text, rfl⟩
    · obtain ⟨entries, sameTexts, sameNames⟩ := inductionHypothesis success
      exact ⟨entries, sameTexts, by rw [sameNames, List.filter_cons_of_neg (by simp [skipped])]⟩
    · dsimp only at success
      rw [bind_eq_ok] at success
      obtain ⟨others, later, same⟩ := success
      cases same
      obtain ⟨entries, sameTexts, sameNames⟩ := inductionHypothesis later
      refine ⟨(entry.key, text) :: entries, by rw [sameTexts]; rfl, ?_⟩
      rw [List.filter_cons_of_pos isWritten, List.map_cons, List.map_cons, sameNames]

namespace Package

variable {package : Package} {codecs : Codecs} {type : String} {members : List Member}

/-- The fields are those of an instance of a struct, whatever they hold. -/
def IsInstance (type : String) (members : List Member) (fields : List (String × Value)) : Prop :=
  fields.map (·.1) = members.map fun member => scopedName type member.name

/-- What an instance writes is the text of an object with the names written, each given by a literal
that is read as the name. -/
theorem exists_entries_of_marshal (collected : Collected package) (loaded : package.Loads codecs)
    (declared : package.structs.lookup type = some members) {fields : List (String × Value)}
    {text : String} (marshaled : codecs.marshal (.record type fields) = .ok text) :
    ∃ entries : List (Points × List Char),
      text = String.ofList
        (Json.braced (entries.map fun entry => Json.quote entry.1 ++ ':' :: entry.2)) ∧
      (entries.map fun entry => Text.joined entry.1) = writtenNames members fields ∧
      ∀ entry ∈ entries, Json.parse (Text.points (Json.quote entry.1)) =
        .ok (.str (Text.joined entry.1)) := by
  obtain ⟨codec, found, isCodec⟩ := loaded.exists_codec declared
  have ok := collected.members _ (Table.mem_of_lookup declared)
  simp only [Codecs.marshal, bind_eq_ok] at marshaled
  obtain ⟨chars, encoded, same⟩ := marshaled
  cases same
  rw [Value.encode, Value.write, Codecs.writeRecord, found] at encoded
  simp only [bind_eq_ok] at encoded
  obtain ⟨texts, writes, same⟩ := encoded
  cases same
  obtain ⟨entries, sameTexts, sameNames⟩ := exists_entries_of_writes writes
  refine ⟨entries, by rw [sameTexts], ?_, fun entry _ => Json.parse_quote entry.1⟩
  have joinedNames := congrArg (List.map Text.joined) sameNames
  rw [List.map_map, List.map_map, isCodec.writes_eq ok] at joinedNames
  exact joinedNames

/-- A value of which every entry of a member writes something: a number, and for a reference a
wrapper that has both an identifier and a value. -/
def fullValue (package : Package) (member : Member) : Value :=
  if member.isReference then .wrapper (package.wrapperName member.type) (.int 1) (.int 1)
  else .int 1

/-- Each entry of a member selects a number of the member's full value. -/
theorem select_fullValue (package : Package) (codecs : Codecs) {member : Member} {entry : Write}
    (writes : member.write? = some entry) :
    ∃ aspect, entry.part.select (package.fullValue member) = .ok (some aspect) ∧
      (package.fullValue member).write codecs aspect = .ok (Json.intText 1) := by
  unfold Member.write? at writes
  unfold fullValue Member.isReference
  split at writes
  · next wireName omitEmpty policy =>
    cases writes
    rw [policy]
    exact ⟨.whole, by cases omitEmpty <;> rfl, rfl⟩
  · next wireName idName omitEmpty policy =>
    cases writes
    rw [policy]
    exact ⟨.side "Value", rfl, rfl⟩
  · next wireName idName omitEmpty policy =>
    cases writes
    rw [policy]
    exact ⟨.side "Id", rfl, rfl⟩
  · cases writes

/-- There is an instance that writes every entry. -/
theorem exists_full_instance (collected : Collected package) (loaded : package.Loads codecs)
    (declared : package.structs.lookup type = some members) :
    ∃ fields text, IsInstance type members fields ∧
      codecs.marshal (.record type fields) = .ok text ∧
      writtenNames members fields = entryNames members := by
  obtain ⟨codec, found, isCodec⟩ := loaded.exists_codec declared
  have ok := collected.members _ (Table.mem_of_lookup declared)
  let fields := members.map fun member => (scopedName type member.name, package.fullValue member)
  have held : ∀ entry ∈ members.filterMap Member.write?, ∃ member, member.write? = some entry ∧
      fields.lookup entry.field = some (package.fullValue member) := by
    intro entry writes
    obtain ⟨member, among, writes⟩ := List.mem_filterMap.1 writes
    have wired : member.isWired = true := by
      rw [← member.isSome_write?, writes]
      rfl
    refine ⟨member, writes, ?_⟩
    rw [Member.field_of_write? writes]
    exact lookup_exported ok.distinct type package.fullValue among
      (ok.exported member among (Member.isSome_policy wired))
  have marshaled : ∃ text, codecs.marshal (.record type fields) = .ok text := by
    have texts : (codec.writes.filterMapM fun entry =>
        entry.text? (Value.fieldWriters codecs fields)) =
        .ok (codec.writes.filterMap fun entry =>
          some (Json.quote entry.key ++ ':' :: Json.intText 1)) := by
      refine filterMapM_eq_ok fun entry writes => ?_
      rw [isCodec.writes_eq ok] at writes
      obtain ⟨member, writes, isHeld⟩ := held entry writes
      obtain ⟨aspect, selects, written⟩ := select_fullValue package codecs writes
      rw [Write.text?, Value.fieldWriters_eq,
        Table.lookup_map (fun value => (⟨value, value.write codecs⟩ : Writer)), isHeld]
      simp only [Option.map_some, selects, written, bind, Except.bind, pure, Except.pure]
    rw [Codecs.marshal, Value.encode, Value.write, Codecs.writeRecord, found]
    simp only [texts, bind, Except.bind, pure, Except.pure]
    exact ⟨_, rfl⟩
  obtain ⟨text, marshaled⟩ := marshaled
  refine ⟨fields, text, ?_, marshaled, ?_⟩
  · exact (List.map_map ..).trans rfl
  · rw [writtenNames, entryNames, List.filter_eq_self.2]
    intro entry writes
    obtain ⟨member, writes, isHeld⟩ := held entry writes
    obtain ⟨aspect, selects, _⟩ := select_fullValue package codecs writes
    simp only [Write.isWritten, isHeld, selects]

/-- Whatever an instance of a struct writes is an object whose member names are those of the entries
that it selects something for, in the order of the members, each written as a literal that is read
as the name with its surrogate pairs joined. No name occurs twice in what any instance writes
exactly if the members have names for their entries that are different when joined. -/
theorem nodup_writtenNames_iff {name : String} {settings : Settings} {units : List DeclUnit}
    (success : collect name settings units = .ok package) (loaded : package.Loads codecs)
    (declared : package.structs.lookup type = some members) :
    (∀ fields text, codecs.marshal (.record type fields) = .ok text →
      (∃ entries : List (Points × List Char),
        text = String.ofList
          (Json.braced (entries.map fun entry => Json.quote entry.1 ++ ':' :: entry.2)) ∧
        (entries.map fun entry => Text.joined entry.1) = writtenNames members fields ∧
        ∀ entry ∈ entries, Json.parse (Text.points (Json.quote entry.1)) =
          .ok (.str (Text.joined entry.1))) ∧
      (writtenNames members fields).Sublist (entryNames members)) ∧
    ((∀ fields text, IsInstance type members fields →
        codecs.marshal (.record type fields) = .ok text → (writtenNames members fields).Nodup) ↔
      (entryNames members).Nodup) := by
  have collected := collected_of_collect success
  refine ⟨?_, ?_, ?_⟩
  · intro fields text marshaled
    exact ⟨exists_entries_of_marshal collected loaded declared marshaled,
      writtenNames_sublist members fields⟩
  · intro never
    obtain ⟨fields, text, isInstance, marshaled, all⟩ :=
      exists_full_instance collected loaded declared
    exact all ▸ never fields text isInstance marshaled
  · intro different fields text _ _
    exact different.sublist (writtenNames_sublist members fields)

/-- A declaration of a struct with two fields of one name on the wire. -/
def sharedNameUnits : List DeclUnit :=
  [⟨"shared", "p", [.struct "T"
    [⟨["A"], .named [] "int", some "json:\"x\""⟩, ⟨["B"], .named [] "int", some "json:\"x\""⟩]
    "shared"]⟩]

/-- The members of the struct. -/
def sharedNameMembers : List Member :=
  [⟨"A", .named "" "int", some (.plain "x" false)⟩, ⟨"B", .named "" "int", some (.plain "x" false)⟩]

/-- The package of the declaration. -/
def sharedNamePackage : Package where
  name := "p"
  settings := {}
  units := ["shared"]
  types := (sharedNameUnits.flatMap (·.decls)).map fun decl => (decl.name, decl)
  aliases := []
  structs := [("T", sharedNameMembers)]
  referenced := []
  imported := []

/-- What its class knows once it is loaded. -/
def sharedNameCodecs : Codecs where
  structs := [⟨"T", [("A", .zero), ("B", .zero)], [⟨"A", "x", .always⟩, ⟨"B", "x", .always⟩],
    [⟨"A", "x", .named .int, none⟩, ⟨"B", "x", .named .int, none⟩], true⟩]
  wrappers := []
  foreign := .builtins

/-- The package is what the declaration is collected to. -/
theorem collect_sharedName : collect "p" {} sharedNameUnits = .ok sharedNamePackage :=
  eq_ok_of_toOption (by decide +kernel)

/-- The module of the package is loaded. -/
theorem loads_sharedName : sharedNamePackage.Loads sharedNameCodecs :=
  loads_of_toOption (by decide +kernel)

/-- The struct is an instance: it is collected and loaded, some instance writes whatever its members
have, and what it writes has the names written. -/
theorem nodup_writtenNames_sharedName :
    collect "p" {} sharedNameUnits = .ok sharedNamePackage ∧
      sharedNamePackage.Loads sharedNameCodecs ∧
      sharedNamePackage.structs.lookup "T" = some sharedNameMembers ∧
      ((∀ fields text, IsInstance "T" sharedNameMembers fields →
          sharedNameCodecs.marshal (.record "T" fields) = .ok text →
            (writtenNames sharedNameMembers fields).Nodup) ↔
        (entryNames sharedNameMembers).Nodup) :=
  ⟨collect_sharedName, loads_sharedName, rfl,
    (nodup_writtenNames_iff collect_sharedName loads_sharedName rfl).2⟩

/-- The new instance of the struct writes one name twice. -/
theorem not_nodup_writtenNames_sharedName :
    collect "p" {} sharedNameUnits = .ok sharedNamePackage ∧
      sharedNamePackage.Loads sharedNameCodecs ∧
      sharedNameCodecs.construct "T" [] = .ok (.record "T" [("A", .int 0), ("B", .int 0)]) ∧
      sharedNameCodecs.marshal (.record "T" [("A", .int 0), ("B", .int 0)]) =
        .ok "\x7b\"x\":0,\"x\":0\x7d" ∧
      ¬(writtenNames sharedNameMembers [("A", .int 0), ("B", .int 0)]).Nodup := by
  refine ⟨collect_sharedName, loads_sharedName, rfl, ?_, ?_⟩
  · rfl
  · decide

end Package

end DeclCodec

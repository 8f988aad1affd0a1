import DeclCodec.Proofs.Json.Printable
import DeclCodec.Proofs.Json.RoundTrip
import DeclCodec.Proofs.Number.Integers
import DeclCodec.Proofs.Wire.Entries

/-!
# How many entries a map has on the wire

A map can have an integer among its keys and the text of the integer's decimal form as
well. These are different keys that are written as the same text. So are two texts of
which one has the surrogate pairs joined that the other has apart, and there is no other
way in which two keys are. A map has as many members on the wire as its keys have texts,
with their pairs joined, as long as no raw text among its values brings members of its
own.

In the other direction a name is a text key as it stands, so that no member is lost. An
integer key has many spellings, and members whose names spell one integer become one
entry.
-/

namespace DeclCodec

/-! ## Written entries -/

/-- Keys whose texts are the same when joined are the same, or one is an integer and the other its
decimal form, or both are texts. -/
theorem Value.mapKey_cases {first second : Value} {name other : Points}
    (isFirst : first.mapKey = .ok name) (isSecond : second.mapKey = .ok other)
    (same : Text.joined name = Text.joined other) :
    first = second ∨
      (∃ number, first = .int number ∧ second = .str (Text.points (Json.intText number)) ∨
        first = .str (Text.points (Json.intText number)) ∧ second = .int number) ∨
      (name ≠ other ∧ first = .str name ∧ second = .str other) := by
  -- A decimal form has no pairs, and no pair is joined to a digit.
  have digits (number : Int) : ∀ c ∈ Json.intText number, c.toNat < 0x10000 := fun c among =>
    Nat.lt_trans (Json.printable_compact (.int number) c among).2 (by decide)
  cases first with
  | str text =>
    cases isFirst
    cases second with
    | str text =>
      cases isSecond
      by_cases sameText : name = other
      · exact .inl (congrArg Value.str sameText)
      · exact .inr (.inr ⟨sameText, rfl, rfl⟩)
    | int number =>
      cases isSecond
      rw [Text.joined_points] at same
      rw [Text.eq_points_of_joined (digits number) same]
      exact .inr (.inl ⟨number, .inr ⟨rfl, rfl⟩⟩)
    | _ => cases isSecond
  | int number =>
    cases isFirst
    rw [Text.joined_points] at same
    cases second with
    | str text =>
      cases isSecond
      rw [Text.eq_points_of_joined (digits number) same.symm]
      exact .inr (.inl ⟨number, .inl ⟨rfl, rfl⟩⟩)
    | int other =>
      cases isSecond
      rw [Text.joined_points, Text.points_inj] at same
      exact .inl (congrArg Value.int (IntText.intText_injective same))
    | _ => cases isSecond
  | _ => cases isFirst

/-- A key with a text equals itself. -/
theorem Value.same_of_mapKey {key : Value} {name : Points} (isName : key.mapKey = .ok name) :
    key.same key = true := by
  cases key with
  | str text => simp [same]
  | int number => simp [same, integer?]
  | _ => cases isName

/-- Does a map hold an integer and the text of its decimal form among its keys? -/
def HoldsBothForms (entries : List (Value × Value)) : Prop :=
  ∃ number : Int, Value.int number ∈ entries.map (·.1) ∧
    Value.str (Text.points (Json.intText number)) ∈ entries.map (·.1)

/-- Does a map hold among its keys two texts that are the same with their surrogate pairs joined? -/
def HoldsBothJoined (entries : List (Value × Value)) : Prop :=
  ∃ first second : Points, first ≠ second ∧ Text.joined first = Text.joined second ∧
    Value.str first ∈ entries.map (·.1) ∧ Value.str second ∈ entries.map (·.1)

/-- The texts of different keys are different when joined, unless there is an integer in both forms
among them or a text with its pairs joined and not. -/
theorem names_nodup_iff {rows : List ((Value × Value) × Points × List Char)}
    (named : ∀ row ∈ rows, row.1.1.mapKey = .ok row.2.1)
    (different : ((rows.map (·.1)).map (·.1)).Pairwise fun held later => (later == held) = false) :
    (rows.map fun row => Text.joined row.2.1).Nodup ↔
      ¬HoldsBothForms (rows.map (·.1)) ∧ ¬HoldsBothJoined (rows.map (·.1)) := by
  constructor
  · intro distinct
    -- Keys whose texts are the same when joined are one.
    have oneKey {first second : Value} {name other : Points} (isFirst : first.mapKey = .ok name)
        (isSecond : second.mapKey = .ok other) (same : Text.joined name = Text.joined other)
        (firstAmong : first ∈ (rows.map (·.1)).map (·.1))
        (secondAmong : second ∈ (rows.map (·.1)).map (·.1)) : first = second := by
      rw [List.map_map] at firstAmong secondAmong
      obtain ⟨row, among, rfl⟩ := List.mem_map.1 firstAmong
      obtain ⟨otherRow, otherAmong, rfl⟩ := List.mem_map.1 secondAmong
      have rowName := Except.ok.inj ((named row among).symm.trans isFirst)
      have otherName := Except.ok.inj ((named otherRow otherAmong).symm.trans isSecond)
      have sameName : Text.joined row.2.1 = Text.joined otherRow.2.1 := by
        rw [rowName, otherName, same]
      rw [List.inj_on_of_nodup_map distinct among otherAmong sameName]
    constructor
    · rintro ⟨number, isInteger, isText⟩
      cases oneKey (Value.mapKey.eq_2 number) (Value.mapKey.eq_1 _) rfl isInteger isText
    · rintro ⟨first, second, apart, same, isFirst, isSecond⟩
      exact apart (Value.str.inj
        (oneKey (Value.mapKey.eq_1 first) (Value.mapKey.eq_1 second) same isFirst isSecond))
  · rintro ⟨noForms, noneJoined⟩
    rw [List.map_map, List.pairwise_map] at different
    rw [List.Nodup, List.pairwise_map]
    refine different.imp_of_mem ?_
    intro held later heldAmong laterAmong differentKeys sameName
    have isHeld := named held heldAmong
    have heldKey : held.1.1 ∈ (rows.map (·.1)).map (·.1) :=
      List.mem_map_of_mem (List.mem_map_of_mem heldAmong)
    have laterKey : later.1.1 ∈ (rows.map (·.1)).map (·.1) :=
      List.mem_map_of_mem (List.mem_map_of_mem laterAmong)
    rcases Value.mapKey_cases isHeld (named later laterAmong) sameName with
      sameKey | ⟨number, ⟨isInteger, isText⟩ | ⟨isText, isInteger⟩⟩ | ⟨apart, isText, isOther⟩
    · have equal : later.1.1.same held.1.1 = true := sameKey ▸ Value.same_of_mapKey isHeld
      exact Bool.noConfusion (differentKeys.symm.trans equal)
    · exact noForms ⟨number, isInteger ▸ heldKey, isText ▸ laterKey⟩
    · exact noForms ⟨number, isInteger ▸ laterKey, isText ▸ heldKey⟩
    · exact noneJoined ⟨_, _, apart, sameName, isText ▸ heldKey, isOther ▸ laterKey⟩

variable {codecs : Codecs} {key elem : Shape}

/-- The text of a map is read as an object whose names are the joined texts of the keys, each once,
if the text of each value by itself holds a value. -/
theorem exists_members_of_encode {entries : List (Value × Value)} {text : List Char}
    (different : (entries.map (·.1)).Pairwise fun held later => (later == held) = false)
    (encoded : (Value.map entries).encode codecs = .ok text)
    (hold : ∀ entry ∈ entries, ∀ own, entry.2.encode codecs = .ok own →
      ∃ json, Json.parse (Text.points own) = .ok json) :
    ∃ members, Json.parse (Text.points text) = .ok (.object members) ∧
      (members.map (·.1)).Nodup ∧
      (∀ name, name ∈ members.map (·.1) ↔
        ∃ entry ∈ entries, ∃ own, entry.1.mapKey = .ok own ∧ Text.joined own = name) ∧
      (members.length = entries.length ↔ ¬HoldsBothForms entries ∧ ¬HoldsBothJoined entries) := by
  obtain ⟨rows, rfl, each⟩ := exists_rows (Value.exists_of_write_map encoded)
  have written := Value.write_map each
  rw [← Value.encode, encoded] at written
  cases written
  -- The members are put into a table in ascending order of the texts of the keys.
  have holdRows : ∀ row ∈ Text.sortBy (·.2.1) rows, ∃ json,
      Json.parse (Text.points row.2.2) = .ok json := by
    intro row member
    have among := Text.mem_sortBy.1 member
    exact hold row.1 (List.mem_map_of_mem among) row.2.2 (each row among).2
  obtain ⟨read, sides, reads⟩ := exists_rows holdRows
  have parsed := Json.parse_assembled (fun row : ((Value × Value) × Points × List Char) × Json =>
    row.1.2.1) (fun row => row.1.2.2) (fun row => row.2) reads
  have names : (read.map fun row => Text.joined row.1.2.1).Perm
      (rows.map fun row => Text.joined row.2.1) := by
    have sorted := (Text.sortBy_perm (·.2.1) rows).map fun row => Text.joined row.2.1
    rwa [← sides, List.map_map] at sorted
  refine ⟨Table.ofEntries (read.map fun row => (Text.joined row.1.2.1, row.2)), ?_,
    Table.nodup_keys_ofEntries _, ?_, ?_⟩
  · rw [← sides, List.map_map]
    exact parsed
  · intro name
    rw [Table.mem_keys_ofEntries, List.map_map]
    change name ∈ read.map (fun row => Text.joined row.1.2.1) ↔ _
    rw [names.mem_iff]
    simp only [List.mem_map]
    constructor
    · rintro ⟨row, among, rfl⟩
      exact ⟨row.1, ⟨row, among, rfl⟩, row.2.1, (each row among).1, rfl⟩
    · rintro ⟨_, ⟨row, among, rfl⟩, own, isOwn, rfl⟩
      exact ⟨row, among, congrArg Text.joined (Except.ok.inj ((each row among).1.symm.trans isOwn))⟩
  · rw [← names_nodup_iff (fun row member => (each row member).1) different, ← names.nodup_iff]
    have sameLength : (rows.map (·.1)).length =
        (read.map fun row => (Text.joined row.1.2.1, row.2)).length := by
      have lengths := names.length_eq
      simpa only [List.length_map] using lengths.symm
    rw [sameLength, Table.length_ofEntries_eq_iff, List.map_map]
    rfl

/-! ## Read entries -/

/-- Members whose names are read as keys of one kind are read as a table of such keys. -/
theorem exists_keyed_rows {κ : Type} {make : κ → Value} {spelled? : Points → Option κ}
    (isKey : ∀ name read, (Value.str name).readKey key = .ok read →
      ∃ spelled, spelled? name = some spelled ∧ read = make spelled)
    {members : List (Points × Json)} {rows : List (Value × Value)}
    (each : List.Forall₂ (fun member row => (Value.str member.1).readKey key = .ok row.1 ∧
      member.2.toValue.decode codecs elem = .ok row.2) members rows) :
    ∃ spelled : List (κ × Value), rows = spelled.map (fun row => (make row.1, row.2)) ∧
      members.map (fun member => spelled? member.1) = (spelled.map (·.1)).map some := by
  induction each with
  | nil => exact ⟨[], rfl, rfl⟩
  | @cons member row _ _ first _ inductionHypothesis =>
    obtain ⟨spelled, rfl, names⟩ := inductionHypothesis
    obtain ⟨firstSpelled, isSpelled, isRow⟩ := isKey _ _ first.1
    refine ⟨(firstSpelled, row.2) :: spelled, ?_, ?_⟩
    · rw [List.map_cons, ← isRow]
    · rw [List.map_cons, isSpelled, names]
      rfl

/-- What an object is read as under keys of one kind has the keys that the names spell, each once,
and as many entries as the object has members exactly if no two names spell one key. -/
theorem entries_of_decode_object {κ : Type} [BEq κ] [LawfulBEq κ] {make : κ → Value}
    (alike : ∀ first second, (make first == make second) = (first == second))
    {spelled? : Points → Option κ}
    (isKey : ∀ name read, (Value.str name).readKey key = .ok read →
      ∃ spelled, spelled? name = some spelled ∧ read = make spelled)
    {members : List (Points × Json)} {value : Value}
    (decoded : (Json.object members).toValue.decode codecs (.map key elem) = .ok value) :
    ∃ entries : List (κ × Value), value = .map (entries.map fun entry => (make entry.1, entry.2)) ∧
      (entries.map (·.1)).Nodup ∧
      (∀ spelled, spelled ∈ entries.map (·.1) ↔
        ∃ member ∈ members, spelled? member.1 = some spelled) ∧
      (entries.length = members.length ↔ (members.map fun member => spelled? member.1).Nodup) := by
  obtain ⟨rows, each, rfl⟩ := decode_object_eq_ok_iff.1 decoded
  obtain ⟨spelled, rfl, names⟩ := exists_keyed_rows isKey each
  refine ⟨Table.ofEntries spelled, by rw [Table.ofEntries_image alike],
    Table.nodup_keys_ofEntries spelled, ?_, ?_⟩
  · intro held
    have amongNames : some held ∈ members.map (fun member => spelled? member.1) ↔
        held ∈ spelled.map (·.1) := by
      rw [names, List.mem_map_of_injective (Option.some_injective κ)]
    rw [Table.mem_keys_ofEntries, ← amongNames, List.mem_map]
  · have sameLength : members.length = spelled.length := by
      have lengths := congrArg List.length names
      simpa only [List.length_map] using lengths
    rw [sameLength, Table.length_ofEntries_eq_iff, names,
      List.nodup_map_iff (Option.some_injective κ)]

/-- Text keys are equal if the texts are. -/
theorem Value.str_beq_str (first second : Points) :
    (Value.str first == Value.str second) = (first == second) := by
  change Value.same (.str first) (.str second) = _
  rw [Value.same]

/-- Integer keys are equal if the integers are. -/
theorem Value.int_beq_int (first second : Int) :
    (Value.int first == Value.int second) = (first == second) := by
  change Value.same (.int first) (.int second) = _
  simp [Value.same, Value.integer?, eq_comm]

/-- What a text shape makes of a name is the name. -/
theorem readKey_text (isText : key.bare = .named .str) {name : Points} {read : Value}
    (success : (Value.str name).readKey key = .ok read) :
    ∃ spelled, some name = some spelled ∧ read = .str spelled := by
  simp only [Value.readKey, isText, Value.textKey] at success
  cases success
  exact ⟨name, rfl, rfl⟩

/-- The integer that a name spells, if it spells one. -/
def spelledInteger? (name : Points) : Option Int := (Text.chars? name).bind IntText.parse?

/-- A name is read as the integer that it spells. -/
theorem integerKey_str (name : Points) :
    (Value.str name).integerKey = match spelledInteger? name with
      | some number => .ok number
      | none => .error (.invalidIntegerKey (String.ofList (Value.str name).display)) := by
  unfold Value.integerKey spelledInteger?
  dsimp only
  cases Text.chars? name <;> rfl

/-- What an integer shape makes of a name is the integer that the name spells. -/
theorem readKey_integer (isInteger : key.bare = .named .int) {name : Points} {read : Value}
    (success : (Value.str name).readKey key = .ok read) :
    ∃ spelled, spelledInteger? name = some spelled ∧ read = .int spelled := by
  simp only [Value.readKey, isInteger, integerKey_str] at success
  cases spells : spelledInteger? name with
  | none =>
    rw [spells] at success
    cases success
  | some number =>
    rw [spells] at success
    cases success
    exact ⟨number, rfl, rfl⟩

/-- Map entries on the wire are counted by the texts and by the integers of their keys. The text of
a map with different keys is read as an object that has a member for each text of a key, with its
surrogate pairs joined, if the text of each value by itself holds a value. So there are as many
members as entries unless the map holds as keys both an integer and the text of its decimal form, or
two texts that are the same when joined. An object that is read as a map under text keys has as many
entries as members. Under integer keys it has one entry for each integer that a name spells, and so
as many entries as members unless two names spell one integer. -/
theorem map_entries_on_the_wire (codecs : Codecs) :
    (∀ entries text,
      (entries.map (·.1)).Pairwise (fun held later : Value => (later == held) = false) →
      (Value.map entries).encode codecs = .ok text →
      (∀ entry ∈ entries, ∀ own, entry.2.encode codecs = .ok own →
        ∃ json, Json.parse (Text.points own) = .ok json) →
      ∃ members, Json.parse (Text.points text) = .ok (.object members) ∧
        (members.map (·.1)).Nodup ∧
        (∀ name, name ∈ members.map (·.1) ↔
          ∃ entry ∈ entries, ∃ own, entry.1.mapKey = .ok own ∧ Text.joined own = name) ∧
        (members.length = entries.length ↔ ¬HoldsBothForms entries ∧ ¬HoldsBothJoined entries)) ∧
    ∀ (members : List (Points × Json)) key elem value, (members.map (·.1)).Nodup →
      (Json.object members).toValue.decode codecs (.map key elem) = .ok value →
      (key.bare = .named .str → ∃ entries, value = .map entries ∧
        entries.length = members.length) ∧
      (key.bare = .named .int → ∃ entries : List (Int × Value),
        value = .map (entries.map fun entry => (.int entry.1, entry.2)) ∧
        (entries.map (·.1)).Nodup ∧
        (∀ number, number ∈ entries.map (·.1) ↔
          ∃ member ∈ members, spelledInteger? member.1 = some number) ∧
        (entries.length = members.length ↔
          (members.map fun member => spelledInteger? member.1).Nodup)) := by
  refine ⟨fun _ _ different encoded hold => exists_members_of_encode different encoded hold, ?_⟩
  intro members key elem value distinct decoded
  constructor
  · intro isText
    obtain ⟨entries, rfl, _, _, count⟩ :=
      entries_of_decode_object Value.str_beq_str (fun _ _ success => readKey_text isText success)
        decoded
    refine ⟨_, rfl, ?_⟩
    rw [List.length_map, count]
    have names := distinct.map (Option.some_injective Points)
    rwa [List.map_map] at names
  · intro isInteger
    exact entries_of_decode_object Value.int_beq_int
      (fun _ _ success => readKey_integer isInteger success) decoded

/-- Two entries under an integer and a text have two members, and two members whose names spell
different integers become two entries. -/
theorem map_entries_on_the_wire_pair :
    (∃ text members, (Value.map [(.int 2, .null), (.str "b", .null)]).encode Codecs.empty =
        .ok text ∧ Json.parse (Text.points text) = .ok (.object members) ∧ members.length = 2) ∧
      ∃ entries : List (Int × Value), (Json.object [("1", .null), ("+2", .null)]).toValue.decode
          Codecs.empty (.map (.named .int) (.named .object)) =
        .ok (.map (entries.map fun entry => (.int entry.1, entry.2))) ∧ entries.length = 2 := by
  obtain ⟨written, read⟩ := map_entries_on_the_wire Codecs.empty
  constructor
  · have encoded : (Value.map [(.int 2, .null), (.str "b", .null)]).encode Codecs.empty =
        .ok "\x7b\"2\":null,\"b\":null\x7d".toList := rfl
    have different : ([(Value.int 2, Value.null), (.str "b", .null)].map (·.1)).Pairwise
        fun held later => (later == held) = false := by
      refine List.pairwise_pair.2 ?_
      change Value.same (.str "b") (.int 2) = false
      simp [Value.same]
    have hold : ∀ entry ∈ [(Value.int 2, Value.null), (.str "b", .null)], ∀ own,
        entry.2.encode Codecs.empty = .ok own →
          ∃ json, Json.parse (Text.points own) = .ok json := by
      intro entry member own isOwn
      have isNull : entry.2 = .null := by
        rcases List.mem_cons.1 member with rfl | later
        · rfl
        · rw [List.mem_singleton.1 later]
      rw [isNull] at isOwn
      cases isOwn
      exact ⟨.null, Json.parse_compact .null⟩
    obtain ⟨members, parsed, _, _, count⟩ := written _ _ different encoded hold
    refine ⟨_, members, encoded, parsed, count.2 ⟨?_, ?_⟩⟩
    · rintro ⟨number, isInteger, isText⟩
      simp at isInteger isText
      subst isInteger
      exact absurd isText (by decide)
    · rintro ⟨first, second, apart, _, isFirst, isSecond⟩
      simp at isFirst isSecond
      exact apart (isFirst.trans isSecond.symm)
  · have rows : List.Forall₂ (fun member row =>
        (Value.str member.1).readKey (.named .int) = .ok row.1 ∧
          member.2.toValue.decode Codecs.empty (.named .object) = .ok row.2)
        ([("1", .null), ("+2", .null)] : List (Points × Json)) [(.int 1, .null), (.int 2, .null)] :=
      .cons ⟨rfl, rfl⟩ (.cons ⟨rfl, rfl⟩ .nil)
    have decoded := decode_object_eq_ok_iff.2 ⟨_, rows, rfl⟩
    obtain ⟨entries, isMap, _, _, count⟩ := (read _ _ _ _ (by decide) decoded).2 rfl
    exact ⟨entries, decoded.trans (congrArg Except.ok isMap), count.2 (by decide +kernel)⟩

/-- Two entries of a map may have one member, if their keys are an integer and its decimal form or a
surrogate pair and its character; one entry may have two, if its value is raw text; and two members
may become one entry, if their names spell one integer. -/
theorem map_entries_merged :
    (Value.map [(.int 1, .null), (.str "1", .null)]).encode Codecs.empty =
        .ok "\x7b\"1\":null,\"1\":null\x7d".toList ∧
      Json.parse "\x7b\"1\":null,\"1\":null\x7d" = .ok (.object [("1", .null)]) ∧
      (Value.map [(.str Text.halves, .null), (.str "😀", .null)]).encode Codecs.empty =
        .ok "\x7b\"\\ud83d\\ude00\":null,\"\\ud83d\\ude00\":null\x7d".toList ∧
      Json.parse "\x7b\"\\ud83d\\ude00\":null,\"\\ud83d\\ude00\":null\x7d" =
        .ok (.object [("😀", .null)]) ∧
      (Value.map [(.str "a", .raw "1,\"b\":2")]).encode Codecs.empty =
        .ok "\x7b\"a\":1,\"b\":2\x7d".toList ∧
      Json.parse "\x7b\"a\":1,\"b\":2\x7d" = .ok (.object [("a", .int 1), ("b", .int 2)]) ∧
      (Json.object [("1", .int 1), ("+1", .int 2)]).toValue.decode Codecs.empty
        (.map (.named .int) (.named .int)) = .ok (.map [(.int 1, .int 2)]) := by
  -- An object of two nulls is read as the table of its members.
  have twice (names : List Points) :
      Json.parse (Text.points (Json.braced
        (names.map fun name => Json.memberText name "null".toList))) =
          .ok (.object (Table.ofEntries (names.map fun name => (Text.joined name, .null)))) :=
    Json.parse_assembled (fun name : Points => name) (fun _ => "null".toList) (fun _ => .null)
      fun _ _ => Json.parse_compact .null
  refine ⟨rfl, ?_, by decide +kernel, ?_, rfl, ?_, ?_⟩
  · have isText : Text.points "\x7b\"1\":null,\"1\":null\x7d".toList = Text.points (Json.braced
        (["1", "1"].map fun name : Points => Json.memberText name "null".toList)) := by decide
    rw [isText]
    exact twice ["1", "1"]
  · have isText : Text.points "\x7b\"\\ud83d\\ude00\":null,\"\\ud83d\\ude00\":null\x7d".toList =
        Text.points (Json.braced ([Text.halves, "😀"].map fun name : Points =>
          Json.memberText name "null".toList)) := by decide +kernel
    rw [isText, twice, List.map_cons, List.map_cons, List.map_nil, Text.joined_halves,
      Text.joined_points]
    generalize Text.points "😀".toList = name
    simp [Table.ofEntries, Table.put]
  · have parsed := Json.parse_compact (.object [("a", .int 1), ("b", .int 2)])
    have isText : (Json.object [("a", .int 1), ("b", .int 2)]).compact =
        "\x7b\"a\":1,\"b\":2\x7d".toList := rfl
    rw [isText] at parsed
    exact parsed
  · have rows : List.Forall₂ (fun member row =>
        (Value.str member.1).readKey (.named .int) = .ok row.1 ∧
          member.2.toValue.decode Codecs.empty (.named .int) = .ok row.2)
        ([("1", .int 1), ("+1", .int 2)] : List (Points × Json))
            [(.int 1, .int 1), (.int 1, .int 2)] :=
      .cons ⟨rfl, rfl⟩ (.cons ⟨rfl, rfl⟩ .nil)
    have table : Table.ofEntries [(Value.int 1, Value.int 1), (.int 1, .int 2)] =
        [(.int 1, .int 2)] :=
      Table.ofEntries_image Value.int_beq_int [((1 : Int), Value.int 1), (1, .int 2)]
    exact decode_object_eq_ok_iff.2 ⟨_, rows, congrArg Value.map table.symm⟩

end DeclCodec

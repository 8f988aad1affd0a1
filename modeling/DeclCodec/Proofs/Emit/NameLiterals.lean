import DeclCodec.Emit.Render
import DeclCodec.Proofs.Emit.Entries
import DeclCodec.Proofs.Json.RoundTrip
import DeclCodec.Proofs.Text.Quoted
import DeclCodec.Proofs.Traversal

/-!
# Names on the wire in an emitted module

A name on the wire is taken from a tag and may hold any code points. In the method that
writes a struct it stands as a literal of the JSON string that is written, with a colon
behind it; in the method that reads the struct it stands as a literal of itself.

Each of them is one literal on one line, whatever the name is: the lines of a module are
the same for all names but for the literal, and the literal ends where it was meant to
end. The method that writes and the one that reads have the same names. The JSON string
of a name is read as the name with its surrogate pairs joined, which is the name itself
unless a high surrogate in it has a low one right behind it.
-/

namespace DeclCodec

open Text.Quoted (encode read? read?_encode breaksLine_encode delimiter isMark_delimiter)

/-- The text is one literal of a value, and no line ends in it. -/
structure IsLiteral (text : String) (value : Points) : Prop where
  denotes : read? text.toList = some (value, [])
  oneLine : ∀ c ∈ text.toList, Text.breaksLine c = false

/-- In lines that are made for a name, a value for the name stands in one line as a literal. Nothing
else in the lines depends on the name. -/
def EmbedsLiteral (lines : Points → List String) (value : Points → Points) : Prop :=
  ∃ (front : List String) (before after : List Char) (back : List String), ∀ name,
    ∃ literal : List Char, lines name =
      front ++ String.ofList (before ++ (literal ++ after)) :: back ∧
      read? (literal ++ after) = some (value name, after) ∧
      ∀ c ∈ literal, Text.breaksLine c = false

/-- A written literal is one literal of its text. -/
theorem isLiteral_literal (text : Points) : IsLiteral (Text.Quoted.literal text) text where
  denotes := by
    have nothing : ([] : List Char).head? ≠ some (delimiter text) := by simp
    rw [Text.Quoted.literal, String.toList_ofList]
    simpa using read?_encode text nothing
  oneLine c among := by
    rw [Text.Quoted.literal, String.toList_ofList] at among
    exact (breaksLine_encode text c among).2

namespace EmbedsLiteral

variable {lines : Points → List String} {value : Points → Points}

/-- So it is where a written literal stands in front of anything but a quote. -/
theorem of_statement (front : List String) (opening closing : String) (back : List String)
    (value : Points → Points) (apart : ∀ c ∈ closing.toList.head?, c ≠ '\'' ∧ c ≠ '"') :
    EmbedsLiteral
      (fun name => front ++ (opening ++ Text.Quoted.literal (value name) ++ closing) :: back)
      value := by
  refine ⟨front, opening.toList, closing.toList, back, fun name =>
    ⟨encode (value name), ?_, ?_, ?_⟩⟩
  · have line : opening ++ Text.Quoted.literal (value name) ++ closing =
        String.ofList (opening.toList ++ (encode (value name) ++ closing.toList)) := by
      rw [← String.toList_inj]
      simp [Text.Quoted.literal]
    rw [← line]
  · refine read?_encode _ fun follows => ?_
    obtain ⟨noSingle, noDouble⟩ := apart _ follows
    exact (isMark_delimiter (value name)).elim noSingle noDouble
  · exact fun d among => (breaksLine_encode _ d among).2

/-- The same lines have it, too. -/
theorem congr {others : Points → List String} (embeds : EmbedsLiteral lines value)
    (same : ∀ name, others name = lines name) : EmbedsLiteral others value :=
  (funext same : others = lines) ▸ embeds

/-- Further lines around them change nothing. -/
theorem within (embeds : EmbedsLiteral lines value) (above below : List String) :
    EmbedsLiteral (fun name => above ++ (lines name ++ below)) value := by
  obtain ⟨front, before, after, back, each⟩ := embeds
  refine ⟨above ++ front, before, after, back ++ below, fun name => ?_⟩
  obtain ⟨literal, isLines, found, oneLine⟩ := each name
  refine ⟨literal, ?_, found, oneLine⟩
  simp [isLines]

/-- Nor does it that the lines stand deeper. -/
theorem indented (embeds : EmbedsLiteral lines value) (levels : Nat) :
    EmbedsLiteral (fun name => (lines name).map (indent levels)) value := by
  obtain ⟨front, before, after, back, each⟩ := embeds
  refine ⟨front.map (indent levels), List.replicate (4 * levels) ' ' ++ before, after,
    back.map (indent levels), fun name => ?_⟩
  obtain ⟨literal, isLines, found, oneLine⟩ := each name
  have nonempty : String.ofList (before ++ (literal ++ after)) ≠ "" := by
    intro empty
    rw [← String.toList_inj, String.toList_ofList] at empty
    rw [(List.append_eq_nil_iff.1 empty).2] at found
    cases found
  refine ⟨literal, ?_, found, oneLine⟩
  dsimp only
  rw [isLines, List.map_append, List.map_cons, indent, if_neg nonempty, ← String.ofList_append,
    List.append_assoc]

end EmbedsLiteral

/-! ## Statements -/

/-- The statements that write an entry of such a key and value, without a condition. -/
def Write.statements (key : Points) (value : String) : List String :=
  ["if _n:", "    _buf.append(\",\")",
    "_buf.append(" ++ keyLiteral key ++ " + _wire.encode(" ++ value ++ "))", "_n += 1"]

/-- A condition has them stand below it. -/
theorem Write.lines_eq (entry : Write) : entry.lines =
    match entry.condition.1 with
    | none => statements entry.key entry.condition.2
    | some condition => ["if " ++ condition ++ ":"] ++
        ((statements entry.key entry.condition.2).map (indent 1) ++ []) := by
  unfold lines
  obtain ⟨_ | condition, value⟩ := entry.condition
  · rfl
  · rfl

/-- What is written in front of the value of an entry: the JSON string of the key, and a colon. -/
def keyText (name : Points) : Points := Text.points (Json.quote name ++ [':'])

/-- The key of an entry that is written stands in its statements as a literal. -/
theorem Write.embedsLiteral (entry : Write) :
    EmbedsLiteral (fun name => lines { entry with key := name }) keyText := by
  have embeds := EmbedsLiteral.of_statement ["if _n:", "    _buf.append(\",\")"] "_buf.append("
    (" + _wire.encode(" ++ entry.condition.2 ++ "))") ["_n += 1"] keyText (by simp)
  have body : EmbedsLiteral (fun name => statements name entry.condition.2) keyText := by
    refine embeds.congr fun name => ?_
    simp [statements, keyLiteral, keyText, String.append_assoc]
  have isLines (name : Points) : lines { entry with key := name } =
      match entry.condition.1 with
      | none => statements name entry.condition.2
      | some condition => ["if " ++ condition ++ ":"] ++
          ((statements name entry.condition.2).map (indent 1) ++ []) :=
    lines_eq { entry with key := name }
  generalize entry.condition.1 = condition? at isLines
  cases condition? with
  | none => exact body.congr isLines
  | some condition => exact ((body.indented 1).within ["if " ++ condition ++ ":"] []).congr isLines

/-- The name of an entry that is read stands in its statements as a literal. -/
theorem Read.embedsLiteral (entry : Read) :
    EmbedsLiteral (fun name => lines { entry with wireName := name }) fun name => name := by
  have isLines (name : Points) : lines { entry with wireName := name } =
      [] ++ ("_raw = fields.get(" ++ Text.Quoted.literal name ++ ")") :: (lines entry).tail := by
    obtain ⟨field, wireName, shape, _ | reference⟩ := entry
    · rfl
    · rfl
  exact .congr (.of_statement [] "_raw = fields.get(" ")" _ _ (by simp)) isLines

/-- So does the name under which the identifier of a reference is read. -/
theorem Read.embedsLiteral_reference (entry : Read) (reference : ReferenceRead) :
    EmbedsLiteral
      (fun name => lines { entry with reference := some { reference with idName := name } })
      fun name => name := by
  have isLines (name : Points) :
      lines { entry with reference := some { reference with idName := name } } =
        (lines { entry with reference := some reference }).take 4 ++
          ("    _raw = fields.get(" ++ Text.Quoted.literal name ++ ")") ::
          (lines { entry with reference := some reference }).drop 5 := rfl
  exact .congr (.of_statement _ "    _raw = fields.get(" ")" _ _ (by simp)) isLines

/-! ## Modules -/

section Place

variable {value : Points → Points}

/-- Around the statements that write a struct, the lines of its class are the same. -/
theorem StructClass.exists_lines (cls : StructClass) : ∃ above below : List String, ∀ writes,
    lines { cls with writes } = above ++ ((marshalLines writes).map (indent 2) ++ below) := by
  by_cases empty : cls.fields.isEmpty = true
  · exact ⟨_, _, fun writes => by
      rw [lines, if_pos empty, List.append_assoc, List.append_assoc]
      dsimp only⟩
  · exact ⟨_, _, fun writes => by
      rw [lines, if_neg empty, List.append_assoc, List.append_assoc]
      dsimp only⟩

/-- So are those in front of the statements that read it. -/
theorem StructClass.exists_lines_of_reads (cls : StructClass) : ∃ above : List String, ∀ reads,
    lines { cls with reads } = above ++ (assignLines reads).map (indent 2) := by
  by_cases empty : cls.fields.isEmpty = true
  · exact ⟨_, fun reads => by
      rw [lines, if_pos empty]
      dsimp only⟩
  · exact ⟨_, fun reads => by
      rw [lines, if_neg empty]
      dsimp only⟩

/-- What stands in the statements of an entry that is written stands in the lines of its class. -/
theorem EmbedsLiteral.ofWrite {entry : Points → Write}
    (embeds : EmbedsLiteral (fun name => (entry name).lines) value) (cls : StructClass)
    (before after : List Write) :
    EmbedsLiteral
      (fun name => StructClass.lines { cls with writes := before ++ entry name :: after })
          value := by
  have body (name : Points) : marshalLines (before ++ entry name :: after) =
      (["_buf = [\"\x7b\"]", "_n = 0"] ++ before.flatMap Write.lines) ++ ((entry name).lines ++
        (after.flatMap Write.lines ++
          ["_buf.append(\"\x7d\")", "return \"\".join(_buf).encode(\"utf-8\")"])) := by
    have nonempty : marshalLines (before ++ entry name :: after) =
        ["_buf = [\"\x7b\"]", "_n = 0"] ++ (before ++ entry name :: after).flatMap Write.lines ++
          ["_buf.append(\"\x7d\")", "return \"\".join(_buf).encode(\"utf-8\")"] := by
      cases before <;> rfl
    rw [nonempty]
    simp
  obtain ⟨above, below, isLines⟩ := cls.exists_lines
  exact ((((embeds.within _ _).congr body).indented 2).within above below).congr
    fun name => isLines _

/-- So it does for an entry that is read. -/
theorem EmbedsLiteral.ofRead {entry : Points → Read}
    (embeds : EmbedsLiteral (fun name => (entry name).lines) value) (cls : StructClass)
    (before after : List Read) :
    EmbedsLiteral
      (fun name => StructClass.lines { cls with reads := before ++ entry name :: after })
          value := by
  have body (name : Points) : assignLines (before ++ entry name :: after) =
      before.flatMap Read.lines ++ ((entry name).lines ++ after.flatMap Read.lines) := by
    have nonempty : assignLines (before ++ entry name :: after) =
        (before ++ entry name :: after).flatMap Read.lines := by
      cases before <;> rfl
    rw [nonempty, List.flatMap_append, List.flatMap_cons]
  obtain ⟨above, isLines⟩ := cls.exists_lines_of_reads
  refine ((((embeds.within _ _).congr body).indented 2).within above []).congr fun name => ?_
  rw [List.append_nil]
  exact isLines _

/-- What stands in the lines of a class stands in those of its module. -/
theorem EmbedsLiteral.ofClass {cls : Points → StructClass}
    (embeds : EmbedsLiteral (fun name => (cls name).lines) value) (module : Module)
    (before after : List StructClass) :
    EmbedsLiteral
      (fun name => Module.lines { module with structs := before ++ cls name :: after }) value := by
  obtain ⟨above, below, isLines⟩ : ∃ above below : List String, ∀ structs : List StructClass,
      Module.lines { module with structs } =
          above ++ (structs.flatMap StructClass.lines ++ below) := by
    by_cases empty : module.aliases.isEmpty = true
    · exact ⟨_, _, fun structs => by
        rw [Module.lines, if_pos empty, List.append_assoc, List.append_assoc]
        dsimp only⟩
    · exact ⟨_, _, fun structs => by
        rw [Module.lines, if_neg empty, List.append_assoc, List.append_assoc]
        dsimp only⟩
  have classes (name : Points) : (before ++ cls name :: after).flatMap StructClass.lines =
      before.flatMap StructClass.lines ++
          ((cls name).lines ++ after.flatMap StructClass.lines) := by
    rw [List.flatMap_append, List.flatMap_cons]
  exact (((embeds.within _ _).congr classes).within above below).congr fun name => isLines _

end Place

/-! ## Names -/

/-- The literal of a key holds a JSON string with a colon behind it. The string is read as the name
with its surrogate pairs joined. -/
theorem isLiteral_keyLiteral (name : Points) : ∃ inside : List Char,
    IsLiteral (keyLiteral name) (Text.points ('"' :: (inside ++ ['"', ':']))) ∧
      Json.parse (Text.points ('"' :: (inside ++ ['"']))) = .ok (.str (Text.joined name)) := by
  refine ⟨Json.escape name, ?_, Json.parse_quote name⟩
  have text : keyText name = Text.points ('"' :: (Json.escape name ++ ['"', ':'])) := by
    simp [keyText, Json.quote]
  rw [← text]
  exact isLiteral_literal _

/-- Under the name that a member writes it also reads: the name of the field, or that of the
identifier if the identifier is written. -/
theorem Package.read_of_write? {package : Package} {member : Member} {write : Write} {read : Read}
    (writes : member.write? = some write) (reads : package.read? member = .ok (some read)) :
    (write.part ≠ .wrapperId ∧ read.wireName = write.key) ∨
      (write.part = .wrapperId ∧
        ∃ reference, read.reference = some reference ∧ reference.idName = write.key) := by
  cases read?_eq_ok_iff.1 reads with
  | @plain wireName omitEmpty _ policy =>
    rw [Member.write?, policy] at writes
    cases writes
    exact .inl ⟨by cases omitEmpty <;> simp, rfl⟩
  | @reference _ _ variant _ _ _ _ policy =>
    rw [Member.write?, policy] at writes
    cases variant with
    | value =>
      cases writes
      exact .inl ⟨by simp, rfl⟩
    | id =>
      cases writes
      exact .inr ⟨rfl, _, rfl, rfl⟩

/-- Names on the wire in the text of a module. The literal of a key is one literal on one line, of a
JSON string and of a colon. The string is read as the name with its surrogate pairs joined, which is
the name if no high surrogate in it has a low one right behind it, and only then. The literal that
is looked up is one literal on one line, of the name. A module is the same for all keys of an entry
that is written, but for that literal, and it is the same for all names of an entry that is read,
and of the identifier of a reference. And of the names under which a member reads, one is the key
that it writes. -/
theorem name_literals :
    (∀ name, (∃ inside : List Char,
        IsLiteral (keyLiteral name) (Text.points ('"' :: (inside ++ ['"', ':']))) ∧
          Json.parse (Text.points ('"' :: (inside ++ ['"']))) = .ok (.str (Text.joined name))) ∧
      (Text.joined name = name ↔
        ∀ before high low after, name ≠ before ++ .high high :: .low low :: after) ∧
      IsLiteral (Text.Quoted.literal name) name) ∧
    (∀ (module : Module) (cls : StructClass) (before after : List StructClass),
      (∀ (entry : Write) (above below : List Write),
        EmbedsLiteral
          (fun name => Module.lines { module with structs := before ++
            { cls with writes := above ++ { entry with key := name } :: below } :: after })
          keyText) ∧
      ∀ (entry : Read) (above below : List Read),
        EmbedsLiteral
          (fun name => Module.lines { module with structs := before ++
            { cls with reads := above ++ { entry with wireName := name } :: below } :: after })
          (fun name => name) ∧
        ∀ reference : ReferenceRead, EmbedsLiteral
          (fun name => Module.lines { module with structs := before ++
            { cls with reads := above ++
              { entry with reference := some { reference with idName := name } } :: below } ::
                after })
          fun name => name) ∧
    ∀ (package : Package) (member : Member) (write : Write) (read : Read),
      member.write? = some write → package.read? member = .ok (some read) →
        (write.part ≠ .wrapperId ∧ read.wireName = write.key) ∨
          (write.part = .wrapperId ∧
            ∃ reference, read.reference = some reference ∧ reference.idName = write.key) := by
  refine ⟨fun name => ⟨isLiteral_keyLiteral name, Text.isJoined_iff, isLiteral_literal _⟩,
    fun module cls before after => ⟨fun entry above below => ?_, fun entry above below => ⟨?_, ?_⟩⟩,
    fun package member write read => package.read_of_write?⟩
  · exact (entry.embedsLiteral.ofWrite cls above below).ofClass module before after
  · exact (entry.embedsLiteral.ofRead cls above below).ofClass module before after
  · exact fun reference =>
      ((entry.embedsLiteral_reference reference).ofRead cls above below).ofClass module before after

/-- A member whose name on the wire has both quotes and a line feed. -/
theorem name_literals_quotes :
    ∃ member write read, Member.write? member = some write ∧
      (Package.empty "p" {}).read? member = .ok (some read) ∧
      write.key = "o'\n\"" ∧ ((write.part ≠ .wrapperId ∧ read.wireName = write.key) ∨
        (write.part = .wrapperId ∧
          ∃ reference, read.reference = some reference ∧ reference.idName = write.key)) := by
  have writes : Member.write? ⟨"Owner", .named "" "string", some (.plain "o'\n\"" false)⟩ =
      some ⟨"Owner", "o'\n\"", .always⟩ := rfl
  have reads : (Package.empty "p" {}).read?
      ⟨"Owner", .named "" "string", some (.plain "o'\n\"" false)⟩ =
        .ok (some ⟨"Owner", "o'\n\"", .named .str, none⟩) := by decide +kernel
  exact ⟨_, _, _, writes, reads, rfl, name_literals.2.2 _ _ _ _ writes reads⟩

/-- A name of the two halves of a surrogate pair is looked up as it is. The key that is written for
it is the JSON string of the character that they are the pair of. -/
theorem not_name_literals_halves :
    IsLiteral (Text.Quoted.literal Text.halves) Text.halves ∧
      IsLiteral (keyLiteral Text.halves) "\"\\ud83d\\ude00\":" ∧
      Json.parse "\"\\ud83d\\ude00\"" = .ok (.str "😀") ∧
      Text.points "😀".toList ≠ Text.halves := by
  have text : keyText Text.halves = Text.points "\"\\ud83d\\ude00\":".toList := by
    decide +kernel
  exact ⟨isLiteral_literal _, text ▸ isLiteral_literal _, Json.parse_halves, by decide +kernel⟩

example : keyLiteral "o'\n\"" = "'\"o\\'\\\\n\\\\\"\":'" := by decide +kernel

end DeclCodec

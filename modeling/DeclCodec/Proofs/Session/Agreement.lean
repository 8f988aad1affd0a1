import DeclCodec.Proofs.Session.Selection
import DeclCodec.Proofs.Wire.Alike

/-!
# Data that is kept off the wire

An instance may hold data that is not meant for the wire: in fields that are not
exported, in fields that are omitted, and on the side of a reference that its
variant does not write. Two values agree if nothing else tells them apart, at any
depth. Values that agree are written alike: both have the same text, or both fail
with the same fault, whatever the other data is.
-/

namespace DeclCodec

/-- The part of a reference that a variant writes: the identifier, unless it is empty, or the value,
if there is one. -/
def Variant.part? : Variant → Value → Option Value
  | .value, .wrapper _ _ .null => none
  | .value, .wrapper _ _ held => some held
  | .id, .wrapper _ name _ => if name.isEmpty then none else some name
  | _, _ => none

/-- Does the value stand for a reference? It is a wrapper or nothing. -/
def Value.IsReference : Value → Prop
  | .null => True
  | .wrapper _ _ _ => True
  | _ => False

namespace Package

/-- Two values hold the same data for the wire. -/
inductive Agrees (package : Package) : Value → Value → Prop
  | same (value : Value) : Agrees package value value
  | trans {first second third : Value} (front : Agrees package first second)
      (back : Agrees package second third) : Agrees package first third
  | list {rows : List (Value × Value)} (each : ∀ row ∈ rows, Agrees package row.1 row.2) :
      Agrees package (.list (rows.map (·.1))) (.list (rows.map (·.2)))
  | tuple {rows : List (Value × Value)} (each : ∀ row ∈ rows, Agrees package row.1 row.2) :
      Agrees package (.tuple (rows.map (·.1))) (.tuple (rows.map (·.2)))
  | map {rows : List (Value × Value × Value)}
      (each : ∀ row ∈ rows, Agrees package row.2.1 row.2.2) :
      Agrees package (.map (rows.map fun row => (row.1, row.2.1)))
        (.map (rows.map fun row => (row.1, row.2.2)))
  /-- The order of entries with different keys does not matter. -/
  | reordered {entries others : List (Value × Value)} (perm : entries.Perm others)
      {name : Value × Value → Points} (keys : ∀ entry ∈ entries, entry.1.mapKey = .ok (name entry))
      (different : (entries.map name).Nodup) : Agrees package (.map entries) (.map others)
  /-- A wrapper has no form of its own on the wire, whatever it holds. -/
  | wrapper (type : String) (id value otherId otherValue : Value) :
      Agrees package (.wrapper type id value) (.wrapper type otherId otherValue)
  /-- Instances agree on their plain fields, and on what the variants of their references write. -/
  | record {struct : String} {rows : List (Member × Value × Value)}
      (declared : package.structs.lookup struct = some (rows.map (·.1)))
      (plain : ∀ row ∈ rows, row.1.isWired = true → row.1.isReference = false →
        Agrees package row.2.1 row.2.2)
      (references : ∀ row ∈ rows, ∀ wireName idName variant omitEmpty,
        row.1.policy = some (.reference wireName idName variant omitEmpty) →
          row.2.1 = row.2.2 ∨ row.2.1.IsReference ∧ row.2.2.IsReference ∧
            (variant.part? row.2.1).isSome = (variant.part? row.2.2).isSome)
      (parts : ∀ row ∈ rows, ∀ wireName idName variant omitEmpty,
        row.1.policy = some (.reference wireName idName variant omitEmpty) →
          ∀ part ∈ variant.part? row.2.1, ∀ other ∈ variant.part? row.2.2,
            Agrees package part other) :
      Agrees package
        (.record struct (rows.map fun row => (scopedName struct row.1.name, row.2.1)))
        (.record struct (rows.map fun row => (scopedName struct row.1.name, row.2.2)))

end Package

variable {codecs : Codecs}

/-! ## Instances -/

/-- What a variant selects of a reference is the part that it writes. -/
theorem Variant.selected_eq (variant : Variant) (wireName idName : Points) {value : Value}
    (isReference : value.IsReference) : variant.selected wireName idName value =
      .ok ((variant.part? value).map fun part =>
        (match variant with | .value => wireName | .id => idName, part)) := by
  cases value with
  | null => cases variant <;> rfl
  | wrapper type id held =>
    cases variant with
    | value => cases held <;> rfl
    | id =>
      cases empty : id.isEmpty <;>
        simp [selected, part?, Value.held, Value.attribute?, empty, bind, Except.bind, pure,
          Except.pure]
  | _ => exact isReference.elim

/-- A plain member has the same entry for fields that are alike. -/
theorem Alike.entry_plain {member : Member} {first second : Value}
    (alike : Alike codecs first second) {wireName : Points} {omitEmpty : Bool}
    (policy : member.policy = some (.plain wireName omitEmpty)) :
    member.entry codecs first = member.entry codecs second := by
  have selects (value : Value) : member.entry codecs value = codecs.entry
      (if omitEmpty && value.isEmpty then none else some (wireName, value)) := by
    rw [Member.entry, Member.selected, policy]
    rfl
  rw [selects, selects, alike.empty]
  split
  · rfl
  · rw [Codecs.entry, Codecs.entry, alike.encoded]

/-- A reference has the same entry for wrappers whose parts are alike. -/
theorem entry_reference {member : Member} {wireName idName : Points} {variant : Variant}
    {omitEmpty : Bool}
    (policy : member.policy = some (.reference wireName idName variant omitEmpty))
    {first second : Value} (isFirst : first.IsReference) (isSecond : second.IsReference)
    (together : (variant.part? first).isSome = (variant.part? second).isSome)
    (alike : ∀ part ∈ variant.part? first, ∀ other ∈ variant.part? second,
      Alike codecs part other) :
    member.entry codecs first = member.entry codecs second := by
  have selects (value : Value) (isReference : value.IsReference) :
      member.entry codecs value = codecs.entry ((variant.part? value).map fun part =>
        (match variant with | .value => wireName | .id => idName, part)) := by
    rw [Member.entry, Member.selected, policy]
    dsimp only
    rw [variant.selected_eq wireName idName isReference]
    rfl
  rw [selects first isFirst, selects second isSecond]
  cases isPart : variant.part? first with
  | none =>
    rw [isPart, Option.isSome_none] at together
    rw [Option.isNone_iff_eq_none.1 (Option.isSome_eq_false_iff.1 together.symm)]
  | some part =>
    rw [isPart, Option.isSome_some] at together
    obtain ⟨other, isOther⟩ := Option.isSome_iff_exists.1 together.symm
    rw [isOther, Option.map_some, Option.map_some, Codecs.entry, Codecs.entry,
      (alike part isPart other isOther).encoded]

namespace Package

variable {package : Package}

/-- Values that agree are alike. The induction is on the agreement; in an instance each member has
the same entry on both sides, whatever the fields off the wire and the other sides of references
hold. -/
theorem Agrees.alike (loaded : package.Loads codecs) (collected : Collected package)
    {first second : Value} (agrees : Agrees package first second) : Alike codecs first second := by
  induction agrees with
  | same value => exact ⟨rfl, rfl⟩
  | trans _ _ front back =>
    exact ⟨front.empty.trans back.empty, front.encoded.trans back.encoded⟩
  | list _ each => exact .list each
  | tuple _ each => exact .tuple each
  | map _ each => exact .map each
  | reordered perm keys different => exact .reordered perm keys different
  | wrapper type id value otherId otherValue => exact .wrapper type id value otherId otherValue
  | @record struct rows declared _ references _ plain parts =>
    refine ⟨rfl, ?_⟩
    have entries : (rows.map fun row => (row.1, row.2.1)).filterMapM
          (fun (row : Member × Value) => row.1.entry codecs row.2) =
        (rows.map fun row => (row.1, row.2.2)).filterMapM
          (fun (row : Member × Value) => row.1.entry codecs row.2) := by
      refine filterMapM_map_congr fun row among => ?_
      dsimp only
      rcases policy : row.1.policy with _ | _ | ⟨wireName, omitEmpty⟩ |
        ⟨wireName, idName, variant, omitEmpty⟩
      · simp [Member.entry, Member.selected, policy]
      · simp [Member.entry, Member.selected, policy]
      · exact (plain row among (by simp [Member.isWired, policy, Policy.isWired])
          (by simp [Member.isReference, policy, Policy.isReference])).entry_plain policy
      · rcases references row among wireName idName variant omitEmpty policy with equal |
          ⟨isFirst, isSecond, together⟩
        · rw [equal]
        · exact entry_reference policy isFirst isSecond together
            (parts row among wireName idName variant omitEmpty policy)
    have firstDeclared : package.structs.lookup struct =
        some ((rows.map fun row => (row.1, row.2.1)).map (·.1)) := by
      simpa [Function.comp_def] using declared
    have secondDeclared : package.structs.lookup struct =
        some ((rows.map fun row => (row.1, row.2.2)).map (·.1)) := by
      simpa [Function.comp_def] using declared
    have isFirst := loaded.encode_instance collected firstDeclared
    have isSecond := loaded.encode_instance collected secondDeclared
    simp only [List.map_map, Function.comp_def] at isFirst isSecond
    rw [isFirst, isSecond, entries]

/-- Data that is kept off the wire never reaches it. Two instances that agree on what is meant for
the wire have the same text, or fail with the same fault, whatever else they hold. -/
theorem marshal_eq_of_agrees {name : String} {settings : Settings} {units : List DeclUnit}
    (success : collect name settings units = .ok package) (loaded : package.Loads codecs)
    {struct other : String} {fields others : List (String × Value)}
    (agrees : Agrees package (.record struct fields) (.record other others)) :
    codecs.marshal (.record struct fields) = codecs.marshal (.record other others) := by
  rw [Codecs.marshal, Codecs.marshal, (agrees.alike loaded (collected_of_collect success)).encoded]

/-- Declarations of a struct with fields off the wire, and of one that holds it in a list, in a map
and by reference. -/
def folderUnits : List DeclUnit :=
  [⟨"folder", "p", [
    .struct "Note" [⟨["Text"], .named [] "string", none⟩, ⟨["secret"], .named [] "string", none⟩,
      ⟨["Cache"], .named [] "any", some "json:\"-\""⟩] "folder",
    .struct "Folder" [⟨["Pages"], .slice (.named [] "Note"), none⟩,
      ⟨["Index"], .map (.named [] "string") (.pointer (.named [] "Note")), none⟩,
      ⟨["Cover"], .named [] "Note", some "ref:\"cover_id,value\""⟩,
      ⟨["Owner"], .named [] "Note", some "ref:\"owner_id\""⟩] "folder"]⟩]

/-- The members of the struct that is held. -/
def folderNoteMembers : List Member :=
  [⟨"Text", .named "" "string", some (.plain "Text" false)⟩, ⟨"secret", .named "" "string", none⟩,
    ⟨"Cache", .named "" "any", some (.omitted "Cache")⟩]

/-- The members of the struct that holds it. -/
def folderMembers : List Member :=
  [⟨"Pages", .slice (.named "" "Note"), some (.plain "Pages" false)⟩,
    ⟨"Index", .map (.named "" "string") (.pointer (.named "" "Note")), some (.plain "Index" false)⟩,
    ⟨"Cover", .named "" "Note", some (.reference "Cover" "cover_id" .value false)⟩,
    ⟨"Owner", .named "" "Note", some (.reference "Owner" "owner_id" .id false)⟩]

/-- The package of the declarations. -/
def folderPackage : Package where
  name := "p"
  settings := {}
  units := ["folder"]
  types := (folderUnits.flatMap (·.decls)).map fun decl => (decl.name, decl)
  aliases := []
  structs := [("Note", folderNoteMembers), ("Folder", folderMembers)]
  referenced := [("Note", .named "" "Note")]
  imported := []

/-- A note with its text, and with two things that are kept off the wire. -/
def folderNote (text secret cache : Value) : Value :=
  .record "Note" ((folderNoteMembers.zip [text, secret, cache]).map fun row =>
    (scopedName "Note" row.1.name, row.2))

/-- A folder with these values in its fields. -/
def folder (pages index cover owner : Value) : Value :=
  .record "Folder" ((folderMembers.zip [pages, index, cover, owner]).map fun row =>
    (scopedName "Folder" row.1.name, row.2))

/-- Notes with one text agree. -/
theorem agrees_folderNote (text secret cache otherSecret otherCache : Value) :
    Agrees folderPackage (folderNote text secret cache)
        (folderNote text otherSecret otherCache) := by
  have agrees := @Agrees.record folderPackage "Note"
    (folderNoteMembers.zip [(text, text), (secret, otherSecret), (cache, otherCache)]) rfl
    (by simpa [folderNoteMembers, Member.isWired, Policy.isWired] using fun _ => .same text)
    (by simp [folderNoteMembers])
    (by simp [folderNoteMembers])
  exact agrees

/-- What the classes know once they are loaded. -/
def folderCodecs : Codecs where
  structs := [
    ⟨"Note", [("Text", .emptyText), ("secret", .emptyText), ("Cache", .null)],
      [⟨"Text", "Text", .always⟩], [⟨"Text", "Text", .named .str, none⟩], true⟩,
    ⟨"Folder", [("Pages", .emptyList), ("Index", .emptyMap), ("Cover", .null), ("Owner", .null)],
      [⟨"Pages", "Pages", .always⟩, ⟨"Index", "Index", .always⟩, ⟨"Cover", "Cover", .wrapperValue⟩,
        ⟨"Owner", "owner_id", .wrapperId⟩],
      [⟨"Pages", "Pages", .slice (.named (.declared "Note")), none⟩,
        ⟨"Index", "Index", .map (.named .str) (.pointer (.named (.declared "Note"))), none⟩,
        ⟨"Cover", "Cover", .named (.declared "Note"), some ⟨"NoteRef", "cover_id", .named .str⟩⟩,
        ⟨"Owner", "Owner", .named (.declared "Note"), some ⟨"NoteRef", "owner_id", .named .str⟩⟩],
      true⟩]
  wrappers := [("NoteRef", .emptyText)]
  foreign := .builtins

/-- A folder whose first note has this text. -/
def folderOf (text : Value) : Value :=
  folder (.list [folderNote text (.str "x") .formless])
    (.map [(.str "a", folderNote (.str "two") .null .null), (.str "b", .null)])
    (.wrapper "NoteRef" (.str "left") (folderNote (.str "three") (.str "y") (.int 1)))
    (.wrapper "NoteRef" (.str "7") .formless)

/-- Another such folder. It differs in what the notes keep off the wire, in the order of the index,
in the identifier of the cover and in the value of the owner. -/
def otherFolderOf (text : Value) : Value :=
  folder (.list [folderNote text .formless (.int 1)])
    (.map [(.str "b", .null), (.str "a", folderNote (.str "two") .formless .formless)])
    (.wrapper "NoteRef" .formless (folderNote (.str "three") .null .null))
    (.wrapper "NoteRef" (.str "7") .null)

/-- The shelves agree. -/
theorem agrees_folderOf (text : Value) :
    Agrees folderPackage (folderOf text) (otherFolderOf text) := by
  have pages : Agrees folderPackage (.list [folderNote text (.str "x") .formless])
      (.list [folderNote text .formless (.int 1)]) := by
    refine @Agrees.list _ [(_, _)] fun row member => ?_
    rw [List.mem_singleton.1 member]
    exact agrees_folderNote ..
  have values : Agrees folderPackage
      (.map [(.str "a", folderNote (.str "two") .null .null), (.str "b", .null)])
      (.map [(.str "a", folderNote (.str "two") .formless .formless), (.str "b", .null)]) := by
    refine @Agrees.map _ [(.str "a", _, _), (.str "b", .null, .null)] fun row member => ?_
    simp only [List.mem_cons, List.not_mem_nil, or_false] at member
    rcases member with rfl | rfl
    · exact agrees_folderNote ..
    · exact .same _
  have order : Agrees folderPackage
      (.map [(.str "a", folderNote (.str "two") .formless .formless), (.str "b", .null)])
      (.map [(.str "b", .null), (.str "a", folderNote (.str "two") .formless .formless)]) := by
    refine @Agrees.reordered _ _ _ (.swap _ _ _)
      (fun entry => entry.1.mapKey.toOption.getD []) ?_ ?_
    · simp [Value.mapKey, Except.toOption]
    · simp [Value.mapKey, Except.toOption]
  have cover := agrees_folderNote (.str "three") (.str "y") (.int 1) .null .null
  have agrees := @Agrees.record folderPackage "Folder"
    (folderMembers.zip [(_, _), (_, _),
      (.wrapper "NoteRef" (.str "left") (folderNote (.str "three") (.str "y") (.int 1)),
        .wrapper "NoteRef" .formless (folderNote (.str "three") .null .null)),
      (.wrapper "NoteRef" (.str "7") .formless, .wrapper "NoteRef" (.str "7") .null)]) rfl
    (by simpa [folderMembers, Member.isReference, Policy.isReference] using
      ⟨fun _ => pages, fun _ => values.trans order⟩)
    (by
      intro row among wireName idName variant omitEmpty policy
      simp only [folderMembers, List.zip_cons_cons, List.zip_nil_left, List.mem_cons,
        List.not_mem_nil, or_false] at among
      rcases among with rfl | rfl | rfl | rfl <;> cases policy
      · exact .inr ⟨trivial, trivial, rfl⟩
      · exact .inr ⟨trivial, trivial, rfl⟩)
    (by
      intro row among wireName idName variant omitEmpty policy part isPart other isOther
      simp only [folderMembers, List.zip_cons_cons, List.zip_nil_left, List.mem_cons,
        List.not_mem_nil, or_false] at among
      rcases among with rfl | rfl | rfl | rfl <;> cases policy <;> cases isPart <;> cases isOther
      · exact cover
      · exact .same _)
  exact agrees

/-- So they have the same text, or the same fault if a text has no form on the wire. -/
theorem marshal_eq_of_agrees_folder :
    collect "p" {} folderUnits = .ok folderPackage ∧ folderPackage.Loads folderCodecs ∧
      (∀ text, Agrees folderPackage (folderOf text) (otherFolderOf text)) ∧
      folderCodecs.marshal (folderOf (.str "one")) =
        folderCodecs.marshal (otherFolderOf (.str "one")) ∧
      folderCodecs.marshal (folderOf (.str "one")) =
        .ok ("\x7b\"Pages\":[\x7b\"Text\":\"one\"\x7d],\"Index\":\x7b\"a\":\x7b\"Text\":\"two\"\x7d," ++
          "\"b\":null\x7d,\"Cover\":\x7b\"Text\":\"three\"\x7d,\"owner_id\":\"7\"\x7d") ∧
      folderCodecs.marshal (folderOf .formless) = folderCodecs.marshal (otherFolderOf .formless) ∧
      folderCodecs.marshal (folderOf .formless) = .error (.unsupportedType "Opaque") := by
  have collects : collect "p" {} folderUnits = .ok folderPackage :=
    eq_ok_of_toOption (by decide +kernel)
  have loads : folderPackage.Loads folderCodecs := loads_of_toOption (by decide +kernel)
  refine ⟨collects, loads, agrees_folderOf, ?_, by decide +kernel, ?_, by decide +kernel⟩
  · exact marshal_eq_of_agrees collects loads (agrees_folderOf (.str "one"))
  · exact marshal_eq_of_agrees collects loads (agrees_folderOf .formless)

end Package

end DeclCodec

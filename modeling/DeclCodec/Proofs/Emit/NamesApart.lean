import DeclCodec.Proofs.Emit.UsedNames
import DeclCodec.Proofs.Package.Mentions

/-!
# The names of a package

A module binds the names of its package: those of the declared types, of the
wrappers and of the fields, and the first parts of the modules it imports. They
should be neither keywords nor names that the module uses otherwise, and a type, a
wrapper and an imported module should not share a name.

Collecting sees to it for the names that are declared. The name of a wrapper begins
with a capital letter, and so does hardly any name that could be mistaken for it.
The modules to import are taken as the types mention them.
-/

namespace DeclCodec

/-- Is the name neither a keyword nor reserved for the module? -/
def NotReserved (name : String) : Prop := name ∉ languageKeywords ∧ name ∉ moduleNames

/-- Exactly the names that are not reserved pass the check. -/
theorem checkName_eq_ok_iff {use : NameUse} {name : String} :
    checkName use name = .ok () ↔ NotReserved name := by
  unfold checkName NotReserved
  simp only [Bool.or_eq_true, List.contains_iff_mem]
  split
  · next reserved =>
    constructor
    · intro passed
      cases passed
    · intro free
      exact absurd reserved (not_or.2 free)
  · next free => exact ⟨fun _ => not_or.1 free, fun _ => rfl⟩

/-- A name that is not reserved is used by a module only if it is one of three. -/
theorem NotReserved.unreserved_of_used {name : String} (free : NotReserved name) {module : Module}
    (used : name ∈ module.usedNames) : name ∈ unreservedNames := by
  rcases module.isUsedName name used with reserved | unreserved
  · exact absurd reserved free.2
  · exact unreserved

namespace Descriptor

/-- The base name of an exported type begins with a capital letter, whatever follows it. -/
theorem isExportedName_base {type : Descriptor} (exported : type.exported = true)
    (rest : String) : isExportedName (type.base ++ rest) = true := by
  induction type with
  | named package name =>
    unfold Descriptor.exported isExportedName typeName at exported
    unfold base baseName isExportedName
    rw [if_neg Bool.false_ne_true, String.toList_append]
    cases letters : name.toList with
    | nil =>
      rw [letters] at exported
      cases exported
    | cons first others =>
      rw [letters] at exported
      exact exported
  | pointer elem inductionHypothesis =>
    rw [base_pointer]
    exact inductionHypothesis exported
  | slice elem =>
    simp [base, baseName, isExportedName, Text.isCapitalized]
    decide
  | map key value =>
    simp [base, baseName, isExportedName, Text.isCapitalized]
    decide

end Descriptor

/-- The words with a capital letter among the keywords and the names that modules use. -/
def capitalWords : List String := ["False", "None", "True", "Any"]

/-- A keyword or used name that begins with a capital letter is one of four. -/
theorem mem_capitalWords {name : String} (exported : Descriptor.isExportedName name = true)
    (taken : name ∈ languageKeywords ∨ IsUsedName name) : name ∈ capitalWords := by
  have all : ∀ word ∈ languageKeywords ++ moduleNames ++ unreservedNames,
      Descriptor.isExportedName word = true → word ∈ capitalWords := by
    decide +kernel
  refine all name ?_ exported
  rw [List.append_assoc, List.mem_append, List.mem_append]
  exact taken

namespace Package

/-- The names of the declared types. -/
def declaredNames (package : Package) : List String := package.types.map (·.1)

/-- The names of the fields of all structs. -/
def fieldNames (package : Package) : List String := package.allMembers.map (·.name)

/-- The first part of a module's path, under which the module is imported. -/
def importHead (path : String) : String := String.ofList (path.toList.takeWhile (· != '.'))

/-- The names that the imported modules have. -/
def importHeads (package : Package) : List String := package.dependencies.map importHead

/-- Are the names that a module binds for its package apart: no type, wrapper or imported module
goes by the name of another kind, and none of them, nor a field, by a keyword or by a name that the
module uses otherwise? -/
structure NamesApart (package : Package) (module : Module) : Prop where
  wrappers : ∀ name ∈ package.wrapperNames, name ∉ package.declaredNames
  modules : ∀ name ∈ package.importHeads,
    name ∉ package.declaredNames ∧ name ∉ package.wrapperNames
  free : ∀ name ∈ package.declaredNames ++ package.wrapperNames ++ package.importHeads ++
    package.fieldNames, name ∉ languageKeywords ∧ name ∉ module.usedNames

/-! ## Names of types and fields -/

/-- The declared names are checked. -/
theorem notReserved_of_record {name : String} {settings : Settings} {units : List DeclUnit}
    {package : Package} (success : record name settings units = .ok package) :
    ∀ entry ∈ package.types, NotReserved entry.1 := by
  simp only [record, bind_eq_ok] at success
  obtain ⟨types, run, same⟩ := success
  cases same
  refine foldlM_invariant (fun _ types => ∀ entry ∈ types, NotReserved entry.1) ?_ (by simp) run
  intro _ decl types next holds success
  simp only [recordDecl, bind_eq_ok] at success
  obtain ⟨_, checked, rest⟩ := success
  split at rest
  · cases rest
  · cases rest
    rw [List.forall_mem_append, List.forall_mem_singleton]
    exact ⟨holds, checkName_eq_ok_iff.1 checked⟩

/-- A field name that passes the check is neither reserved nor a method's. -/
theorem free_of_checkField {name : String} {taken : List Member}
    (success : checkField name taken = .ok ()) : NotReserved name ∧ name ∉ methodNames := by
  simp only [checkField, bind_eq_ok] at success
  obtain ⟨_, checked, rest⟩ := success
  refine ⟨checkName_eq_ok_iff.1 checked, fun isMethod => ?_⟩
  rw [if_pos (List.contains_iff_mem.2 isMethod)] at rest
  cases rest

/-- Are the names of all members free, and the types of all wrappers visible outside? -/
structure Checked (members : List Member) (referenced : List (String × Descriptor)) : Prop where
  members : ∀ member ∈ members, NotReserved member.name ∧ member.name ∉ methodNames
  referenced : ∀ entry ∈ referenced, entry.2.exported = true

/-- The types that are announced are visible outside. -/
theorem exported_of_announce {referenced later : List (String × Descriptor)} {field : String}
    {type : Descriptor} (announced : announce referenced field type = .ok later)
    (exported : ∀ entry ∈ referenced, entry.2.exported = true) :
    ∀ entry ∈ later, entry.2.exported = true := by
  unfold announce at announced
  split at announced
  · cases announced
  · next visible =>
    split at announced
    · cases announced
      rw [List.forall_mem_append, List.forall_mem_singleton]
      exact ⟨exported, by simpa using visible⟩
    · split at announced
      · cases announced
        exact exported
      · cases announced

/-- Collecting a name checks it. -/
theorem Checked.collectName {earlier : List Member} {type : Descriptor}
    {policies : List (String × Policy)} {progress next : Progress} {name : String}
    (checked : Checked (earlier ++ progress.members) progress.referenced)
    (success : collectName type policies progress name = .ok next) :
    Checked (earlier ++ next.members) next.referenced := by
  have members := (collectName_cases success).2.1
  simp only [Package.collectName, bind_eq_ok, attempt_eq_ok] at success
  obtain ⟨_, free, rest⟩ := success
  constructor
  · rw [members, ← List.append_assoc, List.forall_mem_append, List.forall_mem_singleton]
    exact ⟨checked.members, free_of_checkField free⟩
  · split at rest
    · simp only [bind_eq_ok, attempt_eq_ok] at rest
      obtain ⟨referenced, announced, same⟩ := rest
      cases same
      exact exported_of_announce announced checked.referenced
    · cases rest
      exact checked.referenced

/-- Resolving a declaration checks its names. -/
theorem Checked.step {package next : Package} {decl : Decl}
    (checked : Checked package.allMembers package.referenced)
    (success : resolveNamed package decl = .ok next) :
    Checked next.allMembers next.referenced := by
  obtain ⟨name, fields, unit⟩ | ⟨name, type, unit⟩ := decl
  · obtain ⟨progress, run, same⟩ := bind_eq_ok.1 (resolveDecl_of_resolveNamed success)
    cases same
    have begun : Checked (package.allMembers ++ package.progress.members) package.referenced := by
      rwa [Package.progress, List.append_nil]
    have all := foldlM_invariant
      (fun _ state => Checked (package.allMembers ++ state.members) state.referenced)
      (by
        intro _ field state next checked success
        simp only [collectField, bind_eq_ok, attempt_eq_ok] at success
        obtain ⟨type, _, policies, _, run⟩ := success
        exact foldlM_invariant
          (fun _ state => Checked (package.allMembers ++ state.members) state.referenced)
          (fun _ _ _ _ checked success => checked.collectName success) checked run)
      begun run
    simpa [allMembers] using all
  · obtain ⟨target, _, same⟩ := bind_eq_ok.1 (resolveDecl_of_resolveNamed success)
    cases same
    exact checked

/-- In a collected package the names of types and fields are not reserved, and the types of wrappers
are visible outside. -/
theorem checked_of_collect {name : String} {settings : Settings} {units : List DeclUnit}
    {package : Package} (success : collect name settings units = .ok package) :
    (∀ name ∈ package.declaredNames, NotReserved name) ∧
      Checked package.allMembers package.referenced := by
  obtain ⟨⟨recorded, _, recording, starting, resolving⟩, _⟩ := collect_eq_ok_iff.1 success
  obtain ⟨_, _, noStruct, noReference, _⟩ := recorded_ok recording
  have sameTypes := (resolved_of_record recording starting resolving).types
  have recordedTypes := notReserved_of_record recording
  obtain ⟨_, _, _, rfl⟩ := resolveIdType_eq_ok_iff.1 starting
  constructor
  · rw [declaredNames, sameTypes, List.forall_mem_map]
    exact recordedTypes
  · exact foldlM_invariant (fun _ package => Checked package.allMembers package.referenced)
      (fun _ _ _ _ checked success => checked.step success)
      ⟨by simp [allMembers, noStruct], by simp [noReference]⟩ resolving

/-! ## Wrappers and imported modules -/

/-- The name of a wrapper begins with a capital letter and ends as the settings say. -/
theorem exported_of_wrapperNames {package : Package}
    (checked : ∀ entry ∈ package.referenced, entry.2.exported = true) :
    ∀ name ∈ package.wrapperNames, Descriptor.isExportedName name = true ∧
      package.settings.refSuffix.toList <:+ name.toList := by
  rw [wrapperNames, List.forall_mem_map]
  intro entry member
  constructor
  · exact Descriptor.isExportedName_base (checked entry member) _
  · rw [wrapperName, String.toList_append]
    exact List.suffix_append _ _

/-! ## Names that are checked -/

/-- What collecting sees to about the names of a package. -/
structure NamesChecked (package : Package) : Prop where
  declaredOnce : package.declaredNames.Nodup
  wrappersOnce : package.wrapperNames.Nodup
  wrappersNew : ∀ name ∈ package.wrapperNames, name ∉ package.declaredNames
  fieldsOnce : ∀ entry ∈ package.structs, (entry.2.map (·.name)).Nodup
  fieldsFree : ∀ name ∈ package.fieldNames, name ∉ methodNames
  free : ∀ name ∈ package.declaredNames ++ package.fieldNames, name ∉ languageKeywords ∧
    ∀ module, package.module = .ok module → name ∈ module.usedNames → name ∈ unreservedNames
  wrappersFree : ∀ name ∈ package.wrapperNames, (name ∈ languageKeywords ∨
      ∃ module, package.module = .ok module ∧ name ∈ module.usedNames) →
    name ∈ capitalWords ∧ package.settings.refSuffix.toList <:+ name.toList
  imported : ∀ path ∈ package.dependencies, path ∈ package.settings.imports ∨
    ∃ own, Qualifies package.settings ((package.types.map (·.2)).flatMap Decl.types) path own

/-- In a package that is collected each type, each wrapper and each field of a struct has a name of
its own, and a wrapper is not named like a type. No type and no field is named by a keyword, like a
method, or like anything that the module uses otherwise, but for the three names that are not
reserved. A wrapper is not either, unless its name is one of four words that begin with a capital
letter, and then the settings complete the word. Imported modules are not checked: they are those
that the settings or the types in the declarations mention. -/
theorem namesChecked_of_collect {name : String} {settings : Settings} {units : List DeclUnit}
    {package : Package} (success : collect name settings units = .ok package) :
    package.NamesChecked := by
  have collected := collected_of_collect success
  have tables := tables_of_collect success
  obtain ⟨declared, checked⟩ := checked_of_collect success
  have fields : ∀ name ∈ package.fieldNames, NotReserved name ∧ name ∉ methodNames :=
    List.forall_mem_map.2 checked.members
  constructor
  case declaredOnce => exact tables.once
  case wrappersOnce => exact wrapperNames_nodup collected tables
  case wrappersNew =>
    rw [wrapperNames, List.forall_mem_map]
    intro entry member isDeclared
    have found := Table.isSome_lookup_iff.2 isDeclared
    rw [tables.wrappersNew entry member] at found
    cases found
  case fieldsOnce => exact fun entry among => (collected.members entry among).distinct
  case fieldsFree => exact fun name member => (fields name member).2
  case free =>
    intro name member
    have notReserved : NotReserved name :=
      (List.mem_append.1 member).elim (declared name) fun isField => (fields name isField).1
    exact ⟨notReserved.1, fun module _ used => notReserved.unreserved_of_used used⟩
  case wrappersFree =>
    intro name member taken
    obtain ⟨exported, suffix⟩ := exported_of_wrapperNames checked.referenced name member
    refine ⟨mem_capitalWords exported ?_, suffix⟩
    rcases taken with keyword | ⟨module, _, used⟩
    · exact .inl keyword
    · exact .inr (module.isUsedName name used)
  case imported =>
    intro path imported
    have gathers := (collect_eq_ok_iff.1 success).1
    rw [(from_of_collect success).1]
    rcases (mem_dependencies_iff success).1 imported with
      always | ⟨own, set | ⟨type, among, mentioned⟩⟩
    · exact .inl always
    · exact .inr ⟨own, .inl set⟩
    · exact .inr ⟨own, .inr ⟨type, gathers.mem_types_iff.2 among, mentioned⟩⟩

/-- The usual settings complete none of the four words. -/
example : ∀ word ∈ capitalWords, ¬({} : Settings).refSuffix.toList <:+ word.toList := by decide

/-- A type that is named like a module that another type mentions, a type named like a parameter,
and modules named by a keyword, by a name that modules use, and like a wrapper. -/
def clashingUnits : List DeclUnit :=
  [⟨"clash", "p", [.alias "foo" (.named [] "int") "clash", .alias "data" (.named [] "int") "clash",
    .struct "X" [] "clash",
    .struct "T" [⟨["A"], .named ["foo"] "Y", none⟩, ⟨["B"], .named ["class"] "Y", none⟩,
      ⟨["C"], .slice (.named ["list"] "Y"), none⟩, ⟨["D"], .named ["XRef"] "Y", none⟩,
      ⟨["E"], .named [] "X", some "ref:\"e\""⟩] "clash"]⟩]

/-- The package of these declarations. -/
def clashingPackage : Package where
  name := "p"
  settings := {}
  units := ["clash"]
  types := (clashingUnits.flatMap (·.decls)).map fun decl => (decl.name, decl)
  aliases := [("foo", .named "" "int"), ("data", .named "" "int")]
  structs := [("X", []),
    ("T", [⟨"A", .named "foo" "Y", some (.plain "A" false)⟩,
      ⟨"B", .named "class" "Y", some (.plain "B" false)⟩,
      ⟨"C", .slice (.named "list" "Y"), some (.plain "C" false)⟩,
      ⟨"D", .named "XRef" "Y", some (.plain "D" false)⟩,
      ⟨"E", .named "" "X", some (.reference "E" "e" .id false)⟩])]
  referenced := [("X", .named "" "X")]
  imported := ["foo", "class", "list", "XRef"]

/-- A reference to a type that is named by a keyword. -/
def namelessUnits : List DeclUnit :=
  [⟨"nameless", "p", [.struct "T" [⟨["A"], .named ["x"] "None", some "ref:\"a\""⟩] "nameless"]⟩]

/-- Settings by which a wrapper has the name of its type. -/
def bareSettings : Settings := { refSuffix := "" }

/-- The package of the reference under these settings. -/
def namelessPackage : Package where
  name := "p"
  settings := bareSettings
  units := ["nameless"]
  types := (namelessUnits.flatMap (·.decls)).map fun decl => (decl.name, decl)
  aliases := []
  structs := [("T", [⟨"A", .named "x" "None", some (.reference "A" "a" .id false)⟩])]
  referenced := [("None", .named "x" "None")]
  imported := ["x"]

/-- The package with clashes is what its declarations are collected to. -/
theorem collect_clashing : collect "p" {} clashingUnits = .ok clashingPackage :=
  eq_ok_of_toOption (by decide +kernel)

/-- So is the one with the reference. -/
theorem collect_nameless : collect "p" bareSettings namelessUnits = .ok namelessPackage :=
  eq_ok_of_toOption (by decide +kernel)

/-- The package with clashes is an instance. -/
theorem namesChecked_of_collect_clashing :
    collect "p" {} clashingUnits = .ok clashingPackage ∧ clashingPackage.NamesChecked :=
  ⟨collect_clashing, namesChecked_of_collect collect_clashing⟩

/-- Not all names are apart. A type and an imported module have one name, and so have a wrapper and
an imported module; a module is named by a keyword or like a class that the emitted module uses; and
a type is named like a parameter. Under settings of its own, a wrapper is named by a keyword. -/
theorem not_namesApart :
    collect "p" {} clashingUnits = .ok clashingPackage ∧ clashingPackage.settings.imports = [] ∧
      "foo" ∈ clashingPackage.importHeads ∧ "foo" ∈ clashingPackage.declaredNames ∧
      "XRef" ∈ clashingPackage.importHeads ∧ "XRef" ∈ clashingPackage.wrapperNames ∧
      "class" ∈ clashingPackage.importHeads ∧ "class" ∈ languageKeywords ∧
      (∃ module, clashingPackage.module = .ok module ∧ ¬clashingPackage.NamesApart module ∧
        "list" ∈ clashingPackage.importHeads ∧ "list" ∈ module.usedNames ∧
        "data" ∈ clashingPackage.declaredNames ∧ "data" ∈ module.usedNames) ∧
      collect "p" bareSettings namelessUnits = .ok namelessPackage ∧
      namelessPackage.settings.imports = [] ∧
      "None" ∈ namelessPackage.wrapperNames ∧ "None" ∈ languageKeywords := by
  have heads : clashingPackage.importHeads = ["XRef", "class", "foo", "list"] := by decide +kernel
  have used : ∃ module, clashingPackage.module = .ok module ∧ "list" ∈ module.usedNames ∧
      "data" ∈ module.usedNames := by
    have emitted : (clashingPackage.module.toOption.any fun module =>
        module.usedNames.contains "list" && module.usedNames.contains "data") = true := by
      decide +kernel
    cases run : clashingPackage.module with
    | error fault =>
      rw [run] at emitted
      cases emitted
    | ok module =>
      rw [run] at emitted
      exact ⟨module, rfl, by simpa [Except.toOption] using emitted⟩
  obtain ⟨module, emitted, usesList, usesData⟩ := used
  have shadowed : "foo" ∈ clashingPackage.declaredNames := by decide
  have imported : "foo" ∈ clashingPackage.importHeads := by simp [heads]
  refine ⟨collect_clashing, rfl, imported, shadowed, by simp [heads], by decide +kernel,
    by simp [heads], by decide,
      ⟨module, emitted, ?_, by simp [heads], usesList, by decide, usesData⟩,
    collect_nameless, rfl, by decide +kernel, by decide⟩
  intro apart
  exact (apart.modules "foo" imported).1 shadowed

end Package

end DeclCodec

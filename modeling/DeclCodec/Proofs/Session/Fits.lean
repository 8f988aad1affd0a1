import DeclCodec.Proofs.Session.Fresh
import DeclCodec.Proofs.Wire.Rereading

/-!
# Values that fit their types

A value fits a type if it is of the kind that the type declares, at any depth: the
numbers in it are finite, an unrestricted value is one that JSON has, raw JSON text
has the form in which it is read, and the keys of a map are those that its key
shape stands for. A field may be absent where its default is absence, and a field
that never goes on the wire may hold anything.

The normal form of a value is what is left of it on the wire. A field that is not
written is at its default; a reference keeps the side that is written, or nothing
if there is nothing on that side. This holds at every depth. Nothing in what is written
becomes another when surrogate pairs are joined exactly if nothing in the normal form
does.
-/

namespace DeclCodec

/-- The kinds of map keys that a key shape stands for. -/
def IsKey (shape : Shape) (key : Value) : Prop := ∃ name, KeyName shape key name

namespace Package

/-- Is the value an identifier? Identifiers are integers or texts, as the settings say. -/
def IsIdentifier (package : Package) (id : Value) : Prop :=
  ∃ name, package.idType = .ok (.named "" name) ∧
    ((Primitive.ofName? name = some .int ∧ ∃ number, id = .int number) ∨
      (Primitive.ofName? name = some .text ∧ ∃ text, id = .str text))

/-- Is the value nothing, in the field of a member that is nothing by default? -/
def Unset (package : Package) (member : Member) (value : Value) : Prop :=
  value = .null ∧ package.defaultOf member.type = .null

/-- A value fits a type. -/
inductive Fits (package : Package) : Descriptor → Value → Prop
  | any {name : String} (kind : Primitive.ofName? name = some .any) {json : Json}
      (held : json.Held)
      (finite : ∀ number ∈ json.toValue.floats, number.isFinite = true) :
      Fits package (.named "" name) json.toValue
  | bool {name : String} (kind : Primitive.ofName? name = some .bool) (value : Bool) :
      Fits package (.named "" name) (.bool value)
  | int {name : String} (kind : Primitive.ofName? name = some .int) (value : Int) :
      Fits package (.named "" name) (.int value)
  | float {name : String} (kind : Primitive.ofName? name = some .float) {number : Binary64}
      (finite : number.isFinite = true) : Fits package (.named "" name) (.float number)
  | text {name : String} (kind : Primitive.ofName? name = some .text) (text : Points) :
      Fits package (.named "" name) (.str text)
  | raw {json : Json} (held : json.Held) (present : json ≠ .null) :
      Fits package (.named "json" "RawMessage") (.raw (String.ofList json.compact))
  | following {path name : String} {target : Descriptor}
      (found : package.aliasTarget? path name = some target) {value : Value}
      (fits : Fits package target value) : Fits package (.named path name) value
  | absent {elem : Descriptor} : Fits package (.pointer elem) .null
  | present {elem : Descriptor} {value : Value} (fits : Fits package elem value) :
      Fits package (.pointer elem) value
  | slice {elem : Descriptor} {items : List Value}
      (each : ∀ item ∈ items, Fits package elem item) : Fits package (.slice elem) (.list items)
  | map {key elem : Descriptor} {shape : Shape} (isKeyShape : package.keyShape key = .ok shape)
      {entries : List (Value × Value)} (keys : ∀ entry ∈ entries, IsKey shape entry.1)
      (different : (entries.map (·.1)).Pairwise fun held later => (later == held) = false)
      (each : ∀ entry ∈ entries, Fits package elem entry.2) :
      Fits package (.map key elem) (.map entries)
  /-- An instance has a field for every member. Only the fields on the wire matter. -/
  | record {name : String} {members : List Member}
      (declared : package.structs.lookup name = some members) {rows : List (Member × Value)}
      (sides : rows.map (·.1) = members)
      (plain : ∀ row ∈ rows, row.1.isWired = true → row.1.isReference = false →
        ¬Unset package row.1 row.2 → Fits package row.1.type row.2)
      (wrapped : ∀ row ∈ rows, row.1.isReference = true → row.2 = .null ∨
        ∃ id value, row.2 = .wrapper (package.wrapperName row.1.type) id value ∧
          IsIdentifier package id)
      (held : ∀ row ∈ rows, row.1.isReference = true → ∀ wrapper id value,
        row.2 = .wrapper wrapper id value → value ≠ .null → Fits package row.1.type value) :
      Fits package (.named "" name)
        (.record name (rows.map fun row => (scopedName name row.1.name, row.2)))

/-- The normal form of what the field of a member holds, given that of the value in each aspect. -/
def normField (package : Package) (codecs : Codecs) (member : Member) (value : Value)
    (norm : Aspect → Value) : Value :=
  match member.policy, value with
  | some (.plain _ omitEmpty), value =>
    if omitEmpty && value.isEmpty then codecs.defaultValue (package.fieldDefault member)
    else norm .whole
  | some (.reference _ _ .value _), .wrapper wrapper _ held =>
    match held with
    | .null => .null
    | _ => .wrapper wrapper ((codecs.idDefault wrapper).toOption.getD .null) (norm (.side "Value"))
  | some (.reference _ _ .id _), .wrapper wrapper id _ =>
    if id.isEmpty then .null else .wrapper wrapper (norm (.side "Id")) .null
  | _, _ => codecs.defaultValue (package.fieldDefault member)

mutual

/-- The normal form of an aspect of a value. -/
def norm (package : Package) (codecs : Codecs) (value : Value) (aspect : Aspect) : Value :=
  match value, aspect with
  | .list items, .whole => .list (normItems package codecs items)
  | .map entries, .whole => .map (normEntries package codecs entries)
  | .record type fields, .whole =>
    .record type (normFields package codecs ((package.structs.lookup type).getD []) fields)
  | .wrapper _ id held, .side name =>
    if name = "Id" then norm package codecs id .whole else norm package codecs held .whole
  | value, _ => value

/-- The normal forms of items. -/
def normItems (package : Package) (codecs : Codecs) (items : List Value) : List Value :=
  match items with
  | [] => []
  | item :: rest => norm package codecs item .whole :: normItems package codecs rest

/-- The normal forms of the values of entries. -/
def normEntries (package : Package) (codecs : Codecs) (entries : List (Value × Value)) :
    List (Value × Value) :=
  match entries with
  | [] => []
  | (key, value) :: rest =>
    (key, norm package codecs value .whole) :: normEntries package codecs rest

/-- The normal forms of the fields of an instance, given the members of its struct. -/
def normFields (package : Package) (codecs : Codecs) (members : List Member)
    (fields : List (String × Value)) : List (String × Value) :=
  match fields with
  | [] => []
  | (name, value) :: rest =>
    match members with
    | [] => (name, value) :: normFields package codecs [] rest
    | member :: others =>
      (name, package.normField codecs member value (norm package codecs value)) ::
        normFields package codecs others rest

end

variable {package : Package} (codecs : Codecs)

/-- A value without items, entries or fields is in normal form. -/
theorem norm_atom {value : Value}
    (atom : match value with | .list _ | .map _ | .record _ _ => False | _ => True) :
    norm package codecs value .whole = value := by
  cases value with
  | list => exact atom.elim
  | map => exact atom.elim
  | record => exact atom.elim
  | _ => simp [norm]

/-- The normal forms of items are the items' normal forms. -/
theorem normItems_eq (items : List Value) :
    normItems package codecs items = items.map fun item => norm package codecs item .whole := by
  induction items with
  | nil => simp [normItems]
  | cons item rest inductionHypothesis => simp [normItems, inductionHypothesis]

/-- The normal forms of entries are the entries with the normal forms of their values. -/
theorem normEntries_eq (entries : List (Value × Value)) :
    normEntries package codecs entries =
      entries.map fun entry => (entry.1, norm package codecs entry.2 .whole) := by
  induction entries with
  | nil => simp [normEntries]
  | cons entry rest inductionHypothesis => simp [normEntries, inductionHypothesis]

/-- The normal forms of fields are those of the fields of the members, one by one. -/
theorem normFields_eq (name : Member → String) (rows : List (Member × Value)) :
    normFields package codecs (rows.map (·.1)) (rows.map fun row => (name row.1, row.2)) =
      rows.map fun row =>
        (name row.1, package.normField codecs row.1 row.2 (norm package codecs row.2)) := by
  induction rows with
  | nil => simp [normFields]
  | cons row rest inductionHypothesis => simp [normFields, inductionHypothesis]

mutual

/-- A value that JSON has is in normal form. -/
theorem norm_toValue : (json : Json) →
    norm package codecs json.toValue .whole = json.toValue
  | .null => by simp [Json.toValue, norm]
  | .bool _ => by simp [Json.toValue, norm]
  | .int _ => by simp [Json.toValue, norm]
  | .float _ => by simp [Json.toValue, norm]
  | .str _ => by simp [Json.toValue, norm]
  | .list items => by rw [Json.toValue, norm, normItems_toValues items]
  | .object members => by rw [Json.toValue, norm, normEntries_toEntries members]

/-- Its items are in normal form. -/
theorem normItems_toValues : (items : List Json) →
    normItems package codecs (Json.toValues items) = Json.toValues items
  | [] => by simp [Json.toValues, normItems]
  | item :: rest => by
    rw [Json.toValues, normItems, norm_toValue item, normItems_toValues rest]

/-- Its entries are in normal form. -/
theorem normEntries_toEntries : (members : List (Points × Json)) →
    normEntries package codecs (Json.toEntries members) = Json.toEntries members
  | [] => by simp [Json.toEntries, normEntries]
  | (name, value) :: rest => by
    rw [Json.toEntries, normEntries, norm_toValue value, normEntries_toEntries rest]

end

end Package

end DeclCodec

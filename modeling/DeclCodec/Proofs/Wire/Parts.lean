import DeclCodec.Wire.Decode
import DeclCodec.Wire.Encode

/-!
# Values and their parts

Reading and writing go through the items of a list, the entries of a map and the
fields of a struct. Each of these ways through the parts is a list operation
applied to the way a single part is read or written.
-/

namespace DeclCodec

/-- The values of items are the items' values. -/
theorem Json.toValues_eq (items : List Json) : Json.toValues items = items.map Json.toValue := by
  induction items with
  | nil => rfl
  | cons item rest inductionHypothesis => simp [Json.toValues, inductionHypothesis]

/-- The entries of members are the members' names and values. -/
theorem Json.toEntries_eq (members : List (Points × Json)) :
    Json.toEntries members =
      members.map fun member => (Value.str member.1, member.2.toValue) := by
  induction members with
  | nil => rfl
  | cons member rest inductionHypothesis => simp [Json.toEntries, inductionHypothesis]

/-- Only null is the value nothing. -/
theorem Json.toValue_ne_null {json : Json} (present : json ≠ .null) : json.toValue ≠ .null := by
  intro absent
  cases json <;> first | exact present rfl | cases absent

namespace Value

/-- A number that is written is finite. -/
theorem isFinite_of_write_float {codecs : Codecs} {number : Binary64} {text : List Char}
    (written : (float number).write codecs .whole = .ok text) : number.isFinite = true := by
  rw [write] at written
  split at written
  · next finite => exact finite
  · cases written

variable (codecs : Codecs)

/-- Items are written one after another. -/
theorem writeItems_eq (items : List Value) :
    writeItems codecs items = items.mapM fun item => item.write codecs .whole := by
  induction items with
  | nil => rfl
  | cons item rest inductionHypothesis => rw [writeItems, List.mapM_cons, inductionHypothesis]

/-- Each map entry is ready to be written as its value is. -/
theorem entryWriters_eq (entries : List (Value × Value)) :
    entryWriters codecs entries =
      entries.map fun entry => (entry.1, ⟨entry.2, entry.2.write codecs⟩) := by
  induction entries with
  | nil => rfl
  | cons entry rest inductionHypothesis => rw [entryWriters, List.map_cons, inductionHypothesis]

/-- Each field is ready to be written as its value is. -/
theorem fieldWriters_eq (fields : List (String × Value)) :
    fieldWriters codecs fields =
      fields.map fun field => (field.1, ⟨field.2, field.2.write codecs⟩) := by
  induction fields with
  | nil => rfl
  | cons field rest inductionHypothesis => rw [fieldWriters, List.map_cons, inductionHypothesis]

/-- Items are read one after another. -/
theorem decodeItems_eq (items : List Value) (shape : Shape) :
    decodeItems codecs items shape = items.mapM fun item => item.decode codecs shape := by
  induction items with
  | nil => rfl
  | cons item rest inductionHypothesis => rw [decodeItems, List.mapM_cons, inductionHypothesis]

/-- Each map entry is ready to be read as its value is. -/
theorem readers_eq (entries : List (Value × Value)) :
    readers codecs entries =
      entries.map fun entry => (entry.1, ⟨entry.2, entry.2.decode codecs⟩) := by
  induction entries with
  | nil => rfl
  | cons entry rest inductionHypothesis => rw [readers, List.map_cons, inductionHypothesis]

/-- A list is read as a slice item by item. -/
theorem decode_slice (items : List Value) (elem : Shape) :
    (Value.list items).decode codecs (.slice elem) =
      Value.list <$> items.mapM fun item => item.decode codecs elem := by
  rw [decode, ← decodeItems_eq]
  rfl

/-- A map is read as a map entry by entry. -/
theorem decode_map (entries : List (Value × Value)) (key elem : Shape) :
    (Value.map entries).decode codecs (.map key elem) =
      Value.map <$> (entries.map fun entry =>
        (entry.1, (⟨entry.2, entry.2.decode codecs⟩ : Reader))).foldlM (readEntry key elem) [] := by
  rw [decode, ← readers_eq]
  rfl

/-- A map is read as a struct from its entries. -/
theorem decode_declared (entries : List (Value × Value)) (type : String) :
    (Value.map entries).decode codecs (.named (.declared type)) =
      codecs.fromEntries type (readers codecs entries) := by
  rw [decode]
  rfl

/-- Outer pointers do not matter to a value that is there. -/
theorem decode_bare {value : Value} (present : value ≠ .null) (shape : Shape) :
    value.decode codecs shape = value.decode codecs shape.bare := by
  have twice : shape.bare.bare = shape.bare := by
    induction shape with
    | pointer elem inductionHypothesis => exact inductionHypothesis
    | named cls => rfl
    | slice elem => rfl
    | map key value => rfl
  cases value with
  | null => exact absurd rfl present
  | _ => simp only [decode, twice]

/-- Fields of the same names are equal if what they hold is. -/
theorem sameFields_map {ρ : Type} {rows : List ρ} (name : ρ → String) {value other : ρ → Value}
    (each : ∀ row ∈ rows, (value row).same (other row) = true) :
    sameFields (rows.map fun row => (name row, value row))
      (rows.map fun row => (name row, other row)) = true := by
  induction rows with
  | nil => simp [sameFields]
  | cons row rest inductionHypothesis =>
    have later := inductionHypothesis fun next member => each next (List.mem_cons_of_mem _ member)
    simp [sameFields, each row List.mem_cons_self, later]

mutual

/-- A value that comes from JSON text has the JSON value that it comes from. -/
theorem toJson_toValue : (json : Json) → json.toValue.toJson = .ok json
  | .null => rfl
  | .bool _ => rfl
  | .int _ => rfl
  | .float _ => rfl
  | .str _ => rfl
  | .list items => by
    rw [Json.toValue, toJson, toJsonItems_toValues items]
    rfl
  | .object members => by
    rw [Json.toValue, toJson, toJsonMembers_toEntries members]
    rfl

/-- The items of such a value have the items it comes from. -/
theorem toJsonItems_toValues : (items : List Json) → toJsonItems (Json.toValues items) = .ok items
  | [] => rfl
  | item :: rest => by
    rw [Json.toValues, toJsonItems, toJson_toValue item, toJsonItems_toValues rest]
    rfl

/-- The entries of such a value have the members it comes from. -/
theorem toJsonMembers_toEntries :
    (members : List (Points × Json)) → toJsonMembers (Json.toEntries members) = .ok members
  | [] => rfl
  | (name, value) :: rest => by
    rw [Json.toEntries, toJsonMembers, jsonName, toJson_toValue value,
      toJsonMembers_toEntries rest]
    rfl

end

mutual

/-- A value that comes from JSON text equals itself. -/
theorem same_toValue : (json : Json) → json.toValue.same json.toValue = true
  | .null => by simp [Json.toValue, same]
  | .bool value => by simp [Json.toValue, same, integer?]
  | .int value => by simp [Json.toValue, same, integer?]
  | .float number => by simp [Json.toValue, same, Binary64.same_self]
  | .str text => by simp [Json.toValue, same]
  | .list items => by
    rw [Json.toValue, same]
    exact sameItems_toValues items
  | .object members => by
    rw [Json.toValue, same, beq_self_eq_true, Bool.true_and]
    exact holdsAll_toEntries members (Json.toEntries members) fun _ member => member

/-- The items of such a value equal themselves. -/
theorem sameItems_toValues :
    (items : List Json) → sameItems (Json.toValues items) (Json.toValues items) = true
  | [] => by simp [Json.toValues, sameItems]
  | item :: rest => by
    rw [Json.toValues, sameItems, same_toValue item, sameItems_toValues rest]
    rfl

/-- The entries of such a value are held by all entries that they are among. -/
theorem holdsAll_toEntries : (members : List (Points × Json)) → (others : List (Value × Value)) →
    (∀ entry ∈ Json.toEntries members, entry ∈ others) →
      holdsAll others (Json.toEntries members) = true
  | [], _, _ => by simp [Json.toEntries, holdsAll]
  | (name, value) :: rest, others, held => by
    have first : (Value.str name, value.toValue) ∈ others := held _ List.mem_cons_self
    have later := holdsAll_toEntries rest others fun entry member =>
      held entry (List.mem_cons_of_mem _ member)
    have itself := same_toValue value
    rw [Json.toEntries, holdsAll, later, Bool.and_true, List.any_eq_true]
    exact ⟨_, first, by simp [same, itself]⟩

end

end Value

/-! ## Classes of other modules -/

/-- The integers of the module of builtin classes, as a class of another module. -/
def ForeignClass.integers : ForeignClass where
  name := "int"
  lineage := .int
  call given :=
    match given with
    | none => .ok (.int 0)
    | some (.int number) => .ok (.int number)
    | some _ => .error .wrongType
  fromWire? := none

/-- The module of builtin classes, as far as its integers go. -/
def Foreign.builtins : Foreign := fun path =>
  if path = "builtins.int" then .ok .integers else .error (.unknownName path)

/-- Its integers are read from integers, as they are. -/
theorem ForeignClass.accept_integers {value result : Value}
    (accepted : integers.accept value = .ok result) :
    ∃ number, value = .int number ∧ result = value := by
  cases value with
  | int number =>
    cases accepted
    exact ⟨number, rfl, rfl⟩
  | _ => cases accepted

end DeclCodec

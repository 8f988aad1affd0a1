import DeclCodec.Proofs.Session.Records

/-!
# Values that fit travel

Whatever fits a type of a portable package travels by the shape of the type, and
its normal form comes back. Each kind of type has a lemma for that: what is in a
list, a map or behind a pointer returns first, and the fields of an instance are
ready since what they hold returns. The induction is on the way in which the value
fits.
-/

namespace DeclCodec.Package

variable {package : Package} {codecs : Codecs}

/-- A builtin name of a portable package is no alias. -/
theorem Portable.aliasTarget?_of_builtin (portable : Portable package) {name : String}
    {primitive : Primitive} (builtin : Primitive.ofName? name = some primitive) :
    package.aliasTarget? "" name = none := by
  unfold aliasTarget?
  rw [if_pos rfl]
  split
  · next found =>
    rw [portable.ofName?_eq_none found] at builtin
    cases builtin
  · rfl

/-- The shape of a builtin name is the class of its kind. -/
theorem Portable.shape_builtin (portable : Portable package) {name : String}
    {primitive : Primitive} (builtin : Primitive.ofName? name = some primitive) :
    package.shape (.named "" name) = .ok (.named (.ofPrimitive primitive)) := by
  rw [shape_core (portable.aliasTarget?_of_builtin builtin),
    classOf_eq_ok_iff.2 (.builtin builtin)]
  rfl

/-- The shape of raw JSON text is its class. -/
theorem shape_raw : package.shape (.named "json" "RawMessage") = .ok (.named .raw) := by
  rw [shape_core (by simp [aliasTarget?]), classOf_eq_ok_iff.2 (.raw (by decide) rfl)]
  rfl

/-- The shape of a struct is its class. -/
theorem Portable.shape_struct (portable : Portable package) (collected : Collected package)
    {struct : String} {members : List Member}
    (declared : package.structs.lookup struct = some members) :
    package.shape (.named "" struct) = .ok (.named (.declared struct)) := by
  obtain ⟨fields, unit, found⟩ := collected.struct_of_lookup declared
  rw [shape_core (collected.aliasTarget?_of_lookup declared),
    classOf_eq_ok_iff.2 (.declared (portable.ofName?_eq_none found) (by simp [found]))]
  rfl

/-- Only what may be nothing fits as nothing: the default is nothing then. -/
theorem Fits.defaultOf_eq_null (collected : Collected package) (portable : Portable package)
    {type : Descriptor} {value : Value} (fits : Fits package type value) (absent : value = .null) :
    package.defaultOf type = .null := by
  induction fits with
  | any kind => rw [defaultOf_builtin kind]; rfl
  | @following path name target found value fits inductionHypothesis =>
    have isLocal := (lookup_of_aliasTarget? found).1
    subst isLocal
    have notBuiltin : Primitive.ofName? name = none := by
      cases builtin : Primitive.ofName? name with
      | none => rfl
      | some primitive =>
        rw [portable.aliasTarget?_of_builtin builtin] at found
        cases found
    rw [collected.defaultOf_following notBuiltin found]
    exact inductionHypothesis absent
  | absent | present => simp [defaultOf, defaultWithin]
  | _ => cases absent

/-- An identifier passes in every class, unless it has surrogate pairs to be joined. -/
theorem IsIdentifier.exists_passes (portable : Portable package) {id : Value}
    (isIdentifier : IsIdentifier package id) (settled : (norm package codecs id .whole).Settled)
    (struct : String) :
    ∃ idType shape json, package.idType = .ok idType ∧
      Passes package codecs struct idType id shape json (norm package codecs id .whole) := by
  obtain ⟨name, isIdType, ⟨builtin, number, rfl⟩ | ⟨builtin, text, rfl⟩⟩ := isIdentifier
  · have travels : Travels codecs (.named .int) (.int number) (.int number)
        (norm package codecs (.int number) .whole) := by
      rw [norm_atom codecs trivial]
      exact Travels.int number
    exact ⟨_, _, _, isIdType, portable.shape_builtin builtin, rfl, rfl, by simp, travels⟩
  · rw [norm_atom codecs trivial] at settled ⊢
    cases settled with
    | str _ isJoined =>
    exact ⟨_, _, _, isIdType, portable.shape_builtin builtin, rfl, rfl, by simp,
      Travels.str isJoined⟩

/-- New wrappers have an identifier. -/
theorem Loads.exists_idDefault (loaded : package.Loads codecs) (collected : Collected package)
    (portable : Portable package) {type : Descriptor}
    (wrapped : Wrapped package.referenced type) :
    ∃ fresh, codecs.idDefault (package.wrapperName type) = .ok fresh ∧
      fresh.same fresh = true := by
  obtain ⟨name, isIdType, kind⟩ := portable.identifiers
  obtain ⟨primitive, builtin⟩ : ∃ primitive, Primitive.ofName? name = some primitive := by
    rcases kind with kind | kind <;> exact ⟨_, kind⟩
  have isDefault : package.defaultOf (.named "" name) = .ofPrimitive primitive :=
    defaultOf_builtin builtin
  have settled : ∀ cls, (package.defaultOf (.named "" name)).scoped cls =
      package.defaultOf (.named "" name) := by
    intro cls
    rw [isDefault]
    cases primitive <;> rfl
  obtain ⟨first, found, _⟩ := wrapped
  have isThere := loaded.lookup_wrapper collected isIdType settled (by rw [found]; rfl)
  have notFresh : ∀ other, package.defaultOf (.named "" name) ≠ .fresh other := by
    intro other isNew
    rw [isDefault] at isNew
    cases primitive <;> cases isNew
  obtain ⟨json, isDefault⟩ := ofDefault_const notFresh
  refine ⟨json.toValue, ?_, Value.same_toValue json⟩
  rw [Codecs.idDefault, isThere]
  exact isDefault _

/-- The shape of a type, if it has one, takes a value over the wire, and the value's normal form
comes back, unless it has surrogate pairs to be joined. Only nothing is written as nothing. -/
def Returns (package : Package) (codecs : Codecs) (type : Descriptor) (value : Value) : Prop :=
  ∀ shape, package.shape type = .ok shape → (norm package codecs value .whole).Settled →
    ∃ json, (value ≠ .null → json ≠ .null) ∧
      Travels codecs shape value json (norm package codecs value .whole)

/-- A value of a builtin type that is its own normal form returns if the type's class takes it over
the wire. -/
theorem Portable.returns_builtin (portable : Portable package) {name : String}
    {primitive : Primitive} (kind : Primitive.ofName? name = some primitive) {value : Value}
    (normal : norm package codecs value .whole = value) {json : Json} (present : json ≠ .null)
    (travels : value.Settled → Travels codecs (.named (.ofPrimitive primitive)) value json value) :
    Returns package codecs (.named "" name) value := by
  intro shape isShape settled
  rw [portable.shape_builtin kind] at isShape
  cases isShape
  rw [normal] at settled ⊢
  exact ⟨json, fun _ => present, travels settled⟩

/-- An unrestricted value without infinite numbers returns. -/
theorem Portable.returns_any (portable : Portable package) {name : String}
    (kind : Primitive.ofName? name = some .any) {json : Json} (held : json.Held)
    (finite : ∀ number ∈ json.toValue.floats, number.isFinite = true) :
    Returns package codecs (.named "" name) json.toValue := by
  intro shape isShape settled
  rw [portable.shape_builtin kind] at isShape
  cases isShape
  rw [norm_toValue] at settled ⊢
  rcases @accounted_toValue codecs json with ⟨text, isText⟩ | ⟨number, among, infinite, _⟩
  · obtain ⟨written, isThere, travels⟩ := rereads_object held settled isText
    refine ⟨written, fun present => isThere ?_, travels⟩
    rintro rfl
    exact present rfl
  · rw [finite number among] at infinite
    cases infinite

/-- Raw JSON text returns. -/
theorem returns_raw {json : Json} (present : json ≠ .null) :
    Returns package codecs (.named "json" "RawMessage") (.raw (String.ofList json.compact)) := by
  intro shape isShape settled
  rw [shape_raw] at isShape
  cases isShape
  rw [norm_atom codecs trivial] at settled ⊢
  obtain ⟨written, isThere, travels⟩ := Travels.exists_raw present settled
  exact ⟨written, fun _ => isThere, travels⟩

/-- What returns by the target of an alias returns by the alias. -/
theorem Returns.following (collected : Collected package) {path name : String}
    {target : Descriptor} (found : package.aliasTarget? path name = some target) {value : Value}
    (returns : Returns package codecs target value) :
    Returns package codecs (.named path name) value := by
  intro shape isShape settled
  rw [collected.shape_following found] at isShape
  exact returns shape isShape settled

/-- Nothing returns behind a pointer. -/
theorem returns_null_pointer {elem : Descriptor} :
    Returns package codecs (.pointer elem) .null := by
  intro shape isShape _
  rw [shape_pointer, map_eq_ok] at isShape
  obtain ⟨elemShape, _, rfl⟩ := isShape
  rw [norm_atom codecs trivial]
  exact ⟨.null, fun present => absurd rfl present, Travels.null_pointer⟩

/-- What returns by a type returns behind a pointer to it. -/
theorem Returns.pointer {elem : Descriptor} {value : Value}
    (returns : Returns package codecs elem value) :
    Returns package codecs (.pointer elem) value := by
  by_cases isNull : value = .null
  · subst isNull
    exact returns_null_pointer
  · intro shape isShape settled
    rw [shape_pointer, map_eq_ok] at isShape
    obtain ⟨elemShape, isElem, rfl⟩ := isShape
    obtain ⟨json, isThere, travels⟩ := returns elemShape isElem settled
    exact ⟨json, isThere, travels.pointer (isThere isNull)⟩

/-- A list returns if its items do. -/
theorem returns_list {elem : Descriptor} {items : List Value}
    (each : ∀ item ∈ items, Returns package codecs elem item) :
    Returns package codecs (.slice elem) (.list items) := by
  intro shape isShape settled
  rw [shape_slice, map_eq_ok] at isShape
  obtain ⟨elemShape, isElem, rfl⟩ := isShape
  rw [norm, normItems_eq] at settled ⊢
  obtain ⟨jsons, travels⟩ := Travels.exists_list (norm package codecs · .whole) fun item member =>
    (each item member _ isElem
      (Value.settled_list_iff.1 settled _ (List.mem_map_of_mem member))).imp fun _ => And.right
  exact ⟨.list jsons, by simp, travels⟩

/-- A map with different keys returns if its values do. -/
theorem returns_map {key elem : Descriptor} {keyShape : Shape}
    (isKeyShape : package.keyShape key = .ok keyShape) {entries : List (Value × Value)}
    (keys : ∀ entry ∈ entries, IsKey keyShape entry.1)
    (different : (entries.map (·.1)).Pairwise fun held later => (later == held) = false)
    (each : ∀ entry ∈ entries, Returns package codecs elem entry.2) :
    Returns package codecs (.map key elem) (.map entries) := by
  intro shape isShape settled
  rw [shape_map, bind_eq_ok] at isShape
  obtain ⟨elemShape, isElem, isShape⟩ := isShape
  rw [isKeyShape] at isShape
  cases isShape
  rw [norm, normEntries_eq] at settled ⊢
  have eachSettled (entry : Value × Value) (member : entry ∈ entries) :=
    Value.settled_map_iff.1 settled _ (List.mem_map_of_mem member)
  have named : ∀ entry ∈ entries, ∃ name, KeyName keyShape entry.1 name ∧ Text.IsJoined name := by
    intro entry member
    obtain ⟨name, isName⟩ := keys entry member
    exact ⟨name, isName, isName.isJoined_iff.2 (eachSettled entry member).1⟩
  obtain ⟨members, travels⟩ := Travels.exists_map (norm package codecs · .whole) named different
    fun entry member =>
      (each entry member _ isElem (eachSettled entry member).2).imp fun _ => And.right
  exact ⟨.object members, by simp, travels⟩

/-- What returns by the type of a member on the wire passes in the class of the struct. -/
theorem Loads.exists_passes (loaded : package.Loads codecs) (collected : Collected package)
    (portable : Portable package) {struct : String} (visible : Visible package struct)
    {members : List Member} (declared : package.structs.lookup struct = some members)
    {member : Member} (among : member ∈ members) (wired : member.isWired = true) {value : Value}
    (returns : Returns package codecs member.type value) (present : value ≠ .null)
    (settled : (norm package codecs value .whole).Settled) :
    ∃ shape json, Passes package codecs struct member.type value shape json
      (norm package codecs value .whole) := by
  obtain ⟨shape, isShape⟩ := loaded.exists_shape declared among wired
  obtain ⟨own, known⟩ := loaded.shape_of_wired collected visible declared among wired isShape
    fun path isForeign =>
      absurd isForeign (portable.innermost_ne_foreign collected declared among isShape path)
  obtain ⟨json, isThere, itTravels⟩ := returns shape isShape settled
  exact ⟨shape, json, isShape, own, known, isThere present, itTravels⟩

/-- The field of a member is ready to cross the wire if what it holds returns: the value itself, or
the identifier and the value in a reference. A plain field that holds nothing starts out with
nothing. -/
theorem Loads.ready (loaded : package.Loads codecs) (collected : Collected package)
    (portable : Portable package) {struct : String} (visible : Visible package struct)
    {members : List Member} (declared : package.structs.lookup struct = some members)
    {member : Member} (among : member ∈ members) {value : Value}
    (absent : member.isWired = true → member.isReference = false → value = .null →
      package.defaultOf member.type = .null)
    (plain : member.isWired = true → member.isReference = false → value ≠ .null →
      Returns package codecs member.type value)
    (wrapped : member.isReference = true → value = .null ∨ ∃ id held,
      value = .wrapper (package.wrapperName member.type) id held ∧ IsIdentifier package id ∧
        (held ≠ .null → Returns package codecs member.type held)) :
    Ready package codecs struct member value where
  sameDefault := ((loaded.make_eq collected visible declared).2 member among).2
  absent wired noReference isNull := by
    rw [fieldDefault, noReference, absent wired noReference isNull]
    rfl
  passes wired noReference present settled :=
    loaded.exists_passes collected portable visible declared among wired
      (plain wired noReference present) present settled
  wrapped isReference := by
    have wired := Member.isWired_of_isReference isReference
    have ok := collected.members _ (Table.mem_of_lookup declared)
    refine (wrapped isReference).imp_right ?_
    rintro ⟨id, held, isWrapper, isIdentifier, returns⟩
    exact ⟨id, held, isWrapper,
      loaded.exists_idDefault collected portable (ok.wrapped member among isReference),
      fun settled => isIdentifier.exists_passes portable settled struct, fun present settled =>
        loaded.exists_passes collected portable visible declared among wired (returns present)
          present settled⟩

/-- An instance of a visible struct returns if the fields of its members are ready to cross the wire
and different things are received under different names without surrogate pairs to be joined. -/
theorem Loads.returns_record (loaded : package.Loads codecs) (collected : Collected package)
    (portable : Portable package) (leaves : package.LeavesDecorator)
    (visible : Visible package struct) (declared : package.structs.lookup struct = some members)
    {rows : List (Member × Value)} (sides : rows.map (·.1) = members)
    (distinct : Distinct package struct) (joined : NamesJoined package struct)
    (ready : ∀ row ∈ rows, Ready package codecs struct row.1 row.2) :
    Returns package codecs (.named "" struct)
      (.record struct (rows.map fun row => (scopedName struct row.1.name, row.2))) := by
  intro shape isShape settled
  rw [portable.shape_struct collected declared] at isShape
  cases isShape
  have eachSettled : ∀ row ∈ rows,
      (package.normField codecs row.1 row.2 (norm package codecs row.2)).Settled := by
    rw [norm, declared, Option.getD_some, ← sides,
      normFields_eq codecs fun member => scopedName struct member.name] at settled
    cases settled with
    | record _ _ all => exact fun row among => all _ (List.mem_map_of_mem among)
  have isJoined := joined struct .refl members declared
  have keeps : ∀ row ∈ rows, Keeps package codecs row.1 row.2 := fun row among write writes =>
    .inl (isJoined row.1 (sides ▸ List.mem_map_of_mem among) write writes)
  obtain ⟨entries, travels⟩ := loaded.exists_object collected leaves visible declared sides
    (.of_isJoined (distinct struct .refl members declared) isJoined) keeps ready eachSettled
  exact ⟨_, by simp, travels⟩

/-- Whatever fits a type returns by it, if the structs that the type mentions are visible, and
different things are received in them under different names without surrogate pairs to be joined. -/
theorem Fits.returns (loaded : package.Loads codecs) (collected : Collected package)
    (portable : Portable package) (leaves : package.LeavesDecorator) {type : Descriptor}
    {value : Value} (fits : Fits package type value)
    (sound : ∀ struct, Mentions package type struct →
      Visible package struct ∧ Distinct package struct ∧ NamesJoined package struct) :
    Returns package codecs type value := by
  induction fits with
  | any kind held finite => exact portable.returns_any kind held finite
  | bool kind value =>
    exact portable.returns_builtin kind (norm_atom codecs trivial) (by simp)
      fun _ => Travels.bool value
  | int kind value =>
    exact portable.returns_builtin kind (norm_atom codecs trivial) (by simp)
      fun _ => Travels.int value
  | float kind finite =>
    exact portable.returns_builtin kind (norm_atom codecs trivial) (by simp)
      fun _ => Travels.float finite
  | text kind text =>
    refine portable.returns_builtin kind (norm_atom codecs trivial)
      (show Json.str text ≠ .null by simp)
      fun settled => ?_
    cases settled with
    | str _ isJoined => exact Travels.str isJoined
  | raw _ present => exact returns_raw present
  | following found fits inductionHypothesis =>
    exact (inductionHypothesis fun struct inside =>
      sound struct (.following found inside)).following collected found
  | absent => exact returns_null_pointer
  | present fits inductionHypothesis =>
    exact (inductionHypothesis fun struct inside => sound struct (.pointer inside)).pointer
  | slice each inductionHypothesis =>
    exact returns_list fun item member =>
      inductionHypothesis item member fun struct inside => sound struct (.slice inside)
  | map isKeyShape keys different each inductionHypothesis =>
    exact returns_map isKeyShape keys different fun entry member =>
      inductionHypothesis entry member fun struct inside => sound struct (.value inside)
  | @record name members declared rows sides plain wrapped held plainIH heldIH =>
    obtain ⟨visible, distinct, joined⟩ := sound name (.here declared)
    have ready : ∀ row ∈ rows, Ready package codecs name row.1 row.2 := by
      intro row among
      have isMember : row.1 ∈ members := sides ▸ List.mem_map_of_mem among
      -- The structs in what the member sends are sound, since the struct itself is.
      have onward (wired : row.1.isWired = true) : ∀ other, Mentions package row.1.type other →
          Visible package other ∧ Distinct package other ∧ NamesJoined package other := by
        intro other inside
        have sends : Sends package name other :=
          ⟨members, declared, row.1, isMember, wired, inside⟩
        exact ⟨visible.of_uses (.inl sends), distinct.of_sends sends, joined.of_sends sends⟩
      refine loaded.ready collected portable visible declared isMember ?_ ?_ ?_
      · intro wired noReference isNull
        by_cases unset : Unset package row.1 row.2
        · exact unset.2
        · exact (plain row among wired noReference unset).defaultOf_eq_null collected portable
            isNull
      · intro wired noReference present
        have isSet : ¬Unset package row.1 row.2 := fun unset => present unset.1
        exact plainIH row among wired noReference isSet (onward wired)
      · intro isReference
        have wired := Member.isWired_of_isReference isReference
        refine (wrapped row among isReference).imp_right ?_
        rintro ⟨id, value, isWrapper, isIdentifier⟩
        exact ⟨id, value, isWrapper, isIdentifier, fun present =>
          heldIH row among isReference _ id value isWrapper present (onward wired)⟩
    exact loaded.returns_record collected portable leaves visible declared sides distinct joined ready

end DeclCodec.Package

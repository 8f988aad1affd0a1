import DeclCodec.Proofs.Wire.Alike
import DeclCodec.Proofs.Wire.Travel

/-!
# One text for each value

Plain values are built from what JSON itself has, bytes and tuples, and maps whose
keys are all texts or all integers. Such a value is always written. Its text is read
as the value again, a tuple being read as a list, bytes as their base64 text and an
integer key as its decimal text, and in every object of the text the names ascend.

The order of the entries of a map leaves no trace in the text, at any depth: the
names of different keys are different, and there is only one way to sort them.
-/

namespace DeclCodec

/-! ## Ascending names -/

/-- One text is smaller than another by code point. -/
def Text.Precedes (left right : Points) : Prop :=
  left.map CodePoint.toNat < right.map CodePoint.toNat

/-- Of two texts in order the first is the smaller one or the same. -/
theorem Text.precedes_or_eq_of_notAfter {left right : Points}
    (inOrder : notAfter left right = true) : Precedes left right ∨ left = right := by
  induction left generalizing right with
  | nil =>
    cases right with
    | nil => exact .inr rfl
    | cons point right => exact .inl (List.nil_lt_cons _ _)
  | cons a left inductionHypothesis =>
    cases right with
    | nil => cases inOrder
    | cons b right =>
      rw [Precedes, List.map_cons, List.map_cons, List.cons_lt_cons_iff]
      rcases notAfter_cons.1 inOrder with less | ⟨rfl, later⟩
      · exact .inl (.inl less)
      · rcases inductionHypothesis later with less | rfl
        · exact .inl (.inr ⟨rfl, less⟩)
        · exact .inr rfl

/-- Sorted items whose keys are different have keys that ascend. -/
theorem Text.pairwise_precedes_sortBy {α : Type*} {key : α → Points} {items : List α}
    (distinct : (items.map key).Nodup) : ((sortBy key items).map key).Pairwise Precedes := by
  have sortedDistinct : ((sortBy key items).map key).Nodup :=
    ((sortBy_perm key items).map key).nodup_iff.2 distinct
  rw [List.Nodup, List.pairwise_map] at sortedDistinct
  rw [List.pairwise_map]
  refine (ascending_sortBy key items).imp₂ ?_ sortedDistinct
  intro first second inOrder different
  exact (precedes_or_eq_of_notAfter inOrder).resolve_right different

/-- In every object the names of the members ascend by code point, at any depth. -/
inductive Json.Ascending : Json → Prop
  | null : Ascending .null
  | bool (value : Bool) : Ascending (.bool value)
  | int (value : Int) : Ascending (.int value)
  | float (number : Binary64) : Ascending (.float number)
  | str (text : Points) : Ascending (.str text)
  | list {items : List Json} (each : ∀ item ∈ items, Ascending item) : Ascending (.list items)
  | object {members : List (Points × Json)} (names : (members.map (·.1)).Pairwise Text.Precedes)
      (each : ∀ member ∈ members, Ascending member.2) : Ascending (.object members)

/-! ## Base64 text needs no escape -/

/-- A character of base64 is written as itself. -/
theorem Json.escapeChar_base64Char (value : Nat) :
    escapeChar (Text.base64Char value) = [Text.base64Char value] := by
  have all : ∀ small : Fin 62,
      escapeChar (Text.base64Char small.val) = [Text.base64Char small.val] := by decide
  by_cases small : value < 62
  · exact all ⟨value, small⟩
  · have large : Text.base64Char value = if value = 62 then '+' else '/' := by
      rw [Text.base64Char, if_neg (by omega), if_neg (by omega), if_neg small]
    rw [large]
    split <;> rfl

/-- So is base64 text. -/
theorem Json.escape_base64 (content : List UInt8) :
    escape (Text.points (Text.base64 content)) = Text.base64 content := by
  have filler : escapeChar '=' = ['='] := rfl
  unfold escape
  fun_induction Text.base64 content with
  | case1 => rfl
  | case2 | case3 => simp [escapePoint, escapeChar_base64Char, filler]
  | case4 a b c rest value inductionHypothesis =>
    simp [escapePoint, escapeChar_base64Char, inductionHypothesis]

namespace Value

/-! ## Plain values -/

/-- Keys of one kind: they are all texts or all integers. -/
def OfOneKind (keys : List Value) : Prop :=
  (∀ key ∈ keys, ∃ text, key = .str text) ∨ ∀ key ∈ keys, ∃ number, key = .int number

/-- A value of the kinds that JSON has, bytes, a tuple, or a map with different keys of one kind. -/
inductive Plain : Value → Prop
  | null : Plain .null
  | bool (value : Bool) : Plain (.bool value)
  | int (number : Int) : Plain (.int number)
  | float {number : Binary64} (finite : number.isFinite = true) : Plain (.float number)
  | str (text : Points) : Plain (.str text)
  | bytes (content : List UInt8) : Plain (.bytes content)
  | list {items : List Value} (each : ∀ item ∈ items, Plain item) : Plain (.list items)
  | tuple {items : List Value} (each : ∀ item ∈ items, Plain item) : Plain (.tuple items)
  | map {entries : List (Value × Value)}
      (kind : OfOneKind (entries.map (·.1)))
      (different : (entries.map (·.1)).Pairwise fun held later => (later == held) = false)
      (each : ∀ entry ∈ entries, Plain entry.2) : Plain (.map entries)

/-- Two values differ by no more than the order of the entries of maps, at any depth. What is worth
the same, such as one and the truth value that counts as one, is not the same here. -/
inductive Reordered : Value → Value → Prop
  | same (value : Value) : Reordered value value
  | list {rows : List (Value × Value)} (each : ∀ row ∈ rows, Reordered row.1 row.2) :
      Reordered (.list (rows.map (·.1))) (.list (rows.map (·.2)))
  | tuple {rows : List (Value × Value)} (each : ∀ row ∈ rows, Reordered row.1 row.2) :
      Reordered (.tuple (rows.map (·.1))) (.tuple (rows.map (·.2)))
  /-- The rows are the keys with their values on both sides. -/
  | map {rows others : List (Value × Value × Value)} (perm : rows.Perm others)
      (each : ∀ row ∈ rows, Reordered row.2.1 row.2.2) :
      Reordered (.map (rows.map fun row => (row.1, row.2.1)))
        (.map (others.map fun row => (row.1, row.2.2)))

/-- The key that JSON has in place of a key. -/
def keyImage : Value → Value
  | .int number => .str (Text.points (Json.intText number))
  | key => key

mutual

/-- The value that JSON has in place of a value: a list for a tuple, a text for bytes and for an
integer key. -/
def image : Value → Value
  | .bytes content => .str (Text.points (Text.base64 content))
  | .list items => .list (imageItems items)
  | .tuple items => .list (imageItems items)
  | .map entries => .map (imageEntries entries)
  | value => value

/-- The items in JSON. -/
def imageItems : List Value → List Value
  | [] => []
  | item :: rest => image item :: imageItems rest

/-- The entries in JSON. -/
def imageEntries : List (Value × Value) → List (Value × Value)
  | [] => []
  | (key, value) :: rest => (keyImage key, image value) :: imageEntries rest

end

/-- The items in JSON, one by one. -/
theorem imageItems_eq (items : List Value) : imageItems items = items.map image := by
  induction items with
  | nil => rfl
  | cons item rest inductionHypothesis => rw [imageItems, inductionHypothesis, List.map_cons]

/-- The entries in JSON, one by one. -/
theorem imageEntries_eq (entries : List (Value × Value)) :
    imageEntries entries = entries.map fun entry => (entry.1.keyImage, entry.2.image) := by
  induction entries with
  | nil => rfl
  | cons entry rest inductionHypothesis =>
    obtain ⟨key, value⟩ := entry
    rw [imageEntries, inductionHypothesis, List.map_cons]

end Value

/-- The name of a key is the text that JSON has in place of the key. -/
theorem KeyName.keyImage_eq {shape : Shape} {key : Value} {name : Points}
    (named : KeyName shape key name) : key.keyImage = .str name := by
  cases named <;> rfl

/-- Keys of one kind have names, by which they are read again. -/
theorem KeyName.exists_of_kind {keys : List Value} (kind : Value.OfOneKind keys) :
    ∃ shape, ∀ key ∈ keys, ∃ name, KeyName shape key name := by
  rcases kind with texts | integers
  · refine ⟨.named .str, fun key member => ?_⟩
    obtain ⟨text, rfl⟩ := texts key member
    exact ⟨text, .text text rfl⟩
  · refine ⟨.named .int, fun key member => ?_⟩
    obtain ⟨number, rfl⟩ := integers key member
    exact ⟨_, .integer number rfl⟩

/-! ## The text of a plain value -/

variable {codecs : Codecs}

/-- A value is written as a JSON value that a text can hold, whose names ascend, and that is what
JSON has in place of the value. It has surrogate pairs to be joined if the value has. -/
structure WrittenAs (codecs : Codecs) (value : Value) (json : Json) : Prop where
  held : json.Held
  written : value.write codecs .whole = .ok json.compact
  ascending : json.Ascending
  image : json.toValue.Reordered value.image
  joined : json.Joined ↔ value.Settled

namespace WrittenAs

/-- A value that has nothing to be joined in it, and that travels as a JSON value which is the
same. -/
theorem of_travels {shape : Shape} {value image : Value} {json : Json}
    (travels : Travels codecs shape value json image) (ascending : json.Ascending)
    (same : json.toValue.Reordered value.image) (settled : value.Settled) :
    WrittenAs codecs value json :=
  ⟨travels.readable.held, travels.written, ascending, same,
    iff_of_true travels.readable.joined settled⟩

/-- A text is written as itself. -/
theorem str (text : Points) : WrittenAs codecs (.str text) (.str text) := by
  refine ⟨.str text, rfl, .str text, .same _, ⟨fun joined => ?_, fun settled => ?_⟩⟩
  · cases joined with
    | str _ isJoined => exact .str text isJoined
  · cases settled with
    | str _ isJoined => exact .str text isJoined

/-- Bytes are written as a text. -/
theorem bytes (content : List UInt8) :
    WrittenAs codecs (.bytes content) (.str (Text.points (Text.base64 content))) := by
  refine ⟨.str _, ?_, .str _, .same _,
    iff_of_true (.str _ (Text.isJoined_points _)) (.bytes content)⟩
  rw [Value.write, Json.compact, Json.quote, Json.escape_base64]

/-- Items that are written as JSON values make up a list that is. -/
theorem items {rows : List (Value × Json)} (each : ∀ row ∈ rows, WrittenAs codecs row.1 row.2) :
    (Json.list (rows.map (·.2))).Held ∧ (Json.list (rows.map (·.2))).Ascending ∧
      (Json.list (rows.map (·.2))).toValue.Reordered
        (.list (Value.imageItems (rows.map (·.1)))) ∧
      ((Json.list (rows.map (·.2))).Joined ↔ ∀ item ∈ rows.map (·.1), item.Settled) := by
  refine ⟨.list _ ?_, .list ?_, ?_, ?_⟩
  · exact List.forall_mem_map.2 fun row member => (each row member).held
  · exact List.forall_mem_map.2 fun row member => (each row member).ascending
  · have sides : ∀ pair ∈ rows.map fun row => (row.2.toValue, row.1.image),
        pair.1.Reordered pair.2 :=
      List.forall_mem_map.2 fun row member => (each row member).image
    have lists := Value.Reordered.list sides
    rw [Json.toValue, Json.toValues_eq, Value.imageItems_eq, List.map_map, List.map_map]
    rwa [List.map_map, List.map_map] at lists
  · rw [Json.joined_list_iff, List.forall_mem_map, List.forall_mem_map]
    exact forall₂_congr fun row member => (each row member).joined

/-- A list is written as one if its items are. -/
theorem list {rows : List (Value × Json)} (each : ∀ row ∈ rows, WrittenAs codecs row.1 row.2) :
    WrittenAs codecs (.list (rows.map (·.1))) (.list (rows.map (·.2))) := by
  obtain ⟨held, ascending, image, joined⟩ := items each
  refine ⟨held, ?_, ascending, image, joined.trans Value.settled_list_iff.symm⟩
  rw [Json.compact, Json.compactItems_eq, List.map_map]
  exact Value.write_list fun row member => (each row member).written

/-- So is a tuple. -/
theorem tuple {rows : List (Value × Json)} (each : ∀ row ∈ rows, WrittenAs codecs row.1 row.2) :
    WrittenAs codecs (.tuple (rows.map (·.1))) (.list (rows.map (·.2))) := by
  obtain ⟨held, ascending, image, joined⟩ := items each
  refine ⟨held, ?_, ascending, image, joined.trans Value.settled_tuple_iff.symm⟩
  rw [Json.compact, Json.compactItems_eq, List.map_map]
  exact Value.write_tuple fun row member => (each row member).written

/-- A map is written as an object if its values are written and its keys have different names. -/
theorem map {ρ : Type} {rows : List ρ} {shape : Shape} {key value : ρ → Value} {name : ρ → Points}
    {json : ρ → Json} (named : ∀ row ∈ rows, KeyName shape (key row) (name row))
    (distinct : (rows.map name).Nodup)
    (each : ∀ row ∈ rows, WrittenAs codecs (value row) (json row)) :
    WrittenAs codecs (.map (rows.map fun row => (key row, value row)))
      (.object ((Text.sortBy name rows).map fun row => (name row, json row))) := by
  refine ⟨.object _ ?_ ?_, ?_, .object ?_ ?_, ?_, ?_⟩
  · have sortedDistinct := ((Text.sortBy_perm name rows).map name).nodup_iff.2 distinct
    rwa [List.map_map]
  · exact List.forall_mem_map.2 fun row sorted => (each row (Text.mem_sortBy.1 sorted)).held
  · rw [Json.compact, Json.compactMembers_eq, List.map_map]
    exact Value.write_map fun row member =>
      ⟨(named row member).mapKey_eq, (each row member).written⟩
  · have ascending := Text.pairwise_precedes_sortBy distinct
    rwa [List.map_map]
  · exact List.forall_mem_map.2 fun row sorted => (each row (Text.mem_sortBy.1 sorted)).ascending
  · have sides : ∀ side ∈ (Text.sortBy name rows).map fun row =>
        (Value.str (name row), (json row).toValue, (value row).image),
        side.2.1.Reordered side.2.2 :=
      List.forall_mem_map.2 fun row sorted => (each row (Text.mem_sortBy.1 sorted)).image
    have maps := Value.Reordered.map ((Text.sortBy_perm name rows).map _) sides
    have keys : rows.map (fun row => ((key row).keyImage, (value row).image)) =
        rows.map fun row => (Value.str (name row), (value row).image) :=
      List.map_congr_left fun row member => by rw [(named row member).keyImage_eq]
    rw [Json.toValue, Json.toEntries_eq, Value.image, Value.imageEntries_eq, List.map_map,
      List.map_map]
    rw [List.map_map, List.map_map] at maps
    exact keys ▸ maps
  · rw [Json.joined_object_iff, Value.settled_map_iff, List.forall_mem_map, List.forall_mem_map]
    simp only [Text.mem_sortBy]
    exact forall₂_congr fun row member =>
      and_congr (named row member).isJoined_iff (each row member).joined

end WrittenAs

/-- Every plain value is written as a JSON value. The induction is on the value's layers. -/
theorem Value.Plain.exists_writtenAs {value : Value} (plain : value.Plain) :
    ∃ json, WrittenAs codecs value json := by
  induction plain with
  | null => exact ⟨.null, .null, rfl, .null, .same _, iff_of_true .null .null⟩
  | bool value => exact ⟨_, .of_travels (.bool value) (.bool value) (.same _) (.bool value)⟩
  | int number => exact ⟨_, .of_travels (.int number) (.int number) (.same _) (.int number)⟩
  | float finite => exact ⟨_, .of_travels (.float finite) (.float _) (.same _) (.float _)⟩
  | str text => exact ⟨_, .str text⟩
  | bytes content => exact ⟨_, .bytes content⟩
  | list _ each =>
    obtain ⟨rows, rfl, written⟩ := exists_rows each
    exact ⟨_, .list written⟩
  | tuple _ each =>
    obtain ⟨rows, rfl, written⟩ := exists_rows each
    exact ⟨_, .tuple written⟩
  | map kind different _ each =>
    obtain ⟨shape, names⟩ := KeyName.exists_of_kind kind
    choose! name named using names
    obtain ⟨rows, rfl, written⟩ := exists_rows each
    have rowNamed : ∀ row ∈ rows, KeyName shape row.1.1 (name row.1.1) := fun row member =>
      named row.1.1 (List.mem_map_of_mem (List.mem_map_of_mem member))
    rw [List.map_map] at different
    exact ⟨_, .map rowNamed (KeyName.names_nodup rowNamed different) written⟩

/-- Plain values that differ by no more than the order of entries are alike. The induction is on
what the values have in common; under a map the values of the entries are exchanged first, and then
the entries themselves. -/
theorem Value.Plain.alike_of_reordered {value other : Value} (plain : value.Plain)
    (reordered : value.Reordered other) : Alike codecs value other := by
  induction reordered with
  | same value => exact ⟨rfl, rfl⟩
  | list _ inductionHypothesis =>
    cases plain with
    | list each =>
      exact .list fun row member =>
        inductionHypothesis row member (each _ (List.mem_map_of_mem member))
  | tuple _ inductionHypothesis =>
    cases plain with
    | tuple each =>
      exact .tuple fun row member =>
        inductionHypothesis row member (each _ (List.mem_map_of_mem member))
  | @map rows others perm _ inductionHypothesis =>
    cases plain with
    | map kind different each =>
      obtain ⟨shape, names⟩ := KeyName.exists_of_kind kind
      rw [List.map_map] at different names
      choose! name named using names
      have rowNamed : ∀ row ∈ rows, KeyName shape row.1 (name row.1) := fun row member =>
        named row.1 (List.mem_map_of_mem member)
      have distinct := KeyName.names_nodup rowNamed different
      have exchanged : Alike codecs (.map (rows.map fun row => (row.1, row.2.1)))
          (.map (rows.map fun row => (row.1, row.2.2))) :=
        .map fun row member =>
          inductionHypothesis row member (each _ (List.mem_map_of_mem member))
      have keys : ∀ entry ∈ rows.map fun row => (row.1, row.2.2),
          entry.1.mapKey = .ok (name entry.1) := by
        intro entry member
        obtain ⟨row, among, rfl⟩ := List.mem_map.1 member
        exact (rowNamed row among).mapKey_eq
      have moved : Alike codecs (.map (rows.map fun row => (row.1, row.2.2)))
          (.map (others.map fun row => (row.1, row.2.2))) :=
        .reordered (perm.map _) keys (by rwa [List.map_map])
      exact ⟨exchanged.empty.trans moved.empty, exchanged.encoded.trans moved.encoded⟩

/-- Writing is canonical. A plain value is written as a JSON value that is what JSON has in place of
the value, up to the order of entries, and in which the names of every object ascend; its text is
read as this JSON value with its surrogate pairs joined, which is the JSON value itself exactly if
the value has no pairs to be joined; and whatever differs from the value by no more than the order
of entries has the same text. -/
theorem Value.Plain.encode_canonical (codecs : Codecs) {value : Value} (plain : value.Plain) :
    (∃ json : Json, value.encode codecs = .ok json.compact ∧
      json.toValue.Reordered value.image ∧ json.Ascending ∧
      Json.parse (Text.points json.compact) = .ok json.reread ∧
      (json.reread = json ↔ value.Settled)) ∧
    ∀ other, value.Reordered other → other.encode codecs = value.encode codecs := by
  constructor
  · obtain ⟨json, written⟩ : ∃ json, WrittenAs codecs value json := plain.exists_writtenAs
    refine ⟨json, written.written, written.image, written.ascending, Json.parse_compact json, ?_⟩
    rw [Json.reread_eq_iff, ← written.joined]
    exact ⟨fun readable => readable.joined, fun joined => ⟨written.held, joined⟩⟩
  · exact fun other reordered => (plain.alike_of_reordered reordered).encoded.symm

/-- A map whose integer keys come in another order than their decimal forms. -/
theorem Value.Plain.encode_canonical_pair :
    (Value.map [(.int 2, .bytes [255]), (.int 10, .tuple [.null])]).encode Codecs.empty =
        .ok "\x7b\"10\":[null],\"2\":\"/w==\"\x7d".toList ∧
      (Value.map [(.int 10, .tuple [.null]), (.int 2, .bytes [255])]).encode Codecs.empty =
        .ok "\x7b\"10\":[null],\"2\":\"/w==\"\x7d".toList ∧
      ∃ json, Json.parse "\x7b\"10\":[null],\"2\":\"/w==\"\x7d" = .ok json ∧
        json.toValue.Reordered (.map [(.str "2", .str "/w=="), (.str "10", .list [.null])]) ∧
        json.Ascending := by
  have plain : (Value.map [(.int 2, .bytes [255]), (.int 10, .tuple [.null])]).Plain := by
    refine .map (.inr ?_) ?_ ?_
    · simp
    · refine List.pairwise_pair.2 ?_
      change Value.same (.int 10) (.int 2) = false
      simp [Value.same, Value.integer?]
    · simp only [List.forall_mem_cons, List.not_mem_nil, false_implies, implies_true, and_true]
      exact ⟨.bytes _, .tuple fun item member => List.mem_singleton.1 member ▸ .null⟩
  have settled : (Value.map [(.int 2, .bytes [255]), (.int 10, .tuple [.null])]).Settled := by
    refine Value.settled_map_iff.2 ?_
    simp only [List.forall_mem_cons, List.not_mem_nil, false_implies, implies_true, and_true]
    exact ⟨⟨.int 2, .bytes _⟩, .int 10, .tuple _ (List.forall_mem_singleton.2 .null)⟩
  have reordered : (Value.map [(.int 2, .bytes [255]), (.int 10, .tuple [.null])]).Reordered
      (.map [(.int 10, .tuple [.null]), (.int 2, .bytes [255])]) := by
    have perm : [(Value.int 2, Value.bytes [255], Value.bytes [255]),
        (.int 10, .tuple [.null], .tuple [.null])].Perm
        [(.int 10, .tuple [.null], .tuple [.null]), (.int 2, .bytes [255], .bytes [255])] :=
      .swap _ _ _
    exact Reordered.map perm (by simp [Reordered.same])
  have encoded : (Value.map [(.int 2, .bytes [255]), (.int 10, .tuple [.null])]).encode
      Codecs.empty = .ok "\x7b\"10\":[null],\"2\":\"/w==\"\x7d".toList := by decide +kernel
  obtain ⟨⟨json, isText, image, ascending, parsed, unchanged⟩, canonical⟩ :=
    plain.encode_canonical Codecs.empty
  rw [encoded] at isText
  rw [← Except.ok.inj isText, unchanged.2 settled] at parsed
  have two : Text.points (Json.intText 2) = Text.points "2".toList := by decide +kernel
  have ten : Text.points (Json.intText 10) = Text.points "10".toList := by decide +kernel
  have base64 : Text.points (Text.base64 [255]) = Text.points "/w==".toList := by decide +kernel
  simp only [Value.image, imageEntries, imageItems, keyImage, two, ten, base64] at image
  exact ⟨encoded, (canonical _ reordered).trans encoded, json, parsed, image, ascending⟩

/-- The two halves of a surrogate pair are written as the escape of the character that they are the
pair of, and read as the character. -/
theorem Value.Plain.not_encode_canonical_pair :
    (Value.str Text.halves).Plain ∧
      (Value.str Text.halves).encode Codecs.empty =
        .ok "\"\\ud83d\\ude00\"".toList ∧
      Json.parse "\"\\ud83d\\ude00\"" = .ok (.str "😀") ∧
      ¬(Json.str "😀").toValue.Reordered (Value.str Text.halves).image := by
  have different : Text.points "😀".toList ≠ Text.halves := by decide +kernel
  refine ⟨.str _, rfl, Json.parse_halves, ?_⟩
  rw [Json.toValue, Value.image]
  · generalize Text.points "😀".toList = character at different ⊢
    intro reordered
    cases reordered
    exact different rfl
  all_goals simp

end DeclCodec

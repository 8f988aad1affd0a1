import DeclCodec.Proofs.Json.Assembled

/-!
# Reading written JSON

The compact text of a value holds the value, but for three things: surrogate pairs in
strings and names are read joined, of the members with one name only one is kept, and a
number without a value is read as the one that `NaN` stands for. Exactly the values with
none of these are read back from their own texts.

What is read of any text has distinct names in every object; so it can be written and
read again unless its strings or names have pairs to be joined. Joined pairs are written
as they were before, so the text is the same again unless names have become one.
-/

namespace DeclCodec.Json

open Text (points joined IsJoined)

/-- What holds of values without parts, and of lists and objects if it holds of their parts, holds
of every value. -/
@[elab_as_elim]
theorem byParts {motive : Json → Prop} (null : motive .null) (bool : ∀ value, motive (.bool value))
    (int : ∀ value, motive (.int value)) (float : ∀ number, motive (.float number))
    (str : ∀ text, motive (.str text))
    (list : ∀ items, (∀ item ∈ items, motive item) → motive (.list items))
    (object : ∀ members : List (Points × Json), (∀ member ∈ members, motive member.2) →
      motive (.object members)) : ∀ json, motive json
  | .null => null
  | .bool value => bool value
  | .int value => int value
  | .float number => float number
  | .str text => str text
  | .list items => list items fun item _ => byParts null bool int float str list object item
  | .object members =>
    object members fun member _ => byParts null bool int float str list object member.2
decreasing_by
  · have smaller := List.sizeOf_lt_of_mem ‹_›
    simp only [Json.list.sizeOf_spec]
    omega
  · obtain ⟨name, value⟩ := member
    have smaller := List.sizeOf_lt_of_mem ‹_›
    simp only [Prod.mk.sizeOf_spec, Json.object.sizeOf_spec] at smaller ⊢
    omega

/-! ## What is read of a written value -/

mutual

/-- What is read of the text of a value. -/
def reread : Json → Json
  | .float (.nan _) => .float (.nan 0)
  | .str text => .str (joined text)
  | .list items => .list (rereadItems items)
  | .object members => .object (Table.ofEntries (rereadMembers members))
  | json => json

/-- What is read of the texts of the items. -/
def rereadItems : List Json → List Json
  | [] => []
  | item :: rest => reread item :: rereadItems rest

/-- What is read of the texts of the members, before those of one name are put together. -/
def rereadMembers : List (Points × Json) → List (Points × Json)
  | [] => []
  | (name, value) :: rest => (joined name, reread value) :: rereadMembers rest

end

/-- The texts of items are the items' texts. -/
theorem compactItems_eq (items : List Json) : compactItems items = items.map compact := by
  induction items with
  | nil => rfl
  | cons item rest inductionHypothesis => simp [compactItems, inductionHypothesis]

/-- The texts of members are names and texts with a colon between. -/
theorem compactMembers_eq (members : List (Points × Json)) :
    compactMembers members = members.map fun member => memberText member.1 (compact member.2) := by
  induction members with
  | nil => rfl
  | cons member rest inductionHypothesis =>
    obtain ⟨name, value⟩ := member
    simp [compactMembers, memberText, inductionHypothesis]

/-- What is read of items is read item by item. -/
theorem rereadItems_eq (items : List Json) : rereadItems items = items.map reread := by
  induction items with
  | nil => rfl
  | cons item rest inductionHypothesis => simp [rereadItems, inductionHypothesis]

/-- What is read of members is read member by member. -/
theorem rereadMembers_eq (members : List (Points × Json)) :
    rereadMembers members = members.map fun member => (joined member.1, reread member.2) := by
  induction members with
  | nil => rfl
  | cons member rest inductionHypothesis =>
    obtain ⟨name, value⟩ := member
    simp [rereadMembers, inductionHypothesis]

/-- A text that is read as an atom holds the atom. -/
theorem whole_of_atom {text : Points} {json : Json} (read : atom text = .ok (json, [])) :
    whole text = .ok json := by
  obtain ⟨c, tail, rfl, begins, _⟩ := begins_of_atom read
  rw [whole, skipGaps_eq begins.1, value_of_atom read (Nat.succ_pos _)]
  rfl

/-- The text of an integer holds the integer. -/
theorem whole_intText (value : Int) : whole (points (intText value)) = .ok (.int value) := by
  have read := atom_intText value delimited_nil
  rw [List.append_nil] at read
  exact whole_of_atom read

/-- The text of a number holds the number, or the one that `NaN` stands for. -/
theorem whole_write (number : Binary64) :
    whole (points (floatFormat.write number)) = .ok (.reread (.float number)) := by
  cases number with
  | nan mark =>
    have read : atom (points "NaN".toList) = .ok (.float (.nan 0), []) := rfl
    exact whole_of_atom read
  | infinity negative => cases negative <;> exact whole_of_atom rfl
  | finite negative rank =>
    have read := atom_write_finite (show floatFormat.wholeMark = ['.', '0'] from rfl) negative rank
      delimited_nil
    rw [List.append_nil] at read
    exact whole_of_atom read

/-- The literal of a text holds the text with its pairs joined. -/
theorem whole_quote (text : Points) : whole (points (quote text)) = .ok (.str (joined text)) := by
  have literal : points (quote text) = .char '"' :: (points (escape text) ++ .char '"' :: []) := by
    simp [quote]
  rw [literal, whole, skipGaps_eq rfl, value, string_quote]
  rfl

/-- The text of a value holds what is read of it. -/
theorem whole_compact (json : Json) : whole (points (compact json)) = .ok json.reread := by
  induction json using byParts with
  | null => rfl
  | bool value => cases value <;> rfl
  | int value => exact whole_intText value
  | float number => exact whole_write number
  | str text => exact whole_quote text
  | list items inductionHypothesis =>
    rw [compact, reread, compactItems_eq, rereadItems_eq]
    exact whole_bracketed compact reread inductionHypothesis
  | object members inductionHypothesis =>
    rw [compact, reread, compactMembers_eq, rereadMembers_eq]
    exact whole_braced (fun member : Points × Json => member.1) (fun member => compact member.2)
      (fun member => reread member.2) inductionHypothesis

/-- The text of a value is parsed to what is read of it. -/
theorem parse_compact (json : Json) : parse (points (compact json)) = .ok json.reread := by
  obtain ⟨point, tail, begins, beginning⟩ := begins_of_whole (whole_compact json)
  refine parse_of_whole (whole_compact json) fun rest mark => ?_
  rw [mark, skipGaps_eq (by decide)] at begins
  exact beginning.2.2 (List.cons.inj begins).1.symm

/-- The text of a value, given as code points, is parsed to what is read of it. -/
theorem parsePoints_compact (json : Json) :
    parsePoints (points (compact json)) = .ok json.reread := by
  rw [parsePoints, whole_compact]
  rfl

/-- The literal of a text is parsed to the text with its pairs joined. -/
theorem parse_quote (text : Points) : parse (points (quote text)) = .ok (.str (joined text)) := by
  have read := parse_compact (.str text)
  rwa [compact, reread] at read

/-- The literal of two surrogates that are a pair is parsed to the character. -/
theorem parse_halves : parse "\"\\ud83d\\ude00\"" = .ok (.str "😀") := by
  have quoted : points "\"\\ud83d\\ude00\"".toList = points (quote Text.halves) := by decide +kernel
  rw [quoted, parse_quote, Text.joined_halves]

/-- Only nothing is written like nothing. -/
theorem eq_null_of_compact {json : Json} (same : compact json = compact .null) : json = .null := by
  have read := parse_compact json
  rw [same, parse_compact] at read
  cases json with
  | null => rfl
  | float number => cases number <;> cases read
  | _ => cases read

/-! ## Values that are read back -/

/-- The values that a JSON text can hold. -/
inductive Held : Json → Prop
  | null : Held .null
  | bool (value : Bool) : Held (.bool value)
  | int (value : Int) : Held (.int value)
  | float (number : Binary64) (unmarked : ∀ mark, number = .nan mark → mark = 0) :
      Held (.float number)
  | str (text : Points) : Held (.str text)
  | list (items : List Json) (all : ∀ item ∈ items, Held item) : Held (.list items)
  | object (members : List (Points × Json)) (distinct : (members.map (·.1)).Nodup)
      (all : ∀ member ∈ members, Held member.2) : Held (.object members)

/-- The values none of whose strings and names has surrogate pairs to be joined. -/
inductive Joined : Json → Prop
  | null : Joined .null
  | bool (value : Bool) : Joined (.bool value)
  | int (value : Int) : Joined (.int value)
  | float (number : Binary64) : Joined (.float number)
  | str (text : Points) (isJoined : IsJoined text) : Joined (.str text)
  | list (items : List Json) (all : ∀ item ∈ items, Joined item) : Joined (.list items)
  | object (members : List (Points × Json)) (names : ∀ member ∈ members, IsJoined member.1)
      (all : ∀ member ∈ members, Joined member.2) : Joined (.object members)

/-- A list has no pairs to be joined exactly if its items have none. -/
theorem joined_list_iff {items : List Json} : Joined (.list items) ↔ ∀ item ∈ items, Joined item :=
  ⟨fun joined => by cases joined; assumption, .list items⟩

/-- An object has none exactly if its names and values have none. -/
theorem joined_object_iff {members : List (Points × Json)} :
    Joined (.object members) ↔ ∀ member ∈ members, IsJoined member.1 ∧ Joined member.2 := by
  constructor
  · intro joined
    cases joined with
    | object _ names all => exact fun member held => ⟨names member held, all member held⟩
  · exact fun each => .object members (fun member held => (each member held).1)
      fun member held => (each member held).2

/-- The values that are read back from their own texts. -/
structure Readable (json : Json) : Prop where
  held : json.Held
  joined : json.Joined

namespace Readable

theorem null : Readable .null := ⟨.null, .null⟩

theorem bool (value : Bool) : Readable (.bool value) := ⟨.bool value, .bool value⟩

theorem int (value : Int) : Readable (.int value) := ⟨.int value, .int value⟩

theorem float (number : Binary64) (unmarked : ∀ mark, number = .nan mark → mark = 0) :
    Readable (.float number) := ⟨.float number unmarked, .float number⟩

theorem str (text : Points) (isJoined : IsJoined text) : Readable (.str text) :=
  ⟨.str text, .str text isJoined⟩

theorem list (items : List Json) (all : ∀ item ∈ items, Readable item) : Readable (.list items) :=
  ⟨.list items fun item member => (all item member).held,
    .list items fun item member => (all item member).joined⟩

theorem object (members : List (Points × Json)) (distinct : (members.map (·.1)).Nodup)
    (names : ∀ member ∈ members, IsJoined member.1) (all : ∀ member ∈ members, Readable member.2) :
    Readable (.object members) :=
  ⟨.object members distinct fun member held => (all member held).held,
    .object members names fun member held => (all member held).joined⟩

/-- The items of a list. -/
theorem of_mem_list {items : List Json} (readable : Readable (.list items)) :
    ∀ item ∈ items, Readable item := by
  obtain ⟨held, joined⟩ := readable
  cases held with
  | list _ allHeld =>
    cases joined with
    | list _ allJoined => exact fun item among => ⟨allHeld item among, allJoined item among⟩

/-- The members of an object. -/
theorem of_mem_object {members : List (Points × Json)} (readable : Readable (.object members)) :
    (members.map (·.1)).Nodup ∧ ∀ member ∈ members, IsJoined member.1 ∧ Readable member.2 := by
  obtain ⟨held, joined⟩ := readable
  cases held with
  | object _ distinct allHeld =>
    cases joined with
    | object _ names allJoined =>
      exact ⟨distinct, fun member among =>
        ⟨names member among, allHeld member among, allJoined member among⟩⟩

end Readable

/-- What is read of a written value can be read back. -/
theorem readable_reread (json : Json) : Readable json.reread := by
  induction json using byParts with
  | null => exact .null
  | bool value => exact .bool value
  | int value => exact .int value
  | float number =>
    cases number with
    | nan mark => exact .float _ (by rintro mark ⟨⟩; rfl)
    | infinity | finite => exact .float _ (by rintro mark ⟨⟩)
  | str text => exact .str _ (Text.joined_joined text)
  | list items inductionHypothesis =>
    rw [reread, rereadItems_eq]
    exact .list _ (List.forall_mem_map.2 inductionHypothesis)
  | object members inductionHypothesis =>
    rw [reread, rereadMembers_eq]
    refine .object _ (Table.nodup_keys_ofEntries _) (fun member held => ?_) fun member held => ?_
    · obtain ⟨_, _, rfl⟩ := List.mem_map.1 (Table.mem_of_mem_ofEntries held)
      exact Text.joined_joined _
    · obtain ⟨written, isWritten, rfl⟩ := List.mem_map.1 (Table.mem_of_mem_ofEntries held)
      exact inductionHypothesis written isWritten

/-- Exactly the values that a text can hold and that have no pairs to be joined are read back. -/
theorem reread_eq_iff {json : Json} : json.reread = json ↔ Readable json := by
  refine ⟨fun same => same ▸ readable_reread json, fun readable => ?_⟩
  induction json using byParts with
  | null | bool | int => rfl
  | float number =>
    cases number with
    | nan mark =>
      cases readable.held with
      | float _ unmarked => rw [reread, unmarked mark rfl]
    | infinity | finite => rfl
  | str text =>
    cases readable.joined with
    | str _ isJoined => exact congrArg Json.str isJoined
  | list items inductionHypothesis =>
    have same : items.map reread = items := List.map_congr_left (fun item member =>
      inductionHypothesis item member (readable.of_mem_list item member)) |>.trans (List.map_id _)
    rw [reread, rereadItems_eq, same]
  | object members inductionHypothesis =>
    obtain ⟨distinct, all⟩ := readable.of_mem_object
    have same : members.map (fun member => (joined member.1, reread member.2)) = members :=
      (List.map_congr_left fun member held => by
        rw [(all member held).1, inductionHypothesis member held (all member held).2]; rfl).trans
          (List.map_id _)
    rw [reread, rereadMembers_eq, same, Table.ofEntries_of_nodup distinct]

/-! ## Texts that are written again -/

/-- A character beyond the first plane is written as its surrogates are. -/
theorem escapeChar_pair (high low : Fin 0x400) :
    escapeChar (CodePoint.pair high low) =
      escapePoint (.high high) ++ escapePoint (.low low) := by
  have code := CodePoint.toNat_pair high low
  have beyond {c : Char} (first : c.toNat < 0x10000) : CodePoint.pair high low ≠ c := by
    rintro rfl
    omega
  have noAscii : ¬(0x20 ≤ (CodePoint.pair high low).toNat ∧
      (CodePoint.pair high low).toNat < 0x7F) := by omega
  have noUnit : ¬(CodePoint.pair high low).toNat < 0x10000 := by omega
  have split : Text.splitSurrogates (CodePoint.pair high low).toNat =
      (0xD800 + high.val, 0xDC00 + low.val) := by
    rw [Text.splitSurrogates, code, Prod.mk.injEq]
    omega
  rw [escapeChar, if_neg (beyond (by decide)), if_neg (beyond (by decide)),
    if_neg (beyond (by decide)), if_neg (beyond (by decide)), if_neg (beyond (by decide)),
    if_neg (beyond (by decide)), if_neg (beyond (by decide)), if_neg noAscii, if_neg noUnit, split]
  rfl

/-- A text is written as it is with its pairs joined. -/
theorem quote_joined (text : Points) : quote (joined text) = quote text := by
  suffices inside : escape (joined text) = escape text by rw [quote, inside, quote]
  fun_induction joined text with
  | case1 => rfl
  | case2 high low rest inductionHypothesis =>
    rw [escape, List.flatMap_cons, ← escape, inductionHypothesis, escapePoint, escapeChar_pair,
      List.append_assoc]
    rfl
  | case3 point rest _ inductionHypothesis =>
    rw [escape, List.flatMap_cons, ← escape, inductionHypothesis]
    rfl

/-- The values in whose objects no two names become one when their pairs are joined. -/
inductive NamesApart : Json → Prop
  | null : NamesApart .null
  | bool (value : Bool) : NamesApart (.bool value)
  | int (value : Int) : NamesApart (.int value)
  | float (number : Binary64) : NamesApart (.float number)
  | str (text : Points) : NamesApart (.str text)
  | list (items : List Json) (all : ∀ item ∈ items, NamesApart item) : NamesApart (.list items)
  | object (members : List (Points × Json))
      (distinct : (members.map fun member => joined member.1).Nodup)
      (all : ∀ member ∈ members, NamesApart member.2) : NamesApart (.object members)

/-- What is read of their texts is written as they were. -/
theorem compact_reread {json : Json} (apart : NamesApart json) :
    compact json.reread = compact json := by
  induction json using byParts with
  | null | bool | int => rfl
  | float number => cases number <;> rfl
  | str text => rw [reread, compact, compact, quote_joined]
  | list items inductionHypothesis =>
    cases apart with
    | list _ all =>
      rw [reread, compact, compact, compactItems_eq, compactItems_eq, rereadItems_eq, List.map_map]
      exact congrArg bracketed (List.map_congr_left fun item member =>
        inductionHypothesis item member (all item member))
  | object members inductionHypothesis =>
    cases apart with
    | object _ distinct all =>
      have kept : Table.ofEntries (members.map fun member => (joined member.1, reread member.2)) =
          members.map fun member => (joined member.1, reread member.2) := by
        refine Table.ofEntries_of_nodup ?_
        rwa [List.map_map]
      rw [reread, compact, compact, compactMembers_eq, compactMembers_eq, rereadMembers_eq, kept,
        List.map_map]
      refine congrArg braced (List.map_congr_left fun member held => ?_)
      rw [Function.comp_apply, inductionHypothesis member held (all member held), memberText,
        quote_joined, memberText]

/-! ## What a text can hold -/

/-- A number in a text is an integer or a number that is a number. -/
theorem held_of_unsigned? {negative : Bool} {text rest : Points} {json : Json}
    (read : unsigned? negative text = some (json, rest)) : Held json := by
  simp only [unsigned?, Option.bind_eq_bind, Option.bind_eq_some_iff] at read
  obtain ⟨⟨whole, after⟩, _, chosen⟩ := read
  dsimp only at chosen
  split at chosen
  · simp only [Option.pure_def, Option.some.injEq, Prod.mk.injEq] at chosen
    exact chosen.1 ▸ .int _
  · simp only [Option.pure_def, Option.some.injEq, Prod.mk.injEq] at chosen
    refine chosen.1 ▸ .float _ ?_
    intro mark marked
    simp only [Binary64.ofDecimal, Binary64.ofRank] at marked
    split at marked <;> cases marked

/-- An atom in a text is a value that a text can hold. -/
theorem held_of_atom {text rest : Points} {json : Json}
    (read : atom text = .ok (json, rest)) : Held json := by
  unfold atom at read
  split at read
  case h_7 =>
    split at read
    · next readUnsigned =>
      cases read
      exact held_of_unsigned? readUnsigned
    · cases read
  case h_8 =>
    split at read
    · next readUnsigned =>
      cases read
      exact held_of_unsigned? readUnsigned
    · cases read
  case h_4 =>
    cases read
    refine .float _ ?_
    intro mark marked
    cases marked
    rfl
  all_goals
    cases read
    constructor
  all_goals
    intro mark marked
    cases marked

/-- What is read in a number of steps is a value that a text can hold: a value, and a list or an
object of which some was read before. -/
structure HeldWithin (steps : Nat) : Prop where
  value : ∀ text json rest, value steps text = .ok (json, rest) → Held json
  items : ∀ before text json rest, (∀ item ∈ before, Held item) →
    items steps before text = .ok (json, rest) → Held json
  members : ∀ before text json rest, (before.map (·.1)).Nodup →
    (∀ member ∈ before, Held member.2) →
      members steps before text = .ok (json, rest) → Held json

/-- A value begins a text, a list or an object, or it is an atom. -/
theorem HeldWithin.value_succ {steps : Nat} (within : HeldWithin steps)
    {text rest : Points} {json : Json} (read : Json.value (steps + 1) text = .ok (json, rest)) :
    Held json := by
  unfold Json.value at read
  split at read
  · split at read
    · cases read
      exact .str _
    · cases read
  · split at read
    · cases read
      exact .list [] (by simp)
    · exact within.items _ _ _ _ (by simp) read
  · split at read
    · cases read
      exact .object [] (by simp) (by simp)
    · exact within.members _ _ _ _ (by simp) (by simp) read
  · exact held_of_atom read

/-- Behind an item a list ends or goes on. -/
theorem HeldWithin.items_succ {steps : Nat} (within : HeldWithin steps) {before : List Json}
    {text rest : Points} {json : Json} (all : ∀ item ∈ before, Held item)
    (read : Json.items (steps + 1) before text = .ok (json, rest)) : Held json := by
  unfold Json.items at read
  split at read
  · cases read
  next item after readItem =>
  have extended : ∀ each ∈ before ++ [item], Held each := by
    intro each member
    rcases List.mem_append.1 member with held | last
    · exact all each held
    · exact List.mem_singleton.1 last ▸ within.value _ _ _ readItem
  split at read
  · cases read
    exact .list _ extended
  · exact within.items _ _ _ _ extended read
  · cases read

/-- Behind a member an object ends or goes on. A member takes the place of one of the same name. -/
theorem HeldWithin.members_succ {steps : Nat} (within : HeldWithin steps)
    {before : List (Points × Json)} {text rest : Points} {json : Json}
    (distinct : (before.map (·.1)).Nodup) (all : ∀ member ∈ before, Held member.2)
    (read : Json.members (steps + 1) before text = .ok (json, rest)) : Held json := by
  unfold Json.members at read
  split at read
  case h_2 => cases read
  split at read
  · cases read
  next name after _ =>
  split at read
  case h_2 => cases read
  split at read
  · cases read
  next member after readMember =>
  have stillDistinct := Table.nodup_keys_put distinct name member
  have extended : ∀ each ∈ Table.put name member before, Held each.2 := by
    intro each held
    rcases Table.mem_put held with written | earlier
    · exact written ▸ within.value _ _ _ readMember
    · exact all each earlier
  split at read
  · cases read
    exact .object _ stillDistinct extended
  · exact within.members _ _ _ _ stillDistinct extended read
  · cases read

/-- Whatever is read of a text is a value that a text can hold, if what was read of it before is. -/
theorem heldWithin (steps : Nat) : HeldWithin steps := by
  induction steps with
  | zero => constructor <;> simp [value, items, members]
  | succ steps within =>
    exact ⟨fun _ _ _ => within.value_succ, fun _ _ _ _ => within.items_succ,
      fun _ _ _ _ => within.members_succ⟩

/-- Code points that are read hold a value that can be written and read again. -/
theorem held_of_parsePoints {text : Points} {json : Json}
    (read : parsePoints text = .ok json) : Held json := by
  unfold parsePoints whole at read
  split at read
  · cases read
  · next readValue =>
    split at read
    · cases read
      exact (heldWithin _).value _ _ _ readValue
    · cases read

/-- A text that is read holds a value that can be written and read again. -/
theorem held_of_parse {text : Points} {json : Json} (read : parse text = .ok json) :
    Held json := by
  unfold parse at read
  split at read
  · cases read
  · exact held_of_parsePoints read

end DeclCodec.Json

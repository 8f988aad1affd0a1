import DeclCodec.Proofs.Json.Assembled
import DeclCodec.Proofs.Traversal
import DeclCodec.Proofs.Wire.Parts
import Mathlib.Data.List.Dedup

/-!
# Written and read entries

A list is written as the texts of its items, and a map as the texts of its values
under those of its keys, in ascending order. Both succeed exactly if everything in
them is written. A map is read entry by entry, so that of keys that are read as one
the first decides the place and the last the value: what is read is the table written
by the entries as they are read one by one.
-/

namespace DeclCodec

/-! ## Tables -/

namespace Table

universe u v
variable {κ : Type u} {α : Type v} [BEq κ]

/-- Keys may be exchanged for others that are as different. -/
theorem put_image {μ : Type*} [BEq μ] {make : κ → μ}
    (alike : ∀ key other, (make key == make other) = (key == other)) (key : κ) (value : α)
    (table : List (κ × α)) :
    put (make key) value (table.map fun entry => (make entry.1, entry.2)) =
      (put key value table).map fun entry => (make entry.1, entry.2) := by
  induction table with
  | nil => rfl
  | cons entry rest inductionHypothesis =>
    rw [List.map_cons, put, put, alike]
    split
    · rfl
    · rw [inductionHypothesis, List.map_cons]

/-- So they may in all entries that a table is written by. -/
theorem ofEntries_image {μ : Type*} [BEq μ] {make : κ → μ}
    (alike : ∀ key other, (make key == make other) = (key == other)) (entries : List (κ × α)) :
    ofEntries (entries.map fun entry => (make entry.1, entry.2)) =
      (ofEntries entries).map fun entry => (make entry.1, entry.2) := by
  suffices before : ∀ table : List (κ × α),
      (entries.map fun entry => (make entry.1, entry.2)).foldl
          (fun table entry => put entry.1 entry.2 table)
          (table.map fun entry => (make entry.1, entry.2)) =
        (entries.foldl (fun table entry => put entry.1 entry.2 table) table).map
          fun entry => (make entry.1, entry.2) from before []
  induction entries with
  | nil => exact fun _ => rfl
  | cons entry rest inductionHypothesis =>
    intro table
    rw [List.map_cons, List.foldl_cons, put_image alike, inductionHypothesis, List.foldl_cons]

variable [LawfulBEq κ]

/-- A table has as many entries as the entries that it is written by have different keys. -/
theorem length_ofEntries [DecidableEq κ] (entries : List (κ × α)) :
    (ofEntries entries).length = (entries.map (·.1)).dedup.length := by
  have sameKeys : ((ofEntries entries).map (·.1)).Perm (entries.map (·.1)).dedup := by
    rw [List.perm_ext_iff_of_nodup (nodup_keys_ofEntries entries) (List.nodup_dedup _)]
    intro key
    rw [mem_keys_ofEntries, List.mem_dedup]
  rw [← sameKeys.length_eq, List.length_map]

/-- It has as many entries as it is written by exactly if no two of these have one key. -/
theorem length_ofEntries_eq_iff (entries : List (κ × α)) :
    (ofEntries entries).length = entries.length ↔ (entries.map (·.1)).Nodup := by
  classical
  have lengths : (entries.map (·.1)).length = entries.length := List.length_map _
  rw [length_ofEntries, ← lengths]
  constructor
  · intro sameLength
    rw [← (List.dedup_sublist _).eq_of_length sameLength]
    exact List.nodup_dedup _
  · intro distinct
    rw [distinct.dedup]

end Table

variable {codecs : Codecs} {key elem : Shape}

/-! ## Writing -/

namespace Value

/-- Items whose texts are known are written as those. -/
theorem mapM_write {ρ : Type} {rows : List ρ} {item : ρ → Value} {text : ρ → List Char}
    (each : ∀ row ∈ rows, (item row).write codecs .whole = .ok (text row)) :
    writeItems codecs (rows.map item) = .ok (rows.map text) := by
  rw [writeItems_eq, mapM_eq_ok_iff, List.forall₂_map_left_iff, List.forall₂_map_right_iff,
    List.forall₂_same]
  exact each

/-- A list whose items have texts is written as the texts in brackets. -/
theorem write_list {ρ : Type} {rows : List ρ} {item : ρ → Value} {text : ρ → List Char}
    (each : ∀ row ∈ rows, (item row).write codecs .whole = .ok (text row)) :
    (Value.list (rows.map item)).write codecs .whole = .ok (Json.bracketed (rows.map text)) := by
  rw [write, mapM_write each]
  rfl

/-- So is a tuple. -/
theorem write_tuple {ρ : Type} {rows : List ρ} {item : ρ → Value} {text : ρ → List Char}
    (each : ∀ row ∈ rows, (item row).write codecs .whole = .ok (text row)) :
    (Value.tuple (rows.map item)).write codecs .whole = .ok (Json.bracketed (rows.map text)) := by
  rw [write, mapM_write each]
  rfl

/-- A map whose keys and values have texts is written as those in braces, in ascending order of the
keys' texts. -/
theorem write_map {ρ : Type} {rows : List ρ} {held value : ρ → Value} {name : ρ → Points}
    {text : ρ → List Char} (each : ∀ row ∈ rows, (held row).mapKey = .ok (name row) ∧
      (value row).write codecs .whole = .ok (text row)) :
    (Value.map (rows.map fun row => (held row, value row))).write codecs .whole =
      .ok (Json.braced ((Text.sortBy name rows).map fun row =>
        Json.memberText (name row) (text row))) := by
  have keyed : (entryWriters codecs (rows.map fun row => (held row, value row))).mapM
      (fun entry => keyedEntry entry.1 entry.2) =
      .ok (rows.map fun row => (name row, (⟨value row, (value row).write codecs⟩ : Writer))) := by
    simp only [entryWriters_eq, mapM_eq_ok_iff, List.forall₂_map_left_iff,
      List.forall₂_map_right_iff, List.forall₂_same]
    intro row member
    rw [keyedEntry, (each row member).1]
    rfl
  have texts : ((Text.sortBy name rows).map fun row =>
      (name row, (⟨value row, (value row).write codecs⟩ : Writer))).mapM
        (fun entry => writeEntry entry.1 entry.2) =
      .ok ((Text.sortBy name rows).map fun row => Json.memberText (name row) (text row)) := by
    simp only [mapM_eq_ok_iff, List.forall₂_map_left_iff, List.forall₂_map_right_iff,
      List.forall₂_same]
    intro row member
    rw [writeEntry]
    dsimp only
    rw [(each row (Text.mem_sortBy.1 member)).2]
    rfl
  rw [write, writeMap, keyed]
  simp only [bind, Except.bind]
  rw [Text.sortBy_map, texts]
  rfl

/-- A list is written only if all its items have texts. -/
theorem exists_of_write_list {items : List Value} {whole : List Char}
    (written : (Value.list items).write codecs .whole = .ok whole) :
    ∀ item ∈ items, ∃ text, item.write codecs .whole = .ok text := by
  rw [write, writeItems_eq, bind_eq_ok] at written
  obtain ⟨texts, areTexts, _⟩ := written
  intro item member
  obtain ⟨text, _, isText⟩ := exists_of_mapM_ok areTexts member
  exact ⟨text, isText⟩

/-- A map is written only if all its keys and values have texts. -/
theorem exists_of_write_map {entries : List (Value × Value)} {whole : List Char}
    (written : (Value.map entries).write codecs .whole = .ok whole) :
    ∀ entry ∈ entries, ∃ beside : Points × List Char,
      entry.1.mapKey = .ok beside.1 ∧ entry.2.write codecs .whole = .ok beside.2 := by
  rw [write, writeMap, entryWriters_eq] at written
  simp only [bind_eq_ok] at written
  obtain ⟨keyed, isKeyed, texts, isTexts, _⟩ := written
  intro entry member
  obtain ⟨named, isNamed, made⟩ := exists_of_mapM_ok isKeyed (List.mem_map_of_mem member)
  simp only [keyedEntry, bind_eq_ok] at made
  obtain ⟨name, isName, same⟩ := made
  cases same
  obtain ⟨text, _, isText⟩ := exists_of_mapM_ok isTexts (Text.mem_sortBy.2 isNamed)
  simp only [writeEntry, bind_eq_ok] at isText
  obtain ⟨own, isOwn, _⟩ := isText
  exact ⟨(name, own), isName, isOwn⟩

end Value

/-! ## Reading -/

/-- Entries are read exactly if each of them is, and what is read are the entries one after another
put into a table. -/
theorem foldlM_readEntry_eq_ok_iff {entries : List (Value × Reader)}
    {before result : List (Value × Value)} :
    entries.foldlM (readEntry key elem) before = .ok result ↔
      ∃ rows : List (Value × Value), List.Forall₂ (fun entry row =>
          entry.1.readKey key = .ok row.1 ∧ entry.2.read elem = .ok row.2) entries rows ∧
        result = rows.foldl (fun table row => Table.put row.1 row.2 table) before := by
  induction entries generalizing before with
  | nil =>
    simp only [List.foldlM_nil, List.forall₂_nil_left_iff, exists_eq_left, List.foldl_nil]
    exact ⟨fun same => (Except.ok.inj same).symm, fun same => congrArg Except.ok same.symm⟩
  | cons entry rest inductionHypothesis =>
    rw [List.foldlM_cons, bind_eq_ok]
    constructor
    · rintro ⟨next, step, run⟩
      simp only [readEntry, bind_eq_ok] at step
      obtain ⟨name, isName, item, isItem, same⟩ := step
      cases same
      obtain ⟨rows, each, isResult⟩ := inductionHypothesis.1 run
      exact ⟨(name, item) :: rows, .cons ⟨isName, isItem⟩ each, isResult⟩
    · rintro ⟨rows, each, isResult⟩
      cases each with
      | cons first others =>
        refine ⟨_, ?_, inductionHypothesis.2 ⟨_, others, isResult⟩⟩
        rw [readEntry, first.1, first.2]
        rfl

/-- An object is read as a map member by member. -/
theorem decode_members (members : List (Points × Json)) :
    (Json.object members).toValue.decode codecs (.map key elem) =
      Value.map <$> (members.map fun member => (Value.str member.1,
        (⟨member.2.toValue, member.2.toValue.decode codecs⟩ : Reader))).foldlM
          (readEntry key elem) [] := by
  rw [Json.toValue, Json.toEntries_eq, Value.decode_map, List.map_map]
  rfl

/-- An object is read as a map exactly if its members are, each name before its value. -/
theorem decode_object_eq_ok_iff {members : List (Points × Json)} {value : Value} :
    (Json.object members).toValue.decode codecs (.map key elem) = .ok value ↔
      ∃ rows : List (Value × Value), List.Forall₂ (fun member row =>
          (Value.str member.1).readKey key = .ok row.1 ∧
            member.2.toValue.decode codecs elem = .ok row.2) members rows ∧
        value = .map (Table.ofEntries rows) := by
  rw [decode_members, map_eq_ok]
  simp only [foldlM_readEntry_eq_ok_iff, List.forall₂_map_left_iff]
  constructor
  · rintro ⟨_, ⟨rows, each, rfl⟩, rfl⟩
    exact ⟨rows, each, rfl⟩
  · rintro ⟨rows, each, rfl⟩
    exact ⟨_, ⟨rows, each, rfl⟩, rfl⟩

/-- A list is read as a slice item by item. -/
theorem decode_items (items : List Json) :
    (Json.list items).toValue.decode codecs (.slice elem) =
      Value.list <$> items.mapM fun item => item.toValue.decode codecs elem := by
  rw [Json.toValue, Json.toValues_eq, Value.decode_slice, List.mapM_map]
  rfl

/-- A list is read as a slice exactly if its items are. -/
theorem decode_list_eq_ok_iff {items : List Json} {value : Value} :
    (Json.list items).toValue.decode codecs (.slice elem) = .ok value ↔
      ∃ values, List.Forall₂ (fun item read => item.toValue.decode codecs elem = .ok read) items
          values ∧ value = .list values := by
  rw [decode_items, map_eq_ok]
  simp only [mapM_eq_ok_iff]
  exact exists_congr fun values => and_congr_right fun _ => eq_comm

end DeclCodec

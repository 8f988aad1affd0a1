import DeclCodec.Proofs.Text.Sorted
import DeclCodec.Proofs.Wire.Parts

/-!
# Values that are alike on the wire

Two values are alike if one is empty where the other is and both are written as the
same text, or both fail with the same fault. What is put together of alike parts is
alike. The entries of a map may come in any order as well, since they are sorted by
the texts of their keys, as long as these are different.
-/

namespace DeclCodec

/-- Values are alike on the wire: one is empty if the other is, and they are written alike. -/
structure Alike (codecs : Codecs) (first second : Value) : Prop where
  empty : first.isEmpty = second.isEmpty
  encoded : first.encode codecs = second.encode codecs

variable {codecs : Codecs}

attribute [local simp] Value.isEmpty Value.encode Value.write

/-- Items that are written alike make up lists that are. -/
theorem Value.writeItems_congr {rows : List (Value × Value)}
    (each : ∀ row ∈ rows, row.1.encode codecs = row.2.encode codecs) :
    writeItems codecs (rows.map (·.1)) = writeItems codecs (rows.map (·.2)) := by
  rw [writeItems_eq, writeItems_eq]
  exact mapM_map_congr each

/-- Lists of alike items are alike. -/
theorem Alike.list {rows : List (Value × Value)} (each : ∀ row ∈ rows, Alike codecs row.1 row.2) :
    Alike codecs (.list (rows.map (·.1))) (.list (rows.map (·.2))) := by
  refine ⟨by simp, ?_⟩
  simp [Value.writeItems_congr fun row member => (each row member).encoded]

/-- So are tuples of alike items. -/
theorem Alike.tuple {rows : List (Value × Value)} (each : ∀ row ∈ rows, Alike codecs row.1 row.2) :
    Alike codecs (.tuple (rows.map (·.1))) (.tuple (rows.map (·.2))) := by
  refine ⟨by simp, ?_⟩
  simp [Value.writeItems_congr fun row member => (each row member).encoded]

/-- The keys of entries are looked at one after another, whatever is to be written under them. -/
theorem mapM_keyedEntry {ρ : Type} (rows : List ρ) (key : ρ → Value) (writer : ρ → Writer) :
    ((rows.map fun row => (key row, writer row)).mapM fun entry => keyedEntry entry.1 entry.2) =
      (rows.mapM fun row => (key row).mapKey.map (·, row)).map fun keyed =>
        keyed.map fun entry => (entry.1, writer entry.2) := by
  induction rows with
  | nil => rfl
  | cons row rest inductionHypothesis =>
    rw [List.map_cons, List.mapM_cons, inductionHypothesis, List.mapM_cons, keyedEntry]
    generalize rest.mapM (fun row => (key row).mapKey.map (·, row)) = later
    cases (key row).mapKey with
    | error fault => rfl
    | ok name => cases later <;> rfl

/-- Maps whose entries have the same keys and are written alike are written alike. -/
theorem writeMap_congr {ρ : Type} {rows : List ρ} (key : ρ → Value) (first second : ρ → Writer)
    (each : ∀ row ∈ rows, (first row).write .whole = (second row).write .whole) :
    writeMap (rows.map fun row => (key row, first row)) =
      writeMap (rows.map fun row => (key row, second row)) := by
  rw [writeMap, writeMap, mapM_keyedEntry, mapM_keyedEntry]
  cases isKeyed : rows.mapM fun row => (key row).mapKey.map (·, row) with
  | error fault => rfl
  | ok keyed =>
    have among : ∀ entry ∈ Text.sortBy (·.1) keyed, entry.2 ∈ rows := by
      intro entry sorted
      obtain ⟨row, member, made⟩ := exists_item_of_mapM_ok isKeyed (Text.mem_sortBy.1 sorted)
      cases isName : (key row).mapKey with
      | error fault =>
        rw [isName] at made
        cases made
      | ok name =>
        rw [isName] at made
        cases made
        exact member
    have texts : ((Text.sortBy (·.1) keyed).map fun entry => (entry.1, first entry.2)).mapM
          (fun entry => writeEntry entry.1 entry.2) =
        ((Text.sortBy (·.1) keyed).map fun entry => (entry.1, second entry.2)).mapM
          (fun entry => writeEntry entry.1 entry.2) := by
      refine mapM_map_congr fun entry sorted => ?_
      rw [writeEntry, writeEntry, each entry.2 (among entry sorted)]
    simp only [Except.map, bind, Except.bind, Text.sortBy_map, texts]

/-- Maps whose entries have the same keys and alike values are alike. -/
theorem Alike.map {rows : List (Value × Value × Value)}
    (each : ∀ row ∈ rows, Alike codecs row.2.1 row.2.2) :
    Alike codecs (.map (rows.map fun row => (row.1, row.2.1)))
      (.map (rows.map fun row => (row.1, row.2.2))) := by
  refine ⟨by simp, ?_⟩
  simp only [Value.encode, Value.write, Value.entryWriters_eq, List.map_map]
  exact writeMap_congr (fun row => row.1) (fun row => ⟨row.2.1, row.2.1.write codecs⟩)
    (fun row => ⟨row.2.2, row.2.2.write codecs⟩) fun row member => (each row member).encoded

/-- The order of entries with different keys does not matter. -/
theorem Alike.reordered {entries others : List (Value × Value)} (perm : entries.Perm others)
    {name : Value × Value → Points} (keys : ∀ entry ∈ entries, entry.1.mapKey = .ok (name entry))
    (different : (entries.map name).Nodup) : Alike codecs (.map entries) (.map others) := by
  have keyed : ∀ table : List (Value × Value),
    (∀ entry ∈ table, entry.1.mapKey = .ok (name entry)) →
      (table.mapM fun entry => entry.1.mapKey.map (·, entry)) =
        .ok (table.map fun entry => (name entry, entry)) := by
    intro table tableKeys
    rw [mapM_eq_ok_iff, List.forall₂_map_right_iff, List.forall₂_same]
    intro entry member
    rw [tableKeys entry member]
    rfl
  have sorted : Text.sortBy (fun entry => entry.1) (entries.map fun entry => (name entry, entry)) =
      Text.sortBy (fun entry => entry.1) (others.map fun entry => (name entry, entry)) :=
    Text.sortBy_eq_of_perm (perm.map _) (by simpa [Function.comp_def] using different)
  refine ⟨by simp [perm.isEmpty_eq], ?_⟩
  simp only [Value.encode, Value.write, Value.entryWriters_eq]
  rw [writeMap, writeMap, mapM_keyedEntry, mapM_keyedEntry, keyed entries keys,
    keyed others fun entry member => keys entry (perm.mem_iff.2 member)]
  simp only [Except.map, bind, Except.bind, Text.sortBy_map, sorted]

/-- Wrappers are alike: they are never empty, and have no form of their own. -/
theorem Alike.wrapper (type : String) (id value otherId otherValue : Value) :
    Alike codecs (.wrapper type id value) (.wrapper type otherId otherValue) :=
  ⟨rfl, by simp⟩

end DeclCodec

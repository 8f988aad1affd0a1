/-!
# Insertion-ordered tables

A table is a list of entries with one entry per key. Looking up is
`List.lookup`; putting a key that is already there replaces its value in place,
and a new key goes to the end. So of several writes to one key the first decides
the place and the last the value.
-/

namespace DeclCodec.Table

universe u v
variable {κ : Type u} {α : Type v} [BEq κ]

/-- Write a value under a key. -/
def put (key : κ) (value : α) : List (κ × α) → List (κ × α)
  | [] => [(key, value)]
  | (held, old) :: rest =>
    if key == held then (held, value) :: rest else (held, old) :: put key value rest

attribute [local simp] put

/-- The table written by a sequence of entries. -/
def ofEntries (entries : List (κ × α)) : List (κ × α) :=
  entries.foldl (fun table entry => put entry.1 entry.2 table) []

/-- A written key is found with its value. -/
theorem lookup_put_self [LawfulBEq κ] (key : κ) (value : α) (table : List (κ × α)) :
    (put key value table).lookup key = some value := by
  induction table with
  | nil => simp
  | cons entry rest inductionHypothesis =>
    obtain ⟨held, old⟩ := entry
    by_cases here : key == held
    · simp [here, List.lookup_cons]
    · simp [here, List.lookup_cons, inductionHypothesis]

/-- Writing one key leaves the others alone. -/
theorem lookup_put_of_ne [LawfulBEq κ] {key other : κ} (different : other ≠ key) (value : α)
    (table : List (κ × α)) : (put key value table).lookup other = table.lookup other := by
  induction table with
  | nil => simp [List.lookup_cons, beq_eq_false_iff_ne.2 different]
  | cons entry rest inductionHypothesis =>
    obtain ⟨held, old⟩ := entry
    by_cases here : key == held
    · have same : key = held := eq_of_beq here
      subst same
      simp [List.lookup_cons, beq_eq_false_iff_ne.2 different]
    · simp [here, List.lookup_cons, inductionHypothesis]

/-- The keys after a write: those before it, and the new one at the end. -/
theorem keys_put [LawfulBEq κ] (key : κ) (value : α) (table : List (κ × α)) :
    (put key value table).map (·.1) =
      if key ∈ table.map (·.1) then table.map (·.1) else table.map (·.1) ++ [key] := by
  induction table with
  | nil => simp
  | cons entry rest inductionHypothesis =>
    obtain ⟨held, old⟩ := entry
    by_cases here : key == held
    · have same : key = held := eq_of_beq here
      subst same
      simp
    · have different : key ≠ held := fun same => here (by simp [same])
      by_cases later : key ∈ rest.map (·.1)
      · simp only [put, here, Bool.false_eq_true, if_false, List.map_cons, inductionHypothesis,
          List.mem_cons, different, false_or, if_pos later]
      · simp only [put, here, Bool.false_eq_true, if_false, List.map_cons, inductionHypothesis,
          List.mem_cons, different, false_or, if_neg later, List.cons_append]

/-- A key that equals none of those in the table goes to the end. -/
theorem put_eq_append {key : κ} {table : List (κ × α)}
    (fresh : ∀ held ∈ table.map (·.1), (key == held) = false) (value : α) :
    put key value table = table ++ [(key, value)] := by
  induction table with
  | nil => rfl
  | cons entry rest inductionHypothesis =>
    obtain ⟨held, old⟩ := entry
    have notHere : (key == held) = false := fresh held List.mem_cons_self
    have notLater := inductionHypothesis fun later member =>
      fresh later (List.mem_cons_of_mem _ member)
    simp [notHere, notLater]

/-- A key is written where it stands first. -/
theorem put_append_cons [LawfulBEq κ] {key : κ} {before : List (κ × α)}
    (later : ∀ held ∈ before.map (·.1), (key == held) = false) (value old : α)
    (rest : List (κ × α)) :
    put key value (before ++ (key, old) :: rest) = before ++ (key, value) :: rest := by
  induction before with
  | nil => simp
  | cons entry before inductionHypothesis =>
    obtain ⟨held, other⟩ := entry
    have notHere : (key == held) = false := later held List.mem_cons_self
    have afterwards := inductionHypothesis fun next member =>
      later next (List.mem_cons_of_mem _ member)
    simp [notHere, afterwards]

/-- A write either leaves the keys as they are, or it puts a key at the end that equals none of
them. -/
theorem keys_put_cases (key : κ) (value : α) (table : List (κ × α)) :
    (put key value table).map (·.1) = table.map (·.1) ∨
      (∀ held ∈ table.map (·.1), (key == held) = false) ∧
        (put key value table).map (·.1) = table.map (·.1) ++ [key] := by
  by_cases fresh : ∀ held ∈ table.map (·.1), (key == held) = false
  · refine .inr ⟨fresh, ?_⟩
    rw [put_eq_append fresh, List.map_append, List.map_singleton]
  · left
    induction table with
    | nil => exact absurd (by simp) fresh
    | cons entry rest inductionHypothesis =>
      obtain ⟨held, old⟩ := entry
      by_cases here : key == held
      · simp [here]
      · have later : ¬∀ held ∈ rest.map (·.1), (key == held) = false := by
          intro others
          apply fresh
          intro other member
          rcases List.mem_cons.1 member with rfl | member
          · exact Bool.eq_false_iff.2 here
          · exact others other member
        simp [here, inductionHypothesis later]

/-- A write brings in no key but its own. -/
theorem eq_or_mem_of_mem_keys_put {key other : κ} {value : α} {table : List (κ × α)}
    (member : other ∈ (put key value table).map (·.1)) : other = key ∨ other ∈ table.map (·.1) := by
  rcases keys_put_cases key value table with unchanged | ⟨_, extended⟩
  · rw [unchanged] at member
    exact .inr member
  · rw [extended] at member
    exact (List.mem_append.1 member).symm.imp_left List.mem_singleton.1

/-- A write keeps different keys different. -/
theorem pairwise_keys_put {table : List (κ × α)}
    (different : (table.map (·.1)).Pairwise fun held later => (later == held) = false) (key : κ)
    (value : α) :
    ((put key value table).map (·.1)).Pairwise fun held later => (later == held) = false := by
  rcases keys_put_cases key value table with unchanged | ⟨fresh, extended⟩
  · rwa [unchanged]
  · rw [extended, List.pairwise_append]
    refine ⟨different, List.pairwise_singleton _ _, ?_⟩
    intro held member later last
    exact List.mem_singleton.1 last ▸ fresh held member

/-- A write brings in one value and keeps the entries besides. -/
theorem mem_put {key : κ} {value : α} {table : List (κ × α)} {entry : κ × α}
    (member : entry ∈ put key value table) : entry.2 = value ∨ entry ∈ table := by
  induction table with
  | nil =>
    rw [put, List.mem_singleton] at member
    exact .inl (member ▸ rfl)
  | cons first rest inductionHypothesis =>
    obtain ⟨held, old⟩ := first
    unfold put at member
    split at member
    · rcases List.mem_cons.1 member with rfl | later
      · exact .inl rfl
      · exact .inr (List.mem_cons_of_mem _ later)
    · rcases List.mem_cons.1 member with rfl | later
      · exact .inr List.mem_cons_self
      · exact (inductionHypothesis later).imp id (List.mem_cons_of_mem _)

/-- A write keeps the keys distinct. -/
theorem nodup_keys_put [LawfulBEq κ] {table : List (κ × α)} (distinct : (table.map (·.1)).Nodup)
    (key : κ) (value : α) : ((put key value table).map (·.1)).Nodup := by
  rw [keys_put]
  split
  · exact distinct
  · next fresh =>
    rw [List.nodup_append]
    refine ⟨distinct, by simp, ?_⟩
    intro held member other single
    rw [List.mem_singleton] at single
    rintro rfl
    exact fresh (single ▸ member)

/-- What is made of every value of a table is found under the same keys. -/
theorem lookup_map {β : Type v} (change : α → β) (key : κ) (table : List (κ × α)) :
    (table.map fun entry => (entry.1, change entry.2)).lookup key =
      (table.lookup key).map change := by
  induction table with
  | nil => rfl
  | cons entry rest inductionHypothesis =>
    obtain ⟨held, old⟩ := entry
    by_cases here : key == held
    · simp [List.lookup_cons, here]
    · simp [List.lookup_cons, here, inductionHypothesis]

/-- What is found under a key stands in the table with it. -/
theorem mem_of_lookup [LawfulBEq κ] {key : κ} {value : α} {table : List (κ × α)}
    (found : table.lookup key = some value) : (key, value) ∈ table := by
  induction table with
  | nil => cases found
  | cons entry rest inductionHypothesis =>
    obtain ⟨held, old⟩ := entry
    by_cases here : key == held
    · have same : key = held := eq_of_beq here
      subst same
      simp only [List.lookup_cons_self, Option.some.injEq] at found
      exact found ▸ List.mem_cons_self
    · rw [List.lookup_cons, Bool.eq_false_iff.2 here] at found
      exact List.mem_cons_of_mem _ (inductionHypothesis found)

/-- Something is found under exactly the keys of the table. -/
theorem isSome_lookup_iff [LawfulBEq κ] {key : κ} {table : List (κ × α)} :
    (table.lookup key).isSome = true ↔ key ∈ table.map (·.1) := by
  induction table with
  | nil => simp
  | cons entry rest inductionHypothesis =>
    obtain ⟨held, old⟩ := entry
    by_cases here : key == held
    · have same : key = held := eq_of_beq here
      simp [same]
    · have different : key ≠ held := fun same => here (by simp [same])
      rw [List.lookup_cons, Bool.eq_false_iff.2 here]
      simp [different]

/-- Where no key occurs twice, every entry is found under its key. -/
theorem lookup_of_mem [LawfulBEq κ] {key : κ} {value : α} {table : List (κ × α)}
    (distinct : (table.map (·.1)).Nodup) (member : (key, value) ∈ table) :
    table.lookup key = some value := by
  induction table with
  | nil => cases member
  | cons entry rest inductionHypothesis =>
    obtain ⟨held, old⟩ := entry
    rw [List.map_cons, List.nodup_cons] at distinct
    rcases List.mem_cons.1 member with first | later
    · cases first
      exact List.lookup_cons_self
    · have different : key ≠ held := by
        rintro rfl
        exact distinct.1 (List.mem_map.2 ⟨_, later, rfl⟩)
      rw [List.lookup_cons, beq_eq_false_iff_ne.2 different]
      exact inductionHypothesis distinct.2 later

/-- Entries that are written one after another add their keys to those that are there. -/
theorem mem_keys_foldl_put [LawfulBEq κ] {key : κ} {entries before : List (κ × α)} :
    key ∈ (entries.foldl (fun table entry => put entry.1 entry.2 table) before).map (·.1) ↔
      key ∈ before.map (·.1) ∨ key ∈ entries.map (·.1) := by
  induction entries generalizing before with
  | nil => simp
  | cons entry rest inductionHypothesis =>
    have written : key ∈ (put entry.1 entry.2 before).map (·.1) ↔
        key ∈ before.map (·.1) ∨ key = entry.1 := by
      rw [keys_put]
      split
      · next held => exact ⟨.inl, fun among => among.elim id fun same => same ▸ held⟩
      · rw [List.mem_append, List.mem_singleton]
    rw [List.foldl_cons, inductionHypothesis, written, List.map_cons, List.mem_cons, or_assoc]

/-- A table has the keys of the entries that it is written by. -/
theorem mem_keys_ofEntries [LawfulBEq κ] {key : κ} {entries : List (κ × α)} :
    key ∈ (ofEntries entries).map (·.1) ↔ key ∈ entries.map (·.1) := by
  simp [ofEntries, mem_keys_foldl_put]

/-- Entries of new and different keys go to the end one after another. -/
theorem foldl_put_eq_append [LawfulBEq κ] {before entries : List (κ × α)}
    (distinct : ((before ++ entries).map (·.1)).Nodup) :
    entries.foldl (fun table entry => put entry.1 entry.2 table) before = before ++ entries := by
  induction entries generalizing before with
  | nil => simp
  | cons entry rest inductionHypothesis =>
    have fresh : ∀ held ∈ before.map (·.1), (entry.1 == held) = false := by
      intro held member
      rw [List.map_append, List.nodup_append] at distinct
      exact beq_eq_false_iff_ne.2 fun same =>
        distinct.2.2 held member entry.1 (by simp) same.symm
    have regrouped : before ++ entry :: rest = (before ++ [entry]) ++ rest := by simp
    rw [regrouped] at distinct ⊢
    rw [List.foldl_cons, put_eq_append fresh]
    exact inductionHypothesis distinct

/-- A table whose entries have different keys is its entries in order. -/
theorem ofEntries_of_nodup [LawfulBEq κ] {entries : List (κ × α)}
    (distinct : (entries.map (·.1)).Nodup) : ofEntries entries = entries :=
  foldl_put_eq_append (by simpa using distinct)

/-- A table has each of its keys once. -/
theorem nodup_keys_ofEntries [LawfulBEq κ] (entries : List (κ × α)) :
    ((ofEntries entries).map (·.1)).Nodup := by
  let KeysOnce (table : List (κ × α)) : Prop := (table.map (·.1)).Nodup
  have each (table : List (κ × α)) (distinct : KeysOnce table) (entry : κ × α)
      (_ : entry ∈ entries) : KeysOnce (put entry.1 entry.2 table) :=
    nodup_keys_put distinct entry.1 entry.2
  exact List.foldlRecOn (motive := KeysOnce) entries _ List.nodup_nil each

/-- Writing keeps the entries besides the written one. -/
theorem eq_or_mem_of_mem_put [LawfulBEq κ] {key : κ} {value : α} {table : List (κ × α)}
    {entry : κ × α} (member : entry ∈ put key value table) :
    entry = (key, value) ∨ entry ∈ table := by
  induction table with
  | nil => exact .inl (List.mem_singleton.1 member)
  | cons first rest inductionHypothesis =>
    obtain ⟨held, old⟩ := first
    unfold put at member
    split at member
    · next here =>
      rw [← eq_of_beq here] at member
      exact (List.mem_cons.1 member).imp_right (List.mem_cons_of_mem _)
    · rcases List.mem_cons.1 member with rfl | later
      · exact .inr List.mem_cons_self
      · exact (inductionHypothesis later).imp_right (List.mem_cons_of_mem _)

/-- A table has no entries but those that it is written by. -/
theorem mem_of_mem_ofEntries [LawfulBEq κ] {entries : List (κ × α)} {entry : κ × α}
    (member : entry ∈ ofEntries entries) : entry ∈ entries := by
  let Among (table : List (κ × α)) : Prop := ∀ held ∈ table, held ∈ entries
  have each (table : List (κ × α)) (among : Among table) (next : κ × α) (isNext : next ∈ entries) :
      Among (put next.1 next.2 table) := by
    intro held isHeld
    rcases eq_or_mem_of_mem_put isHeld with rfl | earlier
    · exact isNext
    · exact among held earlier
  have whole : Among (ofEntries entries) :=
    List.foldlRecOn (motive := Among) entries _ (fun _ held => absurd held List.not_mem_nil) each
  exact whole entry member

end DeclCodec.Table

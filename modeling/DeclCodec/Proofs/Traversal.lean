import DeclCodec.Text.Order
import Mathlib.Data.List.Forall2
import Mathlib.Tactic.Common

/-!
# Steps over lists

A step that can fail is taken for one item after another. The run succeeds
exactly if every step does, and fails with the fault of a step that does not.

Sorting by a key and a change of the items that keeps their keys can be done in
either order.
-/

namespace DeclCodec

universe u v
variable {α : Type u} {β : Type u} {ε : Type v}

/-- What is left of a success is the success. -/
theorem eq_ok_of_toOption {step : Except ε α} {result : α}
    (succeeds : step.toOption = some result) : step = .ok result := by
  cases step with
  | error fault => cases succeeds
  | ok value =>
    cases succeeds
    rfl

/-- A step of which something is left succeeds. -/
theorem exists_ok_of_isSome {step : Except ε α} (succeeds : step.toOption.isSome = true) :
    ∃ result, step = .ok result := by
  obtain ⟨result, isResult⟩ := Option.isSome_iff_exists.1 succeeds
  exact ⟨result, eq_ok_of_toOption isResult⟩

/-- Two steps succeed exactly if the first does and the second does with its result. -/
theorem bind_eq_ok {first : Except ε α} {second : α → Except ε β} {result : β} :
    first >>= second = .ok result ↔ ∃ middle, first = .ok middle ∧ second middle = .ok result := by
  cases first <;> simp [bind, Except.bind]

/-- Two steps fail exactly if the first does or the second does with its result. -/
theorem bind_eq_error {first : Except ε α} {second : α → Except ε β} {fault : ε} :
    first >>= second = .error fault ↔
      first = .error fault ∨ ∃ middle, first = .ok middle ∧ second middle = .error fault := by
  cases first <;> simp [bind, Except.bind]

/-- A changed result is there exactly if the result is. -/
theorem map_eq_ok {change : α → β} {step : Except ε α} {result : β} :
    change <$> step = .ok result ↔ ∃ before, step = .ok before ∧ change before = result := by
  cases step <;> simp [Functor.map, Except.map]

/-- What holds at the start and is handed on by every step holds at the end of a run. It may speak
of the items taken so far. -/
theorem foldlM_invariant {σ : Type u} {α : Type v} {step : σ → α → Except ε σ}
    (invariant : List α → σ → Prop)
    (preserved : ∀ (before : List α) (item : α) (state next : σ), invariant before state →
      step state item = .ok next → invariant (before ++ [item]) next)
    {items : List α} {start finish : σ} (initially : invariant [] start)
    (run : items.foldlM step start = .ok finish) : invariant items finish := by
  have onward : ∀ (items before : List α) (start : σ), invariant before start →
      items.foldlM step start = .ok finish → invariant (before ++ items) finish := by
    intro items
    induction items with
    | nil =>
      intro before start holds run
      cases run
      rwa [List.append_nil]
    | cons item items inductionHypothesis =>
      intro before start holds run
      rw [List.foldlM_cons, bind_eq_ok] at run
      obtain ⟨middle, first, others⟩ := run
      have reached := inductionHypothesis (before ++ [item]) middle
        (preserved before item start middle holds first) others
      rwa [List.append_assoc, List.singleton_append] at reached
  exact onward items [] start initially run

/-- A run that fails has gone well up to an item, and its fault is that of the step for the item. -/
theorem exists_run_of_foldlM_error {σ : Type u} {α : Type v} {step : σ → α → Except ε σ}
    {items : List α} {start : σ} {fault : ε} (failed : items.foldlM step start = .error fault) :
    ∃ before item rest state, items = before ++ item :: rest ∧
      before.foldlM step start = .ok state ∧ step state item = .error fault := by
  induction items generalizing start with
  | nil => cases failed
  | cons item items inductionHypothesis =>
    rw [List.foldlM_cons] at failed
    cases taken : step start item with
    | error first =>
      rw [taken] at failed
      cases failed
      exact ⟨[], item, items, start, rfl, rfl, taken⟩
    | ok next =>
      rw [taken] at failed
      obtain ⟨before, culprit, rest, state, split, run, blame⟩ := inductionHypothesis failed
      refine ⟨item :: before, culprit, rest, state, by rw [split]; rfl, ?_, blame⟩
      rw [List.foldlM_cons, taken]
      exact run

/-- A run fails with the fault of one of its steps. -/
theorem exists_of_foldlM_error {σ : Type u} {α : Type v} {step : σ → α → Except ε σ}
    {items : List α} {start : σ} {fault : ε} (failed : items.foldlM step start = .error fault) :
    ∃ state, ∃ item ∈ items, step state item = .error fault := by
  obtain ⟨before, item, rest, state, split, _, blame⟩ := exists_run_of_foldlM_error failed
  exact ⟨state, item, by rw [split]; simp, blame⟩

/-- A run whose steps are those of another, with other states, goes like the other. -/
theorem foldlM_change {σ α : Type*} {change : σ → σ} {step : σ → α → Except ε σ}
    (same : ∀ state item, step (change state) item = change <$> step state item) (items : List α)
    (start : σ) : items.foldlM step (change start) = change <$> items.foldlM step start := by
  induction items generalizing start with
  | nil => rfl
  | cons item items inductionHypothesis =>
    rw [List.foldlM_cons, List.foldlM_cons, same]
    cases step start item with
    | error fault => rfl
    | ok next => exact inductionHypothesis next

/-- Steps over a list succeed exactly if they do item by item. -/
theorem mapM_eq_ok_iff {step : α → Except ε β} {items : List α} {results : List β} :
    items.mapM step = .ok results ↔
      List.Forall₂ (fun item result => step item = .ok result) items results := by
  induction items generalizing results with
  | nil => cases results <;> simp [pure, Except.pure]
  | cons item items inductionHypothesis =>
    rw [List.mapM_cons]
    constructor
    · intro succeeded
      cases taken : step item with
      | error fault =>
        rw [taken] at succeeded
        cases succeeded
      | ok first =>
        cases later : items.mapM step with
        | error fault =>
          rw [taken, later] at succeeded
          cases succeeded
        | ok others =>
          rw [taken, later] at succeeded
          cases succeeded
          exact .cons taken (inductionHypothesis.1 later)
    · intro related
      cases related with
      | cons taken others =>
        rw [taken, inductionHypothesis.2 others]
        rfl

/-- What each step keeps of its item is kept of all items. -/
theorem map_eq_of_mapM_ok {γ : Type*} {step : α → Except ε β} {before : α → γ} {after : β → γ}
    (keeps : ∀ item result, step item = .ok result → after result = before item) {items : List α}
    {results : List β} (succeeded : items.mapM step = .ok results) :
    results.map after = items.map before := by
  rw [mapM_eq_ok_iff] at succeeded
  induction succeeded with
  | nil => rfl
  | cons taken _ inductionHypothesis =>
    rw [List.map_cons, List.map_cons, inductionHypothesis, keeps _ _ taken]

/-- Steps that agree on the items of a list do so on the list. -/
theorem mapM_congr {step other : α → Except ε β} {items : List α}
    (agree : ∀ item ∈ items, other item = step item) : items.mapM other = items.mapM step := by
  induction items with
  | nil => rfl
  | cons item items inductionHypothesis =>
    rw [List.mapM_cons, List.mapM_cons, agree item List.mem_cons_self,
      inductionHypothesis fun later member => agree later (List.mem_cons_of_mem _ member)]

/-- Steps that agree on what two changes make of the items of a list do so on the changed lists. -/
theorem mapM_map_congr {γ : Type u} {step : β → Except ε γ} {first second : α → β} {items : List α}
    (agree : ∀ item ∈ items, step (first item) = step (second item)) :
    (items.map first).mapM step = (items.map second).mapM step := by
  rw [List.mapM_map, List.mapM_map]
  exact mapM_congr agree

/-- So do selecting steps. -/
theorem filterMapM_map_congr {γ : Type u} {step : β → Except ε (Option γ)} {first second : α → β}
    {items : List α} (agree : ∀ item ∈ items, step (first item) = step (second item)) :
    (items.map first).filterMapM step = (items.map second).filterMapM step := by
  induction items with
  | nil => rfl
  | cons item items inductionHypothesis =>
    rw [List.map_cons, List.map_cons, List.filterMapM_cons, List.filterMapM_cons,
      agree item List.mem_cons_self,
      inductionHypothesis fun later member => agree later (List.mem_cons_of_mem _ member)]

/-- Of lists that belong together item by item, each item of the first belongs to one of the
second. -/
theorem exists_right_of_forall₂ {α : Type u} {β : Type v} {related : α → β → Prop} {items : List α}
    {others : List β} (each : List.Forall₂ related items others) {item : α}
    (member : item ∈ items) : ∃ other ∈ others, related item other := by
  induction each with
  | nil => cases member
  | cons first _ inductionHypothesis =>
    rcases List.mem_cons.1 member with rfl | later
    · exact ⟨_, List.mem_cons_self, first⟩
    · obtain ⟨other, among, belongs⟩ := inductionHypothesis later
      exact ⟨other, List.mem_cons_of_mem _ among, belongs⟩

/-- And each item of the second belongs to one of the first. -/
theorem exists_left_of_forall₂ {α : Type u} {β : Type v} {related : α → β → Prop} {items : List α}
    {others : List β} (each : List.Forall₂ related items others) {other : β}
    (member : other ∈ others) : ∃ item ∈ items, related item other :=
  exists_right_of_forall₂ each.flip member

/-- Where steps over a list succeed, each of them does, with one of the results. -/
theorem exists_of_mapM_ok {step : α → Except ε β} {items : List α} {results : List β}
    (succeeded : items.mapM step = .ok results) {item : α} (member : item ∈ items) :
    ∃ result ∈ results, step item = .ok result :=
  exists_right_of_forall₂ (mapM_eq_ok_iff.1 succeeded) member

/-- Each result of steps over a list is the result of one of them. -/
theorem exists_item_of_mapM_ok {step : α → Except ε β} {items : List α} {results : List β}
    (succeeded : items.mapM step = .ok results) {result : β} (member : result ∈ results) :
    ∃ item ∈ items, step item = .ok result :=
  exists_left_of_forall₂ (mapM_eq_ok_iff.1 succeeded) member

/-- Steps over a list fail with the fault of one of them. -/
theorem exists_of_mapM_error {step : α → Except ε β} {items : List α} {fault : ε}
    (failed : items.mapM step = .error fault) : ∃ item ∈ items, step item = .error fault := by
  induction items with
  | nil => simp [pure, Except.pure] at failed
  | cons item items inductionHypothesis =>
    rw [List.mapM_cons] at failed
    cases taken : step item with
    | error first =>
      rw [taken] at failed
      cases failed
      exact ⟨item, List.mem_cons_self, taken⟩
    | ok first =>
      cases later : items.mapM step with
      | error second =>
        rw [taken, later] at failed
        cases failed
        obtain ⟨culprit, member, blame⟩ := inductionHypothesis later
        exact ⟨culprit, List.mem_cons_of_mem _ member, blame⟩
      | ok others =>
        rw [taken, later] at failed
        cases failed

/-- Selecting steps that succeed with a function's values succeed with what the function selects. -/
theorem filterMapM_eq_ok {step : α → Except ε (Option β)} {result : α → Option β} {items : List α}
    (each : ∀ item ∈ items, step item = .ok (result item)) :
    items.filterMapM step = .ok (items.filterMap result) := by
  induction items with
  | nil => rfl
  | cons item items inductionHypothesis =>
    have others := inductionHypothesis fun other member =>
      each other (List.mem_cons_of_mem _ member)
    rw [List.filterMapM_cons, each item List.mem_cons_self]
    cases chosen : result item <;> simp [bind, Except.bind, others, chosen, pure, Except.pure]

/-- Where selecting steps over a list succeed, each of them does. -/
theorem exists_of_filterMapM_ok {step : α → Except ε (Option β)} {items : List α} {results : List β}
    (succeeded : items.filterMapM step = .ok results) {item : α} (member : item ∈ items) :
    ∃ chosen, step item = .ok chosen := by
  induction items generalizing results with
  | nil => cases member
  | cons first rest inductionHypothesis =>
    rw [List.filterMapM_cons, bind_eq_ok] at succeeded
    obtain ⟨chosen, isFirst, later⟩ := succeeded
    rcases List.mem_cons.1 member with rfl | isLater
    · exact ⟨chosen, isFirst⟩
    · cases chosen with
      | none => exact inductionHypothesis later isLater
      | some result =>
        dsimp only at later
        rw [bind_eq_ok] at later
        obtain ⟨others, isOthers, _⟩ := later
        exact inductionHypothesis isOthers isLater

/-- What selecting steps over a list select is what one of them selects. -/
theorem mem_of_filterMapM_ok {step : α → Except ε (Option β)} {items : List α} {results : List β}
    (succeeded : items.filterMapM step = .ok results) {result : β} :
    result ∈ results ↔ ∃ item ∈ items, step item = .ok (some result) := by
  induction items generalizing results with
  | nil =>
    cases succeeded
    simp
  | cons first rest inductionHypothesis =>
    rw [List.filterMapM_cons, bind_eq_ok] at succeeded
    obtain ⟨chosen, isFirst, later⟩ := succeeded
    cases chosen with
    | none =>
      rw [inductionHypothesis later]
      simp [isFirst]
    | some selected =>
      dsimp only at later
      rw [bind_eq_ok] at later
      obtain ⟨others, isOthers, same⟩ := later
      cases same
      rw [List.mem_cons, inductionHypothesis isOthers]
      simp [isFirst, eq_comm]

/-- Selecting steps over a list fail with the fault of one of them. -/
theorem exists_of_filterMapM_error {step : α → Except ε (Option β)} {items : List α} {fault : ε}
    (failed : items.filterMapM step = .error fault) : ∃ item ∈ items, step item = .error fault := by
  induction items with
  | nil => simp [pure, Except.pure] at failed
  | cons first rest inductionHypothesis =>
    rw [List.filterMapM_cons] at failed
    cases taken : step first with
    | error other =>
      rw [taken] at failed
      cases failed
      exact ⟨first, List.mem_cons_self, taken⟩
    | ok chosen =>
      have later : rest.filterMapM step = .error fault := by
        rw [taken] at failed
        cases run : rest.filterMapM step <;> cases chosen <;>
          simp_all [bind, Except.bind, pure, Except.pure]
      obtain ⟨culprit, member, blame⟩ := inductionHypothesis later
      exact ⟨culprit, List.mem_cons_of_mem _ member, blame⟩

/-- Where selecting steps over a list do not all succeed, they fail with the fault of the first that
does not. -/
theorem exists_first_of_filterMapM {step : α → Except ε (Option β)} {items : List α}
    (oneFails : ∃ item ∈ items, ∀ chosen, step item ≠ .ok chosen) :
    ∃ before item after fault, items = before ++ item :: after ∧
      (∀ earlier ∈ before, ∃ chosen, step earlier = .ok chosen) ∧ step item = .error fault ∧
      items.filterMapM step = .error fault := by
  induction items with
  | nil => simp at oneFails
  | cons first rest inductionHypothesis =>
    rw [List.filterMapM_cons]
    cases taken : step first with
    | error fault => exact ⟨[], first, rest, fault, rfl, by simp, taken, rfl⟩
    | ok chosen =>
      have later : ∃ item ∈ rest, ∀ chosen, step item ≠ .ok chosen := by
        obtain ⟨item, member, fails⟩ := oneFails
        rcases List.mem_cons.1 member with rfl | among
        · exact absurd taken (fails chosen)
        · exact ⟨item, among, fails⟩
      obtain ⟨before, item, after, fault, split, fine, blame, failed⟩ := inductionHypothesis later
      refine ⟨first :: before, item, after, fault, by rw [split]; rfl, ?_, blame, ?_⟩
      · exact List.forall_mem_cons.2 ⟨⟨chosen, taken⟩, fine⟩
      · rw [failed]
        cases chosen <;> rfl

/-- What every item of a list has can be listed beside the items. -/
theorem exists_rows {α : Type u} {β : Type v} {related : α → β → Prop} {items : List α}
    (each : ∀ item ∈ items, ∃ beside, related item beside) :
    ∃ rows : List (α × β), rows.map (·.1) = items ∧ ∀ row ∈ rows, related row.1 row.2 := by
  induction items with
  | nil => exact ⟨[], rfl, by simp⟩
  | cons item items inductionHypothesis =>
    obtain ⟨beside, first⟩ := each item List.mem_cons_self
    obtain ⟨rows, sides, all⟩ := inductionHypothesis fun other member =>
      each other (List.mem_cons_of_mem _ member)
    refine ⟨(item, beside) :: rows, by simp [sides], ?_⟩
    intro row member
    rcases List.mem_cons.1 member with rfl | later
    · exact first
    · exact all row later

/-- Lists belong together item by item exactly if they can be listed side by side. -/
theorem forall₂_iff_exists_rows {α : Type u} {β : Type v} {related : α → β → Prop} {items : List α}
    {others : List β} : List.Forall₂ related items others ↔
      ∃ rows : List (α × β), rows.map (·.1) = items ∧ rows.map (·.2) = others ∧
        ∀ row ∈ rows, related row.1 row.2 := by
  constructor
  · intro each
    induction each with
    | nil => exact ⟨[], rfl, rfl, by simp⟩
    | @cons item other _ _ first _ inductionHypothesis =>
      obtain ⟨rows, rfl, rfl, all⟩ := inductionHypothesis
      exact ⟨(item, other) :: rows, rfl, rfl, List.forall_mem_cons.2 ⟨first, all⟩⟩
  · rintro ⟨rows, rfl, rfl, each⟩
    rw [List.forall₂_map_left_iff, List.forall₂_map_right_iff, List.forall₂_same]
    exact each

/-- Where not all items of a list have a property, there is a first that does not. -/
theorem exists_first_of_not_forall {α : Type u} {holds : α → Prop} {items : List α}
    (lacking : ¬∀ item ∈ items, holds item) :
    ∃ before item rest, items = before ++ item :: rest ∧ (∀ other ∈ before, holds other) ∧
      ¬holds item := by
  induction items with
  | nil => exact absurd (by simp) lacking
  | cons item items inductionHypothesis =>
    by_cases first : holds item
    · obtain ⟨before, culprit, rest, split, all, lacks⟩ := inductionHypothesis fun others =>
        lacking (List.forall_mem_cons.2 ⟨first, others⟩)
      exact ⟨item :: before, culprit, rest, by rw [split]; rfl,
        List.forall_mem_cons.2 ⟨first, all⟩, lacks⟩
    · exact ⟨[], item, items, rfl, by simp, first⟩

/-! ## What a step may fail with -/

/-- Steps over a list fail with the fault of a step before which all succeed. -/
theorem mapM_eq_error {step : α → Except ε β} {before rest : List α} {item : α} {fault : ε}
    (each : ∀ other ∈ before, ∃ result, step other = .ok result)
    (failed : step item = .error fault) :
    (before ++ item :: rest).mapM step = .error fault := by
  induction before with
  | nil =>
    rw [List.nil_append, List.mapM_cons, failed]
    rfl
  | cons other before inductionHypothesis =>
    obtain ⟨result, taken⟩ := each other List.mem_cons_self
    rw [List.cons_append, List.mapM_cons, taken,
      inductionHypothesis fun next member => each next (List.mem_cons_of_mem other member)]
    rfl

/-- So does a run, if the states do not matter to whether a step succeeds. -/
theorem foldlM_eq_error {σ : Type u} {α : Type v} {step : σ → α → Except ε σ}
    {before rest : List α} {item : α} {fault : ε}
    (each : ∀ other ∈ before, ∀ state, ∃ next, step state other = .ok next)
    (failed : ∀ state, step state item = .error fault) (start : σ) :
    (before ++ item :: rest).foldlM step start = .error fault := by
  induction before generalizing start with
  | nil =>
    rw [List.nil_append, List.foldlM_cons, failed]
    rfl
  | cons other before inductionHypothesis =>
    obtain ⟨next, taken⟩ := each other List.mem_cons_self start
    rw [List.cons_append, List.foldlM_cons, taken]
    exact inductionHypothesis
      (fun later member => each later (List.mem_cons_of_mem other member)) next

/-- Are all faults of a step of a kind? -/
def FaultsAre (kind : ε → Prop) (step : Except ε α) : Prop :=
  ∀ fault, step = .error fault → kind fault

namespace FaultsAre

variable {kind : ε → Prop}

/-- A success is no fault. -/
theorem of_ok {value : α} : FaultsAre kind (.ok value : Except ε α) := by
  intro fault failed
  cases failed

/-- A failure has its own fault only. -/
theorem of_error {fault : ε} (isKind : kind fault) :
    FaultsAre kind (.error fault : Except ε α) := by
  intro other failed
  cases failed
  exact isKind

/-- Faults of a kind are of every kind that it belongs to. -/
theorem mono {wider : ε → Prop} {step : Except ε α} (faults : FaultsAre kind step)
    (belongs : ∀ fault, kind fault → wider fault) : FaultsAre wider step :=
  fun fault failed => belongs fault (faults fault failed)

/-- Two steps have the faults of both. -/
theorem bind {first : Except ε α} {second : α → Except ε β} (firstFaults : FaultsAre kind first)
    (secondFaults : ∀ value, first = .ok value → FaultsAre kind (second value)) :
    FaultsAre kind (first >>= second) := by
  intro fault failed
  rcases bind_eq_error.1 failed with atOnce | ⟨value, done, later⟩
  · exact firstFaults fault atOnce
  · exact secondFaults value done fault later

/-- Steps over a list have the faults of each. -/
theorem mapM {step : α → Except ε β} {items : List α}
    (each : ∀ item ∈ items, FaultsAre kind (step item)) : FaultsAre kind (items.mapM step) := by
  intro fault failed
  obtain ⟨item, member, blame⟩ := exists_of_mapM_error failed
  exact each item member fault blame

/-- A run has the faults of its steps. -/
theorem foldlM {σ : Type u} {α : Type v} {step : σ → α → Except ε σ} {items : List α} {start : σ}
    (each : ∀ item ∈ items, ∀ state, FaultsAre kind (step state item)) :
    FaultsAre kind (items.foldlM step start) := by
  intro fault failed
  obtain ⟨state, item, member, blame⟩ := exists_of_foldlM_error failed
  exact each item member state fault blame

/-- A step whose faults are changed has the changed faults. -/
theorem mapError {η : Type v} {kind : η → Prop} {change : ε → η} {step : Except ε α}
    (faults : FaultsAre (fun fault => kind (change fault)) step) :
    FaultsAre kind (step.mapError change) := by
  intro fault failed
  cases step with
  | error inner =>
    cases failed
    exact faults inner rfl
  | ok value => cases failed

end FaultsAre

namespace Text

/-- Items that keep their keys are inserted at the same place. -/
theorem insertBy_map {α : Type u} {β : Type v} (key : β → Points) (change : α → β) (item : α)
    (items : List α) :
    insertBy key (change item) (items.map change) =
      (insertBy (fun item => key (change item)) item items).map change := by
  induction items with
  | nil => rfl
  | cons other rest inductionHypothesis =>
    rw [List.map_cons, insertBy, insertBy]
    split
    · rfl
    · rw [inductionHypothesis, List.map_cons]

/-- Changed items are sorted as the items are, if the change keeps the keys. -/
theorem sortBy_map {α : Type u} {β : Type v} (key : β → Points) (change : α → β) (items : List α) :
    sortBy key (items.map change) =
      (sortBy (fun item => key (change item)) items).map change := by
  induction items with
  | nil => rfl
  | cons item rest inductionHypothesis =>
    rw [List.map_cons, sortBy, inductionHypothesis, insertBy_map, sortBy]

/-- Sorting keeps the items. -/
theorem mem_sortBy {α : Type u} {key : α → Points} {items : List α} {item : α} :
    item ∈ sortBy key items ↔ item ∈ items := (sortBy_perm key items).mem_iff

end Text

end DeclCodec

import DeclCodec.Proofs.Json.Literals
import DeclCodec.Proofs.Json.RoundTrip
import DeclCodec.Proofs.Traversal
import DeclCodec.Tag

/-!
# Written tags

A tag is written from pairs of a key and a value, with white space around them or
none. The value stands between double quotes as the inside of a JSON string, where
every quote of its own is behind a backslash. So a value is closed by the quote that
was written to close it, and what looks like a pair inside of a value is passed over
with the value.

The pairs that are found in such a tag are those that were written, in their order.
Looking up a key therefore gives the value of the first pair with that key. A value
that was written to JSON comes back with its surrogate pairs joined: its two escapes
are read as the character they write together.
-/

namespace DeclCodec.Tag

/-- A text that can be the key of a pair. -/
structure Key where
  text : Points
  nonempty : text ≠ []
  parts : ∀ point ∈ text, isKeyPart point = true

/-- A pair that can be written: the inside of a JSON string behind a key, and the value that the
string denotes. -/
structure WrittenPair where
  key : Key
  inside : Points
  value : Points
  denotes : Json.parse (.char '"' :: (inside ++ [.char '"'])) = .ok (.str value)

/-- The text of a pair. -/
def WrittenPair.written (pair : WrittenPair) : Points :=
  pair.key.text ++ .char ':' :: .char '"' :: (pair.inside ++ [.char '"'])

/-- The pair in which a value stands as it is written to JSON. -/
def WrittenPair.quoted (key : Key) (value : Points) : WrittenPair where
  key
  inside := Text.points (Json.escape value)
  value := Text.joined value
  denotes := by simpa [Json.quote] using Json.parse_quote value

/-- A text made of parts with white space, or none, before and after each of them. -/
inductive Spaced : List Points → Points → Prop
  | nil {gap : List Char} (blank : ∀ c ∈ gap, Text.isBlank c = true) : Spaced [] (Text.points gap)
  | cons {gap : List Char} {part rest : Points} {parts : List Points}
      (blank : ∀ c ∈ gap, Text.isBlank c = true) (others : Spaced parts rest) :
      Spaced (part :: parts) (Text.points gap ++ (part ++ rest))

/-! ## Finding the pairs -/

/-- What is no part of a key is passed over where a key could begin. -/
theorem pairs_cons {point : CodePoint} (noPart : isKeyPart point = false) (rest : Points) :
    pairs (point :: rest) = pairs rest := by
  rw [pairs, if_neg (by simp [noPart])]

/-- So is white space. -/
theorem pairs_blank {gap : List Char} (blank : ∀ c ∈ gap, Text.isBlank c = true)
    (rest : Points) : pairs (Text.points gap ++ rest) = pairs rest := by
  induction gap with
  | nil => rfl
  | cons c gap inductionHypothesis =>
    rw [List.forall_mem_cons] at blank
    have noPart : isKeyPart (.char c) = false := by simp [isKeyPart, CodePoint.char?, blank.1]
    rw [Text.points_cons, List.cons_append, pairs_cons noPart, inductionHypothesis blank.2]

/-- Where a key and its value begin, the pair is found, and the search goes on behind its closing
quote. -/
theorem pairs_written (pair : WrittenPair) (rest : Points) :
    pairs (pair.written ++ rest) = (pair.key.text, pair.inside) :: pairs rest := by
  obtain ⟨⟨text, nonempty, parts⟩, inside, value, denotes⟩ := pair
  obtain ⟨point, others, rfl⟩ := List.exists_cons_of_ne_nil nonempty
  have whole : WrittenPair.written ⟨⟨point :: others, nonempty, parts⟩, inside, value, denotes⟩ ++
      rest = point :: (others ++ .char ':' :: .char '"' :: (inside ++ .char '"' :: rest)) := by
    simp [WrittenPair.written]
  rw [List.forall_mem_cons] at parts
  -- The colon behind the key ends it.
  have noPart : ¬isKeyPart (.char ':') = true := by decide
  have key : (others ++ .char ':' :: .char '"' :: (inside ++ .char '"' :: rest)).takeWhile
      isKeyPart = others := by
    rw [List.takeWhile_append_of_pos parts.2, List.takeWhile_cons_of_neg noPart, List.append_nil]
  have behind : (others ++ .char ':' :: .char '"' :: (inside ++ .char '"' :: rest)).dropWhile
      isKeyPart = .char ':' :: .char '"' :: (inside ++ .char '"' :: rest) := by
    rw [List.dropWhile_append_of_pos parts.2, List.dropWhile_cons_of_neg noPart]
  have closed : valueAfterKey? (.char ':' :: .char '"' :: (inside ++ .char '"' :: rest)) =
      some (inside, rest) :=
    Text.enclosed?_acrossLines ((Json.unescape_of_parse denotes).2 rest)
  rw [whole, pairs, if_pos parts.1]
  split
  · next after found =>
    rw [behind, closed] at found
    cases found
    rw [key]
  · next found =>
    rw [behind, closed] at found
    cases found

/-- In a text made of written pairs these pairs are found, and no others. -/
theorem pairs_spaced {written : List WrittenPair} {text : Points}
    (spaced : Spaced (written.map WrittenPair.written) text) :
    pairs text = written.map fun pair => (pair.key.text, pair.inside) := by
  induction written generalizing text with
  | nil =>
    obtain ⟨blank⟩ := spaced
    have nothing := pairs_blank blank []
    rwa [List.append_nil, pairs] at nothing
  | cons pair written inductionHypothesis =>
    obtain _ | ⟨blank, others⟩ := spaced
    rw [pairs_blank blank, pairs_written, inductionHypothesis others, List.map_cons]

/-- The first pair under a key is found by its key. -/
theorem lookup_pairs (written : List WrittenPair) (key : Points) :
    (written.map fun pair => (pair.key.text, pair.inside)).lookup key =
      (written.find? (·.key.text = key)).map (·.inside) := by
  induction written with
  | nil => rfl
  | cons pair written inductionHypothesis =>
    rw [List.map_cons, List.lookup_cons]
    by_cases same : pair.key.text = key
    · simp [same]
    · rw [beq_eq_false_iff_ne.2 (Ne.symm same), List.find?_cons_of_neg (by simpa using same)]
      exact inductionHypothesis

/-! ## Looking up -/

/-- A tag of written pairs, with white space before and after each of them or none, is looked up
without a fault: a key has the value of the first pair with that key, and the empty value if there
is none. So it is for any values that are written to JSON, and each key then has the first value
that was written behind it, with its surrogate pairs joined; so it has that value itself exactly if
there are none in it. -/
theorem lookup_spaced :
    (∀ (written : List WrittenPair) (tag : Points),
      Spaced (written.map WrittenPair.written) tag → ∀ key,
        lookup (some tag) key = .ok ((written.find? (·.key.text = key)).elim [] (·.value))) ∧
      ∀ (entries : List (Key × Points)) (tag : Points),
        Spaced (entries.map fun entry =>
          entry.1.text ++ .char ':' :: Text.points (Json.quote entry.2)) tag → ∀ key,
        lookup (some tag) key =
            .ok ((entries.find? (·.1.text = key)).elim [] fun entry => Text.joined entry.2) ∧
          ∀ entry, entries.find? (·.1.text = key) = some entry →
            (lookup (some tag) key = .ok entry.2 ↔ Text.IsJoined entry.2) := by
  have found : ∀ (written : List WrittenPair) (tag : Points),
      Spaced (written.map WrittenPair.written) tag → ∀ key,
        lookup (some tag) key = .ok ((written.find? (·.key.text = key)).elim [] (·.value)) := by
    intro written tag spaced key
    rw [lookup, Option.getD_some, pairs_spaced spaced, lookup_pairs]
    cases written.find? (·.key.text = key) with
    | none => rfl
    | some pair =>
      dsimp only [Option.map_some, Option.elim]
      rw [(Json.unescape_of_parse pair.denotes).1]
      rfl
  refine ⟨found, fun entries tag spaced key => ?_⟩
  have texts : entries.map (fun entry =>
      entry.1.text ++ .char ':' :: Text.points (Json.quote entry.2)) =
        (entries.map fun entry => WrittenPair.quoted entry.1 entry.2).map WrittenPair.written := by
    simp [WrittenPair.written, WrittenPair.quoted, Json.quote]
  have same := found (entries.map fun entry => .quoted entry.1 entry.2) tag (texts ▸ spaced) key
  rw [List.find?_map] at same
  have joined : lookup (some tag) key =
      .ok ((entries.find? (·.1.text = key)).elim [] fun entry => Text.joined entry.2) := by
    rw [same]
    change Except.ok (((entries.find? (·.1.text = key)).map _).elim [] _) = _
    cases entries.find? (·.1.text = key) <;> rfl
  refine ⟨joined, fun entry first => ?_⟩
  rw [joined, first, Option.elim_some, Except.ok.injEq]
  rfl

/-- In such a tag, what looks like a pair inside of a value is none. -/
theorem lookup_spaced_nested :
    lookup (some "id:\"x\\\" ref:\\\"no\"\tref:\"yes\"") "id" = .ok "x\" ref:\"no" ∧
      lookup (some "id:\"x\\\" ref:\\\"no\"\tref:\"yes\"") "ref" = .ok "yes" := by
  have built (one two : Points) : Spaced [one, two]
      (Text.points [] ++ (one ++ (Text.points ['\t'] ++ (two ++ Text.points [])))) :=
    .cons (by simp) (.cons (List.forall_mem_singleton.2 (by decide)) (.nil (by simp)))
  have spaced : Spaced
    [Text.points "id".toList ++ .char ':' :: Text.points (Json.quote "x\" ref:\"no"),
      Text.points "ref".toList ++ .char ':' :: Text.points (Json.quote "yes")]
      "id:\"x\\\" ref:\\\"no\"\tref:\"yes\"" := by
    convert built _ _ using 1
    decide +kernel
  have found := lookup_spaced.2
    [(⟨"id", by decide, List.all_eq_true.1 (by decide)⟩, "x\" ref:\"no"),
      (⟨"ref", by decide, List.all_eq_true.1 (by decide)⟩, "yes")] _ spaced
  exact ⟨(found "id").1.trans (by decide +kernel), (found "ref").1.trans (by decide +kernel)⟩

/-- A value of a high surrogate and a low one does not come back: it is looked up as the character
that the two write. -/
theorem not_lookup_spaced_surrogates :
    lookup (some (Text.points ("id:".toList ++ Json.quote Text.halves))) "id" = .ok "😀" ∧
      lookup (some (Text.points ("id:".toList ++ Json.quote Text.halves))) "id" ≠
        .ok Text.halves := by
  have found : lookup (some (Text.points ("id:".toList ++ Json.quote Text.halves))) "id" =
      .ok "😀" := eq_ok_of_toOption (by decide +kernel)
  refine ⟨found, ?_⟩
  rw [found]
  decide

end DeclCodec.Tag

import DeclCodec.Proofs.Json.Strict
import DeclCodec.Proofs.Wire.Parts

/-!
# What is written is strict JSON

A value is written by the grammar of JSON, except that raw text, and the text of
an object that writes itself, is copied as it stands. So the text of a value is
strict if the texts copied into it are, and a number that is not finite is refused
unless it is in one of them.
-/

namespace DeclCodec

namespace Value

mutual

/-- The texts that are copied when a value is written. -/
def copied : Value → List String
  | .raw text => if text = "" then [] else [text]
  | .selfWriting text => [text]
  | .list items => copiedOfItems items
  | .tuple items => copiedOfItems items
  | .map entries => copiedOfEntries entries
  | .record _ fields => copiedOfFields fields
  | .wrapper _ id value => id.copied ++ value.copied
  | _ => []

/-- The texts that are copied from items. -/
def copiedOfItems : List Value → List String
  | [] => []
  | item :: rest => item.copied ++ copiedOfItems rest

/-- The texts that are copied from the values of entries. -/
def copiedOfEntries : List (Value × Value) → List String
  | [] => []
  | (_, value) :: rest => value.copied ++ copiedOfEntries rest

/-- The texts that are copied from fields. -/
def copiedOfFields : List (String × Value) → List String
  | [] => []
  | (_, value) :: rest => value.copied ++ copiedOfFields rest

end

/-- The items' texts are copied. -/
theorem copiedOfItems_eq (items : List Value) : copiedOfItems items = items.flatMap copied := by
  induction items with
  | nil => rfl
  | cons item rest inductionHypothesis =>
    rw [copiedOfItems, List.flatMap_cons, inductionHypothesis]

/-- The values' texts are copied. -/
theorem copiedOfEntries_eq (entries : List (Value × Value)) :
    copiedOfEntries entries = entries.flatMap (·.2.copied) := by
  induction entries with
  | nil => rfl
  | cons entry rest inductionHypothesis =>
    rw [copiedOfEntries, List.flatMap_cons, inductionHypothesis]

/-- The fields' texts are copied. -/
theorem copiedOfFields_eq (fields : List (String × Value)) :
    copiedOfFields fields = fields.flatMap (·.2.copied) := by
  induction fields with
  | nil => rfl
  | cons field rest inductionHypothesis =>
    rw [copiedOfFields, List.flatMap_cons, inductionHypothesis]

mutual

/-- The numbers in a value, outside of raw text and of records. -/
def looseNumbers : Value → List Binary64
  | .float number => [number]
  | .list items => looseNumbersOfItems items
  | .tuple items => looseNumbersOfItems items
  | .map entries => looseNumbersOfEntries entries
  | _ => []

/-- The numbers in items. -/
def looseNumbersOfItems : List Value → List Binary64
  | [] => []
  | item :: rest => item.looseNumbers ++ looseNumbersOfItems rest

/-- The numbers in the values of entries. -/
def looseNumbersOfEntries : List (Value × Value) → List Binary64
  | [] => []
  | (_, value) :: rest => value.looseNumbers ++ looseNumbersOfEntries rest

end

end Value

/-! ## Writing -/

/-- Does a writer write strict text only? -/
def Writer.Sound (writer : Writer) : Prop :=
  ∀ aspect text, writer.write aspect = .ok text → Json.Strict text

/-- A record of sound fields is written by the grammar. -/
theorem Codecs.strict_writeRecord {codecs : Codecs} {type : String}
    {fields : List (String × Writer)} (sound : ∀ field ∈ fields, field.2.Sound) {text : List Char}
    (written : codecs.writeRecord type fields = .ok text) : Json.Strict text := by
  unfold writeRecord at written
  split at written
  · cases written
  · rw [bind_eq_ok] at written
    obtain ⟨entries, run, same⟩ := written
    cases same
    refine Json.strict_braced fun text member => ?_
    obtain ⟨entry, _, chosen⟩ := (mem_of_filterMapM_ok run).1 member
    unfold Write.text? at chosen
    split at chosen
    · cases chosen
    · next writer found =>
      obtain ⟨aspect?, _, rest⟩ := bind_eq_ok.1 chosen
      cases aspect? with
      | none => cases rest
      | some aspect =>
        obtain ⟨value, success, same⟩ := bind_eq_ok.1 rest
        cases same
        have strict := sound _ (Table.mem_of_lookup found) aspect value success
        exact ⟨_, value, Json.isString_quote entry.key, strict, rfl⟩

/-- A map of sound values is written by the grammar. -/
theorem strict_writeMap {entries : List (Value × Writer)} (sound : ∀ entry ∈ entries, entry.2.Sound)
    {text : List Char} (written : writeMap entries = .ok text) : Json.Strict text := by
  simp only [writeMap, bind_eq_ok] at written
  obtain ⟨keyed, keysRun, texts, run, same⟩ := written
  cases same
  refine Json.strict_braced fun text member => ?_
  obtain ⟨entry, among, success⟩ := exists_item_of_mapM_ok run member
  obtain ⟨value, writes, same⟩ := bind_eq_ok.1 success
  cases same
  obtain ⟨source, held, isEntry⟩ := exists_item_of_mapM_ok keysRun (Text.mem_sortBy.1 among)
  obtain ⟨key, _, same⟩ := bind_eq_ok.1 isEntry
  cases same
  exact ⟨_, value, Json.isString_quote _, sound source held .whole value writes, rfl⟩

namespace Value

variable (codecs : Codecs)

mutual

/-- What is written of a value is strict if the texts copied into it are. -/
theorem strict_of_write : (value : Value) →
    (∀ text ∈ value.copied, Json.Strict text.toList) → (⟨value, value.write codecs⟩ : Writer).Sound
  | .null, _, .whole, _, written => by
    cases written
    exact .word (by decide)
  | .bool true, _, .whole, _, written => by
    cases written
    exact .word (by decide)
  | .bool false, _, .whole, _, written => by
    cases written
    exact .word (by decide)
  | .int value, _, .whole, _, written => by
    cases written
    exact .number (Json.isNumber_intText value)
  | .float number, _, .whole, _, written => by
    dsimp only at written
    rw [write] at written
    split at written
    · next finite =>
      cases written
      exact .number (Json.isNumber_write rfl finite)
    · cases written
  | .str text, _, .whole, _, written => by
    cases written
    exact .string (Json.isString_quote text)
  | .bytes content, _, .whole, _, written => by
    cases written
    exact .string (Json.isString_base64 content)
  | .byteArray content, _, .whole, _, written => by
    cases written
    exact .string (Json.isString_base64 content)
  | .raw text, strict, .whole, _, written => by
    cases written
    split
    · exact .word (by decide)
    · next nonempty => exact strict text (by simp [copied, nonempty])
  | .list items, strict, .whole, _, written => by
    obtain ⟨texts, run, same⟩ := bind_eq_ok.1 written
    cases same
    exact Json.strict_bracketed (strict_of_writeItems items strict run)
  | .tuple items, strict, .whole, _, written => by
    obtain ⟨texts, run, same⟩ := bind_eq_ok.1 written
    cases same
    exact Json.strict_bracketed (strict_of_writeItems items strict run)
  | .map entries, strict, .whole, _, written =>
    strict_writeMap (sound_entryWriters entries strict) written
  | .selfWriting text, strict, .whole, _, written => by
    cases written
    exact strict text (by simp [copied])
  | .formless, _, .whole, _, written => by cases written
  | .record type fields, strict, .whole, _, written =>
    Codecs.strict_writeRecord (sound_fieldWriters fields strict) written
  | .record type fields, strict, .side name, text, written => by
    dsimp only at written
    rw [write] at written
    split at written
    · next writer found =>
      exact sound_fieldWriters fields strict _ (Table.mem_of_lookup found) .whole text written
    · cases written
  | .wrapper _ _ _, _, .whole, _, written => by cases written
  | .wrapper type id value, strict, .side name, text, written => by
    rw [copied, List.forall_mem_append] at strict
    dsimp only at written
    rw [write] at written
    split at written
    · exact strict_of_write id strict.1 .whole text written
    split at written
    · exact strict_of_write value strict.2 .whole text written
    · cases written
  | .bool value, _, .side _, _, written => by cases value <;> cases written
  | .null, _, .side _, _, written | .int _, _, .side _, _, written
  | .float _, _, .side _, _, written | .str _, _, .side _, _, written
  | .bytes _, _, .side _, _, written | .byteArray _, _, .side _, _, written
  | .raw _, _, .side _, _, written | .list _, _, .side _, _, written
  | .tuple _, _, .side _, _, written | .map _, _, .side _, _, written
  | .selfWriting _, _, .side _, _, written | .formless, _, .side _, _, written => by cases written

/-- So are the texts of items. -/
theorem strict_of_writeItems : (items : List Value) →
    (∀ text ∈ copiedOfItems items, Json.Strict text.toList) → {texts : List (List Char)} →
      writeItems codecs items = .ok texts → ∀ text ∈ texts, Json.Strict text
  | [], _, _, written => by
    cases written
    exact fun text member => absurd member List.not_mem_nil
  | item :: rest, strict, _, written => by
    rw [copiedOfItems, List.forall_mem_append] at strict
    simp only [writeItems, bind_eq_ok] at written
    obtain ⟨text, isText, texts, areTexts, same⟩ := written
    cases same
    rw [List.forall_mem_cons]
    exact ⟨strict_of_write item strict.1 .whole text isText,
      strict_of_writeItems rest strict.2 areTexts⟩

/-- So are those of the values of entries. -/
theorem sound_entryWriters : (entries : List (Value × Value)) →
    (∀ text ∈ copiedOfEntries entries, Json.Strict text.toList) →
      ∀ entry ∈ entryWriters codecs entries, entry.2.Sound
  | [], _ => fun entry member => absurd member List.not_mem_nil
  | (key, value) :: rest, strict => by
    rw [copiedOfEntries, List.forall_mem_append] at strict
    rw [entryWriters, List.forall_mem_cons]
    exact ⟨strict_of_write value strict.1, sound_entryWriters rest strict.2⟩

/-- And those of fields. -/
theorem sound_fieldWriters : (fields : List (String × Value)) →
    (∀ text ∈ copiedOfFields fields, Json.Strict text.toList) →
      ∀ field ∈ fieldWriters codecs fields, field.2.Sound
  | [], _ => fun field member => absurd member List.not_mem_nil
  | (name, value) :: rest, strict => by
    rw [copiedOfFields, List.forall_mem_append] at strict
    rw [fieldWriters, List.forall_mem_cons]
    exact ⟨strict_of_write value strict.1, sound_fieldWriters rest strict.2⟩

end

mutual

/-- Only finite numbers are written, outside of records. -/
theorem isFinite_of_write : (value : Value) → {text : List Char} →
    value.write codecs .whole = .ok text → ∀ number ∈ value.looseNumbers, number.isFinite = true
  | .float number, _, written => List.forall_mem_singleton.2 (isFinite_of_write_float written)
  | .list items, _, written => by
    obtain ⟨texts, run, _⟩ := bind_eq_ok.1 written
    exact isFinite_of_writeItems items run
  | .tuple items, _, written => by
    obtain ⟨texts, run, _⟩ := bind_eq_ok.1 written
    exact isFinite_of_writeItems items run
  | .map entries, _, written => by
    refine isFinite_of_entryWriters entries fun entry member => ?_
    rw [write] at written
    simp only [writeMap, bind_eq_ok] at written
    obtain ⟨keyed, keysRun, texts, run, _⟩ := written
    obtain ⟨other, isOther, keyedRun⟩ := exists_of_mapM_ok keysRun member
    obtain ⟨key, _, same⟩ := bind_eq_ok.1 keyedRun
    cases same
    obtain ⟨text, _, success⟩ := exists_of_mapM_ok run (Text.mem_sortBy.2 isOther)
    obtain ⟨value, writes, _⟩ := bind_eq_ok.1 success
    exact ⟨value, writes⟩
  | .null, _, _ | .bool _, _, _ | .int _, _, _ | .str _, _, _ | .bytes _, _, _
  | .byteArray _, _, _ | .raw _, _, _ | .selfWriting _, _, _ | .formless, _, _
  | .record _ _, _, _ | .wrapper _ _ _, _, _ => fun number member => by cases member

/-- So it is in items. -/
theorem isFinite_of_writeItems : (items : List Value) → {texts : List (List Char)} →
    writeItems codecs items = .ok texts →
      ∀ number ∈ looseNumbersOfItems items, number.isFinite = true
  | [], _, _ => fun number member => by cases member
  | item :: rest, _, written => by
    simp only [writeItems, bind_eq_ok] at written
    obtain ⟨text, isText, texts, areTexts, _⟩ := written
    rw [looseNumbersOfItems, List.forall_mem_append]
    exact ⟨isFinite_of_write item isText, isFinite_of_writeItems rest areTexts⟩

/-- So it is in the values of entries. -/
theorem isFinite_of_entryWriters : (entries : List (Value × Value)) →
    (∀ entry ∈ entryWriters codecs entries, ∃ text, entry.2.write .whole = .ok text) →
      ∀ number ∈ looseNumbersOfEntries entries, number.isFinite = true
  | [], _ => fun number member => by cases member
  | (key, value) :: rest, written => by
    rw [entryWriters, List.forall_mem_cons] at written
    obtain ⟨⟨text, isText⟩, later⟩ := written
    rw [looseNumbersOfEntries, List.forall_mem_append]
    exact ⟨isFinite_of_write value isText, isFinite_of_entryWriters rest later⟩

end

end Value

end DeclCodec

import DeclCodec.Proofs.Decl.Lines

/-!
# Struct bodies

The lines between the braces of a struct can be put behind those of another one. If
both make a struct alone, then either they make one together, with the fields of the
one in front of those of the other, or the text is refused at the first name of the
second lines: that name is `type`, and the line in front of it has no tag. Behind the
type of a field the reader cannot tell yet whether the struct goes on, and a `type`
there is the keyword of another declaration.

A text with a single struct, whose closing brace stands on a line of its own, is taken
apart at this brace. It is no part of a gap and ends no other spelling, so it is the
last token; and since it adds a struct, nothing was declared in front of it, and the
reader was still in the struct that the text begins with.
-/

namespace DeclCodec

/-- The end of a struct that is closed on a line of its own. -/
def closingLine : List Char := ['\n', '\x7d']

/-- Does a line with `type` as its first name stand behind a line that ends with its type? -/
def TypeClash (fields others : List Field) : Prop :=
  (∃ last ∈ fields.getLast?, last.tag = none) ∧
    (others.flatMap Field.names).head? = some "type"

/-! ## The closing brace -/

namespace Token

/-- Is there a closing brace that is not passed over, from each state between tokens? A line comment
does not go over the end of a line, and a block comment that is not closed is given back. -/
def Gap.BeforeBrace (text : List Char) : Gap → Prop
  | .blank => closingLine <:+ text ∨ text = ['\x7d']
  | .lineComment => closingLine <:+ text
  | .blockComment opening => opening ≠ [] ∧ (closingLine <:+ text ∨ text <:+ ['\x7d'])

/-- A brace at the end of a text that is preceded by a line feed is not passed over. -/
theorem skipGaps_ne_nil {state : Gap} {text : List Char} (beforeBrace : state.BeforeBrace text) :
    skipGaps state text ≠ [] := by
  -- Behind its first character a text ends as before, unless it was no more than that.
  have onward {text : List Char} {c : Char} (ends : closingLine <:+ c :: text) :
      closingLine <:+ text ∨ c = '\n' ∧ text = ['\x7d'] :=
    (List.suffix_cons_iff.1 ends).symm.imp_right fun same => by cases same; exact ⟨rfl, rfl⟩
  have behindTwo {text : List Char} {c d : Char} (ends : closingLine <:+ c :: d :: text)
      (first : c ≠ '\n') (second : d ≠ '\n') : closingLine <:+ text := by
    have behindOne := (onward ends).resolve_right fun same => first same.1
    exact (onward behindOne).resolve_right fun same => second same.1
  fun_induction skipGaps state text with
  | case1 =>
    rcases beforeBrace with ends | same
    · cases List.suffix_nil.1 ends
    · cases same
  | case2 rest inductionHypothesis =>
    have ends := beforeBrace.resolve_right (by simp)
    exact inductionHypothesis (behindTwo ends (by decide) (by decide))
  | case3 rest inductionHypothesis =>
    have ends := beforeBrace.resolve_right (by simp)
    exact inductionHypothesis
      ⟨List.cons_ne_nil _ _, .inl (behindTwo ends (by decide) (by decide))⟩
  | case4 c rest _ _ white inductionHypothesis =>
    refine inductionHypothesis ?_
    rcases beforeBrace with ends | same
    · exact (onward ends).imp_right And.right
    · cases same
      cases white
  | case5 c rest => exact List.cons_ne_nil c rest
  | case6 => cases List.suffix_nil.1 beforeBrace
  | case7 c rest inductionHypothesis =>
    refine inductionHypothesis ?_
    split
    · exact (onward beforeBrace).imp_right And.right
    · next notEnd => exact (onward beforeBrace).resolve_right fun same => notEnd same.1
  | case8 opening => exact beforeBrace.1
  | case9 opening rest inductionHypothesis =>
    refine inductionHypothesis (.inl ?_)
    rcases beforeBrace.2 with ends | short
    · exact behindTwo ends (by decide) (by decide)
    · exact absurd short.length_le (by simp)
  | case10 opening c rest notClosing inductionHypothesis =>
    refine inductionHypothesis ⟨beforeBrace.1, ?_⟩
    rcases beforeBrace.2 with ends | short
    · rcases onward ends with endsOnward | ⟨_, rfl⟩
      · exact .inl endsOnward
      · exact .inr List.suffix_rfl
    · exact .inr ((List.suffix_cons c rest).trans short)

end Token

namespace Draft

/-- A text that ends with a closing brace on a line of its own, and is read to its end, is passed
over up to the brace, and the brace is taken at last. -/
theorem exists_passes_of_ok {draft finished : Draft} {place ending : Place}
    {last front last' : List Char}
    (read : draft.read place last (front ++ closingLine) = .ok (finished, ending, last')) :
    ∃ reached, Passes (draft, place) (front ++ closingLine) reached ['\x7d'] ∧
      take reached (.mark '\x7d') = some (finished, ending) := by
  generalize isText : front ++ closingLine = text at read
  fun_induction Draft.read draft place last text generalizing front with
  | case1 draft place last text next =>
    exact absurd (Lexeme.ending_inv next) (Token.skipGaps_ne_nil (.inl ⟨front, isText⟩))
  | case2 => cases read
  | case3 draft place last text token start after next later following stepped
      inductionHypothesis =>
    obtain ⟨gap, spelling, isGap, wellFormed, isToken, ends, _, split⟩ := Lexeme.token_inv next
    have taken : take (draft, place) spelling = some (later, following) :=
      take_eq_some.2 ⟨token, isToken, stepped⟩
    obtain ⟨c, isLast, notEnd, _, isBrace⟩ := spelling.exists_getLast_chars wellFormed
    rw [split, ← List.append_assoc] at isText
    rw [split]
    have isRest : closingLine <:+ after ∨ after = ['\x7d'] ∨ after = [] := by
      rcases List.suffix_or_suffix_of_suffix ⟨front, isText⟩ (List.suffix_append _ after) with
        ends | isEnd
      · exact .inl ends
      · rcases List.suffix_cons_iff.1 isEnd with same | shorter
        · exact .inl (same ▸ List.suffix_rfl)
        · exact .inr ((List.suffix_cons_iff.1 shorter).imp_right List.suffix_nil.1)
    rcases isRest with ⟨front, isAfter⟩ | rfl | rfl
    · obtain ⟨reached, onward, closes⟩ := inductionHypothesis isAfter read
      exact ⟨reached, .next isGap wellFormed ends taken onward, closes⟩
    · -- The spelling would end with the line feed.
      have sameFront : front ++ ['\n'] = gap ++ spelling.chars :=
        List.append_cancel_right ((List.append_assoc front _ _).trans isText)
      have sameLast := congrArg List.getLast? sameFront
      rw [List.getLast?_concat, List.getLast?_append, isLast] at sameLast
      cases sameLast
      exact absurd rfl notEnd
    · -- The spelling ends with the brace, so it is the brace.
      have sameLast := congrArg List.getLast? isText
      rw [List.append_nil, List.getLast?_append, List.getLast?_append, isLast] at sameLast
      cases sameLast
      obtain rfl := isBrace rfl
      rw [read_ending (Lexeme.next_ending rfl _)] at read
      cases read
      exact ⟨(draft, place), .gap _ isGap _, taken⟩
  | case4 => cases read

/-! ## Lines in a body -/

/-- Does the reader pass over the lines of a struct to a place where it may be closed? -/
structure ReadsBody (unit name : String) (body : List Char) (fields : List Field) (place : Place) :
    Prop where
  passes : Passes (empty unit, .fieldStart .top name []) (body ++ closingLine)
    (empty unit, place) ['\x7d']
  closes : place.Closes .top name fields
  tagged : place.LastTagged

/-- Where a line may begin, its first name is taken, or the closing brace. -/
theorem take_fieldStart_cases {draft : Draft} {scope : Scope} {name : String} {before : List Field}
    {spelling : Spelling} {following : Draft × Place}
    (taken : take (draft, .fieldStart scope name before) spelling = some following) :
    (∃ word, spelling = .word word ∧
      following = (draft, .fieldNames scope name before [String.ofList word])) ∨
      following.1 = draft.add (.struct name before draft.unit) := by
  cases spelling with
  | word word =>
    cases taken
    exact .inl ⟨word, rfl, rfl⟩
  | mark c =>
    have isBrace : c = '\x7d' := by
      by_contra other
      have noToken : (Place.fieldStart scope name before).expected.token? (.mark c) = none := by
        simp [Place.expected, Expectation.token?, other]
      rw [take, noToken] at taken
      cases taken
    cases isBrace
    cases taken
    exact .inr rfl
  | _ => cases taken

/-- The lines are none at all, or they begin with the first name of the first line, and from there
on they are read behind other lines as well. -/
theorem ReadsBody.first_cases {unit name : String} {body : List Char} {fields : List Field}
    {place : Place} (reads : ReadsBody unit name body fields place) :
    (fields = [] ∧ ∃ gap, IsGap gap ∧ body ++ closingLine = gap ++ ['\x7d']) ∨
      ∃ gap word behind, IsGap gap ∧ (Spelling.word word).WellFormed ∧
        (∀ c ∈ behind.head?, Token.isWordPart c = false) ∧
        body ++ closingLine = gap ++ (word ++ behind) ∧
        (fields.flatMap Field.names).head? = some (String.ofList word) ∧ ∀ earlier,
          Passes (empty unit, .fieldNames .top name earlier [String.ofList word]) behind
            (empty unit, place.behind earlier) ['\x7d'] := by
  rcases reads.passes.first_cases with ⟨same, gap, isGap, split⟩ |
    ⟨gap, spelling, following, behind, isGap, wellFormed, ends, taken, split, onward⟩
  · left
    have closes := reads.closes
    rw [(Prod.mk.inj same).2] at closes
    cases closes
    exact ⟨rfl, gap, isGap, split⟩
  right
  rcases take_fieldStart_cases taken with ⟨word, rfl, rfl⟩ | added
  · have lineBegins : Place.LastTagged (.fieldNames .top name [] [String.ofList word]) := trivial
    rcases onward.within rfl lineBegins with more | ⟨within, onwardBehind⟩
    · exact absurd more (Nat.lt_irrefl _)
    obtain ⟨more, struct⟩ := within.struct
    rw [struct?_of_closes reads.closes] at struct
    refine ⟨gap, word, behind, isGap, wellFormed, ends rfl, split, ?_, fun earlier => ?_⟩
    · rw [(OpenStruct.mk.inj (Option.some.inj struct)).2.2]
      rfl
    · have lines := onwardBehind earlier
      rw [Place.behind, List.append_nil] at lines
      exact lines
  · have more := onward.decls.length_le
    rw [added] at more
    exact absurd more (Nat.not_succ_le_zero 0)

section Behind

variable {unit name : String} {body : List Char} {fields others : List Field} {before place : Place}
  {scope : Scope}

/-- Where a struct may be closed a line may begin, with any name but `type` if the line in front has
no tag. -/
theorem take_word_of_closes (closes : before.Closes scope name fields) {word : List Char}
    (free : (∃ last ∈ fields.getLast?, last.tag = none) → Keyword.type.text ≠ word)
    (draft : Draft) :
    take (draft, before) (.word word) =
      some (draft, .fieldNames scope name fields [String.ofList word]) := by
  cases closes with
  | line => rfl
  | @type before names frames package last type settled =>
    have differs := free ⟨_, List.getLast?_concat, rfl⟩
    have isToken :
        (Place.typeName (.field scope name before names) frames package last).expected.token?
        (.word word) = some (.word (String.ofList word)) :=
      congrArg some (Token.ofWord_of_ne fun keyword isType => List.mem_singleton.1 isType ▸ differs)
    rw [take_behindType settled isToken (by simp)]
    rfl

/-- Behind a line without a tag `type` is a keyword, and it is not taken. -/
theorem refused_of_closes (closes : before.Closes scope name fields) (tagged : before.LastTagged)
    (untagged : ∃ last ∈ fields.getLast?, last.tag = none) (draft : Draft) :
    before.expected.token? Keyword.type.spelling = some (.keyword .type) ∧
      draft.step before (.keyword .type) = none := by
  cases closes with
  | line =>
    obtain ⟨last, isLast, noTag⟩ := untagged
    exact absurd noTag (tagged last isLast)
  | type settled =>
    refine ⟨rfl, ?_⟩
    rw [step, stepTypeName, settled]
    · rfl
    · simp

/-- Where a struct may be closed, the lines of another one are read behind its own. -/
theorem ReadsBody.passes_behind (reads : ReadsBody unit name body others place)
    (closes : before.Closes .top name fields) (noClash : ¬TypeClash fields others) :
    ∃ reached, Passes (empty unit, before) (body ++ closingLine) (empty unit, reached) ['\x7d'] ∧
      reached.Closes .top name (fields ++ others) := by
  rcases reads.first_cases with ⟨rfl, gap, isGap, split⟩ |
    ⟨gap, word, behind, isGap, isWord, ends, split, first, onward⟩
  · rw [split, List.append_nil]
    exact ⟨before, .gap _ isGap _, closes⟩
  · rw [split]
    refine ⟨_, .next isGap isWord (fun _ => ends) (take_word_of_closes closes ?_ _) (onward fields),
      closes_behind reads.closes fields⟩
    rintro untagged rfl
    exact noClash ⟨untagged, first⟩

/-- They are refused if `type` is a keyword there. -/
theorem ReadsBody.read_behind (reads : ReadsBody unit name body others place)
    (closes : before.Closes .top name fields) (tagged : before.LastTagged)
    (clash : TypeClash fields others) (last : List Char) :
    ∃ rest, (empty unit).read before last (body ++ closingLine) = .error rest := by
  rcases reads.first_cases with ⟨rfl, _⟩ |
    ⟨gap, word, behind, isGap, isWord, ends, split, first, onward⟩
  · cases clash.2
  · obtain ⟨isToken, refused⟩ := refused_of_closes closes tagged clash.1 (empty unit)
    have isType : word = Keyword.type.text := by
      rw [clash.2, Option.some.injEq] at first
      exact String.toList_ofList.symm.trans (congrArg String.toList first.symm)
    rw [split]
    subst isType
    have next := Lexeme.next_append Keyword.type.wellFormed isToken isGap (fun _ => ends)
    exact ⟨_, read_refused next refused last⟩

end Behind

/-- A closing brace ends a struct, and with it a text. -/
theorem read_of_closes {scope : Scope} {name : String} {fields : List Field} {place : Place}
    (closes : place.Closes scope name fields) (draft : Draft) (last : List Char) :
    ∃ last', draft.read place last ['\x7d'] =
      .ok (draft.add (.struct name fields draft.unit), .structEnd scope, last') := by
  obtain ⟨token, isToken, stepped⟩ := take_eq_some.1 (take_of_closes closes draft)
  have isMark : (Spelling.mark '\x7d').WellFormed := (by decide : '\x7d' ∈ declarationMarks)
  have next : Lexeme.next place.expected ([] ++ (['\x7d'] ++ [])) = .token token ['\x7d'] [] :=
    Lexeme.next_append isMark isToken .empty trivial
  exact ⟨_, (read_token next stepped last).trans (read_ending (Lexeme.next_ending rfl _) _)⟩

/-- The reader passes over what stands in front of the lines of a struct. -/
theorem passes_header {name : String} (isName : IsName name) (unit : String) (lines : List Char) :
    Passes (empty unit, .opening)
      ("type ".toList ++ (name.toList ++ (" struct \x7b\n".toList ++ lines)))
      (empty unit, .fieldStart .top name []) lines := by
  have space : IsGap [' '] := .blank rfl .empty
  have lineEnd : IsGap ['\n'] := .blank rfl .empty
  have isBrace : (Spelling.mark '\x7b').WellFormed := (by decide : '\x7b' ∈ declarationMarks)
  have isWord : (Spelling.word name.toList).WellFormed := isName
  have noWord {c : Char} (text : List Char) (noPart : Token.isWordPart c = false) :
      ∀ d ∈ (c :: text).head?, Token.isWordPart d = false := by
    rintro _ ⟨⟩
    exact noPart
  have takeName : take (empty unit, .declStart) (.word name.toList) =
      some (empty unit, .declName .top (String.ofList name.toList)) := rfl
  rw [String.ofList_toList] at takeName
  have opens : Passes (empty unit, .structOpen .top name) (" \x7b\n".toList ++ lines)
      (empty unit, .fieldStart .top name []) lines :=
    .next space isBrace trivial rfl (.gap _ lineEnd lines)
  have isStruct : Passes (empty unit, .declName .top name) (" struct \x7b\n".toList ++ lines)
      (empty unit, .fieldStart .top name []) lines :=
    .next space Keyword.struct.wellFormed (fun _ => noWord _ rfl) rfl opens
  exact .next .empty Keyword.type.wellFormed (fun words => by cases words) rfl
    (.next space isWord (fun _ => noWord _ rfl) takeName isStruct)

end Draft

namespace UnitText

variable {source : UnitText} {name : String} {body : List Char} {fields : List Field}

/-- The unit with a struct with these lines as its text. -/
def withBody (source : UnitText) (name : String) (body : List Char) : UnitText :=
  source.withChars
    ("type ".toList ++ (name.toList ++ (" struct \x7b\n".toList ++ (body ++ closingLine))))

/-- Is the unit a single struct with these fields? -/
def HoldsStruct (source : UnitText) (fields : List Field) : Prop :=
  ∃ unit declared origin, source.parse = .ok unit ∧ unit.decls = [.struct declared fields origin]

/-- The lines of a single struct are passed over up to a place where it may be closed with its
fields. -/
theorem exists_readsBody (isName : IsName name)
    (held : (source.withBody name body).HoldsStruct fields) :
    ∃ place, Draft.ReadsBody source.name name body fields place := by
  obtain ⟨unit, declared, origin, parsed, single⟩ := held
  obtain ⟨draft, place, last, done, reached, finishes, unbroken, decls⟩ :=
    exists_finish_of_parse parsed
  obtain ⟨front, read⟩ :=
    reached_of_passes (Draft.passes_header isName source.name (body ++ closingLine))
  rw [withBody, read] at reached
  obtain ⟨⟨before, ending⟩, passes, taken⟩ := Draft.exists_passes_of_ok reached
  obtain ⟨scope, called, lines, closes⟩ := Draft.closes_of_take taken
  rw [Draft.take_of_closes closes] at taken
  cases taken
  cases scope <;> cases finishes
  -- Before the brace nothing is declared, so the reader is still in the struct.
  rw [single] at decls
  obtain ⟨noDecls, isStruct⟩ := List.append_eq_singleton_iff.1 decls.symm |>.resolve_right (by simp)
  cases isStruct
  have noLine : Place.LastTagged (.fieldStart .top name []) := fun _ isLast => by cases isLast
  rcases passes.within rfl noLine with more | ⟨within, _⟩
  · rw [noDecls] at more
    exact absurd more (Nat.not_lt_zero _)
  obtain ⟨names, struct⟩ := within.struct
  rw [Draft.struct?_of_closes closes] at struct
  obtain ⟨_, rfl, _⟩ := OpenStruct.mk.inj (Option.some.inj struct)
  have sameDraft : before = Draft.empty source.name := by
    have same := within.draft
    have noFault : before.brokenTag = none := unbroken
    rw [noFault] at same
    exact same
  subst sameDraft
  exact ⟨ending, passes, closes, within.tagged⟩

/-- Behind lines on which a struct may be closed, other lines are read from the place behind
them. -/
theorem reached_withBody_append {first : List Char} {place : Place} (isName : IsName name)
    (reads : Draft.ReadsBody source.name name first fields place) (second : List Char) :
    ∃ last, (source.withBody name (first ++ '\n' :: second)).reached =
      (Draft.empty source.name).read place last (second ++ closingLine) := by
  obtain ⟨before, split, exchange⟩ := reads.passes.exchange
  have isBefore : before = first ++ ['\n'] :=
    (List.append_cancel_right ((List.append_assoc first _ _).trans split)).symm
  subst isBefore
  have onward := exchange (second ++ closingLine) (.inr (.inr fun c isLast => by
    rw [List.getLast?_concat] at isLast
    cases isLast
    rfl))
  have sameText : first ++ ['\n'] ++ (second ++ closingLine) =
      first ++ '\n' :: second ++ closingLine := by simp
  rw [sameText] at onward
  obtain ⟨front, read⟩ := reached_of_passes (Draft.passes_header isName source.name _)
  obtain ⟨last, readOnward⟩ := onward.read_eq front
  exact ⟨last, read.trans readOnward⟩

/-- The lines of two structs make a struct together, with the fields of the first in front of those
of the second; but they are refused if the second lines begin with the name `type` and the first
lines do not end with a tag. -/
theorem withBody_append {first second : List Char} {others : List Field} (isName : IsName name)
    (firstHeld : (source.withBody name first).HoldsStruct fields)
    (secondHeld : (source.withBody name second).HoldsStruct others) :
    (¬TypeClash fields others →
      (source.withBody name (first ++ '\n' :: second)).parse =
        .ok ⟨source.name, source.package, [.struct name (fields ++ others) source.name]⟩) ∧
    (TypeClash fields others → ∃ position,
      (source.withBody name (first ++ '\n' :: second)).parse =
        .error (.invalidDeclaration source.name position)) := by
  obtain ⟨before, firstReads⟩ := exists_readsBody isName firstHeld
  obtain ⟨place, secondReads⟩ := exists_readsBody isName secondHeld
  obtain ⟨last, read⟩ := reached_withBody_append isName firstReads second
  constructor
  · intro noClash
    obtain ⟨reached, passes, closes⟩ := secondReads.passes_behind firstReads.closes noClash
    obtain ⟨last', onward⟩ := passes.read_eq last
    obtain ⟨ending, closed⟩ := Draft.read_of_closes closes (.empty source.name) last'
    exact parse_of_finish (read.trans (onward.trans closed)) rfl
  · intro clash
    obtain ⟨rest, refused⟩ :=
      secondReads.read_behind firstReads.closes firstReads.tagged clash last
    exact ⟨_, parse_of_error (read.trans refused)⟩

/-- The unit of a text that has no name of its own. -/
def unnamed : UnitText := ⟨"<string>", "", ""⟩

/-- A field with a tag. -/
def taggedField : Field := ⟨["A"], .named [] "int", some "json:\"a\""⟩

/-- The line of it. -/
def taggedLine : List Char := "A int `json:\"a\"`".toList

/-- A field without a tag. -/
def plainField : Field := ⟨["A"], .named [] "int", none⟩

/-- The line of it. -/
def plainLine : List Char := "A int".toList

/-- A field with the name of a keyword. -/
def typeField : Field := ⟨["type"], .named [] "int", none⟩

/-- The line of it. -/
def typeLine : List Char := "type int".toList

/-- Each of the lines alone is read. -/
theorem holdsStruct_lines : (unnamed.withBody "X" taggedLine).HoldsStruct [taggedField] ∧
    (unnamed.withBody "X" plainLine).HoldsStruct [plainField] ∧
    (unnamed.withBody "X" typeLine).HoldsStruct [typeField] := by
  have tagged : (unnamed.withBody "X" taggedLine).parse =
      .ok ⟨"<string>", "", [.struct "X" [taggedField] "<string>"]⟩ := by decide +kernel
  have plain : (unnamed.withBody "X" plainLine).parse =
      .ok ⟨"<string>", "", [.struct "X" [plainField] "<string>"]⟩ := by decide +kernel
  have type : (unnamed.withBody "X" typeLine).parse =
      .ok ⟨"<string>", "", [.struct "X" [typeField] "<string>"]⟩ := by decide +kernel
  exact ⟨⟨_, _, _, tagged, rfl⟩, ⟨_, _, _, plain, rfl⟩, ⟨_, _, _, type, rfl⟩⟩

/-- Behind the line with the tag the name `type` begins a line. -/
theorem withBody_append_taggedLine :
    IsName "X" ∧ (unnamed.withBody "X" taggedLine).HoldsStruct [taggedField] ∧
      (unnamed.withBody "X" typeLine).HoldsStruct [typeField] ∧
      (unnamed.withBody "X" (taggedLine ++ '\n' :: typeLine)).parse =
        .ok ⟨"<string>", "", [.struct "X" [taggedField, typeField] "<string>"]⟩ := by
  obtain ⟨tagged, _, type⟩ := holdsStruct_lines
  have isName : IsName "X" := by decide
  have noClash : ¬TypeClash [taggedField] [typeField] := by
    rintro ⟨⟨last, isLast, noTag⟩, _⟩
    cases isLast
    cases noTag
  exact ⟨isName, tagged, type, (withBody_append isName tagged type).1 noClash⟩

/-- Behind the line without a tag it does not. -/
theorem not_holdsStruct_typeLine :
    (unnamed.withBody "X" plainLine).HoldsStruct [plainField] ∧
      (unnamed.withBody "X" typeLine).HoldsStruct [typeField] ∧
      ∀ fields, ¬(unnamed.withBody "X" (plainLine ++ '\n' :: typeLine)).HoldsStruct fields := by
  obtain ⟨_, plain, type⟩ := holdsStruct_lines
  have refused : (unnamed.withBody "X" (plainLine ++ '\n' :: typeLine)).parse =
      .error (.invalidDeclaration "<string>" ⟨3, 1, 22⟩) := by decide +kernel
  refine ⟨plain, type, fun fields held => ?_⟩
  obtain ⟨unit, declared, origin, parsed, _⟩ := held
  rw [refused] at parsed
  cases parsed

end UnitText

end DeclCodec

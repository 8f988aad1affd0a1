import DeclCodec.Json.Reader
import DeclCodec.Json.Text
import DeclCodec.Proofs.Number.Decimal
import DeclCodec.Proofs.Number.Digits

/-!
# Reading written numbers

The text of an integer is read as the integer, and the text of a finite number as
the number, sign of zero included, whatever the layout. After the text there may
stand only what can follow a value: nothing, or the end of an item or a member.

A layout of a number spells the significant digits of its shortest decimal and
places the point among them, so that the reader gets another decimal of the same
value. Moving zeros between coefficient and exponent leads back to the shortest
decimal, which reads back.
-/

namespace DeclCodec.Json

open Text (points)

/-- What may follow a value in a written text. -/
def Delimited (rest : Points) : Prop :=
  rest = [] ∨ ∃ c tail, rest = .char c :: tail ∧ (c = ',' ∨ c = ']' ∨ c = '\x7d')

/-- Nothing may follow. -/
theorem delimited_nil : Delimited [] := .inl rfl

/-- What follows a number in a text: no digit, since that would belong to it. -/
def NoDigit (rest : Points) : Prop := leadingDigits rest = []

/-- No delimiter is a digit. -/
theorem Delimited.noDigit {rest : Points} (delimited : Delimited rest) : NoDigit rest := by
  rcases delimited with rfl | ⟨c, tail, rfl, rfl | rfl | rfl⟩ <;> rfl

/-- The digits in front of something else are all that is taken. -/
theorem leadingDigits_append {digits : List Char} {rest : Points}
    (all : ∀ c ∈ digits, c.isDigit = true) (noDigit : NoDigit rest) :
    leadingDigits (points digits ++ rest) = digits := by
  induction digits with
  | nil => exact noDigit
  | cons c digits inductionHypothesis =>
    obtain ⟨first, others⟩ := List.forall_mem_cons.1 all
    rw [Text.points_cons, List.cons_append, leadingDigits, if_pos first, inductionHypothesis others]

/-- What is left behind the digits is the something else. -/
theorem afterDigits_append {digits : List Char} {rest : Points}
    (all : ∀ c ∈ digits, c.isDigit = true) (noDigit : NoDigit rest) :
    afterDigits (points digits ++ rest) = rest := by
  induction digits with
  | nil =>
    rw [Text.points_nil, List.nil_append]
    cases rest with
    | nil => rfl
    | cons point rest =>
      cases point with
      | char c => simp_all [NoDigit, leadingDigits, afterDigits]
      | high | low => rfl
  | cons c digits inductionHypothesis =>
    obtain ⟨first, others⟩ := List.forall_mem_cons.1 all
    rw [Text.points_cons, List.cons_append, afterDigits, if_pos first, inductionHypothesis others]

/-- Leading digits are read as the whole part. -/
theorem wholeDigits?_append {digits : List Char} {rest : Points} (leading : LeadingDigits digits)
    (noDigit : NoDigit rest) : wholeDigits? (points digits ++ rest) = some (digits, rest) := by
  obtain ⟨nonempty, all, zeroAlone⟩ := leading
  have taken := leadingDigits_append all noDigit
  have left := afterDigits_append all noDigit
  unfold wholeDigits?
  split
  · next begins =>
    -- A zero in front of other digits would not be alone.
    cases digits with
    | nil => exact absurd rfl nonempty
    | cons c digits =>
      obtain ⟨isZero, behind⟩ := List.cons.inj begins
      cases isZero
      obtain rfl : digits = [] := (List.cons.inj (zeroAlone rfl)).2
      rw [← behind]
      rfl
  · rw [taken, left, if_neg nonempty]

/-- Digits behind a point are read as the fraction. -/
theorem fractionDigits?_append {digits : List Char} {rest : Points} (nonempty : digits ≠ [])
    (all : ∀ c ∈ digits, c.isDigit = true) (noDigit : NoDigit rest) :
    fractionDigits? (.char '.' :: (points digits ++ rest)) = some (digits, rest) := by
  simp [fractionDigits?, leadingDigits_append all noDigit, afterDigits_append all noDigit, nonempty]

/-- A sign and digits behind an `e` are read as the exponent. -/
theorem exponent?_append {digits : List Char} {rest : Points} (negative : Bool)
    (nonempty : digits ≠ []) (all : ∀ c ∈ digits, c.isDigit = true) (noDigit : NoDigit rest) :
    exponent? (.char 'e' :: .char (if negative then '-' else '+') :: (points digits ++ rest)) =
      some (if negative then -(Nat.ofDigitChars 10 digits 0 : Int)
        else Nat.ofDigitChars 10 digits 0, rest) := by
  cases negative <;>
    simp [exponent?, exponentSign, leadingDigits_append all noDigit, afterDigits_append all noDigit,
      nonempty]

/-- No fraction begins with a delimiter. -/
theorem Delimited.fractionDigits? {rest : Points} (delimited : Delimited rest) :
    fractionDigits? rest = none := by
  rcases delimited with rfl | ⟨c, tail, rfl, rfl | rfl | rfl⟩ <;> rfl

/-- No exponent begins with a delimiter. -/
theorem Delimited.exponent? {rest : Points} (delimited : Delimited rest) :
    exponent? rest = none := by
  rcases delimited with rfl | ⟨c, tail, rfl, rfl | rfl | rfl⟩ <;> rfl

/-- Digits alone are read as an integer. -/
theorem unsigned?_whole {digits : List Char} {rest : Points} (negative : Bool)
    (leading : LeadingDigits digits) (delimited : Delimited rest) :
    unsigned? negative (points digits ++ rest) =
      some (.int (if negative then -(Nat.ofDigitChars 10 digits 0 : Int)
        else Nat.ofDigitChars 10 digits 0), rest) := by
  simp [unsigned?, wholeDigits?_append leading delimited.noDigit, delimited.fractionDigits?,
    delimited.exponent?]

/-- Digits with a fraction are read as the number nearest to the decimal they spell. -/
theorem unsigned?_fraction {whole : List Char} {rest : Points} (fraction : List Char)
    (negative : Bool) (leading : LeadingDigits whole) (nonempty : fraction ≠ [])
    (all : ∀ c ∈ fraction, c.isDigit = true) (delimited : Delimited rest) :
    unsigned? negative (points whole ++ .char '.' :: (points fraction ++ rest)) =
      some (.float (Binary64.ofDecimal negative (Nat.ofDigitChars 10 (whole ++ fraction) 0)
        (-(fraction.length : Int))), rest) := by
  have point : NoDigit (.char '.' :: (points fraction ++ rest)) := rfl
  simp [unsigned?, wholeDigits?_append leading point,
    fractionDigits?_append nonempty all delimited.noDigit, delimited.exponent?]

/-- The text between the first digit and the exponent. -/
def fractionText (fraction : List Char) : List Char :=
  if fraction = [] then [] else '.' :: fraction

/-- Digits with an exponent, and perhaps a fraction, are read as the number nearest to the decimal
they spell. -/
theorem unsigned?_exponent {whole : List Char} {rest : Points} (fraction digits : List Char)
    (negative below : Bool)
    (leading : LeadingDigits whole) (allFraction : ∀ c ∈ fraction, c.isDigit = true)
    (nonempty : digits ≠ []) (allDigits : ∀ c ∈ digits, c.isDigit = true)
    (delimited : Delimited rest) :
    unsigned? negative (points whole ++ (points (fractionText fraction) ++
        .char 'e' :: .char (if below then '-' else '+') :: (points digits ++ rest))) =
      some (.float (Binary64.ofDecimal negative (Nat.ofDigitChars 10 (whole ++ fraction) 0)
        ((if below then -(Nat.ofDigitChars 10 digits 0 : Int) else Nat.ofDigitChars 10 digits 0) -
          fraction.length)), rest) := by
  have exponent := exponent?_append below nonempty allDigits delimited.noDigit
  have noDigitAfter : NoDigit
      (.char 'e' :: .char (if below then '-' else '+') :: (points digits ++ rest)) := rfl
  by_cases empty : fraction = []
  · subst empty
    have noFraction : fractionDigits?
        (.char 'e' :: .char (if below then '-' else '+') :: (points digits ++ rest)) = none := rfl
    simp [unsigned?, fractionText, wholeDigits?_append leading noDigitAfter, noFraction, exponent]
  · have noDigit : NoDigit (.char '.' :: (points fraction ++
        .char 'e' :: .char (if below then '-' else '+') :: (points digits ++ rest))) := rfl
    simp [unsigned?, fractionText, empty, wholeDigits?_append leading noDigit,
      fractionDigits?_append empty allFraction noDigitAfter, exponent]

/-- The number nearest to the significant digits of a shortest decimal, with as many more places in
the exponent as there were zeros behind them, is the number itself. -/
theorem ofDecimal_significant {rank zeros : Nat} {digits : List Char}
    (finite : rank < Binary64.finiteCount) (negative : Bool)
    (spelled : Nat.toDigits 10 (Binary64.shortest rank).coefficient =
      digits ++ List.replicate zeros '0') :
    Binary64.ofDecimal negative (Nat.ofDigitChars 10 digits 0)
        ((Binary64.shortest rank).exponent + zeros) = .finite negative ⟨rank, finite⟩ := by
  have coefficient : (Binary64.shortest rank).coefficient =
      Nat.ofDigitChars 10 digits 0 * 10 ^ zeros := by
    rw [← Nat.ofDigitChars_ten_toDigits (n := (Binary64.shortest rank).coefficient), spelled,
      Nat.ofDigitChars_append, Nat.ofDigitChars_replicate_zero, Nat.mul_comm]
  have readsBack : Binary64.nearestRankOfDecimal (Binary64.shortest rank).coefficient
      (Binary64.shortest rank).exponent = rank := eq_of_beq (Binary64.readsBack_shortest finite)
  rw [coefficient, Binary64.nearestRankOfDecimal_mul_pow] at readsBack
  simp [Binary64.ofDecimal, readsBack, Binary64.ofRank, finite]

/-- The digits of an exponent with zeros in front are worth the exponent. -/
theorem ofDigitChars_padded (zeros number : Nat) :
    Nat.ofDigitChars 10 (List.replicate zeros '0' ++ Nat.toDigits 10 number) 0 = number := by
  rw [Nat.ofDigitChars_append, Nat.ofDigitChars_replicate_zero, Nat.mul_zero,
    Nat.ofDigitChars_ten_toDigits]

/-- Zeros are digits. -/
theorem isDigit_of_mem_replicate {zeros : Nat} {c : Char}
    (member : c ∈ List.replicate zeros '0') : c.isDigit = true := by
  rw [List.eq_of_mem_replicate member]
  decide

/-- A number with zeros in front consists of digits. -/
theorem isDigit_padded (zeros number : Nat) :
    ∀ c ∈ List.replicate zeros '0' ++ Nat.toDigits 10 number, c.isDigit = true := by
  intro c member
  rcases List.mem_append.mp member with zero | digit
  · exact isDigit_of_mem_replicate zero
  · exact Nat.isDigit_of_mem_toDigits (by decide) (by decide) digit

variable {format : FloatFormat} {digits : List Char} {rest : Points}

/-- Digits with zeros behind them may stand in front of a point, except that nothing may follow a
lone zero. -/
theorem leadingDigits_append_replicate (leading : LeadingDigits digits) (zeros : Nat)
    (noneBehind : digits = ['0'] → zeros = 0) :
    LeadingDigits (digits ++ List.replicate zeros '0') := by
  obtain ⟨nonempty, all, zeroAlone⟩ := leading
  refine ⟨by simp [nonempty], ?_, ?_⟩
  · intro c member
    rcases List.mem_append.mp member with digit | zero
    · exact all c digit
    · exact isDigit_of_mem_replicate zero
  · intro zeroFirst
    have alone : digits = ['0'] := zeroAlone (by
      rwa [List.head?_append_of_ne_nil _ nonempty] at zeroFirst)
    simp [alone, noneBehind alone]

/-- Some of the first digits may stand in front of a point. -/
theorem leadingDigits_take (leading : LeadingDigits digits) {count : Nat} (some : 0 < count) :
    LeadingDigits (digits.take count) := by
  obtain ⟨nonempty, all, zeroAlone⟩ := leading
  refine ⟨?_, fun c member => all c (List.mem_of_mem_take member), ?_⟩
  · intro empty
    rcases List.take_eq_nil_iff.mp empty with none | noDigits
    · omega
    · exact nonempty noDigits
  · intro zeroFirst
    rw [List.head?_take, if_neg (by omega)] at zeroFirst
    rw [zeroAlone zeroFirst]
    exact List.take_of_length_le some

/-- Digits laid out with a point are read as the decimal with the point where it was put. Where it
lies in front of the digits or behind them, the zeros between are digits too; a lone zero stands for
no other digits. -/
theorem unsigned?_positional (marked : format.wholeMark = ['.', '0']) (negative : Bool)
    (leading : LeadingDigits digits) {point : Int}
    (zeroPoint : digits = ['0'] → point = 1) (delimited : Delimited rest) :
    ∃ coefficient exponent,
      unsigned? negative (points (format.positional digits point) ++ rest) =
        some (.float (Binary64.ofDecimal negative coefficient exponent), rest) ∧
      Binary64.nearestRankOfDecimal coefficient exponent =
        Binary64.nearestRankOfDecimal (Nat.ofDigitChars 10 digits 0) (point - digits.length) := by
  obtain ⟨nonempty, all, zeroAlone⟩ := leading
  have lengthPositive : 0 < digits.length := List.length_pos_iff.mpr nonempty
  unfold FloatFormat.positional
  split
  · next inFront =>
    have fractionNonempty : List.replicate (-point).toNat '0' ++ digits ≠ [] := by
      simp [nonempty]
    have allFraction : ∀ c ∈ List.replicate (-point).toNat '0' ++ digits, c.isDigit = true := by
      intro c member
      rcases List.mem_append.mp member with zero | digit
      · exact isDigit_of_mem_replicate zero
      · exact all c digit
    have zeroWhole : LeadingDigits ['0'] := by simp [LeadingDigits]
    refine ⟨_, _, unsigned?_fraction _ negative zeroWhole fractionNonempty allFraction delimited,
      ?_⟩
    rw [Nat.ofDigitChars_append, Nat.ofDigitChars_append, Nat.ofDigitChars_replicate_zero]
    have worthless : 10 ^ (-point).toNat * Nat.ofDigitChars 10 ['0'] 0 = 0 := Nat.mul_zero _
    rw [worthless, List.length_append, List.length_replicate]
    congr 1
    omega
  split
  · next behind =>
    have wholeLeading := leadingDigits_append_replicate ⟨nonempty, all, zeroAlone⟩
      (point.toNat - digits.length) fun alone => by simp [alone, zeroPoint alone]
    have laidOut : points (digits ++ List.replicate (point.toNat - digits.length) '0' ++
        format.wholeMark) ++ rest =
          points (digits ++ List.replicate (point.toNat - digits.length) '0') ++
            .char '.' :: (points ['0'] ++ rest) := by
      simp [marked]
    rw [laidOut]
    refine ⟨_, _, unsigned?_fraction _ negative wholeLeading (by simp) (by simp) delimited, ?_⟩
    rw [List.append_assoc, ← List.replicate_succ', Nat.ofDigitChars_append,
      Nat.ofDigitChars_replicate_zero, Nat.mul_comm, Binary64.nearestRankOfDecimal_mul_pow]
    congr 1
    simp only [List.length_singleton]
    omega
  · next inside =>
    have takenLeading := leadingDigits_take ⟨nonempty, all, zeroAlone⟩
      (by omega : 0 < point.toNat)
    have droppedNonempty : digits.drop point.toNat ≠ [] := by
      rw [Ne, List.drop_eq_nil_iff]
      omega
    have laidOut : points (digits.take point.toNat ++ '.' :: digits.drop point.toNat) ++ rest =
        points (digits.take point.toNat) ++ .char '.' ::
            (points (digits.drop point.toNat) ++ rest) := by
      simp
    rw [laidOut]
    refine ⟨_, _, unsigned?_fraction _ negative takenLeading droppedNonempty
      (fun c member => all c (List.mem_of_mem_drop member)) delimited, ?_⟩
    rw [List.take_append_drop, List.length_drop]
    congr 1
    omega

/-- One digit in front of the point, the others behind it and an exponent are read as the decimal
that they spell. -/
theorem unsigned?_scientific (negative : Bool) (leading : LeadingDigits digits) (exponent : Int)
    (delimited : Delimited rest) :
    unsigned? negative (points (format.scientific digits exponent) ++ rest) =
      some (.float (Binary64.ofDecimal negative (Nat.ofDigitChars 10 digits 0)
        (exponent - (digits.length - 1 : Nat))), rest) := by
  have firstLeading := leadingDigits_take leading Nat.one_pos
  obtain ⟨nonempty, all, zeroAlone⟩ := leading
  have exponentDigits := isDigit_padded
    (format.exponentWidth - (Nat.toDigits 10 exponent.natAbs).length) exponent.natAbs
  have reading := unsigned?_exponent (digits.drop 1) _ negative (decide (exponent < 0)) firstLeading
    (fun c member => all c (List.mem_of_mem_drop member)) (by simp [Nat.toDigits_ne_nil])
    exponentDigits delimited
  have value : (if decide (exponent < 0) = true then -(exponent.natAbs : Int)
      else exponent.natAbs) = exponent := by
    by_cases below : exponent < 0 <;> simp only [below, decide_true, decide_false] <;> grind
  have fraction : fractionText (digits.drop 1) =
      if digits.length ≤ 1 then [] else '.' :: digits.drop 1 := by
    simp only [fractionText, List.drop_eq_nil_iff]
  rw [List.take_append_drop, ofDigitChars_padded, List.length_drop, value, fraction] at reading
  rw [← reading]
  congr 1
  simp [FloatFormat.scientific, FloatFormat.exponentText]

/-- The shortest decimal of a magnitude is written with a lone zero only for the magnitude zero,
whose point is behind that digit. -/
theorem point_of_zero {rank : Nat} (finite : rank < Binary64.finiteCount)
    (alone : FloatFormat.significantDigits (Binary64.shortest rank).coefficient = ['0']) :
    (Binary64.decimalWidth (Binary64.shortest rank).coefficient : Int) +
      (Binary64.shortest rank).exponent = 1 := by
  obtain ⟨zeros, spelled⟩ :=
    FloatFormat.toDigits_eq_significant (Binary64.shortest rank).coefficient
  have coefficientZero : (Binary64.shortest rank).coefficient = 0 := by
    by_contra nonzero
    have first := head?_toDigits_ne_zero _ nonzero
    rw [spelled, alone] at first
    exact first rfl
  have readsBack : Binary64.nearestRankOfDecimal (Binary64.shortest rank).coefficient
      (Binary64.shortest rank).exponent = rank := eq_of_beq (Binary64.readsBack_shortest finite)
  have rankZero : rank = 0 := by
    rw [← readsBack, coefficientZero]
    simp [Binary64.nearestRankOfDecimal]
  subst rankZero
  rfl

/-- The text of a finite magnitude is read as the number with that magnitude. -/
theorem unsigned?_magnitude (marked : format.wholeMark = ['.', '0']) {rank : Nat}
    (finite : rank < Binary64.finiteCount) (negative : Bool) (delimited : Delimited rest) :
    unsigned? negative (points (format.magnitude rank) ++ rest) =
      some (.float (.finite negative ⟨rank, finite⟩), rest) := by
  obtain ⟨zeros, spelled⟩ :=
    FloatFormat.toDigits_eq_significant (Binary64.shortest rank).coefficient
  have leading := FloatFormat.leadingDigits_significantDigits (Binary64.shortest rank).coefficient
  have nearest := ofDecimal_significant finite negative spelled
  have width : Binary64.decimalWidth (Binary64.shortest rank).coefficient =
      (FloatFormat.significantDigits (Binary64.shortest rank).coefficient).length + zeros := by
    rw [Binary64.decimalWidth, spelled, List.length_append, List.length_replicate]
  unfold FloatFormat.magnitude
  dsimp only
  split
  · obtain ⟨coefficient, exponent, reading, sameRank⟩ :=
      unsigned?_positional marked negative leading (point_of_zero finite) delimited
    rw [reading, ← nearest, Binary64.ofDecimal, sameRank, Binary64.ofDecimal]
    congr 5
    omega
  · rw [unsigned?_scientific negative leading _ delimited, ← nearest]
    have lengthPositive := List.length_pos_iff.mpr leading.1
    congr 4
    omega

/-- What is read as a number begins with a digit. -/
theorem begins_of_unsigned? {negative : Bool} {text : Points} {reading : Json × Points}
    (read : unsigned? negative text = some reading) :
    ∃ c tail, text = .char c :: tail ∧ c.isDigit = true := by
  obtain ⟨⟨whole, rest⟩, isWhole, _⟩ := Option.bind_eq_some_iff.1 read
  unfold wholeDigits? at isWhole
  split at isWhole
  · exact ⟨'0', _, rfl, by decide⟩
  · split at isWhole
    · cases isWhole
    · next some =>
      rw [leadingDigits.eq_def] at some
      split at some
      · next c tail _ =>
        split at some
        · next digit => exact ⟨c, tail, rfl, digit⟩
        · exact absurd rfl some
      · exact absurd rfl some

/-- Digits are no word and no sign: a text that begins with them is read as a number. -/
theorem atom_of_unsigned? {text : Points} {reading : Json × Points}
    (read : unsigned? false text = some reading) : atom text = .ok reading := by
  obtain ⟨c, tail, rfl, digit⟩ := begins_of_unsigned? read
  unfold atom
  split <;> simp_all

/-- A minus sign in front of digits is the sign of their number. -/
theorem atom_of_signed? {text : Points} {reading : Json × Points}
    (read : unsigned? true text = some reading) : atom (.char '-' :: text) = .ok reading := by
  obtain ⟨c, tail, rfl, digit⟩ := begins_of_unsigned? read
  unfold atom
  split <;> simp_all

/-- The text of an integer is read as the integer. -/
theorem atom_intText (value : Int) (delimited : Delimited rest) :
    atom (points (intText value) ++ rest) = .ok (.int value, rest) := by
  have leading := leadingDigits_toDigits value.natAbs
  unfold intText
  split
  · next negative =>
    have reading := unsigned?_whole true leading delimited
    have value : -(value.natAbs : Int) = value := by omega
    rw [Nat.ofDigitChars_ten_toDigits, if_pos rfl, value] at reading
    exact atom_of_signed? reading
  · next positive =>
    have reading := unsigned?_whole false leading delimited
    have value : (value.natAbs : Int) = value := by omega
    rw [Nat.ofDigitChars_ten_toDigits, if_neg (by decide), value] at reading
    exact atom_of_unsigned? reading

/-- The text of a finite number is read as the number. -/
theorem atom_write_finite (marked : format.wholeMark = ['.', '0']) (negative : Bool)
    (rank : Fin Binary64.finiteCount) (delimited : Delimited rest) :
    atom (points (format.write (.finite negative rank)) ++ rest) =
      .ok (.float (.finite negative rank), rest) := by
  have reading := unsigned?_magnitude marked rank.isLt negative delimited
  cases negative with
  | false => exact atom_of_unsigned? reading
  | true => exact atom_of_signed? reading

end DeclCodec.Json

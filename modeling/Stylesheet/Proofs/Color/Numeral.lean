import Stylesheet.Color.Amount
import Stylesheet.Proofs.Text.Run

/-!
Numerals and amounts as a grammar. A numeral is a tree that can be written and has a value; reading
finds in a text exactly the numeral that stands there, whichever of its forms it has, and an amount
is read exactly where a numeral stands alone or before a percent sign.
-/

namespace Stylesheet

/-- A run of digits, at least one. -/
structure Digits where
  text : Text
  filled : text ≠ []
  digits : ∀ c ∈ text, c.isDigit = true

-- Where a run of digits stands, a digit comes first.
theorem Digits.isDigit_head (digits : Digits) (rest : Text) :
    ∀ c ∈ (digits.text ++ rest).head?, c.isDigit = true := by
  intro c first
  obtain ⟨d, more, same⟩ := List.exists_cons_of_ne_nil digits.filled
  rw [same, List.cons_append, List.head?_cons, Option.mem_some_iff] at first
  exact digits.digits c (by simp [same, first])

inductive Sign where
  | absent
  | plus
  | minus

namespace Sign

def text : Sign → Text
  | absent => []
  | plus => ['+']
  | minus => ['-']

def negative : Sign → Bool
  | absent => false
  | plus => false
  | minus => true

end Sign

/-- A power of ten, such as `e-3`. -/
structure Power where
  letter : Char
  known : letter = 'e' ∨ letter = 'E'
  sign : Sign
  size : Digits

namespace Power

def text (power : Power) : Text := power.letter :: (power.sign.text ++ power.size.text)

def value (power : Power) : Int :=
  let size : Int := Decimal.ofDigits 0 power.size.text
  if power.sign.negative then -size else size

end Power

/-- A number without its sign. -/
inductive Magnitude where
  | scaled (whole : Digits) (power : Power)
  | pointed (whole : Digits) (places : Option Digits) (power : Option Power)
  | fraction (places : Digits) (power : Option Power)
  | integer (whole : Digits)

namespace Magnitude

def text : Magnitude → Text
  | scaled whole power => whole.text ++ power.text
  | pointed whole places power =>
    whole.text ++ '.' :: (places.elim [] Digits.text ++ power.elim [] Power.text)
  | fraction places power => '.' :: (places.text ++ power.elim [] Power.text)
  | integer whole => whole.text

/-- The digits before the point. -/
def whole : Magnitude → Text
  | scaled whole _ => whole.text
  | pointed whole _ _ => whole.text
  | fraction _ _ => []
  | integer whole => whole.text

/-- The digits behind the point, if there is one. -/
def places? : Magnitude → Option Text
  | scaled _ _ => none
  | pointed _ places _ => some (places.elim [] Digits.text)
  | fraction places _ => some places.text
  | integer _ => none

def power? : Magnitude → Option Power
  | scaled _ power => some power
  | pointed _ _ power => power
  | fraction _ power => power
  | integer _ => none

end Magnitude

structure Numeral where
  sign : Sign
  magnitude : Magnitude

namespace Numeral

def text (numeral : Numeral) : Text := numeral.sign.text ++ numeral.magnitude.text

/-- All digits as one number, scaled by the power and by the places behind the point. -/
def value (numeral : Numeral) : Decimal :=
  let places := numeral.magnitude.places?.getD []
  ⟨numeral.sign.negative, Decimal.ofDigits 0 (numeral.magnitude.whole ++ places),
    numeral.magnitude.power?.elim 0 Power.value - places.length⟩

end Numeral

/-! The parts of a number without its sign -/

namespace Magnitude

theorem text_eq (magnitude : Magnitude) :
    magnitude.text = magnitude.whole ++ (magnitude.places?.elim [] ('.' :: ·) ++
      magnitude.power?.elim [] Power.text) := by
  cases magnitude with
  | scaled whole power => rfl
  | pointed whole places power => rfl
  | fraction places power => rfl
  | integer whole => exact (List.append_nil whole.text).symm

theorem digits_whole (magnitude : Magnitude) : ∀ c ∈ magnitude.whole, c.isDigit = true := by
  cases magnitude with
  | scaled whole power => exact whole.digits
  | pointed whole places power => exact whole.digits
  | fraction places power => simp [whole]
  | integer whole => exact whole.digits

theorem digits_places? (magnitude : Magnitude) :
    ∀ places ∈ magnitude.places?, ∀ c ∈ places, c.isDigit = true := by
  rintro places found
  cases magnitude with
  | scaled whole power => cases found
  | pointed whole behind power =>
      cases found
      cases behind with
      | none => simp
      | some behind => exact behind.digits
  | fraction behind power =>
      cases found
      exact behind.digits
  | integer whole => cases found

theorem filled (magnitude : Magnitude) :
    magnitude.whole = [] → magnitude.places?.getD [] ≠ [] := by
  intro empty
  cases magnitude with
  | scaled whole power => exact absurd empty whole.filled
  | pointed whole places power => exact absurd empty whole.filled
  | fraction places power => exact places.filled
  | integer whole => exact absurd empty whole.filled

theorem head_text (magnitude : Magnitude) (rest : Text) :
    ∀ c ∈ (magnitude.text ++ rest).head?, c.isDigit = true ∨ c = '.' := by
  intro c first
  cases magnitude with
  | scaled whole power =>
      rw [text, List.append_assoc] at first
      exact .inl (whole.isDigit_head _ c first)
  | pointed whole places power =>
      rw [text, List.append_assoc] at first
      exact .inl (whole.isDigit_head _ c first)
  | fraction places power => exact .inr (Option.some.inj first).symm
  | integer whole => exact .inl (whole.isDigit_head rest c first)

/-- Digits around a point or without one make a number, as long as there is one digit. -/
theorem exists_of_parts {whole : Text} {places : Option Text} (power : Option Power)
    (digits : ∀ c ∈ whole, c.isDigit = true)
    (behind : ∀ text ∈ places, ∀ c ∈ text, c.isDigit = true)
    (filled : whole = [] → places.getD [] ≠ []) :
    ∃ magnitude : Magnitude, magnitude.whole = whole ∧ magnitude.places? = places ∧
      magnitude.power? = power := by
  cases places with
  | none =>
      have front : whole ≠ [] := fun empty => filled empty rfl
      cases power with
      | none => exact ⟨.integer ⟨whole, front, digits⟩, rfl, rfl, rfl⟩
      | some power => exact ⟨.scaled ⟨whole, front, digits⟩ power, rfl, rfl, rfl⟩
  | some text =>
      by_cases front : whole = []
      · have back : text ≠ [] := filled front
        exact ⟨.fraction ⟨text, back, behind text rfl⟩ power, front.symm, rfl, rfl⟩
      · by_cases back : text = []
        · exact ⟨.pointed ⟨whole, front, digits⟩ none power, rfl, congrArg some back.symm, rfl⟩
        · exact ⟨.pointed ⟨whole, front, digits⟩ (some ⟨text, back, behind text rfl⟩) power, rfl, rfl,
            rfl⟩

end Magnitude

/-! Reading one part after the other -/

namespace Decimal

section Parts

variable {rest : Text}

theorem readSign_text (sign : Sign) (unsigned : ∀ c ∈ rest.head?, c ≠ '+' ∧ c ≠ '-') :
    readSign (sign.text ++ rest) = (sign.negative, rest) := by
  cases sign with
  | plus => rfl
  | minus => rfl
  | absent =>
      cases rest with
      | nil => rfl
      | cons c rest =>
          have other := unsigned c rfl
          simp [Sign.text, Sign.negative, readSign, other.1, other.2]

theorem exists_sign (text : Text) :
    ∃ sign : Sign, text = sign.text ++ (readSign text).2 ∧ (readSign text).1 = sign.negative := by
  unfold readSign
  split
  · exact ⟨.minus, rfl, rfl⟩
  · exact ⟨.plus, rfl, rfl⟩
  · exact ⟨.absent, rfl, rfl⟩

theorem readFraction_text {places : Option Text}
    (digits : ∀ text ∈ places, ∀ c ∈ text, c.isDigit = true)
    (stops : ∀ c ∈ rest.head?, c.isDigit = false ∧ c ≠ '.') :
    readFraction (places.elim [] ('.' :: ·) ++ rest) = (places, rest) := by
  cases places with
  | none =>
      cases rest with
      | nil => rfl
      | cons c rest => simp [readFraction, (stops c rfl).2]
  | some text =>
      have ends : ∀ c ∈ rest.head?, c.isDigit = false := fun c first => (stops c first).1
      simp only [Option.elim_some, List.cons_append, readFraction, takeWhile_run (digits text rfl) ends,
        dropWhile_run (digits text rfl) ends]

theorem exists_fraction (text : Text) :
    text = (readFraction text).1.elim [] ('.' :: ·) ++ (readFraction text).2 ∧
      ∀ places ∈ (readFraction text).1, ∀ c ∈ places, c.isDigit = true := by
  unfold readFraction
  split
  · next rest =>
    obtain ⟨whole, inside, -⟩ := exists_run Char.isDigit rest
    refine ⟨congrArg ('.' :: ·) whole, ?_⟩
    rintro places found
    cases found
    exact inside
  · exact ⟨rfl, by simp⟩

theorem unsigned_of_isDigit {c : Char} (digit : c.isDigit = true) : c ≠ '+' ∧ c ≠ '-' := by
  constructor
  · rintro rfl
    cases digit
  · rintro rfl
    cases digit

theorem readExponent_text (power : Option Power)
    (stops : ∀ c ∈ rest.head?, c.isDigit = false ∧ c ≠ 'e' ∧ c ≠ 'E') :
    readExponent (power.elim [] Power.text ++ rest) = (power.elim 0 Power.value, rest) := by
  cases power with
  | none =>
      cases rest with
      | nil => rfl
      | cons c rest => simp [readExponent, (stops c rfl).2.1, (stops c rfl).2.2]
  | some power =>
      have unsigned := readSign_text power.sign fun c first =>
        unsigned_of_isDigit (power.size.isDigit_head rest c first)
      have ends : ∀ c ∈ rest.head?, c.isDigit = false := fun c first => (stops c first).1
      have letter : (power.letter = 'e' || power.letter = 'E') = true := by
        simpa using power.known
      simp only [Option.elim_some, Power.text, List.cons_append, List.append_assoc, readExponent,
        letter, if_true, unsigned, takeWhile_run power.size.digits ends,
        dropWhile_run power.size.digits ends, List.isEmpty_iff, power.size.filled, if_false]
      rfl

theorem exists_power (text : Text) :
    ∃ power : Option Power, text = power.elim [] Power.text ++ (readExponent text).2 ∧
      (readExponent text).1 = power.elim 0 Power.value := by
  cases text with
  | nil => exact ⟨none, rfl, rfl⟩
  | cons c rest =>
      obtain ⟨sign, signed, negative⟩ := exists_sign rest
      obtain ⟨run, digits, -⟩ := exists_run Char.isDigit (readSign rest).2
      simp only [readExponent]
      by_cases letter : c = 'e' ∨ c = 'E'
      · by_cases filled : (readSign rest).2.takeWhile Char.isDigit = []
        · exact ⟨none, by simp [letter, filled], by simp [letter, filled]⟩
        · refine ⟨some ⟨c, letter, sign, ⟨_, filled, digits⟩⟩, ?_, ?_⟩
          · simp [letter, filled, Power.text, ← run, ← signed]
          · simp [letter, filled, Power.value, negative]
      · exact ⟨none, by simp [letter], by simp [letter]⟩

end Parts

/-! Reading a numeral -/

/-- Whether a character would go on with a numeral that stands before it. -/
def goesOn (c : Char) : Bool := c.isDigit || c == '.' || c == 'e' || c == 'E'

section Numerals

variable {rest : Text}

theorem ends_of_goesOn {c : Char} (ends : goesOn c = false) :
    c.isDigit = false ∧ c ≠ '.' ∧ c ≠ 'e' ∧ c ≠ 'E' := by
  simpa [goesOn, and_assoc] using ends

theorem head_power (power : Option Power) (ends : ∀ c ∈ rest.head?, goesOn c = false) :
    ∀ c ∈ (power.elim [] Power.text ++ rest).head?, c.isDigit = false ∧ c ≠ '.' := by
  intro c first
  cases power with
  | none =>
      have other := ends_of_goesOn (ends c first)
      exact ⟨other.1, other.2.1⟩
  | some power =>
      obtain rfl : power.letter = c := Option.some.inj first
      rcases power.known with letter | letter <;> rw [letter] <;> decide

theorem head_fraction (places : Option Text) (stops : ∀ c ∈ rest.head?, c.isDigit = false) :
    ∀ c ∈ (places.elim [] ('.' :: ·) ++ rest).head?, c.isDigit = false := by
  intro c first
  cases places with
  | none => exact stops c first
  | some text =>
      obtain rfl : '.' = c := Option.some.inj first
      rfl

theorem read?_eq (text : Text) :
    read? text =
      let whole := (readSign text).2.takeWhile Char.isDigit
      let pointed := readFraction ((readSign text).2.dropWhile Char.isDigit)
      let scaled := readExponent pointed.2
      if whole.isEmpty && (pointed.1.getD []).isEmpty then none
      else some (⟨(readSign text).1, ofDigits (ofDigits 0 whole) (pointed.1.getD []),
        scaled.1 - (pointed.1.getD []).length⟩, scaled.2) := rfl

theorem ofDigits_append (start : Nat) (front back : Text) :
    ofDigits start (front ++ back) = ofDigits (ofDigits start front) back :=
  List.foldl_append

/-- A numeral is read as a whole where nothing goes on with it. -/
theorem read?_numeral (numeral : Numeral) (ends : ∀ c ∈ rest.head?, goesOn c = false) :
    read? (numeral.text ++ rest) = some (numeral.value, rest) := by
  obtain ⟨sign, magnitude⟩ := numeral
  have last := head_power magnitude.power? ends
  have scaled := readExponent_text magnitude.power? fun c first =>
    ⟨(ends_of_goesOn (ends c first)).1, (ends_of_goesOn (ends c first)).2.2⟩
  have pointed := readFraction_text magnitude.digits_places? last
  have behind := head_fraction magnitude.places? fun c first => (last c first).1
  have signed : readSign (sign.text ++ magnitude.text ++ rest) =
      (sign.negative, magnitude.text ++ rest) := by
    rw [List.append_assoc]
    apply readSign_text
    intro c first
    rcases magnitude.head_text rest c first with digit | rfl
    · exact unsigned_of_isDigit digit
    · decide
  have whole : magnitude.text ++ rest = magnitude.whole ++
      (magnitude.places?.elim [] ('.' :: ·) ++ (magnitude.power?.elim [] Power.text ++ rest)) := by
    rw [magnitude.text_eq, List.append_assoc, List.append_assoc]
  have filled : (magnitude.whole.isEmpty && (magnitude.places?.getD []).isEmpty) = false := by
    simpa using magnitude.filled
  simp only [read?_eq, Numeral.text, signed, whole, takeWhile_run magnitude.digits_whole behind,
    dropWhile_run magnitude.digits_whole behind, pointed, scaled, filled, Numeral.value,
    ofDigits_append, Bool.false_eq_true, if_false]

/-- What is read is a numeral. -/
theorem exists_numeral {text : Text} {number : Decimal} (read : read? text = some (number, rest)) :
    ∃ numeral : Numeral, text = numeral.text ++ rest ∧ numeral.value = number := by
  obtain ⟨sign, signed, negative⟩ := exists_sign text
  obtain ⟨run, digits, -⟩ := exists_run Char.isDigit (readSign text).2
  obtain ⟨pointed, places⟩ := exists_fraction ((readSign text).2.dropWhile Char.isDigit)
  obtain ⟨power, scaled, size⟩ :=
    exists_power (readFraction ((readSign text).2.dropWhile Char.isDigit)).2
  simp only [read?_eq] at read
  split at read
  · cases read
  · next filled =>
    obtain ⟨rfl, rfl⟩ := Prod.mk.inj (Option.some.inj read)
    obtain ⟨magnitude, whole, behind, same⟩ := Magnitude.exists_of_parts power digits places
      (by simpa using filled)
    refine ⟨⟨sign, magnitude⟩, ?_, ?_⟩
    · rw [Numeral.text, magnitude.text_eq, whole, behind, same, List.append_assoc, List.append_assoc,
        List.append_assoc, ← scaled, ← pointed, ← run, ← signed]
    · simp only [Numeral.value, whole, behind, same, ofDigits_append, negative, size]

end Numerals

end Decimal

/-! Amounts -/

section Gaps

variable {c : Char}

theorem goesOn_of_isLiteralGap (gap : isLiteralGap c = true) : Decimal.goesOn c = false := by
  simpa using of_isLiteralGap (p := (!Decimal.goesOn ·)) rfl gap

theorem Numeral.head_text (numeral : Numeral) (rest : Text) :
    ∀ c ∈ (numeral.text ++ rest).head?, isLiteralGap c = false := by
  intro c first
  obtain ⟨sign, magnitude⟩ := numeral
  cases sign with
  | absent =>
      have goes : Decimal.goesOn c = true := by
        rcases magnitude.head_text rest c first with digit | rfl
        · simp [Decimal.goesOn, digit]
        · rfl
      rw [Bool.eq_false_iff]
      intro gap
      cases goes.symm.trans (goesOn_of_isLiteralGap gap)
  | plus =>
      obtain rfl : '+' = c := Option.some.inj first
      rfl
  | minus =>
      obtain rfl : '-' = c := Option.some.inj first
      rfl

theorem goesOn_before_percent {gaps : Text} (inside : ∀ c ∈ gaps, isLiteralGap c = true)
    (rest : Text) : ∀ c ∈ (gaps ++ '%' :: rest).head?, Decimal.goesOn c = false := by
  intro c first
  cases gaps with
  | nil =>
      obtain rfl : '%' = c := Option.some.inj first
      rfl
  | cons d gaps =>
      obtain rfl : d = c := Option.some.inj first
      exact goesOn_of_isLiteralGap (inside d List.mem_cons_self)

end Gaps

namespace Amount

/-- The texts of an amount: a numeral, or a numeral and a percent sign, with gaps around them. -/
inductive Spelled : Text → Amount → Prop where
  | plain (numeral : Numeral) {before after : Text}
      (gapsBefore : ∀ c ∈ before, isLiteralGap c = true)
      (gapsAfter : ∀ c ∈ after, isLiteralGap c = true) :
      Spelled (before ++ (numeral.text ++ after)) ⟨numeral.value, false⟩
  | percent (numeral : Numeral) {before between after : Text}
      (gapsBefore : ∀ c ∈ before, isLiteralGap c = true)
      (gapsBetween : ∀ c ∈ between, isLiteralGap c = true)
      (gapsAfter : ∀ c ∈ after, isLiteralGap c = true) :
      Spelled (before ++ (numeral.text ++ (between ++ '%' :: after))) ⟨numeral.value, true⟩

section Texts

variable {literal : Text} {amount : Amount}

theorem ofText?_of_spelled (spelled : Spelled literal amount) : ofText? literal = some amount := by
  cases spelled with
  | @plain numeral before after gapsBefore gapsAfter =>
      have start := dropWhile_run gapsBefore (numeral.head_text after)
      have ends : ∀ c ∈ after.head?, Decimal.goesOn c = false := fun c first =>
        goesOn_of_isLiteralGap (gapsAfter c (List.mem_of_mem_head? first))
      have last : after.dropWhile isLiteralGap = [] := List.dropWhile_eq_nil_iff.mpr gapsAfter
      simp only [ofText?, start, Decimal.read?_numeral numeral ends, last]
  | @percent numeral before between after gapsBefore gapsBetween gapsAfter =>
      have start := dropWhile_run gapsBefore (numeral.head_text (between ++ '%' :: after))
      have ends := goesOn_before_percent gapsBetween after
      have sign : (between ++ '%' :: after).dropWhile isLiteralGap = '%' :: after := by
        apply dropWhile_run gapsBetween
        intro c first
        obtain rfl : '%' = c := Option.some.inj first
        rfl
      have last : after.all isLiteralGap = true := List.all_eq_true.mpr gapsAfter
      simp only [ofText?, start, Decimal.read?_numeral numeral ends, sign, last, if_true]

theorem spelled_of_ofText? (read : ofText? literal = some amount) : Spelled literal amount := by
  obtain ⟨whole, gapsBefore, -⟩ := exists_run isLiteralGap literal
  unfold ofText? at read
  split at read
  · cases read
  · next number rest found =>
    obtain ⟨numeral, text, rfl⟩ := Decimal.exists_numeral found
    obtain ⟨behind, gapsBehind, -⟩ := exists_run isLiteralGap rest
    rw [whole, text]
    split at read
    · next none =>
      cases read
      rw [none, List.append_nil] at behind
      exact .plain numeral gapsBefore (behind ▸ gapsBehind)
    · next more sign =>
      split at read
      · next gapsAfter =>
        cases read
        rw [behind, sign]
        exact .percent numeral gapsBefore gapsBehind (List.all_eq_true.mp gapsAfter)
      · cases read
    · cases read

theorem ofText?_eq_some_iff : ofText? literal = some amount ↔ Spelled literal amount :=
  ⟨spelled_of_ofText?, ofText?_of_spelled⟩

end Texts

/-- A text without its spaces. -/
def unspaced (text : Text) : Text := text.filter (· != ' ')

section Outcomes

variable {text : Text}

theorem read_of_blank (blank : unspaced text = []) : read text = .ok zero := by
  unfold unspaced at blank
  simp only [read, blank, List.isEmpty_nil, if_true]

theorem read_of_filled (filled : unspaced text ≠ []) :
    read text = (ofText? (unspaced text)).elim (.error (.unreadableAmount (unspaced text))) .ok := by
  unfold unspaced at filled ⊢
  simp only [read, List.isEmpty_iff, filled, if_false]
  cases ofText? (text.filter (· != ' ')) with
  | none => rfl
  | some amount => rfl

theorem not_spelled_nil (amount : Amount) : ¬Spelled [] amount := by
  rw [← ofText?_eq_some_iff]
  intro read
  cases read

theorem read_eq_ok_iff {amount : Amount} :
    read text = .ok amount ↔
      unspaced text = [] ∧ amount = zero ∨ Spelled (unspaced text) amount := by
  by_cases blank : unspaced text = []
  · rw [read_of_blank blank, blank]
    simp [not_spelled_nil, eq_comm]
  · rw [read_of_filled blank, ← ofText?_eq_some_iff]
    cases ofText? (unspaced text) with
    | none => simp [blank]
    | some found => simp [blank]

theorem read_eq_error_iff {error : LiteralError} :
    read text = .error error ↔
      error = .unreadableAmount (unspaced text) ∧ unspaced text ≠ [] ∧
        ∀ amount, ¬Spelled (unspaced text) amount := by
  by_cases blank : unspaced text = []
  · simp [read_of_blank blank, blank]
  · simp only [read_of_filled blank, ← ofText?_eq_some_iff]
    cases ofText? (unspaced text) with
    | none => simp [blank, eq_comm]
    | some found => simp

theorem read_congr {other : Text} (same : unspaced other = unspaced text) :
    read other = read text := by
  unfold unspaced at same
  simp only [read, same]

end Outcomes

/-- What is read, and as what, and how the rest is refused. The spaces of a text do not count, so
the gaps that are left in it are tabs, form feeds and ends of lines. A percent sign divides by a
hundred. -/
theorem read_grammar (text : Text) :
    (∀ amount, read text = .ok amount ↔
      unspaced text = [] ∧ amount = zero ∨ Spelled (unspaced text) amount) ∧
    (∀ error, read text = .error error ↔
      error = .unreadableAmount (unspaced text) ∧ unspaced text ≠ [] ∧
        ∀ amount, ¬Spelled (unspaced text) amount) ∧
    zero.toFloat = 0 ∧
    (∀ number : Decimal, toFloat ⟨number, false⟩ = number.toFloat ∧
      toFloat ⟨number, true⟩ = number.toFloat / 100) ∧
    ∀ other, unspaced other = unspaced text → read other = read text := by
  refine ⟨?_, ?_, rfl, ?_, ?_⟩
  · exact fun amount => read_eq_ok_iff
  · exact fun error => read_eq_error_iff
  · exact fun number => ⟨if_neg Bool.false_ne_true, if_pos rfl⟩
  · exact fun other => read_congr

/-- Spaces inside the number, in the power and before the percent sign, in different places. -/
theorem read_grammar_spacedPercent :
    read " 1.5 e+1\t%".toList = .ok ⟨⟨false, 15, 0⟩, true⟩ ∧
      read "1 .5e+ 1\t % ".toList = read " 1.5 e+1\t%".toList ∧
      Spelled "1.5e+1\t%".toList ⟨⟨false, 15, 0⟩, true⟩ := by
  have grammar := read_grammar " 1.5 e+1\t%".toList
  have accepted : read " 1.5 e+1\t%".toList = .ok ⟨⟨false, 15, 0⟩, true⟩ := by decide +kernel
  have written : unspaced " 1.5 e+1\t%".toList = "1.5e+1\t%".toList := by decide
  have spelled := (grammar.1 _).mp accepted
  rw [written] at spelled
  exact ⟨accepted, grammar.2.2.2.2 _ (by decide), spelled.resolve_left (by simp)⟩

end Amount

end Stylesheet

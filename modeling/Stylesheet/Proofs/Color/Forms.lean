import Mathlib.Data.List.DropRight
import Stylesheet.Proofs.Color.RoundTrip
import Stylesheet.Proofs.Text.Run

/-!
The forms of a colour, and what reading makes of each. A literal is a hash with digits, a name with
or without a group in parentheses, or neither. Of the first the digits are checked and then counted,
the second is known and refused by its parts, and what is neither is refused as it stands.
-/

namespace Stylesheet

namespace Text

/-- A trimmed text does not end with blanks. -/
theorem eq_nil_of_trim {text front blanks : Text} (whole : text.trim = front ++ blanks)
    (blank : ∀ c ∈ blanks, isBlank c = true) : blanks = [] := by
  have kept : trimEnd text.trim = text.trim := by
    rw [trim, trimEnd, trimEnd, List.reverse_reverse, List.dropWhile_idempotent]
  rw [whole, trimEnd_append_of_blank blank] at kept
  obtain ⟨more, shorter, -⟩ := exists_trimEnd_append front
  have lengths := congrArg List.length shorter
  rw [kept, List.length_append, List.length_append] at lengths
  exact List.eq_nil_of_length_eq_zero (by omega)

end Text

namespace Color

/-! Forms -/

/-- A letter or an underscore, and then digits as well. -/
def IsName (name : Text) : Prop :=
  ∃ c rest, name = c :: rest ∧ (c.isAlpha = true ∨ c = '_') ∧ ∀ d ∈ rest, isNameChar d = true

/-- What follows a name: nothing, or gaps and one group, which ends at its first parenthesis. -/
inductive Grouped : (behind group : Text) → Prop where
  | absent : Grouped [] []
  | present {gap inner : Text} (gaps : ∀ c ∈ gap, isLiteralGap c = true) (unclosed : ')' ∉ inner) :
      Grouped (gap ++ '(' :: (inner ++ [')'])) ('(' :: (inner ++ [')']))

def Named (literal name group : Text) : Prop :=
  ∃ behind, literal = name ++ behind ∧ IsName name ∧ Grouped behind group

def IsSmallHexDigit (c : Char) : Prop := c ∈ "0123456789abcdef".toList

instance (c : Char) : Decidable (IsSmallHexDigit c) :=
  inferInstanceAs (Decidable (c ∈ "0123456789abcdef".toList))

/-- How many digits make a colour. -/
def IsDigitCount (count : Nat) : Prop := count = 3 ∨ count = 6 ∨ count = 8

/-- What a trimmed literal is read as. A colour is told by how it is printed. -/
inductive Reads (literal : Text) : Except LiteralError Color → Prop where
  | badDigit {digits before behind : Text} {c : Char} (hashed : Hashed literal digits)
      (lower : digits.lower = before ++ c :: behind) (good : ∀ d ∈ before, IsSmallHexDigit d)
      (bad : ¬IsSmallHexDigit c) : Reads literal (.error (.badHexDigit c))
  | color {digits : Text} {color : Color} (hashed : Hashed literal digits)
      (good : ∀ d ∈ digits.lower, IsSmallHexDigit d) (counted : IsDigitCount digits.lower.length)
      (same : color.print = '#' :: printedDigits digits.lower) : Reads literal (.ok color)
  | miscounted {digits : Text} (hashed : Hashed literal digits)
      (good : ∀ d ∈ digits.lower, IsSmallHexDigit d) (other : ¬IsDigitCount digits.lower.length) :
      Reads literal (.error (.unsupportedColor ('#' :: digits.lower)))
  | named {name group : Text} (named : Named literal name group) :
      Reads literal (.error (.unsupportedColor (name ++ group)))
  | unreadable (unhashed : ∀ digits, ¬Hashed literal digits)
      (unnamed : ∀ name group, ¬Named literal name group) :
      Reads literal (.error (.unreadableColor literal))

/-! Digits behind a hash -/

section Digits

variable {c : Char} {digits before behind : Text} {values : List Nat}

theorem isSmallHexDigit_iff : IsSmallHexDigit c ↔ ∃ value, hexValue? c = some value := by
  constructor
  · intro small
    have each : "0123456789abcdef".toList.all (fun d => (hexValue? d).isSome) = true := by decide
    exact Option.isSome_iff_exists.mp (List.all_eq_true.mp each c small)
  · rintro ⟨value, known⟩
    rcases digitChar_of_hexValue? known with ⟨bounded, rfl⟩
    have each : ∀ value < 16, Nat.digitChar value ∈ "0123456789abcdef".toList := by decide
    exact each value bounded

theorem hexValue?_of_not_small (bad : ¬IsSmallHexDigit c) : hexValue? c = none := by
  rw [isSmallHexDigit_iff, ← Option.isSome_iff_exists] at bad
  exact Option.not_isSome_iff_eq_none.mp bad

/-- The first character that is no digit is the one that is refused. -/
theorem hexValues_of_bad (good : ∀ d ∈ before, IsSmallHexDigit d) (bad : ¬IsSmallHexDigit c) :
    hexValues (before ++ c :: behind) = .error (.badHexDigit c) := by
  induction before with
  | nil => simp only [List.nil_append, hexValues, hexValue?_of_not_small bad]
  | cons d before ih =>
      obtain ⟨value, known⟩ := isSmallHexDigit_iff.mp (good d List.mem_cons_self)
      have later := ih fun e member => good e (List.mem_cons_of_mem d member)
      simp only [List.cons_append, hexValues, known, later]
      rfl

theorem exists_bad (mixed : ¬∀ d ∈ digits, IsSmallHexDigit d) :
    ∃ before c behind, digits = before ++ c :: behind ∧ (∀ d ∈ before, IsSmallHexDigit d) ∧
      ¬IsSmallHexDigit c := by
  obtain ⟨whole, small, stops⟩ := exists_run (fun d => decide (IsSmallHexDigit d)) digits
  simp only [decide_eq_true_eq, decide_eq_false_iff_not] at small stops
  cases rest : digits.dropWhile fun d => decide (IsSmallHexDigit d) with
  | nil =>
      rw [rest, List.append_nil] at whole
      exact absurd (whole ▸ small) mixed
  | cons c behind =>
      rw [rest] at whole stops
      exact ⟨_, c, behind, whole, small, stops c rfl⟩

theorem exists_hexValues (good : ∀ d ∈ digits, IsSmallHexDigit d) :
    ∃ values, hexValues digits = .ok values ∧ values.length = digits.length := by
  induction digits with
  | nil => exact ⟨[], rfl, rfl⟩
  | cons d digits ih =>
      obtain ⟨value, known⟩ := isSmallHexDigit_iff.mp (good d List.mem_cons_self)
      obtain ⟨values, later, count⟩ := ih fun e member => good e (List.mem_cons_of_mem d member)
      refine ⟨value :: values, ?_, congrArg (· + 1) count⟩
      simp only [hexValues, known, later]
      rfl

theorem ofDigits_of_bad (good : ∀ d ∈ before, IsSmallHexDigit d) (bad : ¬IsSmallHexDigit c) :
    ofDigits (before ++ c :: behind) = .error (.badHexDigit c) := by
  simp only [ofDigits, hexValues_of_bad good bad]
  rfl

theorem exists_pair {count : Nat} (counted : values.length = count + 2) :
    ∃ high low rest, values = high :: low :: rest ∧ rest.length = count := by
  obtain ⟨high, later, rfl⟩ := List.exists_cons_of_length_eq_add_one counted
  rw [List.length_cons, Nat.add_right_cancel_iff] at counted
  obtain ⟨low, rest, rfl⟩ := List.exists_cons_of_length_eq_add_one counted
  exact ⟨high, low, rest, rfl, Nat.add_right_cancel counted⟩

theorem exists_ofDigits (good : ∀ d ∈ digits, IsSmallHexDigit d)
    (counted : IsDigitCount digits.length) : ∃ color, ofDigits digits = .ok color := by
  obtain ⟨values, known, count⟩ := exists_hexValues good
  simp only [ofDigits, known, bind, Except.bind]
  rw [← count] at counted
  rcases counted with three | six | eight
  · obtain ⟨r, g, b, rfl⟩ := List.length_eq_three.mp three
    exact ⟨_, rfl⟩
  · obtain ⟨r, r', later, rfl, four⟩ := exists_pair six
    obtain ⟨g, g', last, rfl, two⟩ := exists_pair four
    obtain ⟨b, b', rfl⟩ := List.length_eq_two.mp two
    exact ⟨_, rfl⟩
  · obtain ⟨r, r', later, rfl, six⟩ := exists_pair eight
    obtain ⟨g, g', later, rfl, four⟩ := exists_pair six
    obtain ⟨b, b', last, rfl, two⟩ := exists_pair four
    obtain ⟨a, a', rfl⟩ := List.length_eq_two.mp two
    exact ⟨_, rfl⟩

theorem ofDigits_of_miscounted (good : ∀ d ∈ digits, IsSmallHexDigit d)
    (other : ¬IsDigitCount digits.length) :
    ofDigits digits = .error (.unsupportedColor ('#' :: digits)) := by
  obtain ⟨values, known, count⟩ := exists_hexValues good
  simp only [ofDigits, known, bind, Except.bind]
  rw [← count] at other
  split
  · exact absurd (.inl rfl) other
  · exact absurd (.inr (.inl rfl)) other
  · exact absurd (.inr (.inr rfl)) other
  · rfl

theorem eq_of_print {first second : Color} (same : first.print = second.print) : first = second := by
  have read := read_print first
  rw [same, read_print second] at read
  exact (Except.ok.inj read).symm

end Digits

/-! Hashes -/

theorem read_of_unhashed {text rest : Text} (literal : text.trim = '#' :: rest)
    (unhashed : ∀ digits, ¬Hashed text.trim digits) :
    read text = .error (.unreadableColor text.trim) := by
  obtain ⟨whole, gaps, -⟩ := exists_run isLiteralGap rest
  rw [read_of_hash literal, literal]
  apply if_pos
  rw [Bool.or_eq_true, List.isEmpty_iff, List.any_eq_true]
  by_contra neither
  rw [not_or, not_exists] at neither
  apply unhashed (rest.dropWhile isLiteralGap)
  refine ⟨rest.takeWhile isLiteralGap, literal.trans (congrArg ('#' :: ·) whole), gaps, neither.1, ?_⟩
  intro c member
  simpa [member] using neither.2 c

/-! Names -/

section Names

variable {c : Char} {text name behind group : Text}

theorem isNameStart_iff : isNameStart c = true ↔ c.isAlpha = true ∨ c = '_' := by
  have spelled : isNameStart c = ((c.isAlpha || c.isDigit || c == '_') && !c.isDigit) := rfl
  simp only [spelled, Bool.and_eq_true, Bool.or_eq_true, beq_iff_eq, Bool.not_eq_true']
  constructor
  · rintro ⟨(letter | digit) | underscore, apart⟩
    · exact .inl letter
    · cases digit.symm.trans apart
    · exact .inr underscore
  · rintro (letter | rfl)
    · exact ⟨.inl (.inl letter), isDigit_of_isAlpha letter⟩
    · exact ⟨.inr rfl, rfl⟩

theorem isName_iff : IsName name ↔
    (∃ c ∈ name.head?, isNameStart c = true) ∧ ∀ d ∈ name, isNameChar d = true := by
  constructor
  · rintro ⟨c, rest, rfl, first, others⟩
    have starts := isNameStart_iff.mpr first
    exact ⟨⟨c, rfl, starts⟩, List.forall_mem_cons.mpr ⟨(Bool.and_eq_true_iff.mp starts).1, others⟩⟩
  · rintro ⟨⟨c, first, starts⟩, every⟩
    obtain ⟨rest, rfl⟩ := List.head?_eq_some_iff.mp first
    exact ⟨c, rest, rfl, isNameStart_iff.mp starts, (List.forall_mem_cons.mp every).2⟩

theorem readGroup?_of_grouped (grouped : Grouped behind group) : readGroup? behind = some group := by
  cases grouped with
  | absent => rfl
  | @present gap inner gaps unclosed =>
      have start : (gap ++ '(' :: (inner ++ [')'])).dropWhile isLiteralGap =
          '(' :: (inner ++ [')']) := by
        apply dropWhile_run gaps
        intro c first
        obtain rfl : '(' = c := Option.some.inj first
        rfl
      simp only [readGroup?, start, dropWhile_until unclosed]

-- Gaps alone behind a name would be blanks at the end of a trimmed text.
theorem grouped_of_readGroup? (literal : text.trim = name ++ behind)
    (read : readGroup? behind = some group) : Grouped behind group := by
  obtain ⟨whole, gaps, -⟩ := exists_run isLiteralGap behind
  unfold readGroup? at read
  split at read
  · next none =>
    cases read
    rw [none, List.append_nil] at whole
    have blank : ∀ c ∈ behind, isBlank c = true := fun c member =>
      isBlank_of_isLiteralGap (gaps c (whole ▸ member))
    rw [Text.eq_nil_of_trim literal blank]
    exact .absent
  · next inner opens =>
    split at read
    · next ends =>
      cases read
      obtain ⟨body, unclosed, -⟩ := exists_run (· != ')') inner
      rw [ends] at body
      rw [whole, opens, body]
      exact .present gaps fun member => by simpa using unclosed ')' member
    · cases read
  · cases read

theorem not_isNameChar_of_isLiteralGap (gap : isLiteralGap c = true) :
    isNameChar c = false := by
  simpa using of_isLiteralGap (p := (!isNameChar ·)) rfl gap

-- A name goes as far as it can: neither a gap nor a parenthesis is part of one.
theorem nameless_of_grouped (grouped : Grouped behind group) :
    ∀ c ∈ behind.head?, isNameChar c = false := by
  intro c first
  cases grouped with
  | absent => cases first
  | @present gap inner gaps unclosed =>
      cases gap with
      | nil =>
          obtain rfl : '(' = c := Option.some.inj first
          rfl
      | cons d gap =>
          obtain rfl : d = c := Option.some.inj first
          exact not_isNameChar_of_isLiteralGap (gaps d List.mem_cons_self)

theorem read_of_name {rest : Text} (literal : text.trim = c :: rest) (starts : isNameStart c = true) :
    read text =
      (readGroup? (text.trim.dropWhile isNameChar)).elim (.error (.unreadableColor text.trim))
        fun group => .error (.unsupportedColor (text.trim.takeWhile isNameChar ++ group)) := by
  have other : c ≠ '#' := by
    rintro rfl
    cases starts
  simp only [read, literal, other, if_false, starts, if_true]
  cases readGroup? ((c :: rest).dropWhile isNameChar) with
  | none => rfl
  | some group => rfl

theorem read_of_named (named : Named text.trim name group) :
    read text = .error (.unsupportedColor (name ++ group)) := by
  obtain ⟨behind, literal, isName, grouped⟩ := named
  obtain ⟨⟨c, first, starts⟩, every⟩ := isName_iff.mp isName
  obtain ⟨rest, rfl⟩ := List.head?_eq_some_iff.mp first
  have stops := nameless_of_grouped grouped
  rw [read_of_name literal starts, literal, takeWhile_run every stops, dropWhile_run every stops,
    readGroup?_of_grouped grouped]
  rfl

theorem read_of_unnamed {rest : Text} (literal : text.trim = c :: rest)
    (starts : isNameStart c = true) (unnamed : ∀ name group, ¬Named text.trim name group) :
    read text = .error (.unreadableColor text.trim) := by
  obtain ⟨whole, every, -⟩ := exists_run isNameChar text.trim
  have isName : IsName (text.trim.takeWhile isNameChar) := by
    refine isName_iff.mpr ⟨⟨c, ?_, starts⟩, every⟩
    rw [literal, List.takeWhile_cons_of_pos (Bool.and_eq_true_iff.mp starts).1]
    rfl
  rw [read_of_name literal starts]
  cases found : readGroup? (text.trim.dropWhile isNameChar) with
  | none => rfl
  | some group =>
      exact absurd ⟨_, whole, isName, grouped_of_readGroup? whole found⟩ (unnamed _ group)

end Names

theorem read_of_neither {text : Text} (unhashed : ∀ digits, ¬Hashed text.trim digits)
    (unnamed : ∀ name group, ¬Named text.trim name group) :
    read text = .error (.unreadableColor text.trim) := by
  cases literal : text.trim with
  | nil => simp only [read, literal]
  | cons c rest =>
      rw [← literal]
      by_cases hash : c = '#'
      · exact read_of_unhashed (hash ▸ literal) unhashed
      · by_cases starts : isNameStart c = true
        · exact read_of_unnamed literal starts unnamed
        · simp only [read, literal, hash, if_false, starts, Bool.false_eq_true]

/-- A literal with a hash is read by its digits, bad ones first and then their number. -/
theorem reads_of_hashed {text digits : Text} (hashed : Hashed text.trim digits) :
    Reads text.trim (read text) := by
  by_cases good : ∀ d ∈ digits.lower, IsSmallHexDigit d
  · by_cases counted : IsDigitCount digits.lower.length
    · obtain ⟨color, accepted⟩ := exists_ofDigits good counted
      rw [read_of_hashed hashed, accepted]
      exact .color hashed good counted (print_of_ofDigits accepted).2.2
    · rw [read_of_hashed hashed, ofDigits_of_miscounted good counted]
      exact .miscounted hashed good counted
  · obtain ⟨before, c, behind, lower, small, bad⟩ := exists_bad good
    rw [read_of_hashed hashed, lower, ofDigits_of_bad small bad]
    exact .badDigit hashed lower small bad

/-- Every text is read as its trimmed form says, and so in one way only. -/
theorem read_eq_iff_reads (text : Text) (outcome : Except LiteralError Color) :
    read text = outcome ↔ Reads text.trim outcome := by
  constructor
  · rintro rfl
    by_cases hashed : ∃ digits, Hashed text.trim digits
    · obtain ⟨digits, hashed⟩ := hashed
      exact reads_of_hashed hashed
    · by_cases named : ∃ name group, Named text.trim name group
      · obtain ⟨name, group, named⟩ := named
        rw [read_of_named named]
        exact .named named
      · rw [not_exists] at hashed
        simp only [not_exists] at named
        rw [read_of_neither hashed named]
        exact .unreadable hashed named
  · intro reads
    cases reads with
    | badDigit hashed lower good bad => rw [read_of_hashed hashed, lower, ofDigits_of_bad good bad]
    | @color digits color hashed good counted same =>
        obtain ⟨found, accepted⟩ := exists_ofDigits good counted
        rw [read_of_hashed hashed, accepted,
          eq_of_print ((print_of_ofDigits accepted).2.2.trans same.symm)]
    | miscounted hashed good other =>
        rw [read_of_hashed hashed, ofDigits_of_miscounted good other]
    | named named => exact read_of_named named
    | unreadable unhashed unnamed => exact read_of_neither unhashed unnamed

end Color

end Stylesheet

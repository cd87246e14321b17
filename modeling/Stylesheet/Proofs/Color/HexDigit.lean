import Stylesheet.Color.Literal

/-!
Hexadecimal digits. A digit is known by its value, a byte is printed with two digits, and of all
characters only the digits themselves have a small form that is a digit.
-/

namespace Stylesheet

/-- A digit as it may be written, small or capital. -/
def IsHexDigit (c : Char) : Prop := c ∈ "0123456789abcdefABCDEF".toList

instance (c : Char) : Decidable (IsHexDigit c) :=
  inferInstanceAs (Decidable (c ∈ "0123456789abcdefABCDEF".toList))

/-! Digits and their values -/

section Values

variable {c : Char} {value high low : Nat}

theorem hexValue?_digitChar : ∀ value < 16, hexValue? (Nat.digitChar value) = some value := by
  decide

theorem toNat_digitChar_letter : ∀ letter < 6, (Nat.digitChar (letter + 10)).toNat = 97 + letter := by
  decide

theorem isHexDigit_digitChar : ∀ value < 16, IsHexDigit (Nat.digitChar value) := by
  decide

/-- A digit that has a value is the one that the value is written with. -/
theorem digitChar_of_hexValue? (known : hexValue? c = some value) :
    value < 16 ∧ Nat.digitChar value = c := by
  unfold hexValue? at known
  split at known
  · next range =>
    have lower : 48 ≤ c.toNat := range.1
    have upper : c.toNat ≤ 57 := range.2
    obtain rfl : c.toNat - 48 = value := Option.some.inj known
    refine ⟨by omega, Char.toNat_inj.mp ?_⟩
    rw [Nat.toNat_digitChar_of_lt_ten (by omega)]
    omega
  · split at known
    · next range =>
      have lower : 97 ≤ c.toNat := range.1
      have upper : c.toNat ≤ 102 := range.2
      obtain rfl : c.toNat - 97 + 10 = value := Option.some.inj known
      refine ⟨by omega, Char.toNat_inj.mp ?_⟩
      rw [toNat_digitChar_letter (c.toNat - 97) (by omega)]
      omega
    · cases known

theorem toNat_of_hexValue? (known : hexValue? c = some value) : 48 ≤ c.toNat ∧ c.toNat ≤ 102 := by
  rcases digitChar_of_hexValue? known with ⟨bounded, rfl⟩
  have each : ∀ value < 16, 48 ≤ (Nat.digitChar value).toNat ∧ (Nat.digitChar value).toNat ≤ 102 := by
    decide
  exact each value bounded

/-- The two digits of a byte. -/
theorem hexDigits_two (high low : Nat) (first : high < 16) (second : low < 16) :
    Text.hexDigits 2 (high * 16 + low) = [Nat.digitChar high, Nat.digitChar low] := by
  unfold Text.hexDigits
  by_cases small : high = 0
  · subst small
    rw [Nat.zero_mul, Nat.zero_add, Nat.toDigits_of_lt_base second]
    rfl
  · have quotient : (high * 16 + low) / 16 = high := by omega
    have remainder : (high * 16 + low) % 16 = low := by omega
    rw [Nat.toDigits_of_base_le (by decide) (by omega), quotient, remainder,
      Nat.toDigits_of_lt_base first]
    rfl

end Values

/-! Small forms -/

section Small

variable {c : Char} {value : Nat}

-- Apart from the letters of ASCII, no letter moves down as far as the digits.
theorem caseRuns_above : caseRuns.all (fun run =>
    run.first == 0x41 && run.last == 0x5A && run.shift == 32 ||
      decide (0x66 < run.first + run.shift)) = true := by
  decide +kernel

theorem lowerChar_of_isHexDigit (digit : IsHexDigit c) : lowerChar c = c.toLower := by
  have each : "0123456789abcdefABCDEF".toList.all (fun d => lowerChar d == d.toLower) = true := by
    decide +kernel
  exact beq_iff_eq.mp (List.all_eq_true.mp each c digit)

theorem toNat_ofNat (code : Nat) : (Char.ofNat code).toNat = code ∨ (Char.ofNat code).toNat = 0 := by
  by_cases valid : code.isValidChar
  · exact .inl (congrArg Char.toNat (dif_pos valid))
  · exact .inr (congrArg Char.toNat (dif_neg valid))

theorem isHexDigit_capital {c : Char} (lower : 65 ≤ c.toNat) (upper : c.toNat ≤ 70) :
    IsHexDigit c := by
  have each : ∀ letter < 6, IsHexDigit (Char.ofNat (65 + letter)) := by decide
  have letter := each (c.toNat - 65) (by omega)
  rwa [Nat.add_sub_cancel' lower, Char.ofNat_toNat] at letter

theorem lowerChar_of_found {run : CaseRun} (found : caseRuns.find? (·.covers c.toNat) = some run) :
    lowerChar c = Char.ofNat (c.toNat + run.shift).toNat := by
  unfold lowerChar
  rw [found]

theorem lowerChar_of_none (found : caseRuns.find? (·.covers c.toNat) = none) : lowerChar c = c := by
  unfold lowerChar
  rw [found]

theorem isHexDigit_of_lowerChar (known : hexValue? (lowerChar c) = some value) : IsHexDigit c := by
  cases found : caseRuns.find? (·.covers c.toNat) with
  | none =>
      rw [lowerChar_of_none found] at known
      rcases digitChar_of_hexValue? known with ⟨bounded, rfl⟩
      exact isHexDigit_digitChar value bounded
  | some run =>
      rw [lowerChar_of_found found] at known
      have bounds := toNat_of_hexValue? known
      have code := toNat_ofNat (c.toNat + run.shift).toNat
      have covered := List.find?_some found
      simp only [CaseRun.covers, Bool.and_eq_true, decide_eq_true_eq] at covered
      have table := List.all_eq_true.mp caseRuns_above run (List.mem_of_find?_eq_some found)
      simp only [Bool.or_eq_true, Bool.and_eq_true, beq_iff_eq, decide_eq_true_eq] at table
      rcases table with ⟨⟨first, last⟩, shift⟩ | above
      · apply isHexDigit_capital
        · omega
        · omega
      · omega

end Small

namespace Text

/-- The small forms of digits are found without regard to what stands around them. -/
theorem lowerAfter_of_isHexDigit {text : Text} (digits : ∀ c ∈ text, IsHexDigit c) (passed : Text) :
    lowerAfter passed text = text.map Char.toLower := by
  induction text generalizing passed with
  | nil => rfl
  | cons c text ih =>
      have digit := digits c List.mem_cons_self
      have dotless : c ≠ 'İ' := by
        rintro rfl
        exact absurd digit (by decide)
      have sigmaless : c ≠ 'Σ' := by
        rintro rfl
        exact absurd digit (by decide)
      have later := ih (fun d member => digits d (List.mem_cons_of_mem c member)) (c :: passed)
      simp only [lowerAfter, dotless, sigmaless, if_false, lowerChar_of_isHexDigit digit, later]
      rfl

theorem isHexDigit_of_lowerAfter {text passed : Text}
    (small : ∀ d ∈ lowerAfter passed text, ∃ value, hexValue? d = some value) :
    ∀ c ∈ text, IsHexDigit c := by
  induction text generalizing passed with
  | nil => simp
  | cons c text ih =>
      have later : ∀ d ∈ lowerAfter (c :: passed) text, ∃ value, hexValue? d = some value :=
        fun d member => small d (List.mem_append_right _ member)
      have digit : IsHexDigit c := by
        by_cases dotted : c = 'İ'
        · subst dotted
          have letter : 'i' ∈ lowerAfter passed ('İ' :: text) := List.mem_cons_self
          exact absurd (small 'i' letter) (by simp [hexValue?])
        by_cases sigma : c = 'Σ'
        · subst sigma
          have letter : 'ς' ∈ lowerAfter passed ('Σ' :: text) ∨
              'σ' ∈ lowerAfter passed ('Σ' :: text) := by
            simp only [lowerAfter, dotted, if_false, if_true]
            split
            · exact .inl List.mem_cons_self
            · exact .inr List.mem_cons_self
          rcases letter with final | other
          · exact absurd (small 'ς' final) (by simp [hexValue?])
          · exact absurd (small 'σ' other) (by simp [hexValue?])
        · have form : lowerChar c ∈ lowerAfter passed (c :: text) := by
            simp [lowerAfter, dotted, sigma]
          rcases small (lowerChar c) form with ⟨value, known⟩
          exact isHexDigit_of_lowerChar known
      exact List.forall_mem_cons.mpr ⟨digit, ih later⟩

end Text

end Stylesheet

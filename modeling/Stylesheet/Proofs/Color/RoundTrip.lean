import Stylesheet.Proofs.Color.HexDigit
import Stylesheet.Proofs.Text.Run

/-!
Printing a colour and reading it back. A printed colour is read as the colour it was, and a literal
that can be read is printed with its own digits, in small letters: each of three digits twice, and
without the digits of full opacity.
-/

namespace Stylesheet

namespace Color

/-! Bytes and their digits -/

/-- The values of the two digits of a channel. -/
def halves (channel : UInt8) : List Nat := [channel.toNat / 16, channel.toNat % 16]

section Bytes

variable {high low : Nat}

theorem halves_lt (channel : UInt8) : ∀ value ∈ halves channel, value < 16 := by
  have bounded := channel.toNat_lt
  simp only [halves, List.forall_mem_cons, List.not_mem_nil, false_implies, implies_true, and_true]
  omega

theorem halves_byte (first : high < 16) (second : low < 16) : halves (byte high low) = [high, low] := by
  have whole : (byte high low).toNat = high * 16 + low := Nat.mod_eq_of_lt (by omega)
  have quotient : (high * 16 + low) / 16 = high := by omega
  have remainder : (high * 16 + low) % 16 = low := by omega
  rw [halves, whole, quotient, remainder]

theorem byte_halves (channel : UInt8) : byte (channel.toNat / 16) (channel.toNat % 16) = channel := by
  rw [byte, Nat.div_add_mod' channel.toNat 16]
  exact UInt8.ofNat_toNat

theorem hexDigits_channel (channel : UInt8) :
    Text.hexDigits 2 channel.toNat = (halves channel).map Nat.digitChar := by
  have bounded := channel.toNat_lt
  have digits := hexDigits_two (channel.toNat / 16) (channel.toNat % 16) (by omega) (by omega)
  rwa [Nat.div_add_mod' channel.toNat 16] at digits

-- Full opacity is the one byte that is written with two digits f.
theorem byte_eq_full (first : high < 16) (second : low < 16) :
    byte high low = 255 ↔ [Nat.digitChar high, Nat.digitChar low] = ['f', 'f'] := by
  have each : ∀ high < 16, ∀ low < 16,
      byte high low = 255 ↔ [Nat.digitChar high, Nat.digitChar low] = ['f', 'f'] := by
    decide
  exact each high first low second

end Bytes

/-- The channels that a colour is printed with. -/
def printedChannels (color : Color) : List UInt8 :=
  [color.red, color.green, color.blue] ++ if color.alpha = 255 then [] else [color.alpha]

theorem print_eq (color : Color) :
    color.print = '#' :: (color.printedChannels.flatMap halves).map Nat.digitChar := by
  by_cases full : color.alpha = 255
  · simp [print, printedChannels, full, hexDigits_channel]
  · simp [print, printedChannels, full, hexDigits_channel]

/-! Digits and values -/

section Values

variable {digits : Text} {values : List Nat}

theorem hexValues_digits (bounded : ∀ value ∈ values, value < 16) :
    hexValues (values.map Nat.digitChar) = .ok values := by
  induction values with
  | nil => rfl
  | cons value values ih =>
      have later := ih fun other member => bounded other (List.mem_cons_of_mem value member)
      have first := hexValue?_digitChar value (bounded value List.mem_cons_self)
      simp only [List.map_cons, hexValues, first, later]
      rfl

theorem digits_of_hexValues (known : hexValues digits = .ok values) :
    digits = values.map Nat.digitChar ∧ ∀ value ∈ values, value < 16 := by
  induction digits generalizing values with
  | nil =>
      cases known
      simp
  | cons c digits ih =>
      cases first : hexValue? c with
      | none => simp [hexValues, first] at known
      | some value =>
          rcases digitChar_of_hexValue? first with ⟨bounded, rfl⟩
          cases later : hexValues digits with
          | error error =>
              simp only [hexValues, first, later] at known
              cases known
          | ok rest =>
              simp only [hexValues, first, later] at known
              cases known
              rcases ih later with ⟨rfl, small⟩
              exact ⟨rfl, List.forall_mem_cons.mpr ⟨bounded, small⟩⟩

end Values

/-! Printing what is read -/

/-- The digits of a literal as its colour is printed with them. -/
def printedDigits (digits : Text) : Text :=
  if digits.length = 3 then digits.flatMap fun c => [c, c]
  else if digits.length = 8 ∧ digits.drop 6 = ['f', 'f'] then digits.take 6
  else digits

theorem printedDigits_opacity {digits opacity : Text} (six : digits.length = 6)
    (two : opacity.length = 2) :
    printedDigits (digits ++ opacity) = digits ++ if opacity = ['f', 'f'] then [] else opacity := by
  have behind : (digits ++ opacity).drop 6 = opacity := by rw [← six, List.drop_left]
  have front : (digits ++ opacity).take 6 = digits := by rw [← six, List.take_left]
  have eight : (digits ++ opacity).length = 8 := by rw [List.length_append, six, two]
  unfold printedDigits
  rw [behind, front, eight]
  by_cases full : opacity = ['f', 'f']
  · simp [full]
  · simp [full]

theorem print_bytes {r r' g g' b b' : Nat} (bounded : ∀ value ∈ [r, r', g, g', b, b'], value < 16)
    (alpha : UInt8) :
    print ⟨byte r r', byte g g', byte b b', alpha⟩ =
      '#' :: ([r, r', g, g', b, b'].map Nat.digitChar ++
        if alpha = 255 then [] else (halves alpha).map Nat.digitChar) := by
  simp only [List.forall_mem_cons] at bounded
  rcases bounded with ⟨red, red', green, green', blue, blue', _⟩
  rw [print_eq, printedChannels, List.flatMap_append, List.map_append]
  congr 2
  · simp [halves_byte, red, red', green, green', blue, blue']
  · by_cases full : alpha = 255
    · simp [full]
    · simp [full]

/-- A colour from its digits is printed with them. -/
theorem print_of_ofDigits {digits : Text} {color : Color} (accepted : ofDigits digits = .ok color) :
    (∀ d ∈ digits, ∃ value, hexValue? d = some value) ∧
      (digits.length = 3 ∨ digits.length = 6 ∨ digits.length = 8) ∧
      color.print = '#' :: printedDigits digits := by
  cases known : hexValues digits with
  | error error =>
      simp only [ofDigits, known] at accepted
      cases accepted
  | ok values =>
      rcases digits_of_hexValues known with ⟨rfl, bounded⟩
      have everyDigit : ∀ d ∈ values.map Nat.digitChar, ∃ value, hexValue? d = some value := by
        intro d member
        rcases List.mem_map.mp member with ⟨value, listed, rfl⟩
        exact ⟨value, hexValue?_digitChar value (bounded value listed)⟩
      simp only [ofDigits, known, bind, Except.bind] at accepted
      refine ⟨everyDigit, ?_⟩
      split at accepted
      · next r g b =>
        cases accepted
        have doubled : ∀ value ∈ [r, r, g, g, b, b], value < 16 := by simpa using bounded
        exact ⟨.inl rfl, print_bytes doubled 255⟩
      · next r r' g g' b b' =>
        cases accepted
        exact ⟨.inr (.inl rfl), print_bytes bounded 255⟩
      · next r r' g g' b b' a a' =>
        cases accepted
        have first : a < 16 := bounded a (by simp)
        have second : a' < 16 := bounded a' (by simp)
        have colours : ∀ value ∈ [r, r', g, g', b, b'], value < 16 := fun value member =>
          bounded value (List.mem_append_left [a, a'] member)
        refine ⟨.inr (.inr rfl), ?_⟩
        rw [print_bytes colours, halves_byte first second]
        simp only [byte_eq_full first second]
        exact congrArg ('#' :: ·) (printedDigits_opacity rfl rfl).symm
      · cases accepted

end Color

/-! Texts without blanks -/

namespace Text

variable {text : Text}

theorem trimStart_of_visible (visible : ∀ c ∈ text, isBlank c = false) : text.trimStart = text := by
  cases text with
  | nil => rfl
  | cons c text => exact List.dropWhile_cons_of_neg (by simp [visible c List.mem_cons_self])

theorem trim_of_visible (visible : ∀ c ∈ text, isBlank c = false) : text.trim = text := by
  have backwards : trimStart text.reverse = text.reverse :=
    trimStart_of_visible fun c member => visible c (List.mem_reverse.mp member)
  rw [trim, trimStart_of_visible visible, trimEnd, ← trimStart, backwards, List.reverse_reverse]

end Text

namespace Color

/-! Reading what is printed -/

/-- A hash and digits, between which gaps may stand. What is not blank counts as a digit here. -/
def Hashed (literal digits : Text) : Prop :=
  ∃ gap : Text, literal = '#' :: (gap ++ digits) ∧ (∀ c ∈ gap, isLiteralGap c = true) ∧
    digits ≠ [] ∧ ∀ c ∈ digits, isBlank c = false

section Reading

variable {c : Char} {text rest digits : Text} {color : Color}

theorem isBlank_of_isLiteralGap (gap : isLiteralGap c = true) : isBlank c = true :=
  of_isLiteralGap rfl gap

theorem isBlank_of_isHexDigit (digit : IsHexDigit c) : isBlank c = false := by
  have each : "0123456789abcdefABCDEF".toList.all (!isBlank ·) = true := rfl
  simpa using List.all_eq_true.mp each c digit

theorem read_of_hash (literal : text.trim = '#' :: rest) :
    read text =
      if (rest.dropWhile isLiteralGap).isEmpty || (rest.dropWhile isLiteralGap).any isBlank then
        .error (.unreadableColor ('#' :: rest))
      else ofDigits (Text.lower (rest.dropWhile isLiteralGap)) := by
  simp only [read, literal, if_true]

theorem isLiteralGap_of_visible (visible : isBlank c = false) : isLiteralGap c = false := by
  rw [Bool.eq_false_iff]
  intro gap
  cases visible.symm.trans (isBlank_of_isLiteralGap gap)

theorem read_of_hashed (hashed : Hashed text.trim digits) : read text = ofDigits digits.lower := by
  obtain ⟨gap, literal, gaps, filled, visible⟩ := hashed
  have together : (gap ++ digits).dropWhile isLiteralGap = digits :=
    dropWhile_run gaps fun c first =>
      isLiteralGap_of_visible (visible c (List.mem_of_mem_head? first))
  have unblanked : digits.any isBlank = false := List.any_eq_false.mpr (by simpa using visible)
  rw [read_of_hash literal, together, unblanked]
  simp only [List.isEmpty_iff, filled, Bool.or_false, if_false]

theorem exists_hash_of_read (accepted : read text = .ok color) :
    ∃ rest, text.trim = '#' :: rest := by
  simp only [read] at accepted
  cases literal : text.trim with
  | nil =>
      rw [literal] at accepted
      cases accepted
  | cons c rest =>
      rw [literal] at accepted
      by_cases hash : c = '#'
      · exact ⟨rest, by rw [hash]⟩
      · simp only [hash, if_false] at accepted
        split at accepted
        · split at accepted <;> cases accepted
        · cases accepted

/-- What can be read is a hash with digits behind it, and gaps may stand between them. -/
theorem exists_digits_of_read (accepted : read text = .ok color) :
    ∃ gap digits : Text, text.trim = '#' :: (gap ++ digits) ∧
      (∀ c ∈ gap, isLiteralGap c = true) ∧ ofDigits digits.lower = .ok color := by
  rcases exists_hash_of_read accepted with ⟨rest, literal⟩
  rw [read_of_hash literal] at accepted
  split at accepted
  · cases accepted
  · refine ⟨rest.takeWhile isLiteralGap, rest.dropWhile isLiteralGap, ?_, ?_, accepted⟩
    · rw [literal, List.takeWhile_append_dropWhile]
    · exact List.all_eq_true.mp List.all_takeWhile

theorem read_digits (hex : ∀ c ∈ digits, IsHexDigit c) (filled : digits ≠ []) :
    read ('#' :: digits) = ofDigits (digits.map Char.toLower) := by
  have visible : ∀ c ∈ digits, isBlank c = false := fun c member =>
    isBlank_of_isHexDigit (hex c member)
  have literal : Text.trim ('#' :: digits) = '#' :: digits :=
    Text.trim_of_visible (List.forall_mem_cons.mpr ⟨rfl, visible⟩)
  have hashed : Hashed (Text.trim ('#' :: digits)) digits := ⟨[], literal, by simp, filled, visible⟩
  rw [read_of_hashed hashed, Text.lower, Text.lowerAfter_of_isHexDigit hex]

theorem read_digitChars {values : List Nat} (bounded : ∀ value ∈ values, value < 16)
    (filled : values ≠ []) :
    read ('#' :: values.map Nat.digitChar) = ofDigits (values.map Nat.digitChar) := by
  have small : ∀ value < 16, (Nat.digitChar value).toLower = Nat.digitChar value := by decide
  have kept : (values.map Nat.digitChar).map Char.toLower = values.map Nat.digitChar := by
    rw [List.map_map]
    exact List.map_congr_left fun value member => small value (bounded value member)
  rw [read_digits, kept]
  · intro c member
    rcases List.mem_map.mp member with ⟨value, listed, rfl⟩
    exact isHexDigit_digitChar value (bounded value listed)
  · simpa using filled

theorem read_print (color : Color) : read color.print = .ok color := by
  have bounded : ∀ value ∈ color.printedChannels.flatMap halves, value < 16 := by
    intro value member
    rcases List.mem_flatMap.mp member with ⟨channel, _, listed⟩
    exact halves_lt channel value listed
  have filled : color.printedChannels.flatMap halves ≠ [] := List.cons_ne_nil _ _
  rw [print_eq, read_digitChars bounded filled]
  simp only [ofDigits, hexValues_digits bounded]
  by_cases full : color.alpha = 255
  · simp only [printedChannels, full, if_true, halves, List.flatMap_cons, List.flatMap_nil, bind,
      Except.bind, List.cons_append, List.nil_append, byte_halves]
    rw [← full]
  · simp only [printedChannels, full, if_false, halves, List.flatMap_cons, List.flatMap_nil, bind,
      Except.bind, List.cons_append, List.nil_append, byte_halves]

end Reading

/-- A printed colour is read back, and what is read is printed with the digits behind its hash, in
small letters and as bytes: three of them stand for six, and full opacity is left out. -/
theorem read_print_roundTrip :
    (∀ color : Color, read color.print = .ok color) ∧
      ∀ (text : Text) (color : Color), read text = .ok color →
        ∃ gap digits : Text, text.trim = '#' :: (gap ++ digits) ∧
          (∀ c ∈ gap, isLiteralGap c = true) ∧ (∀ c ∈ digits, IsHexDigit c) ∧
          (digits.length = 3 ∨ digits.length = 6 ∨ digits.length = 8) ∧
          color.print = '#' :: printedDigits (digits.map Char.toLower) ∧
          ∀ channel ∈ [color.red, color.green, color.blue, color.alpha], channel.toNat ≤ 255 := by
  refine ⟨read_print, ?_⟩
  intro text color accepted
  rcases exists_digits_of_read accepted with ⟨gap, digits, literal, gaps, known⟩
  rcases print_of_ofDigits known with ⟨small, count, printed⟩
  have hex : ∀ c ∈ digits, IsHexDigit c := Text.isHexDigit_of_lowerAfter small
  have lowered : digits.lower = digits.map Char.toLower := Text.lowerAfter_of_isHexDigit hex []
  rw [lowered] at printed count
  rw [List.length_map] at count
  refine ⟨gap, digits, literal, gaps, hex, count, printed, ?_⟩
  intro channel _
  exact Nat.le_of_lt_succ channel.toNat_lt

/-- Blanks around the literal and behind the hash, letters of both sizes, and full opacity. -/
theorem read_print_roundTrip_spacedLiteral :
    read " # 12ABcdfF\n".toList = .ok ⟨0x12, 0xAB, 0xCD, 255⟩ ∧
      ∃ gap digits : Text, Text.trim " # 12ABcdfF\n".toList = '#' :: (gap ++ digits) ∧
        (∀ c ∈ gap, isLiteralGap c = true) ∧ (∀ c ∈ digits, IsHexDigit c) ∧
        (digits.length = 3 ∨ digits.length = 6 ∨ digits.length = 8) ∧
        "#12abcd".toList = '#' :: printedDigits (digits.map Char.toLower) := by
  have accepted : read " # 12ABcdfF\n".toList = .ok ⟨0x12, 0xAB, 0xCD, 255⟩ := by rfl
  have printed : print ⟨0x12, 0xAB, 0xCD, 255⟩ = "#12abcd".toList := by decide +kernel
  rcases read_print_roundTrip.2 _ _ accepted with ⟨gap, digits, literal, gaps, hex, count, same, _⟩
  rw [printed] at same
  exact ⟨accepted, gap, digits, literal, gaps, hex, count, same⟩

end Color

end Stylesheet

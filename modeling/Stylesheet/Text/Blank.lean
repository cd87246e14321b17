import Stylesheet.Text.Basic

/-!
Blank characters and trimming. A character is blank when it separates words or lines in Unicode,
the four information separators of ASCII included.
-/

namespace Stylesheet

def blankRanges : CharRanges :=
  [(0x9, 0xD), (0x1C, 0x20), (0x85, 0x85), (0xA0, 0xA0), (0x1680, 0x1680), (0x2000, 0x200A),
   (0x2028, 0x2029), (0x202F, 0x202F), (0x205F, 0x205F), (0x3000, 0x3000)]

def isBlank (c : Char) : Bool := blankRanges.contains c

namespace Text

def trimStart (text : Text) : Text := text.dropWhile isBlank

def trimEnd (text : Text) : Text := (text.reverse.dropWhile isBlank).reverse

def trim (text : Text) : Text := text.trimStart.trimEnd

/-- A text with nothing but blanks in it. -/
def isBlankText (text : Text) : Bool := text.all isBlank

/-- Trimming cuts blanks off the start and nothing else. -/
theorem exists_append_trimStart (text : Text) :
    ∃ blanks : Text, blanks ++ text.trimStart = text ∧ ∀ c ∈ blanks, isBlank c = true :=
  ⟨text.takeWhile isBlank, List.takeWhile_append_dropWhile,
    List.all_eq_true.mp List.all_takeWhile⟩

/-- The same at the end. -/
theorem exists_trimEnd_append (text : Text) :
    ∃ blanks : Text, text.trimEnd ++ blanks = text ∧ ∀ c ∈ blanks, isBlank c = true := by
  refine ⟨(text.reverse.takeWhile isBlank).reverse, ?_, ?_⟩
  · rw [trimEnd, ← List.reverse_append, List.takeWhile_append_dropWhile, List.reverse_reverse]
  · intro c member
    exact List.all_eq_true.mp List.all_takeWhile c (List.mem_reverse.mp member)

theorem trimStart_append_of_blank {blanks : Text} (blank : ∀ c ∈ blanks, isBlank c = true)
    (text : Text) : trimStart (blanks ++ text) = text.trimStart := by
  induction blanks with
  | nil => rfl
  | cons c blanks ih =>
    rw [trimStart, List.cons_append, List.dropWhile_cons_of_pos (blank c List.mem_cons_self)]
    exact ih fun d member => blank d (List.mem_cons_of_mem c member)

theorem trimEnd_append_of_blank {blanks : Text} (blank : ∀ c ∈ blanks, isBlank c = true)
    (text : Text) : trimEnd (text ++ blanks) = text.trimEnd := by
  have reversed := trimStart_append_of_blank
    (fun c (member : c ∈ blanks.reverse) => blank c (List.mem_reverse.mp member)) text.reverse
  simpa [trimEnd, trimStart] using reversed

theorem trimStart_of_blank {blanks : Text} (blank : ∀ c ∈ blanks, isBlank c = true) :
    blanks.trimStart = [] := by
  have trimmed := trimStart_append_of_blank blank []
  rwa [List.append_nil] at trimmed

/-- A text that trimming leaves alone starts with no blank. -/
theorem trimStart_of_trim {text : Text} (trimmed : text.trim = text) : text.trimStart = text := by
  obtain ⟨blanks, whole, _⟩ := exists_trimEnd_append text.trimStart
  have lengths := congrArg List.length whole
  rw [← trim, trimmed, List.length_append] at lengths
  have bounded : text.length ≤ text.trimStart.length := by omega
  exact (List.dropWhile_suffix isBlank).eq_of_length_le bounded

theorem trimEnd_of_trim {text : Text} (trimmed : text.trim = text) : text.trimEnd = text := by
  rw [trim, trimStart_of_trim trimmed] at trimmed
  exact trimmed

theorem isBlank_of_trimStart {c : Char} {text : Text} (trimmed : trimStart (c :: text) = c :: text) :
    isBlank c = false := by
  rw [Bool.eq_false_iff]
  intro blank
  have shorter := congrArg List.length trimmed
  rw [trimStart, List.dropWhile_cons_of_pos blank] at shorter
  have bounded := (List.dropWhile_sublist isBlank (l := text)).length_le
  simp only [List.length_cons] at shorter
  omega

/-- Where a text starts with no blank, a text that goes on does not either. -/
theorem trimStart_append_of_filled {text : Text} (trimmed : text.trimStart = text)
    (filled : text ≠ []) (more : Text) : trimStart (text ++ more) = text ++ more := by
  cases text with
  | nil => exact absurd rfl filled
  | cons c text =>
    have visible := Bool.eq_false_iff.mp (isBlank_of_trimStart trimmed)
    rw [trimStart, List.cons_append, List.dropWhile_cons_of_neg visible]

theorem trimEnd_append_of_filled {text : Text} (trimmed : text.trimEnd = text)
    (filled : text ≠ []) (before : Text) : trimEnd (before ++ text) = before ++ text := by
  have reversed : trimStart text.reverse = text.reverse := by
    rw [← List.reverse_inj, List.reverse_reverse]
    exact trimmed
  have longer := trimStart_append_of_filled reversed (by simpa using filled) before.reverse
  rw [trimEnd, List.reverse_append, ← trimStart, longer, List.reverse_append, List.reverse_reverse,
    List.reverse_reverse]

/-- Blanks around a trimmed text go when it is trimmed. -/
theorem trim_between {before text after : Text} (trimmed : text.trim = text) (filled : text ≠ [])
    (blankBefore : ∀ c ∈ before, isBlank c = true) (blankAfter : ∀ c ∈ after, isBlank c = true) :
    trim (before ++ text ++ after) = text := by
  rw [trim, List.append_assoc, trimStart_append_of_blank blankBefore,
    trimStart_append_of_filled (trimStart_of_trim trimmed) filled,
    trimEnd_append_of_blank blankAfter, trimEnd_of_trim trimmed]

end Text

end Stylesheet

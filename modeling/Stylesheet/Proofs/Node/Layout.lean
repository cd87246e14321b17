import Stylesheet.Node.Layout
import Stylesheet.Proofs.Text.Rewriting

/-!
Spreading a stylesheet over lines moves blanks and nothing else. Each of the replacements, one of
which takes a tab away before a brace, writes the visible characters that it finds. So the visible
characters come out as they went in, also where braces do not match and inside strings.
-/

namespace Stylesheet

namespace Text

/-- The characters of a text that are not blank, in order. -/
def visible (text : Text) : Text := text.filter fun c => !isBlank c

theorem visible_replaceChar {old : Char} {new : Text} (same : visible new = visible [old])
    (text : Text) : visible (text.replaceChar old new) = visible text :=
  filter_replaceChar same text

theorem visible_replace {old new : Text} (filled : old ≠ []) (same : visible new = visible old)
    (text : Text) : visible (text.replace old new) = visible text :=
  filter_replace filled same text

theorem visible_trim (text : Text) : visible text.trim = visible text := by
  apply filter_trim
  intro c blank
  rw [blank]
  rfl

theorem head?_trim (text : Text) : ∀ c ∈ text.trim.head?, isBlank c = false := by
  intro c first
  obtain ⟨blanks, whole, _⟩ := exists_trimEnd_append text.trimStart
  have start : text.trimStart.head? = some c := by
    rw [← whole, List.head?_append, ← trim, Option.mem_def.mp first]
    rfl
  have stops := List.head?_dropWhile_not isBlank text
  rw [← trimStart, start] at stops
  simpa using stops

theorem getLast?_trim (text : Text) : ∀ c ∈ text.trim.getLast?, isBlank c = false := by
  intro c last
  rw [trim, trimEnd, List.getLast?_reverse] at last
  have stops := List.head?_dropWhile_not isBlank text.trimStart.reverse
  rw [Option.mem_def.mp last] at stops
  simpa using stops

end Text

open Text

/-- Spreading over lines keeps the visible characters of any text and leaves no blank at either
end. -/
theorem spreadLines_visible (text : Text) :
    visible (spreadLines text) = visible text ∧
      (∀ c ∈ (spreadLines text).head?, isBlank c = false) ∧
      ∀ c ∈ (spreadLines text).getLast?, isBlank c = false := by
  refine ⟨?_, head?_trim _, getLast?_trim _⟩
  have colon : visible [':', ' '] = visible [':'] := rfl
  have space : visible [':', ' '] = visible [':', ' ', ' '] := rfl
  have brace : visible [' ', '{', '\n', '\t'] = visible ['{'] := rfl
  have semicolon : visible [';', '\n', '\t'] = visible [';'] := rfl
  have closing : visible ['}', '\n', '\n'] = visible ['\t', '}'] := rfl
  simp only [spreadLines, visible_trim, visible_replace (List.cons_ne_nil _ _) closing,
    visible_replaceChar semicolon, visible_replaceChar brace,
    visible_replace (List.cons_ne_nil _ _) space, visible_replaceChar colon]

end Stylesheet

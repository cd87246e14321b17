import Stylesheet.Proofs.Invocation.Search
import Stylesheet.Proofs.Invocation.Seam

/-!
References: invocations that are a name and nothing more, except for a semicolon.
-/

namespace Stylesheet

/-- What can stand behind a reference without giving it a longer name, a list or a block. Blanks are
followed by something visible, since the blanks that end a text belong to the reference. -/
structure Text.StopsReference (text : Text) : Prop where
  noName : ∀ c ∈ text.head?, isNameChar c = false
  noList : (text.dropWhile isGapChar).head? ≠ some '('
  noBlock : (text.dropWhile isGapChar).head? ≠ some '{'
  noGaps : text = [] ∨ text.dropWhile isGapChar ≠ []

namespace Invocation

variable {name rest : Text}

/-- A reference has no arguments, and a semicolon is all that it takes from the text behind it. -/
theorem read_reference (filled : name ≠ []) (named : ∀ c ∈ name, isNameChar c = true)
    (stops : rest.StopsReference) (position : Nat) :
    read position (name ++ rest) = .ok (some (ended name [] rest)) := by
  have block : ∀ position, blockTail position rest = .ok ⟨[], rest⟩ := by
    intro position
    cases visible : rest.dropWhile isGapChar with
    | nil =>
        obtain rfl := stops.noGaps.resolve_right (not_not.mpr visible)
        rfl
    | cons c more =>
        apply blockTail_of_none visible
        rintro rfl
        exact stops.noBlock (by rw [visible]; rfl)
  have taken := takeWhile_run named stops.noName
  rw [read_of_named (taken.symm ▸ filled), taken, dropWhile_run named stops.noName,
    listTail_of_none stops.noList]
  simp only [bind, Except.bind, block, List.append_nil]
  rfl

/-- A search for one name passes over a reference to another. -/
theorem behind?_other {marker wanted : Text} (named : ∀ c ∈ name, isNameChar c = true)
    (noName : ∀ c ∈ rest.head?, isNameChar c = false)
    (isName : ∀ c ∈ wanted, isNameChar c = true) (other : name ≠ wanted) :
    behind? marker (some wanted) (marker ++ (name ++ rest)) = none := by
  apply behind?_eq_none_iff.mpr
  rintro ⟨behind, same, apart⟩
  rw [List.append_assoc] at same
  have tails : name ++ rest = wanted ++ behind := List.append_cancel_left same
  have whole := takeWhile_run named noName
  rw [tails, takeWhile_run isName apart] at whole
  exact other whole.symm

end Invocation

end Stylesheet

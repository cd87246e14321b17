import Stylesheet.Proofs.Node.BareText
import Stylesheet.Proofs.Node.Flattening
import Stylesheet.Proofs.Node.RoundTrip

/-!
Selectors of blocks inside each other. What asks a selector to be read as one is kept when another
is set behind it, so the selector of a block inside a block is a selector again. A list of selectors
stays usable all the way down: it holds selectors only, or it is the one empty selector of blocks
that have none.
-/

namespace Stylesheet

namespace Text

/-- What a selector can be put together from. -/
structure IsFragment (text : Text) : Prop where
  oneLine : '\n' ∉ text
  quotes : Quoting.outside.after text = .outside
  parentheses : Balanced '(' ')' text.bareChars
  squares : Balanced '[' ']' text.bareChars
  noOpening : '{' ∉ text.bareChars
  noClosing : '}' ∉ text.bareChars
  noEnd : ∀ front, front <+: text.bareChars → front.getLast? = some ';' →
    level ['('] [')'] front ≠ 0
  noComma : ∀ front, front <+: text.bareChars → front.getLast? = some ',' →
    level ['('] [')'] front ≠ 0 ∨ level ['['] [']'] front ≠ 0

theorem IsSelector.fragment {text : Text} (selector : text.IsSelector) : text.IsFragment :=
  ⟨selector.plain.oneLine, selector.quotes, selector.parentheses, selector.squares,
    selector.noOpening, selector.noClosing, selector.noEnd, selector.noComma⟩

theorem isFragment_of_blank {blanks : Text} (allBlank : ∀ c ∈ blanks, isBlank c = true)
    (oneLine : '\n' ∉ blanks) : blanks.IsFragment := by
  have other : ∀ {c}, isBlank c = false → c ∉ blanks.bareChars := by
    intro c visible member
    rw [bareChars_of_blank allBlank] at member
    exact ne_of_isBlank (allBlank c member) visible rfl
  refine ⟨oneLine, after_of_blank allBlank, balanced_of_absent (other rfl) (other rfl),
    balanced_of_absent (other rfl) (other rfl), other rfl, other rfl, ?_, ?_⟩
  · intro front leads ends
    exact absurd (leads.subset (List.mem_of_getLast? ends)) (other rfl)
  · intro front leads ends
    exact absurd (leads.subset (List.mem_of_getLast? ends)) (other rfl)

-- A character that is hidden in both texts is hidden in one behind the other.
theorem hidden_append {left right : Text} {c : Char} {hidden : Text → Prop}
    (first : ∀ front, front <+: left → front.getLast? = some c → hidden front)
    (second : ∀ front, front <+: right → front.getLast? = some c → hidden front)
    (shift : ∀ front, hidden front → hidden (left ++ front)) :
    ∀ front, front <+: left ++ right → front.getLast? = some c → hidden front := by
  intro front leads ends
  rcases front_of_append leads with short | ⟨part, within, rfl⟩
  · exact first front short ends
  · by_cases empty : part = []
    · subst empty
      rw [List.append_nil] at ends ⊢
      exact first left (List.prefix_refl left) ends
    · rw [List.getLast?_append_of_ne_nil _ empty] at ends
      exact shift part (second part within ends)

theorem IsFragment.append {left right : Text} (first : left.IsFragment) (second : right.IsFragment) :
    IsFragment (left ++ right) := by
  have chars := bareChars_append first.quotes right
  refine ⟨?_, ?_, ?_, ?_, ?_, ?_, ?_, ?_⟩
  · simp [first.oneLine, second.oneLine]
  · rw [Quoting.after_append, first.quotes, second.quotes]
  · rw [chars]
    exact first.parentheses.append second.parentheses
  · rw [chars]
    exact first.squares.append second.squares
  · simp [chars, first.noOpening, second.noOpening]
  · simp [chars, first.noClosing, second.noClosing]
  · rw [chars]
    apply hidden_append first.noEnd second.noEnd
    intro front nested
    rwa [level_append, first.parentheses.closed, Int.zero_add]
  · rw [chars]
    apply hidden_append first.noComma second.noComma
    intro front nested
    rwa [level_append, level_append, first.parentheses.closed, first.squares.closed, Int.zero_add,
      Int.zero_add]

theorem IsSelector.append {outer inner : Text} (first : outer.IsSelector)
    (second : inner.IsSelector) {middle : Text} (between : middle.IsFragment)
    (uncommented : Uncommented (outer ++ middle ++ inner)) :
    IsSelector (outer ++ middle ++ inner) := by
  have joined := (first.fragment.append between).append second.fragment
  have trimmed : trim (outer ++ middle ++ inner) = outer ++ middle ++ inner := by
    rw [trim, List.append_assoc,
      trimStart_append_of_filled (trimStart_of_trim first.trimmed) first.filled, ← List.append_assoc,
      trimEnd_append_of_filled (trimEnd_of_trim second.trimmed) second.filled]
  have noAtRule : (outer ++ middle ++ inner).head? ≠ some '@' := by
    rw [List.append_assoc, List.head?_append_of_ne_nil _ first.filled]
    exact first.noAtRule
  exact ⟨⟨⟨joined.oneLine, uncommented⟩, by simp [first.filled], trimmed, noAtRule, joined.quotes,
    joined.parentheses, joined.noOpening, joined.noClosing, joined.noEnd⟩, joined.squares,
    joined.noComma⟩

end Text

/-- The selector of a block inside a block is a selector again. -/
theorem isSelector_selectorBelow {outer inner : Text} (first : outer.IsSelector)
    (second : inner.IsSelector) : (selectorBelow outer inner).IsSelector := by
  have filledOuter : ¬outer.isEmpty = true := by simpa using first.filled
  have filledInner : ¬inner.isEmpty = true := by simpa using second.filled
  rw [selectorBelow, if_neg filledInner, if_neg filledOuter]
  split
  · next attached =>
    have nothing : Text.IsFragment [] := Text.isFragment_of_blank (by simp) (by simp)
    have joined := first.append second nothing
    rw [List.append_nil] at joined
    refine joined (Text.uncommented_append (.inr ?_) first.plain.uncommented second.plain.uncommented)
    simp [attached]
  · have space : Text.IsFragment [' '] :=
      Text.isFragment_of_blank (List.all_eq_true.mp rfl) (by decide)
    have joined := first.append second space
    rw [List.append_assoc] at joined
    exact joined
      (Text.uncommented_join (by decide) (by decide) first.plain.uncommented second.plain.uncommented)

/-! Lists of selectors -/

/-- Selectors only, or the one empty selector. -/
def Usable (selectors : List Text) : Prop :=
  (∀ selector ∈ selectors, selector.IsSelector) ∨ selectors = [[]]

theorem usable_selectorChoices {selectors : List Text} (usable : Usable selectors) :
    Usable (selectorChoices selectors) := by
  unfold selectorChoices
  split
  · exact .inr rfl
  · exact usable

/-- Every outer selector with every inner one. -/
theorem usable_product {outer inner : List Text} (first : Usable outer) (second : Usable inner) :
    Usable (outer.flatMap fun o => inner.map (selectorBelow o)) := by
  rcases second with selectors | rfl
  · rcases first with outers | rfl
    · left
      intro selector member
      obtain ⟨o, known, produced⟩ := List.mem_flatMap.mp member
      obtain ⟨i, listed, rfl⟩ := List.mem_map.mp produced
      exact isSelector_selectorBelow (outers o known) (selectors i listed)
    · left
      simpa [selectorBelow_nil_left] using selectors
  · have alone : (outer.flatMap fun o => [[]].map (selectorBelow o)) = outer := by
      simp [selectorBelow_nil_right]
    rwa [alone]

theorem usable_qualify {outer : Option (List Text)} {inner : List Text}
    (first : ∀ selectors ∈ outer, Usable selectors)
    (second : ∀ selector ∈ inner, selector.IsSelector) : Usable (qualify outer inner) := by
  cases outer with
  | none => exact .inl second
  | some selectors =>
      exact usable_product (usable_selectorChoices (first selectors rfl))
        (usable_selectorChoices (.inl second))

end Stylesheet

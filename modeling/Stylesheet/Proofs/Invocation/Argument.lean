import Stylesheet.Proofs.Invocation.Reading
import Stylesheet.Proofs.Text.Crossing

/-!
Arguments as they are written. A text that closes its quotes and its parentheses and has no comma
outside both is one argument wherever it stands in a list, so a list of such texts is read back
from its parts with commas between them.
-/

namespace Stylesheet

namespace ListState

def after (state : ListState) (text : Text) : ListState := text.foldl next state

/-- The same state with more parentheses open. -/
def raised (state : ListState) (more : Int) : ListState :=
  { state with depth := state.depth + more }

theorem next_raised (state : ListState) (more : Int) (c : Char) :
    (state.raised more).next c = (state.next c).raised more := by
  obtain ⟨quote, escaped, depth⟩ := state
  cases quote with
  | some quote => rfl
  | none =>
      simp only [next, raised]
      split
      · rfl
      · simp only [mk.injEq, true_and]
        split
        · omega
        · split <;> omega

theorem after_raised (state : ListState) (more : Int) (text : Text) :
    (state.raised more).after text = (state.after text).raised more := by
  induction text generalizing state with
  | nil => rfl
  | cons c text ih => exact (congrArg (after · text) (next_raised state more c)).trans (ih _)

theorem after_concat (state : ListState) (text : Text) (c : Char) :
    state.after (text ++ [c]) = (state.after text).next c := by
  simp [after]

/-- Inside a list, behind its opening parenthesis. -/
def opened : ListState := start.next '('

end ListState

structure Text.IsArgument (text : Text) : Prop where
  quotes : (ListState.start.after text).quote = none
  above : ∀ front, front <+: text → 0 ≤ (ListState.start.after front).depth
  closed : (ListState.start.after text).depth = 0
  noComma : ∀ front, front ++ [','] <+: text → (ListState.start.after front).isAt 0 = false

instance (text : Text) : Decidable text.IsArgument :=
  decidable_of_iff
    ((ListState.start.after text).quote = none ∧
      (∀ front, front <+: text → 0 ≤ (ListState.start.after front).depth) ∧
      (ListState.start.after text).depth = 0 ∧
      ∀ front, front <+: text → front ++ [','] <+: text →
        (ListState.start.after front).isAt 0 = false)
    ⟨fun ⟨quotes, above, closed, noComma⟩ => ⟨quotes, above, closed, fun front leads =>
        noComma front ((List.prefix_append front [',']).trans leads) leads⟩,
      fun ⟨quotes, above, closed, noComma⟩ => ⟨quotes, above, closed, fun front _ leads =>
        noComma front leads⟩⟩

/-- What can stand behind a list of arguments and is no part of the invocation: something visible
that opens no block, and no semicolon right away. -/
structure Text.Follows (text : Text) : Prop where
  visible : ∃ c rest, text.dropWhile isGapChar = c :: rest ∧ c ≠ '{'
  noSemicolon : text.head? ≠ some ';'

namespace Invocation

variable {argument : Text}

theorem opened_after (text : Text) :
    ListState.opened.after text = (ListState.start.after text).raised 1 :=
  ListState.after_raised .start 1 text

theorem isAt_opened_after (text : Text) :
    (ListState.opened.after text).isAt 1 = (ListState.start.after text).isAt 0 := by
  have counted : ∀ depth : Int, (depth + 1 == 1) = (depth == 0) := by
    intro depth
    rw [Bool.eq_iff_iff, beq_iff_eq, beq_iff_eq]
    omega
  simp only [opened_after, ListState.raised, ListState.isAt, counted]

theorem opened_after_argument (fits : argument.IsArgument) :
    ∃ escaped, ListState.opened.after argument = ⟨none, escaped, 1⟩ := by
  refine ⟨(ListState.start.after argument).escaped, ?_⟩
  rw [opened_after, ListState.raised, fits.closed, fits.quotes]
  rfl

-- A parenthesis that closes the list would leave the count of the argument below zero.
theorem crosses_list_of_argument (fits : argument.IsArgument) :
    ∃ escaped, listScanner.Crosses .opened argument ⟨none, escaped, 1⟩ := by
  obtain ⟨escaped, ends⟩ := opened_after_argument fits
  refine ⟨escaped, ends ▸ Scanner.crosses_of_fronts ?_⟩
  intro front c leads
  have above := fits.above _ leads
  rw [ListState.after_concat] at above
  change ((ListState.opened.after front).isAt 1 && c == ')') = false
  rw [isAt_opened_after, Bool.eq_false_iff]
  intro stops
  simp only [Bool.and_eq_true, beq_iff_eq, ListState.isAt, Option.isNone_iff_eq_none] at stops
  obtain ⟨⟨unquoted, outer⟩, rfl⟩ := stops
  have closes : ((ListState.start.after front).next ')').depth =
      (ListState.start.after front).depth - 1 := by
    simp [ListState.next, unquoted, isArgumentQuote]
  omega

theorem crosses_argument_of_argument (fits : argument.IsArgument) :
    ∃ escaped, argumentScanner.Crosses .opened argument ⟨none, escaped, 1⟩ := by
  obtain ⟨escaped, ends⟩ := opened_after_argument fits
  refine ⟨escaped, ends ▸ Scanner.crosses_of_fronts ?_⟩
  intro front c leads
  change ((ListState.opened.after front).isAt 1 && c == ',') = false
  by_cases comma : c = ','
  · subst comma
    rw [isAt_opened_after, fits.noComma front leads, Bool.false_and]
  · simp [comma]

/-- The commas between arguments leave the scan where it was behind the opening parenthesis. -/
theorem crosses_list_of_joined {more : List Text}
    (fits : ∀ each ∈ argument :: more, each.IsArgument) :
    ∃ escaped, listScanner.Crosses .opened (List.intercalate [','] (argument :: more))
      ⟨none, escaped, 1⟩ := by
  induction more generalizing argument with
  | nil =>
      rw [List.intercalate_singleton]
      exact crosses_list_of_argument (fits argument List.mem_cons_self)
  | cons next more ih =>
      obtain ⟨escaped, crosses⟩ := crosses_list_of_argument (fits argument List.mem_cons_self)
      obtain ⟨last, later⟩ := ih fun each member => fits each (List.mem_cons_of_mem argument member)
      refine ⟨last, ?_⟩
      rw [List.intercalate_cons_cons, List.append_assoc]
      exact Scanner.crosses_append crosses (.cons (by simp [listScanner]) later)

theorem pieces_joined {more : List Text} (fits : ∀ each ∈ argument :: more, each.IsArgument) :
    argumentScanner.pieces .opened (List.intercalate [','] (argument :: more)) =
      argument :: more := by
  induction more generalizing argument with
  | nil =>
      obtain ⟨escaped, crosses⟩ := crosses_argument_of_argument (fits argument List.mem_cons_self)
      rw [List.intercalate_singleton, Scanner.pieces_to_end crosses]
  | cons next more ih =>
      obtain ⟨escaped, crosses⟩ := crosses_argument_of_argument (fits argument List.mem_cons_self)
      have later := ih fun each member => fits each (List.mem_cons_of_mem argument member)
      rw [List.intercalate_cons_cons, List.append_assoc, List.singleton_append,
        Scanner.pieces_at crosses rfl]
      exact congrArg (argument :: ·) later

/-- Arguments with commas between them are read back from between the parentheses. -/
theorem list?_joined {more : List Text} (fits : ∀ each ∈ argument :: more, each.IsArgument)
    (rest : Text) :
    list? ('(' :: List.intercalate [','] (argument :: more) ++ ')' :: rest) =
      some (dropBlank (argument :: more), rest) := by
  obtain ⟨escaped, crosses⟩ := crosses_list_of_joined fits
  have cut : listScanner.run .opened (List.intercalate [','] (argument :: more) ++ ')' :: rest) =
      ⟨List.intercalate [','] (argument :: more), ⟨none, escaped, 1⟩, ')' :: rest⟩ :=
    Scanner.run_at crosses rfl
  have opens : ListState.start.next '(' = .opened := rfl
  simp only [List.cons_append, list?, opens, cut, pieces_joined fits]

/-- An invocation with a list of arguments, as it is written, in front of a text that is no part
of it. -/
theorem read_listed {name rest : Text} {more : List Text} (filled : name ≠ [])
    (named : ∀ c ∈ name, isNameChar c = true) (fits : ∀ each ∈ argument :: more, each.IsArgument)
    (follows : rest.Follows) (position : Nat) :
    read position (name ++ '(' :: List.intercalate [','] (argument :: more) ++ ')' :: rest) =
      .ok (some (⟨name, dropBlank (argument :: more), false⟩, rest)) := by
  have opens : ('(' :: (List.intercalate [','] (argument :: more) ++ ')' :: rest)).dropWhile
      isGapChar = '(' :: (List.intercalate [','] (argument :: more) ++ ')' :: rest) := by
    simp [isGapChar]
  obtain ⟨c, visible, shape, noBlock⟩ := follows.visible
  have ends : ended name (dropBlank (argument :: more) ++ []) rest =
      (⟨name, dropBlank (argument :: more), false⟩, rest) := by
    unfold ended
    split
    · exact absurd rfl follows.noSemicolon
    · rw [List.append_nil]
  rw [List.append_assoc, List.cons_append]
  have taken : (name ++ '(' :: (List.intercalate [','] (argument :: more) ++ ')' :: rest)).takeWhile
      isNameChar = name := by
    rw [List.takeWhile_append_of_pos named]
    simp [isNameChar]
  have dropped : (name ++ '(' :: (List.intercalate [','] (argument :: more) ++ ')' :: rest)).dropWhile
      isNameChar = '(' :: (List.intercalate [','] (argument :: more) ++ ')' :: rest) := by
    rw [List.dropWhile_append_of_pos named]
    simp [isNameChar]
  rw [read_of_named (taken.symm ▸ filled), taken, dropped,
    listTail_of_list? opens (list?_joined fits rest)]
  simp only [bind, Except.bind, blockTail_of_none shape noBlock, ends]
  rfl

end Invocation

end Stylesheet

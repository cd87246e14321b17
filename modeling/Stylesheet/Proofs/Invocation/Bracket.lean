import Stylesheet.Proofs.Invocation.Argument
import Stylesheet.Proofs.Node.BareText

/-!
Matching brackets of an invocation. The text between the parentheses of a list closes its quotes and
its own parentheses; the text between the braces of a block closes its own braces, and quotes do not
matter there. Where such a text ends, the reader stops, and it stops nowhere else.
-/

namespace Stylesheet

/-- What can stand between the parentheses of a list. -/
structure Text.ClosesList (text : Text) : Prop where
  quotes : (ListState.start.after text).quote = none
  above : ∀ front, front <+: text → 0 ≤ (ListState.start.after front).depth
  closed : (ListState.start.after text).depth = 0

namespace ListState

theorem after_cons (state : ListState) (c : Char) (text : Text) :
    state.after (c :: text) = (state.next c).after text := rfl

theorem after_append (state : ListState) (left right : Text) :
    state.after (left ++ right) = (state.after left).after right :=
  List.foldl_append

theorem isAt_iff {depth : Int} {state : ListState} :
    state.isAt depth = true ↔ state.quote = none ∧ state.depth = depth := by
  simp [isAt]

-- Behind a comma between arguments the list goes on as it began.
theorem next_comma {state : ListState} (outer : state.isAt 0 = true) : state.next ',' = .start := by
  obtain ⟨unquoted, level⟩ := isAt_iff.mp outer
  simp [next, unquoted, level, isArgumentQuote, start]

end ListState

namespace Invocation

/-! Lists -/

section Lists

variable {text inner more rest : Text} {state last : ListState}

-- A parenthesis that closes more than the list opens stops the scan before it is counted.
theorem depth_pos_of_crosses (crosses : listScanner.Crosses state text last)
    (inside : 1 ≤ state.depth) {front : Text} (leads : front <+: text) :
    1 ≤ (state.after front).depth := by
  induction crosses generalizing front with
  | nil =>
      obtain rfl := List.prefix_nil.mp leads
      exact inside
  | @cons state last c text passes _ ih =>
      rcases List.prefix_cons_iff.mp leads with rfl | ⟨part, rfl, within⟩
      · exact inside
      · refine ih ?_ within
        change 1 ≤ (state.next c).depth
        obtain ⟨quote, escaped, depth⟩ := state
        cases quote with
        | some quote => exact inside
        | none =>
            simp only [listScanner, ListState.isAt, Option.isNone_none, Bool.true_and,
              Bool.and_eq_false_iff, beq_eq_false_iff_ne] at passes
            simp only [ListState.next] at inside ⊢
            split
            · exact inside
            · simp only [beq_iff_eq]
              split
              · omega
              · split
                · next closes =>
                  have deeper := passes.resolve_right (not_not_intro closes)
                  omega
                · exact inside

theorem closesList_of_crosses (crosses : listScanner.Crosses .opened text last)
    (ends : last.isAt 1 = true) : text.ClosesList := by
  have reached : ListState.opened.after text = last := Scanner.foldl_of_crosses crosses
  have outer : (ListState.start.after text).isAt 0 = true := by
    rw [← isAt_opened_after, reached, ends]
  obtain ⟨quotes, closed⟩ := ListState.isAt_iff.mp outer
  refine ⟨quotes, ?_, closed⟩
  intro front leads
  have inside := depth_pos_of_crosses crosses (show 1 ≤ ListState.opened.depth by decide) leads
  rw [opened_after] at inside
  simp only [ListState.raised] at inside
  omega

theorem after_behind_comma (outer : (ListState.start.after text).isAt 0 = true) (rest : Text) :
    ListState.start.after (text ++ ',' :: rest) = ListState.start.after rest := by
  rw [ListState.after_append, ListState.after_cons, ListState.next_comma outer]

theorem opened_behind_comma (outer : (ListState.start.after text).isAt 0 = true) :
    (ListState.opened.after text).next ',' = .opened := by
  rw [opened_after, ListState.next_raised, ListState.next_comma outer]
  rfl

-- A comma outside quotes and parentheses cuts a list in two.
theorem closesList_behind_comma (outer : (ListState.start.after text).isAt 0 = true)
    (closes : Text.ClosesList (text ++ ',' :: rest)) : rest.ClosesList := by
  refine ⟨?_, ?_, ?_⟩
  · rw [← after_behind_comma outer]
    exact closes.quotes
  · intro front leads
    rw [← after_behind_comma outer]
    have further : ',' :: front <+: ',' :: rest := List.cons_prefix_cons.mpr ⟨rfl, leads⟩
    exact closes.above _ ((List.prefix_append_right_inj text).mpr further)
  · rw [← after_behind_comma outer]
    exact closes.closed

-- The first piece holds no comma that would have ended it.
theorem isAt_before_comma {front : Text}
    (leads : front ++ [','] <+: (argumentScanner.run .opened text).before) :
    (ListState.start.after front).isAt 0 = false := by
  have passes := Scanner.stop_of_crosses (argumentScanner.crosses_run .opened text) leads
  rw [← isAt_opened_after]
  simpa [argumentScanner, ListState.after] using passes

/-- The first piece ends at a comma outside quotes and parentheses, and the next one starts as it
did. -/
theorem comma_of_rest {c : Char} (shape : (argumentScanner.run .opened text).rest = c :: rest) :
    c = ',' ∧ (ListState.start.after (argumentScanner.run .opened text).before).isAt 0 = true ∧
      argumentScanner.step (argumentScanner.run .opened text).state ',' = .opened := by
  have reached : ListState.opened.after (argumentScanner.run .opened text).before =
      (argumentScanner.run .opened text).state :=
    Scanner.foldl_of_crosses (argumentScanner.crosses_run .opened text)
  have stops : ((argumentScanner.run .opened text).state.isAt 1 && c == ',') = true :=
    argumentScanner.stop_of_rest shape
  rw [Bool.and_eq_true, beq_iff_eq] at stops
  have outer : (ListState.start.after
      (argumentScanner.run .opened text).before).isAt 0 = true := by
    rw [← isAt_opened_after, reached, stops.1]
  refine ⟨stops.2, outer, ?_⟩
  rw [← reached]
  exact opened_behind_comma outer

/-- What closes its quotes and parentheses is a list of arguments: between the commas that stand
outside both, each piece closes its own. -/
theorem isArgument_pieces (closes : text.ClosesList) :
    ∀ piece ∈ argumentScanner.pieces .opened text, piece.IsArgument := by
  induction size : text.length using Nat.strongRecOn generalizing text with
  | ind n ih =>
      have whole := argumentScanner.before_append_rest .opened text
      rw [Scanner.pieces_eq_run]
      cases shape : (argumentScanner.run .opened text).rest with
      | nil =>
          rw [shape, List.append_nil] at whole
          simp only [List.mem_singleton, forall_eq]
          refine ⟨?_, ?_, ?_, fun front leads => isAt_before_comma leads⟩
          · exact whole.symm ▸ closes.quotes
          · exact whole.symm ▸ closes.above
          · exact whole.symm ▸ closes.closed
      | cons c rest =>
          obtain ⟨rfl, outer, again⟩ := comma_of_rest shape
          obtain ⟨quotes, closed⟩ := ListState.isAt_iff.mp outer
          rw [shape] at whole
          have above : ∀ front, front <+: (argumentScanner.run .opened text).before →
              0 ≤ (ListState.start.after front).depth := fun front leads =>
            closes.above front (leads.trans ⟨_, whole⟩)
          have shorter := congrArg List.length whole
          simp only [List.length_append, List.length_cons] at shorter
          have behind : Text.ClosesList rest := closesList_behind_comma outer (whole.symm ▸ closes)
          simp only [again, List.mem_cons, forall_eq_or_imp]
          exact ⟨⟨quotes, above, closed, fun front leads => isAt_before_comma leads⟩,
            ih rest.length (by omega) behind rfl⟩

theorem pieces_filled (state : ListState) (text : Text) :
    argumentScanner.pieces state text ≠ [] := by
  rw [Scanner.pieces_eq_run]
  exact List.cons_ne_nil _ _

theorem intercalate_pieces (state : ListState) (text : Text) :
    List.intercalate [','] (argumentScanner.pieces state text) = text := by
  induction text generalizing state with
  | nil => rfl
  | cons c text ih =>
      obtain ⟨piece, pieces, shape⟩ :=
        List.exists_cons_of_ne_nil (pieces_filled (argumentScanner.step state c) text)
      have later := ih (argumentScanner.step state c)
      rw [shape] at later
      by_cases stops : argumentScanner.stop state c = true
      · have comma : c = ',' := by
          simp only [argumentScanner, Bool.and_eq_true, beq_iff_eq] at stops
          exact stops.2
        simp only [Scanner.pieces, stops, if_true, shape, List.intercalate_cons_cons, later]
        rw [comma]
        rfl
      · simp only [Scanner.pieces, stops, shape]
        cases pieces with
        | nil =>
            rw [List.intercalate_singleton] at later
            simp [later]
        | cons next pieces =>
            rw [List.intercalate_cons_cons] at later
            simp [← later]

-- What the reader takes for a list closes its quotes and parentheses.
theorem exists_of_list? {arguments : List Text}
    (listed : list? ('(' :: more) = some (arguments, rest)) :
    ∃ inner, more = inner ++ ')' :: rest ∧ inner.ClosesList ∧
      arguments = dropBlank (argumentScanner.pieces .opened inner) := by
  have opens : ListState.start.next '(' = .opened := rfl
  simp only [list?, opens] at listed
  have whole := listScanner.before_append_rest .opened more
  have crosses := listScanner.crosses_run .opened more
  cases shape : (listScanner.run .opened more).rest with
  | nil =>
      rw [shape] at listed
      cases listed
  | cons c behind =>
      rw [shape] at listed whole
      obtain ⟨rfl, rfl⟩ := Prod.mk.inj (Option.some.inj listed)
      have stops : ((listScanner.run .opened more).state.isAt 1 && c == ')') = true :=
        listScanner.stop_of_rest shape
      rw [Bool.and_eq_true, beq_iff_eq] at stops
      obtain ⟨level, rfl⟩ := stops
      exact ⟨_, whole.symm, closesList_of_crosses crosses level, rfl⟩

/-- A list as it is written: arguments with commas between them, inside parentheses. -/
theorem list?_eq_some_iff {arguments : List Text} :
    list? ('(' :: more) = some (arguments, rest) ↔
      ∃ parts : List Text, parts ≠ [] ∧ (∀ part ∈ parts, part.IsArgument) ∧
        more = List.intercalate [','] parts ++ ')' :: rest ∧ arguments = dropBlank parts := by
  constructor
  · intro listed
    obtain ⟨inner, whole, closes, same⟩ := exists_of_list? listed
    refine ⟨argumentScanner.pieces .opened inner, pieces_filled _ _, isArgument_pieces closes, ?_,
      same⟩
    rw [intercalate_pieces, whole]
  · rintro ⟨parts, filled, fits, rfl, rfl⟩
    obtain ⟨part, parts, rfl⟩ := List.exists_cons_of_ne_nil filled
    exact list?_joined fits rest

/-- A list is never closed when no parenthesis stands behind a text that closes its own. -/
theorem list?_eq_none_iff :
    list? ('(' :: more) = none ↔
      ∀ inner rest, more = inner ++ ')' :: rest → ¬inner.ClosesList := by
  constructor
  · rintro unclosed inner rest rfl closes
    have listed : list? ('(' :: (inner ++ ')' :: rest)) =
        some (dropBlank (argumentScanner.pieces .opened inner), rest) :=
      list?_eq_some_iff.mpr ⟨_, pieces_filled _ _, isArgument_pieces closes,
        by rw [intercalate_pieces], rfl⟩
    cases unclosed.symm.trans listed
  · intro never
    cases listed : list? ('(' :: more) with
    | none => rfl
    | some parts =>
        obtain ⟨inner, whole, closes, _⟩ := exists_of_list? listed
        exact absurd closes (never inner _ whole)

end Lists

/-! Blocks -/

section Blocks

variable {text block more rest : Text}

theorem step_blockScanner (depth : Int) (c : Char) :
    blockScanner.step depth c = depth + level ['{'] ['}'] [c] := by
  simp only [blockScanner, level, List.countP_singleton]
  by_cases opens : c = '{'
  · simp [opens]
  · by_cases closes : c = '}'
    · simp only [closes]
      simp
      omega
    · simp [opens, closes]

theorem foldl_blockScanner (depth : Int) (text : Text) :
    text.foldl blockScanner.step depth = depth + level ['{'] ['}'] text := by
  induction text generalizing depth with
  | nil => simp [level_nil]
  | cons c text ih =>
      rw [List.foldl_cons, ih, step_blockScanner, level_cons c text]
      omega

theorem stop_blockScanner (front : Text) (c : Char) :
    blockScanner.stop (front.foldl blockScanner.step 1) c = true ↔
      level ['{'] ['}'] front = 0 ∧ c = '}' := by
  rw [foldl_blockScanner]
  simp only [blockScanner, Bool.and_eq_true, beq_iff_eq]
  exact and_congr_left' (by omega)

theorem crosses_block_of_balanced (balanced : Balanced '{' '}' block) :
    blockScanner.Crosses 1 block 1 := by
  have ends : block.foldl blockScanner.step 1 = 1 := by
    rw [foldl_blockScanner, balanced.closed]
    rfl
  have free : ∀ front c, front ++ [c] <+: block →
      blockScanner.stop (front.foldl blockScanner.step 1) c = false := by
    intro front c leads
    rw [Bool.eq_false_iff]
    intro stops
    obtain ⟨zero, rfl⟩ := (stop_blockScanner front c).mp stops
    -- the brace would leave the count below zero
    have above := balanced.above _ leads
    rw [level_append, zero] at above
    exact absurd above (by decide)
  have crosses := Scanner.crosses_of_fronts free
  rwa [ends] at crosses

theorem balanced_of_crosses_block {depth : Int} (crosses : blockScanner.Crosses 1 block depth)
    (ends : depth = 1) : Balanced '{' '}' block := by
  have reached := Scanner.foldl_of_crosses crosses
  rw [foldl_blockScanner] at reached
  refine ⟨?_, by omega⟩
  intro front leads
  induction front using List.reverseRecOn with
  | nil => simp [level_nil]
  | append_singleton front c ih =>
      have before := ih ((List.prefix_append front [c]).trans leads)
      have passes := Scanner.stop_of_crosses crosses leads
      rw [level_append]
      by_cases closes : c = '}'
      · have inside : level ['{'] ['}'] front ≠ 0 := by
          intro zero
          cases passes.symm.trans ((stop_blockScanner front c).mpr ⟨zero, closes⟩)
        have one : level ['{'] ['}'] [c] = -1 := by
          rw [closes]
          rfl
        omega
      · have rises : 0 ≤ level ['{'] ['}'] [c] := by
          by_cases opens : c = '{' <;> simp [level, opens, closes]
        omega

/-- A block as it is written: a text that closes its braces, between braces. -/
theorem block?_eq_some_iff :
    block? ('{' :: more) = some (block, rest) ↔
      more = block ++ '}' :: rest ∧ Balanced '{' '}' block := by
  have opens : blockScanner.step 0 '{' = 1 := rfl
  simp only [block?, opens]
  constructor
  · intro closed
    have whole := blockScanner.before_append_rest 1 more
    have crosses := blockScanner.crosses_run 1 more
    cases shape : (blockScanner.run 1 more).rest with
    | nil =>
        rw [shape] at closed
        cases closed
    | cons c behind =>
        rw [shape] at closed whole
        obtain ⟨rfl, rfl⟩ := Prod.mk.inj (Option.some.inj closed)
        have stops : ((blockScanner.run 1 more).state == 1 && c == '}') = true :=
          blockScanner.stop_of_rest shape
        rw [Bool.and_eq_true, beq_iff_eq, beq_iff_eq] at stops
        obtain ⟨level, rfl⟩ := stops
        exact ⟨whole.symm, balanced_of_crosses_block crosses level⟩
  · rintro ⟨rfl, balanced⟩
    rw [Scanner.run_at (crosses_block_of_balanced balanced) rfl]

theorem block?_eq_none_iff :
    block? ('{' :: more) = none ↔
      ∀ block rest, more = block ++ '}' :: rest → ¬Balanced '{' '}' block := by
  constructor
  · intro unclosed block rest whole balanced
    cases unclosed.symm.trans (block?_eq_some_iff.mpr ⟨whole, balanced⟩)
  · intro never
    cases closed : block? ('{' :: more) with
    | none => rfl
    | some parts =>
        obtain ⟨whole, balanced⟩ := block?_eq_some_iff.mp closed
        exact absurd balanced (never _ _ whole)

end Blocks

end Invocation

end Stylesheet

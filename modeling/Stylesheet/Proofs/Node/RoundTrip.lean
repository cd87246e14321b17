import Stylesheet.Proofs.Node.Spelling

/-!
Reading back what was printed. The block scanner crosses a whole spelling at any depth, so a block
ends where its own brace closes, and each cut of the reader takes just the text of one node. Hence
a spelling is read as the nodes it spells, wherever it starts.
-/

namespace Stylesheet

namespace Text

/-! Comments -/

theorem uncommented_nil : Uncommented [] := by
  simp [Uncommented]

theorem uncommented_append {left right : Text}
    (apart : left.getLast? ≠ some '/' ∨ right.head? ≠ some '*') (before : left.Uncommented)
    (behind : right.Uncommented) : Uncommented (left ++ right) := by
  induction left with
  | nil => exact behind
  | cons c left ih =>
      intro comment
      rcases List.infix_cons_iff.mp comment with starts | later
      · cases left with
        | nil =>
            -- the slash ends the left text and the star starts the right one
            obtain ⟨rest, whole⟩ := starts
            simp only [List.cons_append, List.nil_append, List.cons.injEq] at whole
            obtain ⟨rfl, rfl⟩ := whole
            simp at apart
        | cons d left =>
            obtain ⟨rest, whole⟩ := starts
            simp only [List.cons_append, List.nil_append, List.cons.injEq] at whole
            obtain ⟨rfl, rfl, rfl⟩ := whole
            exact before (List.prefix_append ['/', '*'] left).isInfix
      · refine ih ?_ (fun inner => before (List.infix_cons_iff.mpr (.inr inner))) later
        cases left with
        | nil => simp
        | cons d left => simpa using apart

theorem uncommented_join {left right : Text} {c : Char} (noStar : c ≠ '*') (noSlash : c ≠ '/')
    (before : left.Uncommented) (behind : right.Uncommented) :
    Uncommented (left ++ c :: right) := by
  have single : Uncommented [c] := by
    intro comment
    have bounded := comment.length_le
    simp at bounded
  have tail : Uncommented ([c] ++ right) :=
    uncommented_append (.inl (by simpa using noSlash)) single behind
  exact uncommented_append (.inr (by simpa using noStar)) before tail

theorem uncommented_of_blank {blanks : Text} (allBlank : ∀ c ∈ blanks, isBlank c = true) :
    blanks.Uncommented := by
  intro comment
  have blank := allBlank '/' (comment.subset (by simp))
  revert blank
  decide

theorem uncommented_blanks_append {blanks text : Text} (allBlank : ∀ c ∈ blanks, isBlank c = true)
    (behind : text.Uncommented) : Uncommented (blanks ++ text) := by
  refine uncommented_append (.inl ?_) (uncommented_of_blank allBlank) behind
  intro last
  have blank := allBlank '/' (List.mem_of_getLast? last)
  revert blank
  decide

theorem uncommented_selectors {selectors : List Text}
    (fits : ∀ selector ∈ selectors, selector.IsSelector) :
    Uncommented (List.intercalate [',', ' '] selectors) := by
  induction selectors with
  | nil => exact uncommented_nil
  | cons selector selectors ih =>
      have first := (fits selector List.mem_cons_self).plain.uncommented
      have rest := ih fun other member => fits other (List.mem_cons_of_mem selector member)
      cases selectors with
      | nil => rwa [List.intercalate_singleton]
      | cons next selectors =>
          rw [List.intercalate_cons_cons, List.append_assoc]
          have space : ∀ c ∈ [' '], isBlank c = true := List.all_eq_true.mp rfl
          have spaced := uncommented_blanks_append space rest
          exact uncommented_join (by decide) (by decide) first spaced

theorem withoutComments_of_uncommented {text : Text} (uncommented : text.Uncommented) :
    text.withoutComments = text := by
  fun_induction withoutComments text with
  | case1 rest remaining _ _ =>
      exact absurd (List.prefix_append ['/', '*'] rest).isInfix uncommented
  | case2 => rfl
  | case3 c rest _ ih =>
      rw [ih fun inner => uncommented (List.infix_cons_iff.mpr (.inr inner))]
  | case4 => rfl

end Text

namespace Node

open Text

theorem uncommented_of_spells {text : Text} {nodes : List Node} (spells : Spells text nodes) :
    text.Uncommented := by
  induction spells with
  | blank allBlank => exact uncommented_of_blank allBlank
  | @atRule _ content _ _ allBlank fits _ ih =>
      refine uncommented_blanks_append allBlank (uncommented_append ?_ fits.plain.uncommented ih)
      obtain ⟨body, last, _, rfl, _, ends⟩ := crosses_atRule_of_atRule fits
      left
      rcases ends with ⟨rfl, _⟩ | ⟨rfl, _⟩ <;> simp
  | rule allBlank fits _ ih =>
      exact uncommented_blanks_append allBlank
        (uncommented_join (by decide) (by decide) fits.plain.uncommented ih)
  | ruleSet allBlank fits _ _ inner ih =>
      have block := uncommented_join (c := '}') (by decide) (by decide) inner ih
      have opened := uncommented_join (c := '{') (by decide) (by decide) uncommented_nil block
      exact uncommented_blanks_append allBlank
        (uncommented_join (by decide) (by decide) (uncommented_selectors fits) opened)

/-! Blocks -/

theorem crosses_block_of_blank {blanks : Text} (allBlank : ∀ c ∈ blanks, isBlank c = true)
    (depth : Nat) : blockScanner.Crosses ⟨.outside, depth⟩ blanks ⟨.outside, depth⟩ := by
  rw [blockScanner_eq]
  apply crosses_of_neutral
  intro c member
  -- none of the characters that the scanner looks for is blank
  have visible : ['\x22', '\x27', '{', '}'].all (!isBlank ·) = true := rfl
  have other : ∀ d ∈ ['\x22', '\x27', '{', '}'], c ≠ d := by
    rintro d mark rfl
    have hidden := List.all_eq_true.mp visible c mark
    simp [allBlank c member] at hidden
  simp only [List.forall_mem_cons] at other
  simp [Quoting.isQuote, other]

-- A block keeps the depth: its closing brace undoes what its opening brace did.
theorem crosses_block_of_block {selectors : List Text} {inner rest : Text} {depth : Nat}
    (inside : 0 < depth) (fits : ∀ selector ∈ selectors, selector.IsSelector)
    (deeper : blockScanner.Crosses ⟨.outside, depth + 1⟩ inner ⟨.outside, depth + 1⟩)
    (later : blockScanner.Crosses ⟨.outside, depth⟩ rest ⟨.outside, depth⟩) :
    blockScanner.Crosses ⟨.outside, depth⟩
      (List.intercalate [',', ' '] selectors ++ ' ' :: '{' :: (inner ++ '}' :: rest))
      ⟨.outside, depth⟩ := by
  have comma : blockScanner.Crosses ⟨.outside, depth⟩ [',', ' '] ⟨.outside, depth⟩ := by
    rw [blockScanner_eq]
    apply crosses_of_neutral
    simp [Quoting.isQuote]
  have header := Scanner.crosses_intercalate comma fun selector member =>
    crosses_block_of_clause (fits selector member).toIsClause depth
  have closing : blockScanner.Crosses ⟨.outside, depth + 1⟩ ('}' :: rest) ⟨.outside, depth⟩ := by
    refine .cons ?_ later
    have outer : depth ≠ 0 := by omega
    simp [blockScanner, outer]
  have opening : blockScanner.Crosses ⟨.outside, depth⟩ (' ' :: '{' :: (inner ++ '}' :: rest))
      ⟨.outside, depth⟩ :=
    .cons (by simp [blockScanner]) (.cons (by simp [blockScanner])
      (Scanner.crosses_append deeper closing))
  exact Scanner.crosses_append header opening

theorem crosses_block_of_spells {text : Text} {nodes : List Node} (spells : Spells text nodes)
    {depth : Nat} (inside : 0 < depth) :
    blockScanner.Crosses ⟨.outside, depth⟩ text ⟨.outside, depth⟩ := by
  induction spells generalizing depth with
  | blank allBlank => exact crosses_block_of_blank allBlank depth
  | atRule allBlank fits _ ih =>
      exact Scanner.crosses_append (crosses_block_of_blank allBlank depth)
        (Scanner.crosses_append (crosses_block_of_atRule fits inside) (ih inside))
  | rule allBlank fits _ ih =>
      have semicolon : blockScanner.Crosses ⟨.outside, depth⟩ (';' :: _) ⟨.outside, depth⟩ :=
        .cons (by simp [blockScanner]) (ih inside)
      exact Scanner.crosses_append (crosses_block_of_blank allBlank depth)
        (Scanner.crosses_append (crosses_block_of_clause fits depth) semicolon)
  | ruleSet allBlank fits _ _ deeper ih =>
      exact Scanner.crosses_append (crosses_block_of_blank allBlank depth)
        (crosses_block_of_block inside fits (deeper (Nat.succ_pos depth)) (ih inside))

/-! Cuts -/

theorem cutStatement_atRule {content : Text} (fits : content.IsAtRule) (position : Nat)
    (rest : Text) : cutStatement position (content ++ rest) = .ok (.atRule content, rest) := by
  have starts : (content ++ rest).head? = some '@' := by
    rw [List.head?_append, fits.starts, Option.some_or]
  rw [cutStatement, if_pos starts]
  obtain ⟨body, last, depth, rfl, crosses, ends⟩ := crosses_atRule_of_atRule fits
  have stops : atRuleScanner.stop ⟨.outside, depth⟩ last = true := by
    rcases ends with ⟨rfl, rfl⟩ | ⟨rfl, rfl⟩ <;> rfl
  have cut : atRuleScanner.run .start (body ++ [last] ++ rest) =
      ⟨body, ⟨.outside, depth⟩, last :: rest⟩ := by
    rw [List.append_assoc]
    exact Scanner.run_at crosses stops
  rw [cutAtRule, cut]
  rcases ends with ⟨rfl, rfl⟩ | ⟨rfl, rfl⟩ <;> rfl

theorem cutStatement_rule {content : Text} (fits : content.IsClause) (position : Nat)
    (rest : Text) : cutStatement position (content ++ ';' :: rest) = .ok (.rule content, rest) := by
  have starts : (content ++ ';' :: rest).head? ≠ some '@' := by
    rw [List.head?_append_of_ne_nil _ fits.filled]
    exact fits.noAtRule
  have cut : statementScanner.run .start (content ++ ';' :: rest) =
      ⟨content, .start, ';' :: rest⟩ :=
    Scanner.run_at (crosses_statement_of_clause fits) rfl
  rw [cutStatement, if_neg starts, cutRule, cut]
  simp [trimEnd_of_trim fits.trimmed]

theorem cutStatement_block {header inner rest : Text} (starts : header.head? ≠ some '@')
    (crosses : statementScanner.Crosses .start header .start)
    (inside : blockScanner.Crosses ⟨.outside, 1⟩ inner ⟨.outside, 1⟩) (position : Nat) :
    cutStatement position (header ++ '{' :: (inner ++ '}' :: rest)) =
      .ok (.block (selectorList header) (position + header.length + 1) inner, rest) := by
  have noAtRule : (header ++ '{' :: (inner ++ '}' :: rest)).head? ≠ some '@' := by
    cases header with
    | nil => simp
    | cons c header => simpa using starts
  have cut : statementScanner.run .start (header ++ '{' :: (inner ++ '}' :: rest)) =
      ⟨header, .start, '{' :: (inner ++ '}' :: rest)⟩ :=
    Scanner.run_at crosses rfl
  have block : blockScanner.run ⟨.outside, 1⟩ (inner ++ '}' :: rest) =
      ⟨inner, ⟨.outside, 1⟩, '}' :: rest⟩ :=
    Scanner.run_at inside rfl
  rw [cutStatement, if_neg noAtRule, cutRule, cut]
  simp [cutBlock, block]

/-! The selectors of a block -/

-- Every selector is cut off with the blanks around it: a space behind the comma before it, and a
-- space behind the last one.
theorem pieces_selectors {lead selector : Text} {more : List Text}
    (allBlank : ∀ c ∈ lead, isBlank c = true)
    (passed : selectorScanner.Crosses .start lead .start)
    (fits : ∀ each ∈ selector :: more, each.IsSelector) :
    (selectorScanner.pieces .start
      (lead ++ List.intercalate [',', ' '] (selector :: more) ++ [' '])).map trim =
        selector :: more := by
  have space : selectorScanner.Crosses .start [' '] .start := .cons rfl .nil
  have blankSpace : ∀ c ∈ [' '], isBlank c = true := List.all_eq_true.mp rfl
  induction more generalizing lead selector with
  | nil =>
      have fit := fits selector List.mem_cons_self
      have crosses := Scanner.crosses_append
        (Scanner.crosses_append passed (crosses_selector_of_selector fit)) space
      rw [List.intercalate_singleton, Scanner.pieces_to_end crosses, List.map_singleton,
        trim_between fit.trimmed fit.filled allBlank blankSpace]
  | cons next more ih =>
      have fit := fits selector List.mem_cons_self
      have crosses := Scanner.crosses_append passed (crosses_selector_of_selector fit)
      have later := ih blankSpace space fun each member =>
        fits each (List.mem_cons_of_mem selector member)
      have trimmed : trim (lead ++ selector) = selector := by
        have noBlanks : ∀ c ∈ ([] : Text), isBlank c = true := by simp
        have between := trim_between fit.trimmed fit.filled allBlank noBlanks
        rwa [List.append_nil] at between
      have comma : lead ++ List.intercalate [',', ' '] (selector :: next :: more) ++ [' '] =
          (lead ++ selector) ++ ',' :: ([' '] ++ List.intercalate [',', ' '] (next :: more) ++ [' ']) := by
        simp [List.intercalate_cons_cons]
      rw [comma, Scanner.pieces_at crosses rfl, List.map_cons, trimmed]
      exact congrArg (selector :: ·) later

theorem selectorList_joined {selector : Text} {more : List Text}
    (fits : ∀ each ∈ selector :: more, each.IsSelector) :
    selectorList (List.intercalate [',', ' '] (selector :: more) ++ [' ']) = selector :: more := by
  have noBlanks : ∀ c ∈ ([] : Text), isBlank c = true := by simp
  have pieces := pieces_selectors noBlanks .nil fits
  rw [List.nil_append] at pieces
  rw [selectorList, pieces, List.filter_eq_self]
  intro each member
  simpa using (fits each member).filled

-- Without selectors the brace comes first, and the space before it is skipped.
theorem exists_header {selectors : List Text} {blanks : Text}
    (allBlank : ∀ c ∈ blanks, isBlank c = true)
    (fits : ∀ selector ∈ selectors, selector.IsSelector) (tail : Text) : ∃ header : Text,
    (blanks ++ (List.intercalate [',', ' '] selectors ++ ' ' :: '{' :: tail)).trimStart =
      header ++ '{' :: tail ∧
    header.head? ≠ some '@' ∧ statementScanner.Crosses .start header .start ∧
    selectorList header = selectors := by
  have space : statementScanner.Crosses .start [' '] .start := .cons rfl .nil
  rw [trimStart_append_of_blank allBlank]
  cases selectors with
  | nil => exact ⟨[], rfl, by simp, .nil, rfl⟩
  | cons selector more =>
      have first := fits selector List.mem_cons_self
      obtain ⟨behind, joined⟩ : ∃ behind,
          List.intercalate [',', ' '] (selector :: more) = selector ++ behind := by
        cases more with
        | nil => exact ⟨[], by simp⟩
        | cons next more => exact ⟨_, by rw [List.intercalate_cons_cons, List.append_assoc]⟩
      refine ⟨List.intercalate [',', ' '] (selector :: more) ++ [' '], ?_, ?_, ?_,
        selectorList_joined fits⟩
      · rw [joined, List.append_assoc, List.append_assoc, List.append_assoc,
          trimStart_append_of_filled (trimStart_of_trim first.trimmed) first.filled]
        rfl
      · rw [joined, List.append_assoc, List.head?_append_of_ne_nil _ first.filled]
        exact first.noAtRule
      · have comma : statementScanner.Crosses .start [',', ' '] .start := .cons rfl (.cons rfl .nil)
        have crosses := Scanner.crosses_intercalate comma fun each member =>
          crosses_statement_of_clause (fits each member).toIsClause
        exact Scanner.crosses_append crosses space

/-! Reading -/

theorem readFrom_of_spells {text : Text} {nodes : List Node} (spells : Spells text nodes)
    (position : Nat) : readFrom position text = .ok nodes := by
  induction spells generalizing position with
  | blank allBlank => exact readFrom_of_blank position (trimStart_of_blank allBlank)
  | @atRule blanks content rest nodes allBlank fits _ ih =>
      have visible : content.trimStart = content := by
        obtain ⟨tail, rfl⟩ := List.head?_eq_some_iff.mp fits.starts
        rfl
      have trimmed : (blanks ++ (content ++ rest)).trimStart = content ++ rest := by
        rw [trimStart_append_of_blank allBlank,
          trimStart_append_of_filled visible (filled_of_isAtRule fits)]
      rw [readFrom_of_filled position (by simp [trimmed, filled_of_isAtRule fits])]
      simp only [trimmed, cutStatement_atRule fits, ih]
      rfl
  | @rule blanks content rest nodes allBlank fits _ ih =>
      have trimmed : (blanks ++ (content ++ ';' :: rest)).trimStart = content ++ ';' :: rest := by
        rw [trimStart_append_of_blank allBlank,
          trimStart_append_of_filled (trimStart_of_trim fits.trimmed) fits.filled]
      rw [readFrom_of_filled position (by simp [trimmed])]
      simp only [trimmed, cutStatement_rule fits, ih]
      rfl
  | @ruleSet blanks inner rest selectors contents nodes allBlank fits inside _ innerIh ih =>
      obtain ⟨header, trimmed, starts, crosses, listed⟩ :=
        exists_header allBlank fits (inner ++ '}' :: rest)
      have block := crosses_block_of_spells inside Nat.one_pos
      rw [readFrom_of_filled position (by simp [trimmed])]
      simp only [trimmed, cutStatement_block starts crosses block, listed, innerIh, ih]
      rfl

/-- Well-formed nodes are what their printed text is read as. -/
theorem read_printAll (nodes : List Node) (formed : ∀ node ∈ nodes, node.WellFormed) :
    read (printAll nodes) = .ok nodes := by
  have spells := spells_printAll formed
  rw [read, withoutComments_of_uncommented (uncommented_of_spells spells)]
  exact readFrom_of_spells spells 0

/-- A sheet whose texts hide every character that the reader looks for. -/
def guardedSheet : List Node :=
  [.atRule "@media print\x7ba\x7bb:'\x7d'\x7d\x7d".toList,
    .ruleSet ["a[b=',']".toList, "c:not(d, [e)]".toList]
      [.rule "content:'\x7d;\\'\x22'".toList, .rule "src:url(a;b)".toList,
        .ruleSet [] [.atRule "@b 'c;';".toList]]]

theorem read_printAll_guardedSheet :
    (∀ node ∈ guardedSheet, node.WellFormed) ∧ read (printAll guardedSheet) = .ok guardedSheet := by
  have formed : ∀ node ∈ guardedSheet, node.WellFormed := by decide +kernel
  exact ⟨formed, read_printAll guardedSheet formed⟩

end Node

end Stylesheet

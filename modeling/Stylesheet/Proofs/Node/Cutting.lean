import Stylesheet.Proofs.Node.BareText
import Stylesheet.Proofs.Node.Parentheses

/-!
What the reader cuts off. Its searches count brackets outside quotes, and as long as no bracket is
closed too early the count is the level of what they have passed. Each statement that is cut off a
text is known by the crossings of these searches and by the character they stopped at.
-/

namespace Stylesheet

/-! Counts and levels -/

section Levels

variable {opening closing : List Char} {text front : Text} {c : Char} {depth deeper : Nat}
  {halts : Nat → Char → Bool}

theorem depth_of_crosses (apart : ∀ c ∈ opening, closing.contains c = false)
    (above : ∀ front, front <+: text → 0 ≤ depth + level opening closing front)
    (crosses : (depthScanner opening closing halts).Crosses depth text deeper) :
    (deeper : Int) = depth + level opening closing text := by
  induction crosses with
  | nil => simp [level_nil]
  | @cons depth deeper c text passes _ ih =>
      have counted := countBracket_eq_level apart (above [c] (by simp))
      have whole := ih fun front leads => by
        have more := above (c :: front) (List.cons_prefix_cons.mpr ⟨rfl, leads⟩)
        rw [level_cons] at more
        simp only [depthScanner]
        omega
      simp only [depthScanner] at whole
      rw [level_cons]
      omega

/-- A character that would stop the search outside brackets stands inside some. -/
theorem level_ne_zero_of_crosses (apart : ∀ c ∈ opening, closing.contains c = false)
    (above : ∀ front, front <+: text → 0 ≤ level opening closing front)
    (crosses : (depthScanner opening closing halts).Crosses 0 text deeper)
    (leads : front ++ [c] <+: text) (stops : halts 0 c = true) :
    level opening closing front ≠ 0 := by
  obtain ⟨rest, rfl⟩ := leads
  rw [List.append_assoc] at crosses
  obtain ⟨reached, head, tail⟩ := Scanner.exists_crosses_of_append crosses
  have counted := depth_of_crosses apart (fun part within => by
    have shorter := above part (within.trans (by simp))
    omega) head
  have passes := (Scanner.crosses_cons_iff.mp tail).1
  rintro zero
  obtain rfl : reached = 0 := by omega
  cases stops.symm.trans passes

theorem exists_crosses_of_prefix (leads : front <+: text)
    (crosses : (depthScanner opening closing halts).Crosses depth text deeper) :
    ∃ reached, (depthScanner opening closing halts).Crosses depth front reached := by
  obtain ⟨rest, rfl⟩ := leads
  obtain ⟨reached, head, _⟩ := Scanner.exists_crosses_of_append crosses
  exact ⟨reached, head⟩

/-! Blanks count for nothing -/

theorem eq_of_crosses_blank (visible : (opening ++ closing).all (!isBlank ·) = true)
    (allBlank : ∀ c ∈ text, isBlank c = true)
    (crosses : (depthScanner opening closing halts).Crosses depth text deeper) :
    deeper = depth := by
  induction crosses with
  | nil => rfl
  | @cons depth deeper c text passes _ ih =>
      have blank := allBlank c List.mem_cons_self
      have neither : c ∉ opening ++ closing := by
        intro member
        have shown := List.all_eq_true.mp visible c member
        simp [blank] at shown
      obtain ⟨unopened, unclosed⟩ := not_or.mp (mt List.mem_append.mpr neither)
      have stays : countBracket opening closing depth c = depth := by
        simp [countBracket, unopened, unclosed]
      have later := ih fun d member => allBlank d (List.mem_cons_of_mem c member)
      simpa only [depthScanner, stays] using later

theorem exists_crosses_trim (visible : (opening ++ closing).all (!isBlank ·) = true)
    (crosses : (depthScanner opening closing halts).Crosses 0 text.bareChars deeper) :
    ∃ reached, (depthScanner opening closing halts).Crosses 0 text.trim.bareChars reached := by
  obtain ⟨blanks, whole, allBlank⟩ := Text.exists_append_trimStart text
  have chars := Text.bareChars_blanks_append allBlank text.trimStart
  rw [whole] at chars
  rw [chars] at crosses
  obtain ⟨reached, head, tail⟩ := Scanner.exists_crosses_of_append crosses
  obtain rfl := eq_of_crosses_blank visible allBlank head
  exact exists_crosses_of_prefix (Text.bareChars_trimEnd_prefix text.trimStart) tail

end Levels

/-! What the searches pass -/

/-- Whether the search for the end of a statement stops. -/
def endsStatement (depth : Nat) (c : Char) : Bool := depth == 0 && [';', '{', '}'].contains c

/-- Whether the search for the closing brace of a block stops. -/
def endsBlock (depth : Nat) (c : Char) : Bool := depth == 1 && c == '}'

/-- Whether the search for the comma behind a selector stops. -/
def endsSelector (depth : Nat) (c : Char) : Bool := depth == 0 && c == ','

section Searches

variable {text : Text} {depth deeper : Nat} {halts : Nat → Char → Bool}

-- Braces are counted without loss as long as the search stops before it closes one too many.
theorem level_of_crosses (holds : Nat → Prop)
    (kept : ∀ reached c, holds reached → halts reached c = false →
      0 ≤ reached + level ['{'] ['}'] [c] ∧ holds (countBracket ['{'] ['}'] reached c))
    (first : holds depth)
    (crosses : (depthScanner ['{'] ['}'] halts).Crosses depth text deeper) :
    (deeper : Int) = depth + level ['{'] ['}'] text := by
  induction crosses with
  | nil => simp [level_nil]
  | @cons depth deeper c text passes _ ih =>
      obtain ⟨above, later⟩ := kept depth c first passes
      have counted := countBracket_eq_level (by simp) above
      have whole := ih later
      simp only [depthScanner] at whole
      rw [level_cons]
      omega

theorem level_of_crosses_block (last : halts 1 '}' = true) (positive : 0 < depth)
    (crosses : (depthScanner ['{'] ['}'] halts).Crosses depth text deeper) :
    (deeper : Int) = depth + level ['{'] ['}'] text := by
  refine level_of_crosses (0 < ·) ?_ positive crosses
  intro reached c inside passes
  have single : (depthScanner ['{'] ['}'] halts).Crosses reached [c]
      (countBracket ['{'] ['}'] reached c) := .cons passes .nil
  refine ⟨?_, pos_of_crosses last inside single⟩
  simp only [level, List.countP_singleton]
  split <;> split <;> omega

theorem level_of_crosses_atRule
    (crosses : (depthScanner ['{'] ['}'] endsAtRule).Crosses depth text deeper) :
    (deeper : Int) = depth + level ['{'] ['}'] text := by
  refine level_of_crosses (fun _ => True) ?_ trivial crosses
  intro reached c _ passes
  refine ⟨?_, trivial⟩
  by_cases closes : c = '}'
  · subst closes
    have inside : ¬reached ≤ 1 := by
      intro bounded
      cases passes.symm.trans (endsAtRule_iff.mpr (.inr ⟨rfl, bounded⟩))
    have down : level ['{'] ['}'] ['}'] = -1 := rfl
    omega
  · simp only [level, List.countP_singleton]
    simp [closes]
    omega

theorem level_pos_of_crosses (last : halts 1 '}' = true)
    (crosses : (depthScanner ['{'] ['}'] halts).Crosses 1 text deeper) :
    ∀ part, part <+: text → 0 ≤ level ['{'] ['}'] part := by
  rintro part ⟨rest, rfl⟩
  obtain ⟨reached, head, _⟩ := Scanner.exists_crosses_of_append crosses
  have positive := pos_of_crosses last Nat.one_pos head
  have counted := level_of_crosses_block last Nat.one_pos head
  omega

/-- What stands between the braces of a block is balanced. -/
theorem balanced_of_crosses (last : halts 1 '}' = true)
    (crosses : (depthScanner ['{'] ['}'] halts).Crosses 1 text 1) : Balanced '{' '}' text := by
  have counted := level_of_crosses_block last Nat.one_pos crosses
  exact ⟨level_pos_of_crosses last crosses, by omega⟩

/-- Without parentheses the search for the end of a statement stops at the first character that can
be one. -/
theorem inert_of_crosses
    (crosses : (depthScanner ['('] [')'] endsStatement).Crosses 0 text deeper)
    (flat : '(' ∉ text) : ∀ c ∈ text, c ∉ [';', '{', '}'] := by
  induction text with
  | nil => simp
  | cons c text ih =>
      obtain ⟨passes, later⟩ := Scanner.crosses_cons_iff.mp crosses
      have other : '(' ≠ c := fun same => flat (same ▸ List.mem_cons_self)
      have stays : countBracket ['('] [')'] 0 c = 0 := by
        simp [countBracket, Ne.symm other]
      simp only [depthScanner, stays] at passes later
      intro d member
      rcases List.mem_cons.mp member with rfl | behind
      · simpa [endsStatement] using passes
      · exact ih later (fun member => flat (List.mem_cons_of_mem c member)) d behind

/-- An at-rule has no block yet, or it has opened one and is still inside. -/
theorem atRule_head (crosses : (depthScanner ['{'] ['}'] endsAtRule).Crosses 0 text deeper) :
    (∀ c ∈ text, c ∉ [';', '{', '}']) ∧ deeper = 0 ∨
      ∃ head rest, text = head ++ '{' :: rest ∧ (∀ c ∈ head, c ∉ [';', '{', '}']) ∧
        (depthScanner ['{'] ['}'] endsAtRule).Crosses 1 rest deeper := by
  induction text with
  | nil => exact .inl ⟨by simp, (Scanner.crosses_nil_iff.mp crosses).symm⟩
  | cons c text ih =>
      obtain ⟨passes, later⟩ := Scanner.crosses_cons_iff.mp crosses
      by_cases opens : c = '{'
      · subst opens
        exact .inr ⟨[], text, rfl, by simp, later⟩
      · have stays : countBracket ['{'] ['}'] 0 c = 0 := by
          simp [countBracket, opens]
        have plain : c ∉ [';', '{', '}'] := by
          simp only [depthScanner, endsAtRule] at passes
          simp [opens] at passes ⊢
          exact passes
        simp only [depthScanner, stays] at later
        rcases ih later with ⟨inert, zero⟩ | ⟨head, rest, rfl, inert, inside⟩
        · exact .inl ⟨List.forall_mem_cons.mpr ⟨plain, inert⟩, zero⟩
        · exact .inr ⟨c :: head, rest, rfl, List.forall_mem_cons.mpr ⟨plain, inert⟩, inside⟩

end Searches

namespace Node

/-! The searches of the reader -/

theorem bareScan_statement (text : Text) :
    BareScan ['('] [')'] endsStatement 0 text (statementScanner.run .start text) := by
  rw [statementScanner_eq]
  exact bareScan ['('] [')'] endsStatement 0 text

theorem bareScan_block (text : Text) :
    BareScan ['{'] ['}'] endsBlock 1 text (blockScanner.run ⟨.outside, 1⟩ text) := by
  rw [blockScanner_eq]
  exact bareScan ['{'] ['}'] endsBlock 1 text

theorem bareScan_atRule (text : Text) :
    BareScan ['{'] ['}'] endsAtRule 0 text (atRuleScanner.run .start text) :=
  bareScan ['{'] ['}'] endsAtRule 0 text

theorem bareScan_selector (text : Text) :
    BareScan ['(', '['] [')', ']'] endsSelector 0 text (selectorScanner.run .start text) := by
  rw [selectorScanner_eq]
  exact bareScan ['(', '['] [')', ']'] endsSelector 0 text

/-! Cuts -/

/-- A statement cut off the head of a text, and the rest. -/
inductive Cuts : Text → Statement → Text → Prop where
  | atRule {before rest : Text} {c : Char} {depth : Nat} (starts : (before ++ [c]).head? = some '@')
      (quotes : Quoting.outside.after before = .outside)
      (crosses : (depthScanner ['{'] ['}'] endsAtRule).Crosses 0 before.bareChars depth)
      (ends : c = ';' ∧ depth = 0 ∨ c = '}' ∧ depth = 1) :
      Cuts (before ++ c :: rest) (.atRule (before ++ [c])) rest
  /-- The end of the text ends the at-rule. -/
  | lastAtRule {text : Text}
      (crosses : (depthScanner ['{'] ['}'] endsAtRule).Crosses 0 text.bareChars 0) :
      Cuts text (.atRule text.trimEnd) []
  | rule {before rest : Text} (starts : (before ++ ';' :: rest).head? ≠ some '@')
      (quotes : Quoting.outside.after before = .outside)
      (crosses : (depthScanner ['('] [')'] endsStatement).Crosses 0 before.bareChars 0) :
      Cuts (before ++ ';' :: rest) (.rule before.trimEnd) rest
  | lastRule {text : Text} {depth : Nat} (starts : text.head? ≠ some '@')
      (crosses : (depthScanner ['('] [')'] endsStatement).Crosses 0 text.bareChars depth) :
      Cuts text (.rule text.trimEnd) []
  | block {before inner rest : Text} {start : Nat}
      (quotes : Quoting.outside.after before = .outside)
      (crosses : (depthScanner ['('] [')'] endsStatement).Crosses 0 before.bareChars 0)
      (closes : Quoting.outside.after inner = .outside) :
      Cuts (before ++ '{' :: (inner ++ '}' :: rest)) (.block (selectorList before) start inner) rest

section Cuts

variable {position : Nat} {text rest : Text} {statement : Statement}

theorem cuts_of_cutAtRule (starts : text.head? = some '@')
    (cut : cutAtRule position text = .ok (statement, rest)) : Cuts text statement rest := by
  have scan := bareScan_atRule text
  unfold cutAtRule at cut
  generalize atRuleScanner.run .start text = found at scan cut
  cases scan with
  | @ended state crosses =>
      by_cases zero : state.depth = 0
      · simp only [zero, if_true] at cut
        obtain ⟨rfl, rfl⟩ := Prod.mk.inj (Except.ok.inj cut)
        exact .lastAtRule (zero ▸ crosses)
      · simp only [zero, if_false] at cut
        cases cut
  | @stopped before behind reached c whole quotes crosses stops =>
      subst whole
      have first : (before ++ [c]).head? = some '@' := by
        cases before <;> simpa using starts
      rcases endsAtRule_iff.mp stops with ⟨rfl, zero⟩ | ⟨rfl, bounded⟩
      · obtain ⟨rfl, rfl⟩ := Prod.mk.inj (Except.ok.inj cut)
        exact .atRule first quotes crosses (.inl ⟨rfl, zero⟩)
      · by_cases zero : reached = 0
        · simp [zero] at cut
        · simp only [zero, decide_false, Bool.and_false] at cut
          obtain ⟨rfl, rfl⟩ := Prod.mk.inj (Except.ok.inj cut)
          exact .atRule first quotes crosses (.inr ⟨rfl, by omega⟩)

theorem exists_of_cutBlock {selectors : List Text}
    (cut : cutBlock position selectors text = .ok (statement, rest)) :
    ∃ inner : Text, text = inner ++ '}' :: rest ∧ Quoting.outside.after inner = .outside ∧
      statement = .block selectors (position + 1) inner := by
  have scan := bareScan_block text
  unfold cutBlock at cut
  generalize blockScanner.run ⟨.outside, 1⟩ text = found at scan cut
  cases scan with
  | ended crosses => cases cut
  | @stopped inner behind reached c whole closes crosses stops =>
      simp only [endsBlock, Bool.and_eq_true, beq_iff_eq] at stops
      obtain ⟨_, rfl⟩ := stops
      obtain ⟨rfl, rfl⟩ := Prod.mk.inj (Except.ok.inj cut)
      exact ⟨inner, whole, closes, rfl⟩

theorem cuts_of_cutRule (starts : text.head? ≠ some '@')
    (cut : cutRule position text = .ok (statement, rest)) : Cuts text statement rest := by
  have scan := bareScan_statement text
  unfold cutRule at cut
  generalize statementScanner.run .start text = found at scan cut
  cases scan with
  | @ended state crosses =>
      obtain ⟨rfl, rfl⟩ := Prod.mk.inj (Except.ok.inj cut)
      exact .lastRule starts crosses
  | @stopped before behind reached c whole quotes crosses stops =>
      subst whole
      simp only [endsStatement, Bool.and_eq_true, beq_iff_eq, List.contains_iff_mem, List.mem_cons,
        List.not_mem_nil, or_false] at stops
      rw [stops.1] at crosses
      rcases stops.2 with rfl | rfl | rfl
      · obtain ⟨rfl, rfl⟩ := Prod.mk.inj (Except.ok.inj cut)
        exact .rule starts quotes crosses
      · obtain ⟨inner, rfl, closes, rfl⟩ := exists_of_cutBlock cut
        exact .block quotes crosses closes
      · cases cut

theorem cuts_of_cutStatement (cut : cutStatement position text = .ok (statement, rest)) :
    Cuts text statement rest := by
  unfold cutStatement at cut
  split at cut
  · next starts => exact cuts_of_cutAtRule starts cut
  · next starts => exact cuts_of_cutRule starts cut

end Cuts

end Node

end Stylesheet

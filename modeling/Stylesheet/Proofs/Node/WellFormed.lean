import Mathlib.Tactic.MkIffOfInductiveProp
import Stylesheet.Proofs.Node.Unquoted

/-!
Well-formed nodes: those whose texts the reader can tell apart once they are printed. The conditions
speak of the characters outside quotes and of how deep brackets nest behind each prefix of them, so
they can be computed. Each scanner of the reader crosses the texts that it should cross.
-/

namespace Stylesheet

/-- No closing bracket comes too early, and all brackets are closed. -/
@[mk_iff]
structure Balanced (opening closing : Char) (text : Text) : Prop where
  above : ∀ front, front <+: text → 0 ≤ level [opening] [closing] front
  closed : level [opening] [closing] text = 0

namespace Text

/-- The characters outside quotes. -/
def bareChars (text : Text) : Text := Quoting.outside.unquoted text

/-- No comment starts in the text. -/
def Uncommented (text : Text) : Prop := ¬['/', '*'] <:+: text

@[mk_iff]
structure IsPlain (text : Text) : Prop where
  oneLine : '\n' ∉ text
  uncommented : text.Uncommented

/-- What can stand in front of a semicolon or an opening brace: it closes its quotes and its
parentheses, and only those hide semicolons and only quotes hide braces. -/
@[mk_iff]
structure IsClause (text : Text) : Prop where
  plain : text.IsPlain
  filled : text ≠ []
  trimmed : text.trim = text
  noAtRule : text.head? ≠ some '@'
  quotes : Quoting.outside.after text = .outside
  parentheses : Balanced '(' ')' text.bareChars
  noOpening : '{' ∉ text.bareChars
  noClosing : '}' ∉ text.bareChars
  noEnd : ∀ front, front <+: text.bareChars → front.getLast? = some ';' →
    level ['('] [')'] front ≠ 0

/-- One selector of a list: parentheses and square brackets hide its commas. -/
@[mk_iff]
structure IsSelector (text : Text) : Prop extends IsClause text where
  squares : Balanced '[' ']' text.bareChars
  noComma : ∀ front, front <+: text.bareChars → front.getLast? = some ',' →
    level ['('] [')'] front ≠ 0 ∨ level ['['] [']'] front ≠ 0

/-- Whether an at-rule ends behind these characters: at a semicolon outside braces, or at the brace
that closes the last open one. -/
def EndsAtRule (front : Text) : Prop :=
  (front.getLast? = some ';' ∨ front.getLast? = some '}') ∧ level ['{'] ['}'] front = 0

/-- An at-rule ends where it can for the first time. -/
@[mk_iff]
structure IsAtRule (text : Text) : Prop where
  plain : text.IsPlain
  starts : text.head? = some '@'
  above : ∀ front, front <+: text.bareChars → 0 ≤ level ['{'] ['}'] front
  lastBare : ∀ last ∈ text.getLast?, (Quoting.outside.after text.dropLast).bare last = true
  ends : EndsAtRule text.bareChars
  first : ∀ front, front <+: text.bareChars → EndsAtRule front → front = text.bareChars

end Text

/-- Every text in the tree is what its place asks for. -/
inductive Node.WellFormed : Node → Prop where
  | atRule {content : Text} (fits : content.IsAtRule) : WellFormed (.atRule content)
  | rule {content : Text} (fits : content.IsClause) : WellFormed (.rule content)
  | ruleSet {selectors : List Text} {contents : List Node}
      (fits : ∀ selector ∈ selectors, selector.IsSelector)
      (inner : ∀ node ∈ contents, WellFormed node) : WellFormed (.ruleSet selectors contents)

/-! All of this can be computed -/

instance (opening closing : Char) (text : Text) : Decidable (Balanced opening closing text) :=
  decidable_of_iff _ (balanced_iff opening closing text).symm

instance (text : Text) : Decidable text.Uncommented :=
  inferInstanceAs (Decidable ¬['/', '*'] <:+: text)

instance (text : Text) : Decidable text.IsPlain := decidable_of_iff _ text.isPlain_iff.symm

instance (text : Text) : Decidable text.IsClause := decidable_of_iff _ text.isClause_iff.symm

instance (text : Text) : Decidable text.IsSelector := decidable_of_iff _ text.isSelector_iff.symm

instance (front : Text) : Decidable (Text.EndsAtRule front) :=
  inferInstanceAs (Decidable ((_ ∨ _) ∧ _))

instance (text : Text) : Decidable text.IsAtRule :=
  have : Decidable (∀ last ∈ text.getLast?,
      (Quoting.outside.after text.dropLast).bare last = true) :=
    Option.decidableForallMem text.getLast?
  decidable_of_iff _ text.isAtRule_iff.symm

mutual

def Node.decideWellFormed : (node : Node) → Decidable node.WellFormed
  | .atRule content =>
    decidable_of_iff content.IsAtRule ⟨.atRule, fun | .atRule fits => fits⟩
  | .rule content => decidable_of_iff content.IsClause ⟨.rule, fun | .rule fits => fits⟩
  | .ruleSet selectors contents =>
    have := Node.decideAllWellFormed contents
    decidable_of_iff
      ((∀ selector ∈ selectors, selector.IsSelector) ∧ ∀ node ∈ contents, node.WellFormed)
      ⟨fun ⟨fits, inner⟩ => .ruleSet fits inner, fun | .ruleSet fits inner => ⟨fits, inner⟩⟩

def Node.decideAllWellFormed : (nodes : List Node) → Decidable (∀ node ∈ nodes, node.WellFormed)
  | [] => .isTrue (by simp)
  | node :: nodes =>
    have := Node.decideWellFormed node
    have := Node.decideAllWellFormed nodes
    decidable_of_iff (node.WellFormed ∧ ∀ other ∈ nodes, other.WellFormed) (by simp)

end

instance (nodes : List Node) : Decidable (∀ node ∈ nodes, node.WellFormed) :=
  Node.decideAllWellFormed nodes

theorem level_eq_zero {opening closing : Char} {text : Text} (unopened : opening ∉ text)
    (unclosed : closing ∉ text) : level [opening] [closing] text = 0 := by
  have opens : text.countP [opening].contains = 0 := by
    apply List.countP_eq_zero.mpr
    intro c member found
    obtain rfl := List.mem_singleton.mp (List.contains_iff_mem.mp found)
    exact unopened member
  have closes : text.countP [closing].contains = 0 := by
    apply List.countP_eq_zero.mpr
    intro c member found
    obtain rfl := List.mem_singleton.mp (List.contains_iff_mem.mp found)
    exact unclosed member
  simp [level, opens, closes]

-- Parentheses and square brackets in one count.
theorem level_pair (text : Text) :
    level ['(', '['] [')', ']'] text = level ['('] [')'] text + level ['['] [']'] text := by
  induction text with
  | nil => rfl
  | cons c text ih =>
      have one : level ['(', '['] [')', ']'] [c] = level ['('] [')'] [c] + level ['['] [']'] [c] := by
        by_cases known : c ∈ ['(', '[', ')', ']']
        · simp only [List.mem_cons, List.not_mem_nil, or_false] at known
          rcases known with rfl | rfl | rfl | rfl <;> rfl
        · simp only [List.mem_cons, List.not_mem_nil, or_false, not_or] at known
          simp [level, known]
      rw [level_cons, one, ih, level_cons c text, level_cons c text]
      omega

theorem mem_of_concat_prefix {front text : Text} {c : Char} (leads : front ++ [c] <+: text) :
    c ∈ text :=
  leads.subset (by simp)

namespace Node

/-! The scanners of the reader -/

theorem statementScanner_eq : statementScanner =
    bareScanner ['('] [')'] (fun depth c => depth == 0 && [';', '{', '}'].contains c) := by
  simp only [statementScanner, bareScanner, Bool.and_assoc]

theorem blockScanner_eq : blockScanner =
    bareScanner ['{'] ['}'] (fun depth c => depth == 1 && c == '}') := by
  simp only [blockScanner, bareScanner, Bool.and_assoc]

theorem atRuleScanner_eq : atRuleScanner = bareScanner ['{'] ['}']
    (fun depth c => (c == ';' && depth == 0) || (c == '}' && depth ≤ 1)) := rfl

theorem selectorScanner_eq : selectorScanner =
    bareScanner ['(', '['] [')', ']'] (fun depth c => depth == 0 && c == ',') := by
  simp only [selectorScanner, bareScanner, Bool.and_assoc]

variable {text : Text}

/-! A clause ends no statement and no block -/

theorem crosses_statement_of_clause (clause : text.IsClause) :
    statementScanner.Crosses .start text .start := by
  rw [statementScanner_eq]
  apply crosses_of_unquoted (by simp) clause.quotes
  · intro front leads
    have above := clause.parentheses.above front leads
    omega
  · intro front c leads reached reaches
    by_cases outer : reached = 0
    · -- outside parentheses, so neither a brace nor a semicolon
      have member := mem_of_concat_prefix leads
      have noOpening : c ≠ '{' := fun same => clause.noOpening (same ▸ member)
      have noClosing : c ≠ '}' := fun same => clause.noClosing (same ▸ member)
      have noEnd : c ≠ ';' := by
        rintro rfl
        have nested := clause.noEnd _ leads (by simp)
        rw [level_append] at nested
        have flat : level ['('] [')'] [';'] = 0 := rfl
        omega
      simp [noOpening, noClosing, noEnd]
    · simp [outer]
  · have closed := clause.parentheses.closed
    simp only [Text.bareChars] at closed
    omega

theorem crosses_block_of_clause (clause : text.IsClause) (depth : Nat) :
    blockScanner.Crosses ⟨.outside, depth⟩ text ⟨.outside, depth⟩ := by
  have flat : ∀ front, front <+: text.bareChars → level ['{'] ['}'] front = 0 := by
    intro front leads
    exact level_eq_zero (fun member => clause.noOpening (leads.subset member))
      (fun member => clause.noClosing (leads.subset member))
  rw [blockScanner_eq]
  apply crosses_of_unquoted (by simp) clause.quotes
  · intro front leads
    have zero := flat front leads
    omega
  · intro front c leads reached _
    have noClosing : c ≠ '}' := fun same => clause.noClosing (same ▸ mem_of_concat_prefix leads)
    simp [noClosing]
  · have zero := flat text.bareChars (List.prefix_refl _)
    simp only [Text.bareChars] at zero
    omega

theorem crosses_selector_of_selector (selector : text.IsSelector) :
    selectorScanner.Crosses .start text .start := by
  rw [selectorScanner_eq]
  apply crosses_of_unquoted (by simp) selector.quotes
  · intro front leads
    have parentheses := selector.parentheses.above front leads
    have squares := selector.squares.above front leads
    rw [level_pair]
    omega
  · intro front c leads reached reaches
    by_cases outer : reached = 0
    · have noComma : c ≠ ',' := by
        rintro rfl
        -- neither count is below zero, so both are zero with their sum
        have shorter := (List.prefix_append front [',']).trans leads
        have parentheses := selector.parentheses.above front shorter
        have squares := selector.squares.above front shorter
        have nested := selector.noComma _ leads (by simp)
        rw [level_append, level_append] at nested
        rw [level_pair] at reaches
        have flat : level ['('] [')'] [','] = 0 ∧ level ['['] [']'] [','] = 0 := ⟨rfl, rfl⟩
        omega
      simp [noComma]
    · simp [outer]
  · have parentheses := selector.parentheses.closed
    have squares := selector.squares.closed
    simp only [Text.bareChars] at parentheses squares
    rw [level_pair]
    omega

/-! An at-rule is read to its last character -/

theorem exists_body_of_atRule (rule : text.IsAtRule) : ∃ body last,
    text = body ++ [last] ∧ Quoting.outside.after body = .outside ∧
      Quoting.outside.after text = .outside ∧ text.bareChars = body.bareChars ++ [last] := by
  obtain empty | ⟨body, last, rfl⟩ := List.eq_nil_or_concat' text
  · have starts := rule.starts
    simp [empty] at starts
  · have bare := rule.lastBare last (by simp)
    rw [List.dropLast_concat] at bare
    obtain ⟨before, behind⟩ := Quoting.outside_of_bare bare
    refine ⟨body, last, rfl, before, ?_, ?_⟩
    · rw [Quoting.after_append, before]
      rwa [before] at behind
    · rw [Text.bareChars, Quoting.unquoted_append, Text.bareChars]
      simp [Quoting.unquoted, bare]

theorem crosses_atRule_of_atRule (rule : text.IsAtRule) : ∃ body last depth,
    text = body ++ [last] ∧ atRuleScanner.Crosses .start body ⟨.outside, depth⟩ ∧
      (last = ';' ∧ depth = 0 ∨ last = '}' ∧ depth = 1) := by
  obtain ⟨body, last, whole, quotes, _, chars⟩ := exists_body_of_atRule rule
  have shorter : body.bareChars <+: text.bareChars := chars ▸ List.prefix_append _ _
  have above := rule.above _ shorter
  refine ⟨body, last, (level ['{'] ['}'] body.bareChars).toNat, whole, ?_, ?_⟩
  · rw [atRuleScanner_eq]
    apply crosses_of_unquoted (by simp) quotes
    · intro front leads
      have above := rule.above front (leads.trans shorter)
      omega
    · intro front c leads reached reaches
      have early : ¬Text.EndsAtRule (front ++ [c]) := by
        intro ends
        have all := rule.first _ (leads.trans shorter) ends
        have bounded := leads.length_le
        rw [all, chars, List.length_append, ← Text.bareChars, List.length_singleton] at bounded
        omega
      have above := rule.above _ (leads.trans shorter)
      simp only [Text.EndsAtRule, level_append, List.getLast?_append, List.getLast?_singleton,
        Option.some_or, Option.some.injEq] at early above
      by_cases semicolon : c = ';'
      · subst semicolon
        have flat : level ['{'] ['}'] [';'] = 0 := rfl
        have inner : reached ≠ 0 := fun outer => early ⟨.inl rfl, by omega⟩
        simp [inner]
      · by_cases brace : c = '}'
        · subst brace
          have down : level ['{'] ['}'] ['}'] = -1 := rfl
          have inner : ¬reached ≤ 1 := fun outer => early ⟨.inr rfl, by omega⟩
          simp [inner]
        · simp [semicolon, brace]
    · simp only [Text.bareChars] at above ⊢
      omega
  · obtain ⟨terminator, closed⟩ := rule.ends
    rw [chars] at terminator closed
    rw [level_append] at closed
    simp only [List.getLast?_append, List.getLast?_singleton, Option.some_or,
      Option.some.injEq] at terminator
    rcases terminator with rfl | rfl
    · have flat : level ['{'] ['}'] [';'] = 0 := rfl
      left
      exact ⟨rfl, by omega⟩
    · have down : level ['{'] ['}'] ['}'] = -1 := rfl
      right
      exact ⟨rfl, by omega⟩

theorem crosses_block_of_atRule (rule : text.IsAtRule) {depth : Nat} (inside : 0 < depth) :
    blockScanner.Crosses ⟨.outside, depth⟩ text ⟨.outside, depth⟩ := by
  obtain ⟨_, _, _, _, quotes, _⟩ := exists_body_of_atRule rule
  rw [blockScanner_eq]
  apply crosses_of_unquoted (by simp) quotes
  · intro front leads
    have above := rule.above front leads
    omega
  · intro front c leads reached reaches
    by_cases brace : c = '}'
    · -- the brace closes one of the at-rule's own
      subst brace
      have above := rule.above _ leads
      rw [level_append] at above
      have down : level ['{'] ['}'] ['}'] = -1 := rfl
      have deeper : reached ≠ 1 := by omega
      simp [deeper]
    · simp [brace]
  · have closed := rule.ends.2
    simp only [Text.bareChars] at closed
    omega

end Node

end Stylesheet

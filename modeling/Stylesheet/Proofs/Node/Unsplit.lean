import Stylesheet.Proofs.Node.Cutting
import Stylesheet.Proofs.Node.Reading
import Stylesheet.Proofs.Node.RoundTrip

/-!
Reading without splitting parentheses. A text whose parentheses are balanced and shelter what they
hold is cut outside them only, and its parts are such texts again. So no text anywhere in the tree
has a parenthesis without its partner.
-/

namespace Stylesheet

namespace Text

structure Guarded (text : Text) : Prop where
  balanced : Balanced '(' ')' text.bareChars
  sheltered : Sheltered text.bareChars

theorem guarded_nil : Guarded [] := ⟨by decide, by decide⟩

variable {text : Text}

theorem Guarded.parts {before rest : Text} {c : Char} (guarded : text.Guarded)
    (chars : text.bareChars = before.bareChars ++ c :: rest.bareChars)
    (delimits : c ∈ [';', '{', '}']) (outer : level ['('] [')'] before.bareChars = 0) :
    before.Guarded ∧ rest.Guarded := by
  obtain ⟨balanced, sheltered⟩ := guarded
  rw [chars] at balanced sheltered
  have shelteredBefore : Sheltered ([] ++ before.bareChars ++ c :: rest.bareChars) := sheltered
  have flat := level_of_delimiter delimits
  have behind := level_concat outer flat
  have shelteredRest : Sheltered ((before.bareChars ++ [c]) ++ rest.bareChars ++ []) := by
    simpa using sheltered
  have split := balanced.split outer
  have balancedRest : Balanced '(' ')' ([c] ++ rest.bareChars) := split.2
  exact ⟨⟨split.1, shelteredBefore.part startsStatement_nil⟩, ⟨(balancedRest.split flat).2,
    shelteredRest.part (startsStatement_concat behind delimits)⟩⟩

/-! Blanks around a text change nothing -/

theorem level_of_blank {blanks : Text} (allBlank : ∀ c ∈ blanks, isBlank c = true) :
    level ['('] [')'] blanks = 0 :=
  level_eq_zero (fun member => ne_of_isBlank (allBlank _ member) rfl rfl)
    (fun member => ne_of_isBlank (allBlank _ member) rfl rfl)

theorem exists_bareChars_trimStart (text : Text) :
    ∃ blanks, text.bareChars = blanks ++ text.trimStart.bareChars ∧ StartsStatement blanks := by
  obtain ⟨blanks, whole, allBlank⟩ := exists_append_trimStart text
  have chars := bareChars_blanks_append allBlank text.trimStart
  rw [whole] at chars
  exact ⟨blanks, chars, startsStatement_of_blank (level_of_blank allBlank) allBlank⟩

theorem balanced_trimStart (balanced : Balanced '(' ')' text.bareChars) :
    Balanced '(' ')' text.trimStart.bareChars := by
  obtain ⟨blanks, chars, starts⟩ := exists_bareChars_trimStart text
  rw [chars] at balanced
  exact (balanced.split starts.outer).2

theorem Guarded.trimStart (guarded : text.Guarded) : text.trimStart.Guarded := by
  obtain ⟨blanks, chars, starts⟩ := exists_bareChars_trimStart text
  have sheltered := guarded.sheltered
  rw [chars, ← List.append_nil (blanks ++ _)] at sheltered
  exact ⟨balanced_trimStart guarded.balanced, sheltered.part starts⟩

-- Behind an open quote the blanks are not even bare.
theorem level_unquoted_of_blank {blanks : Text} (allBlank : ∀ c ∈ blanks, isBlank c = true)
    (quoting : Quoting) : level ['('] [')'] (quoting.unquoted blanks) = 0 := by
  induction blanks generalizing quoting with
  | nil => rfl
  | cons c blanks ih =>
      have later := ih (fun d member => allBlank d (List.mem_cons_of_mem c member)) (quoting.next c)
      simp only [Quoting.unquoted]
      split
      · have first : level ['('] [')'] [c] = 0 :=
          level_of_blank fun d member =>
            List.mem_singleton.mp member ▸ allBlank c List.mem_cons_self
        rw [level_cons, first, later, Int.add_zero]
      · exact later

theorem balanced_trimEnd (balanced : Balanced '(' ')' text.bareChars) :
    Balanced '(' ')' text.trimEnd.bareChars := by
  obtain ⟨blanks, whole, allBlank⟩ := exists_trimEnd_append text
  have chars := Quoting.unquoted_append .outside text.trimEnd blanks
  rw [whole] at chars
  rw [bareChars, chars] at balanced
  have closed := balanced.closed
  rw [level_append, level_unquoted_of_blank allBlank, Int.add_zero] at closed
  exact (balanced.split closed).1

end Text

namespace Node

/-- No text in the tree has a parenthesis without its partner. -/
inductive Unsplit : Node → Prop where
  | atRule {content : Text} (balanced : Balanced '(' ')' content.bareChars) :
      Unsplit (.atRule content)
  | rule {content : Text} (balanced : Balanced '(' ')' content.bareChars) : Unsplit (.rule content)
  | ruleSet {selectors : List Text} {contents : List Node}
      (balanced : ∀ selector ∈ selectors, Balanced '(' ')' selector.bareChars)
      (inner : ∀ node ∈ contents, Unsplit node) : Unsplit (.ruleSet selectors contents)

mutual

def decideUnsplit : (node : Node) → Decidable node.Unsplit
  | .atRule content =>
    decidable_of_iff (Balanced '(' ')' content.bareChars)
      ⟨.atRule, fun | .atRule balanced => balanced⟩
  | .rule content =>
    decidable_of_iff (Balanced '(' ')' content.bareChars) ⟨.rule, fun | .rule balanced => balanced⟩
  | .ruleSet selectors contents =>
    have := decideAllUnsplit contents
    decidable_of_iff
      ((∀ selector ∈ selectors, Balanced '(' ')' selector.bareChars) ∧
        ∀ node ∈ contents, node.Unsplit)
      ⟨fun ⟨balanced, inner⟩ => .ruleSet balanced inner,
        fun | .ruleSet balanced inner => ⟨balanced, inner⟩⟩

def decideAllUnsplit : (nodes : List Node) → Decidable (∀ node ∈ nodes, node.Unsplit)
  | [] => .isTrue (by simp)
  | node :: nodes =>
    have := decideUnsplit node
    have := decideAllUnsplit nodes
    decidable_of_iff (node.Unsplit ∧ ∀ other ∈ nodes, other.Unsplit) (by simp)

end

instance (nodes : List Node) : Decidable (∀ node ∈ nodes, node.Unsplit) :=
  decideAllUnsplit nodes

/-- The same of one statement, whose inner text is still to be read. -/
def Statement.Unsplit : Statement → Prop
  | .atRule content => Balanced '(' ')' content.bareChars
  | .rule content => Balanced '(' ')' content.bareChars
  | .block selectors _ inner =>
      (∀ selector ∈ selectors, Balanced '(' ')' selector.bareChars) ∧ inner.Guarded

variable {text : Text}

theorem eq_start {state : Nesting} (outside : state.quoting = .outside) (zero : state.depth = 0) :
    state = .start := by
  obtain ⟨quoting, depth⟩ := state
  obtain rfl := outside
  obtain rfl := zero
  rfl

section Selectors

variable (balanced : Balanced '(' ')' text.bareChars)
  (squares : PairedInside '[' ']' text.bareChars)

include balanced squares

theorem balanced_pieces :
    ∀ piece ∈ selectorScanner.pieces .start text, Balanced '(' ')' piece.bareChars := by
  induction size : text.length using Nat.strongRecOn generalizing text with
  | ind n ih =>
      have whole := selectorScanner.before_append_rest .start text
      rw [Scanner.pieces_eq_run]
      cases found : (selectorScanner.run .start text).rest with
      | nil =>
          rw [found, List.append_nil] at whole
          simp [whole, balanced]
      | cons c rest =>
          have shorter := congrArg List.length whole
          simp only [found, List.length_append, List.length_cons] at shorter
          rw [selectorScanner_eq] at found ⊢
          have cut := bareCut_of_run found
          have stops := cut.stops
          simp only [Bool.and_eq_true, beq_iff_eq] at stops
          obtain ⟨zero, rfl⟩ := stops
          have outer := selector_cut balanced squares cut.leads (zero ▸ cut.crosses)
          have behind := level_concat outer (show level ['('] [')'] [','] = 0 from rfl)
          rw [cut.chars, List.append_cons] at balanced squares
          obtain ⟨upTo, others⟩ := balanced.split behind
          rw [← List.append_nil ((_ ++ [',']) ++ _)] at squares
          intro piece member
          rcases List.mem_cons.mp member with rfl | later
          · exact (upTo.split outer).1
          · -- The comma leaves the scan as it was at the start.
            have restarts := eq_start cut.outside zero
            refine ih rest.length (by omega) others (squares.part behind) rfl piece ?_
            rw [selectorScanner_eq]
            rwa [Nesting.start, restarts] at later

theorem balanced_selectorList :
    ∀ selector ∈ selectorList text, Balanced '(' ')' selector.bareChars := by
  intro selector member
  simp only [selectorList, List.mem_filter, List.mem_map] at member
  obtain ⟨⟨piece, listed, rfl⟩, _⟩ := member
  exact Text.balanced_trimEnd (Text.balanced_trimStart
    (balanced_pieces balanced squares piece listed))

end Selectors

theorem unsplit_cutBlock {position : Nat} {selectors : List Text} {statement : Statement}
    {rest : Text} (guarded : text.Guarded) (held : BracesHeld 1 text.bareChars)
    (balanced : ∀ selector ∈ selectors, Balanced '(' ')' selector.bareChars)
    (read : cutBlock position selectors text = .ok (statement, rest)) :
    statement.Unsplit ∧ rest.Guarded := by
  simp only [cutBlock] at read
  split at read
  · cases read
  · next c remaining found =>
    obtain ⟨rfl, rfl⟩ := Prod.mk.inj (Except.ok.inj read)
    rw [blockScanner_eq] at found ⊢
    have cut := bareCut_of_run found
    have stops := cut.stops
    simp only [Bool.and_eq_true, beq_iff_eq] at stops
    obtain ⟨one, rfl⟩ := stops
    have outer := block_cut guarded.balanced held cut.leads rfl (one ▸ cut.crosses)
    obtain ⟨inner, behind⟩ := guarded.parts cut.chars (by simp) outer
    exact ⟨⟨balanced, inner⟩, behind⟩

/-- What a search for the end of a statement has passed holds no such end outside parentheses. -/
theorem unended_of_crosses {front : Text} {depth : Nat} (balanced : Balanced '(' ')' front)
    (crosses : (depthScanner ['('] [')'] endsStatement).Crosses 0 front depth) :
    Unended front := by
  intro part leads ends
  have delimiter : ∃ c ∈ [';', '{', '}'], part.getLast? = some c := by
    simpa [eq_comm] using ends
  obtain ⟨c, delimits, last⟩ := delimiter
  obtain ⟨shorter, rfl⟩ := List.getLast?_eq_some_iff.mp last
  have stops : endsStatement 0 c = true := by simpa [endsStatement] using delimits
  have nested := level_ne_zero_of_crosses (by simp) balanced.above crosses leads stops
  rw [level_append, level_of_delimiter delimits, Int.add_zero]
  exact nested

theorem unsplit_cutRule {position : Nat} {statement : Statement} {rest : Text}
    (guarded : text.Guarded) (read : cutRule position text = .ok (statement, rest)) :
    statement.Unsplit ∧ rest.Guarded := by
  have whole := statementScanner.before_append_rest .start text
  simp only [cutRule] at read
  split at read
  · next found =>
    obtain ⟨rfl, rfl⟩ := Prod.mk.inj (Except.ok.inj read)
    rw [found, List.append_nil] at whole
    rw [whole]
    exact ⟨Text.balanced_trimEnd guarded.balanced, Text.guarded_nil⟩
  · next c remaining found =>
    rw [statementScanner_eq] at found read
    have cut := bareCut_of_run found
    have stops := cut.stops
    simp only [Bool.and_eq_true, beq_iff_eq] at stops
    have outer := statement_cut guarded.balanced cut.leads (stops.1 ▸ cut.crosses)
    have delimits := List.contains_iff_mem.mp stops.2
    obtain ⟨before, behind⟩ := guarded.parts cut.chars delimits outer
    split at read
    · obtain ⟨rfl, rfl⟩ := Prod.mk.inj (Except.ok.inj read)
      exact ⟨Text.balanced_trimEnd before.balanced, behind⟩
    · split at read
      · next opens =>
        subst opens
        have unended := unended_of_crosses before.balanced cut.crosses
        have squares :=
          guarded.sheltered.selectors [] _ _ cut.chars.symm startsStatement_nil unended
        have held := guarded.sheltered.blocks
        rw [cut.chars] at held
        exact unsplit_cutBlock behind (held.behind outer)
          (balanced_selectorList before.balanced squares) read
      · cases read

theorem unsplit_cutAtRule {position : Nat} {statement : Statement} {rest : Text}
    (guarded : text.Guarded) (starts : text.head? = some '@')
    (read : cutAtRule position text = .ok (statement, rest)) :
    statement.Unsplit ∧ rest.Guarded := by
  simp only [cutAtRule] at read
  split at read
  · split at read
    · obtain ⟨rfl, rfl⟩ := Prod.mk.inj (Except.ok.inj read)
      exact ⟨Text.balanced_trimEnd guarded.balanced, Text.guarded_nil⟩
    · cases read
  · next c remaining found =>
    split at read
    · cases read
    · obtain ⟨rfl, rfl⟩ := Prod.mk.inj (Except.ok.inj read)
      rw [atRuleScanner_eq] at found ⊢
      have cut := bareCut_of_run found
      have delimits : c ∈ [';', '{', '}'] := by
        rcases endsAtRule_iff.mp cut.stops with ⟨rfl, _⟩ | ⟨rfl, _⟩ <;> simp
      have flat := level_of_delimiter delimits
      have bareStarts : text.bareChars.head? = some '@' := by
        obtain ⟨behind, rfl⟩ := List.head?_eq_some_iff.mp starts
        rfl
      have outer := atRule_cut guarded.balanced guarded.sheltered bareStarts cut.leads cut.stops
        cut.crosses
      have content := guarded.balanced
      rw [cut.chars, List.append_cons] at content
      have closed := (content.split (level_concat outer flat)).1
      rw [← cut.upTo] at closed
      exact ⟨closed, (guarded.parts cut.chars delimits outer).2⟩

theorem unsplit_cutStatement {position : Nat} {statement : Statement} {rest : Text}
    (guarded : text.Guarded) (read : cutStatement position text = .ok (statement, rest)) :
    statement.Unsplit ∧ rest.Guarded := by
  unfold cutStatement at read
  split at read
  · next starts => exact unsplit_cutAtRule guarded starts read
  · exact unsplit_cutRule guarded read

theorem unsplit_of_reads {nodes : List Node} (reads : Reads text nodes) (guarded : text.Guarded) :
    ∀ node ∈ nodes, node.Unsplit := by
  induction reads with
  | blank ended => simp
  | atRule cut _ ih =>
      obtain ⟨balanced, behind⟩ := unsplit_cutStatement guarded.trimStart cut
      intro node member
      rcases List.mem_cons.mp member with rfl | later
      · exact .atRule balanced
      · exact ih behind node later
  | rule cut _ ih =>
      obtain ⟨balanced, behind⟩ := unsplit_cutStatement guarded.trimStart cut
      intro node member
      rcases List.mem_cons.mp member with rfl | later
      · exact .rule balanced
      · exact ih behind node later
  | block cut _ _ ihInner ihRest =>
      obtain ⟨⟨balanced, inner⟩, behind⟩ := unsplit_cutStatement guarded.trimStart cut
      intro node member
      rcases List.mem_cons.mp member with rfl | later
      · exact .ruleSet balanced (ihInner inner)
      · exact ihRest behind node later

/-- A text without comments whose parentheses are balanced is never cut inside them, as long as they
shelter what they hold. -/
theorem read_unsplit (text : Text) (nodes : List Node) (readable : read text = .ok nodes)
    (uncommented : text.Uncommented) (balanced : Balanced '(' ')' text.bareChars)
    (sheltered : Sheltered text.bareChars) : ∀ node ∈ nodes, node.Unsplit := by
  rw [read, Text.withoutComments_of_uncommented uncommented] at readable
  exact unsplit_of_reads (reads_of_readFrom readable) ⟨balanced, sheltered⟩

/-- A text whose parentheses hold every character that the reader looks for, next to quoted ones. In
the last declaration an at-sign and a square bracket are no more than characters. -/
def shelteringText : Text :=
  "@m(x)\x7b(;\x7b\x7d)\x7d s(a,[b]),'('c\x7bd(;')');e:@f(;])\x7d".toList

theorem read_unsplit_shelteringText : ∃ nodes, read shelteringText = .ok nodes ∧
    printAll nodes =
      "@m(x)\x7b(;\x7b\x7d)\x7d\n\ns(a,[b]), '('c \x7b\n\td(;')');\n\te:@f(;]);\n\x7d".toList ∧
    ∀ node ∈ nodes, node.Unsplit := by
  have printed : (read shelteringText).toOption.map printAll = some
      "@m(x)\x7b(;\x7b\x7d)\x7d\n\ns(a,[b]), '('c \x7b\n\td(;')');\n\te:@f(;]);\n\x7d".toList := by
    decide +kernel
  cases readable : read shelteringText with
  | error error =>
      rw [readable] at printed
      cases printed
  | ok nodes =>
      rw [readable] at printed
      exact ⟨nodes, rfl, Option.some.inj printed, read_unsplit _ _ readable (by decide +kernel)
        (by decide +kernel) (by decide +kernel)⟩

/-- Without shelter the reader does cut inside parentheses: the end of an at-rule is searched for
with no regard to them. -/
theorem read_splits_atRule : ∃ nodes, read "@import url(data:a;b);".toList = .ok nodes ∧
    Text.Uncommented "@import url(data:a;b);".toList ∧
    Balanced '(' ')' (Text.bareChars "@import url(data:a;b);".toList) ∧
    printAll nodes = "@import url(data:a;\nb);".toList ∧ ¬∀ node ∈ nodes, node.Unsplit := by
  have printed : (read "@import url(data:a;b);".toList).toOption.map printAll =
      some "@import url(data:a;\nb);".toList := by
    decide +kernel
  have split : (read "@import url(data:a;b);".toList).toOption.map
      (fun nodes => decide (∀ node ∈ nodes, node.Unsplit)) = some false := by
    decide +kernel
  cases readable : read "@import url(data:a;b);".toList with
  | error error =>
      rw [readable] at printed
      cases printed
  | ok nodes =>
      rw [readable] at printed split
      exact ⟨nodes, rfl, by decide +kernel, by decide +kernel, Option.some.inj printed,
        of_decide_eq_false (Option.some.inj split)⟩

end Node

end Stylesheet

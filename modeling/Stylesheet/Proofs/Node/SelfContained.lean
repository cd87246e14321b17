import Stylesheet.Proofs.Node.Cutting
import Stylesheet.Proofs.Node.Reading

/-!
Self-contained trees: every text in them closes what it opens, and shows no brace that is not its
own. What else a well-formed tree asks for holds of any tree that was read, since each text of it
was passed by one of the reader's searches without a stop. So a self-contained tree that was read is
well formed.
-/

namespace Stylesheet

namespace Text

/-- One line without comments that closes its quotes and its parentheses. -/
@[mk_iff]
structure IsContained (text : Text) : Prop where
  plain : text.IsPlain
  quotes : Quoting.outside.after text = .outside
  parentheses : Balanced '(' ')' text.bareChars

/-- No brace stands outside quotes. -/
@[mk_iff]
structure IsUnbraced (text : Text) : Prop where
  noOpening : '{' ∉ text.bareChars
  noClosing : '}' ∉ text.bareChars

/-- A selector that closes its square brackets as well. -/
@[mk_iff]
structure IsContainedSelector (text : Text) : Prop extends IsContained text, IsUnbraced text where
  squares : Balanced '[' ']' text.bareChars
  noAtRule : text.head? ≠ some '@'

end Text

/-- Every text in the tree is contained in itself. -/
inductive Node.SelfContained : Node → Prop where
  | atRule {content : Text} (contained : content.IsContained)
      (ends : content.getLast? = some ';' ∨ content.getLast? = some '}') :
      SelfContained (.atRule content)
  | rule {content : Text} (contained : content.IsContained) (unbraced : content.IsUnbraced)
      (filled : content ≠ []) : SelfContained (.rule content)
  | ruleSet {selectors : List Text} {contents : List Node}
      (contained : ∀ selector ∈ selectors, selector.IsContainedSelector)
      (inner : ∀ node ∈ contents, SelfContained node) : SelfContained (.ruleSet selectors contents)

/-! This can be computed -/

instance (text : Text) : Decidable text.IsContained := decidable_of_iff _ text.isContained_iff.symm

instance (text : Text) : Decidable text.IsUnbraced := decidable_of_iff _ text.isUnbraced_iff.symm

instance (text : Text) : Decidable text.IsContainedSelector :=
  decidable_of_iff _ text.isContainedSelector_iff.symm

mutual

def Node.decideSelfContained : (node : Node) → Decidable node.SelfContained
  | .atRule content =>
    decidable_of_iff
      (content.IsContained ∧ (content.getLast? = some ';' ∨ content.getLast? = some '}'))
      ⟨fun ⟨contained, ends⟩ => .atRule contained ends,
        fun | .atRule contained ends => ⟨contained, ends⟩⟩
  | .rule content =>
    decidable_of_iff (content.IsContained ∧ content.IsUnbraced ∧ content ≠ [])
      ⟨fun ⟨contained, unbraced, filled⟩ => .rule contained unbraced filled,
        fun | .rule contained unbraced filled => ⟨contained, unbraced, filled⟩⟩
  | .ruleSet selectors contents =>
    have := Node.decideAllSelfContained contents
    decidable_of_iff
      ((∀ selector ∈ selectors, selector.IsContainedSelector) ∧
        ∀ node ∈ contents, node.SelfContained)
      ⟨fun ⟨contained, inner⟩ => .ruleSet contained inner,
        fun | .ruleSet contained inner => ⟨contained, inner⟩⟩

def Node.decideAllSelfContained :
    (nodes : List Node) → Decidable (∀ node ∈ nodes, node.SelfContained)
  | [] => .isTrue (by simp)
  | node :: nodes =>
    have := Node.decideSelfContained node
    have := Node.decideAllSelfContained nodes
    decidable_of_iff (node.SelfContained ∧ ∀ other ∈ nodes, other.SelfContained) (by simp)

end

instance (nodes : List Node) : Decidable (∀ node ∈ nodes, node.SelfContained) :=
  Node.decideAllSelfContained nodes

namespace Node

/-! Texts that a search has passed -/

section Passed

variable {text : Text} {depth : Nat}

theorem isClause_of_crosses (contained : text.IsContained) (unbraced : text.IsUnbraced)
    (filled : text ≠ []) (trimmed : text.trim = text) (noAtRule : text.head? ≠ some '@')
    (crosses : (depthScanner ['('] [')'] endsStatement).Crosses 0 text.bareChars depth) :
    text.IsClause := by
  refine ⟨contained.plain, filled, trimmed, noAtRule, contained.quotes, contained.parentheses,
    unbraced.noOpening, unbraced.noClosing, ?_⟩
  intro front leads ends
  obtain ⟨shorter, rfl⟩ := List.getLast?_eq_some_iff.mp ends
  have nested := level_ne_zero_of_crosses (by simp) contained.parentheses.above crosses leads rfl
  have flat : level ['('] [')'] [';'] = 0 := rfl
  rw [level_append]
  omega

theorem isSelector_of_crosses (clause : text.IsClause) (squares : Balanced '[' ']' text.bareChars)
    (crosses : (depthScanner ['(', '['] [')', ']'] endsSelector).Crosses 0 text.bareChars depth) :
    text.IsSelector := by
  refine ⟨clause, squares, ?_⟩
  intro front leads ends
  obtain ⟨shorter, rfl⟩ := List.getLast?_eq_some_iff.mp ends
  have above : ∀ front, front <+: text.bareChars → 0 ≤ level ['(', '['] [')', ']'] front := by
    intro front leads
    have parentheses := clause.parentheses.above front leads
    have squares := squares.above front leads
    rw [level_pair]
    omega
  have nested := level_ne_zero_of_crosses (by simp) above crosses leads rfl
  have flat : level ['('] [')'] [','] = 0 ∧ level ['['] [']'] [','] = 0 := ⟨rfl, rfl⟩
  rw [level_pair] at nested
  rw [level_append, level_append]
  omega

theorem not_endsAtRule_of_crosses {front : Text} (leads : front <+: text)
    (crosses : (depthScanner ['{'] ['}'] endsAtRule).Crosses 0 text depth) :
    ¬Text.EndsAtRule front := by
  rintro ⟨ends, closed⟩
  obtain ⟨last, final, found⟩ : ∃ last, front.getLast? = some last ∧ (last = ';' ∨ last = '}') := by
    rcases ends with semicolon | brace
    · exact ⟨';', semicolon, .inl rfl⟩
    · exact ⟨'}', brace, .inr rfl⟩
  obtain ⟨shorter, rfl⟩ := List.getLast?_eq_some_iff.mp final
  obtain ⟨_, crossed⟩ := exists_crosses_of_prefix leads crosses
  obtain ⟨reached, head, tail⟩ := Scanner.exists_crosses_of_append crossed
  have counted := level_of_crosses_atRule head
  have passes := (Scanner.crosses_cons_iff.mp tail).1
  have stops : endsAtRule reached last = true := by
    have flat : level ['{'] ['}'] [';'] = 0 ∧ level ['{'] ['}'] ['}'] = -1 := ⟨rfl, rfl⟩
    rw [level_append] at closed
    rw [endsAtRule_iff]
    rcases found with rfl | rfl
    · exact .inl ⟨rfl, by omega⟩
    · exact .inr ⟨rfl, by omega⟩
  cases stops.symm.trans passes

/-- An at-rule up to the character that ended the search. -/
theorem isAtRule_of_crosses {c : Char} (plain : Text.IsPlain (text ++ [c]))
    (starts : (text ++ [c]).head? = some '@') (quotes : Quoting.outside.after text = .outside)
    (crosses : (depthScanner ['{'] ['}'] endsAtRule).Crosses 0 text.bareChars depth)
    (ends : c = ';' ∧ depth = 0 ∨ c = '}' ∧ depth = 1) : Text.IsAtRule (text ++ [c]) := by
  have bare : Quoting.outside.bare c = true := by
    rcases ends with ⟨rfl, _⟩ | ⟨rfl, _⟩ <;> rfl
  have chars : Text.bareChars (text ++ [c]) = text.bareChars ++ [c] := by
    rw [Text.bareChars_append quotes]
    simp [Text.bareChars, Quoting.unquoted, bare]
  have closed : level ['{'] ['}'] (text.bareChars ++ [c]) = 0 := by
    have counted := level_of_crosses_atRule crosses
    have flat : level ['{'] ['}'] [';'] = 0 ∧ level ['{'] ['}'] ['}'] = -1 := ⟨rfl, rfl⟩
    rw [level_append]
    rcases ends with ⟨rfl, rfl⟩ | ⟨rfl, rfl⟩ <;> omega
  refine ⟨plain, starts, ?_, ?_, ?_, ?_⟩
  · intro front leads
    rw [chars] at leads
    rcases List.prefix_concat_iff.mp leads with rfl | shorter
    · omega
    · obtain ⟨reached, crossed⟩ := exists_crosses_of_prefix shorter crosses
      have counted := level_of_crosses_atRule crossed
      omega
  · intro last found
    obtain rfl : c = last := by simpa using found
    rwa [List.dropLast_concat, quotes]
  · rw [chars]
    refine ⟨?_, closed⟩
    rcases ends with ⟨rfl, _⟩ | ⟨rfl, _⟩ <;> simp
  · intro front leads early
    rw [chars] at leads ⊢
    rcases List.prefix_concat_iff.mp leads with rfl | shorter
    · rfl
    · exact absurd early (not_endsAtRule_of_crosses shorter crosses)

/-- An at-rule that the end of the text ends has no end of its own. -/
theorem not_ended_of_crosses
    (crosses : (depthScanner ['{'] ['}'] endsAtRule).Crosses 0 text.bareChars 0)
    (quotes : Quoting.outside.after text.trimEnd = .outside) :
    ¬(text.trimEnd.getLast? = some ';' ∨ text.trimEnd.getLast? = some '}') := by
  intro ends
  refine not_endsAtRule_of_crosses (Text.bareChars_trimEnd_prefix text) crosses ⟨?_, ?_⟩
  · -- the last character is no quote, so it stands outside quotes
    rcases ends with semicolon | brace
    · obtain ⟨body, whole⟩ := List.getLast?_eq_some_iff.mp semicolon
      rw [whole] at quotes ⊢
      rw [Text.bareChars_append (Quoting.outside_of_after (by simp [Quoting.isQuote]) quotes)]
      left
      exact List.getLast?_concat
    · obtain ⟨body, whole⟩ := List.getLast?_eq_some_iff.mp brace
      rw [whole] at quotes ⊢
      rw [Text.bareChars_append (Quoting.outside_of_after (by simp [Quoting.isQuote]) quotes)]
      right
      exact List.getLast?_concat
  · obtain ⟨blanks, whole, allBlank⟩ := Text.exists_trimEnd_append text
    have chars := Text.bareChars_append quotes blanks
    rw [whole, Text.bareChars_of_blank allBlank] at chars
    have counted := level_of_crosses_atRule crosses
    have flat : level ['{'] ['}'] blanks = 0 :=
      level_eq_zero (fun member => Text.ne_of_isBlank (allBlank _ member) rfl rfl)
        (fun member => Text.ne_of_isBlank (allBlank _ member) rfl rfl)
    rw [chars, level_append] at counted
    omega

end Passed

/-! Selectors -/

section Selectors

variable {text : Text} {deeper : Nat}

/-- Where every selector closes its parentheses, the searches that have passed a list of selectors
have passed each of them. -/
theorem crosses_pieces
    (crosses : (depthScanner ['('] [')'] endsStatement).Crosses 0 text.bareChars deeper)
    (balanced : ∀ piece ∈ selectorScanner.pieces .start text,
      Balanced '(' ')' (Text.bareChars piece)) :
    ∀ piece ∈ selectorScanner.pieces .start text,
      (∃ depth, (depthScanner ['('] [')'] endsStatement).Crosses 0 (Text.bareChars piece) depth) ∧
      ∃ depth, (depthScanner ['(', '['] [')', ']'] endsSelector).Crosses 0
        (Text.bareChars piece) depth := by
  induction size : text.length using Nat.strongRecOn generalizing text deeper with
  | ind n ih =>
      have scan := bareScan_selector text
      rw [Scanner.pieces_eq_run] at balanced ⊢
      generalize selectorScanner.run .start text = cut at scan balanced ⊢
      cases scan with
      | ended alone =>
          intro piece member
          obtain rfl := List.mem_singleton.mp member
          exact ⟨⟨_, crosses⟩, ⟨_, alone⟩⟩
      | @stopped before rest reached c whole quotes alone stops =>
          simp only [endsSelector, Bool.and_eq_true, beq_iff_eq] at stops
          obtain ⟨rfl, rfl⟩ := stops
          have chars : text.bareChars = before.bareChars ++ ',' :: rest.bareChars := by
            rw [whole, Text.bareChars_append quotes]
            rfl
          rw [chars] at crosses
          obtain ⟨middle, head, tail⟩ := Scanner.exists_crosses_of_append crosses
          -- the parentheses before the comma are closed, so the search starts anew behind it
          have closed := balanced before List.mem_cons_self
          have counted := depth_of_crosses (by simp)
            (fun front leads => by have := closed.above front leads; omega) head
          obtain rfl : middle = 0 := by
            rw [closed.closed] at counted
            omega
          have behind := (Scanner.crosses_cons_iff.mp tail).2
          have shorter : rest.length < n := by
            rw [← size, whole, List.length_append, List.length_cons]
            omega
          have later := ih rest.length shorter behind
            (fun piece member => balanced piece (List.mem_cons_of_mem before member)) rfl
          intro piece member
          rcases List.mem_cons.mp member with rfl | listed
          · exact ⟨⟨_, head⟩, ⟨_, alone⟩⟩
          · exact later piece listed

theorem balanced_of_trim (quotes : Quoting.outside.after text.trim = .outside)
    (balanced : Balanced '(' ')' text.trim.bareChars) : Balanced '(' ')' text.bareChars := by
  have neutral : ∀ {blanks : Text}, (∀ c ∈ blanks, isBlank c = true) → Balanced '(' ')' blanks :=
    fun allBlank => balanced_of_absent
      (fun member => Text.ne_of_isBlank (allBlank _ member) rfl rfl)
      (fun member => Text.ne_of_isBlank (allBlank _ member) rfl rfl)
  obtain ⟨before, left, blankBefore⟩ := Text.exists_append_trimStart text
  obtain ⟨behind, right, blankBehind⟩ := Text.exists_trimEnd_append text.trimStart
  have inner := Text.bareChars_append quotes behind
  rw [Text.trim, right, Text.bareChars_of_blank blankBehind] at inner
  have chars := Text.bareChars_blanks_append blankBefore text.trimStart
  rw [left, inner] at chars
  rw [chars]
  exact (neutral blankBefore).append (balanced.append (neutral blankBehind))

theorem isSelector_of_selectorList
    (crosses : (depthScanner ['('] [')'] endsStatement).Crosses 0 text.bareChars deeper)
    (contained : ∀ selector ∈ selectorList text, selector.IsContainedSelector) :
    ∀ selector ∈ selectorList text, selector.IsSelector := by
  have balanced : ∀ piece ∈ selectorScanner.pieces .start text,
      Balanced '(' ')' (Text.bareChars piece) := by
    intro piece member
    by_cases empty : Text.trim piece = []
    · exact balanced_of_trim (by rw [empty]; rfl) (by rw [empty]; decide)
    · have listed : Text.trim piece ∈ selectorList text := by
        simp only [selectorList, List.mem_filter, List.mem_map]
        exact ⟨⟨piece, member, rfl⟩, by simpa using empty⟩
      have fits := contained _ listed
      exact balanced_of_trim fits.quotes fits.parentheses
  intro selector member
  have fits := contained selector member
  simp only [selectorList, List.mem_filter, List.mem_map] at member
  obtain ⟨⟨piece, listed, rfl⟩, filled⟩ := member
  obtain ⟨⟨_, statement⟩, ⟨_, list⟩⟩ := crosses_pieces crosses balanced piece listed
  obtain ⟨_, passed⟩ := exists_crosses_trim rfl statement
  obtain ⟨_, single⟩ := exists_crosses_trim rfl list
  have clause := isClause_of_crosses fits.toIsContained fits.toIsUnbraced (by simpa using filled)
    (Text.trim_trimEnd (Text.trimStart_trimStart piece)) fits.noAtRule passed
  exact isSelector_of_crosses clause fits.squares single

end Selectors

/-! Statements -/

section Statements

variable {position : Nat} {text rest : Text}

theorem isAtRule_of_cut {content : Text}
    (cut : cutStatement position text.trimStart = .ok (.atRule content, rest))
    (contained : content.IsContained)
    (ends : content.getLast? = some ';' ∨ content.getLast? = some '}') : content.IsAtRule := by
  have cuts := cuts_of_cutStatement cut
  generalize text.trimStart = visible at cuts
  cases cuts with
  | atRule starts quotes crosses terminated =>
      exact isAtRule_of_crosses contained.plain starts quotes crosses terminated
  | lastAtRule crosses => exact absurd ends (not_ended_of_crosses crosses contained.quotes)

-- The head of a statement, without the blanks behind it.
theorem isClause_of_trimEnd {before tail : Text} {depth : Nat}
    (visible : Text.trimStart (before ++ tail) = before ++ tail)
    (starts : (before ++ tail).head? ≠ some '@')
    (crosses : (depthScanner ['('] [')'] endsStatement).Crosses 0 before.bareChars depth)
    (contained : before.trimEnd.IsContained) (unbraced : before.trimEnd.IsUnbraced)
    (filled : before.trimEnd ≠ []) : before.trimEnd.IsClause := by
  obtain ⟨_, passed⟩ := exists_crosses_of_prefix (Text.bareChars_trimEnd_prefix before) crosses
  have noAtRule : before.trimEnd.head? ≠ some '@' := by
    obtain ⟨blanks, whole, _⟩ := Text.exists_trimEnd_append before
    rw [← whole, List.append_assoc, List.head?_append_of_ne_nil _ filled] at starts
    exact starts
  exact isClause_of_crosses contained unbraced filled
    (Text.trim_trimEnd (Text.trimStart_of_append visible)) noAtRule passed

theorem isClause_of_cut {content : Text}
    (cut : cutStatement position text.trimStart = .ok (.rule content, rest))
    (contained : content.IsContained) (unbraced : content.IsUnbraced) (filled : content ≠ []) :
    content.IsClause := by
  have cuts := cuts_of_cutStatement cut
  have visible := Text.trimStart_trimStart text
  generalize text.trimStart = trimmed at cuts visible
  cases cuts with
  | rule starts quotes crosses =>
      exact isClause_of_trimEnd visible starts crosses contained unbraced filled
  | lastRule starts crosses =>
      rw [← List.append_nil trimmed] at visible starts
      exact isClause_of_trimEnd visible starts crosses contained unbraced filled

theorem isSelector_of_cut {inner : Text} {selectors : List Text} {start : Nat}
    (cut : cutStatement position text.trimStart = .ok (.block selectors start inner, rest))
    (contained : ∀ selector ∈ selectors, selector.IsContainedSelector) :
    ∀ selector ∈ selectors, selector.IsSelector := by
  have cuts := cuts_of_cutStatement cut
  generalize text.trimStart = visible at cuts
  cases cuts with
  | block quotes crosses closes => exact isSelector_of_selectorList crosses contained

end Statements

/-- A tree that was read and is self-contained is well formed. -/
theorem wellFormed_of_reads {text : Text} {nodes : List Node} (reads : Reads text nodes)
    (contained : ∀ node ∈ nodes, node.SelfContained) : ∀ node ∈ nodes, node.WellFormed := by
  induction reads with
  | blank ended => simp
  | atRule cut _ ih =>
      obtain ⟨first, others⟩ := List.forall_mem_cons.mp contained
      cases first with
      | atRule fits ends =>
          exact List.forall_mem_cons.mpr ⟨.atRule (isAtRule_of_cut cut fits ends), ih others⟩
  | rule cut _ ih =>
      obtain ⟨first, others⟩ := List.forall_mem_cons.mp contained
      cases first with
      | rule fits unbraced filled =>
          exact List.forall_mem_cons.mpr
            ⟨.rule (isClause_of_cut cut fits unbraced filled), ih others⟩
  | block cut _ _ ihInner ih =>
      obtain ⟨first, others⟩ := List.forall_mem_cons.mp contained
      cases first with
      | ruleSet fits inner =>
          exact List.forall_mem_cons.mpr
            ⟨.ruleSet (isSelector_of_cut cut fits) (ihInner inner), ih others⟩

end Node

end Stylesheet

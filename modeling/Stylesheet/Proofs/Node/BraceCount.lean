import Stylesheet.Proofs.Node.Cutting
import Stylesheet.Proofs.Node.Miscount
import Stylesheet.Proofs.Node.Reading

/-!
Reading and counting braces. Where no parenthesis opens outside quotes, one count of the braces
outside quotes, up and down over the whole text, tells whether the text can be read and what is
wrong with it if not. The reader cuts off one statement after another, each of which leaves the
count at zero, so what is wrong with the text is wrong with the first statement that does not.
-/

namespace Stylesheet

namespace Node

/-- What a cut comes to, told from the braces of the text and the blanks before it. -/
inductive Counted (position : Nat) (blanks text : Text) :
    Except BraceError (Statement × Text) → Prop where
  | failed {error : BraceError} (wrong : Miscounted (blanks ++ text) error) :
      Counted position blanks text (.error (error.moved position))
  /-- A statement that the end of the text ends. -/
  | last {statement : Statement} (plain : statement.inner = [])
      (balanced : Balanced '{' '}' text.bareChars) :
      Counted position blanks text (.ok (statement, []))
  | passed {statement : Statement} {done rest : Text} (whole : text = done ++ rest)
      (finished : Finished (blanks ++ done)) (inner : Balanced '{' '}' statement.inner.bareChars)
      (flat : '(' ∉ text.bareChars → '(' ∉ statement.inner.bareChars) :
      Counted position blanks text (.ok (statement, rest))

section Cuts

variable {position : Nat} {blanks text : Text}

theorem balanced_blanks_append (allBlank : ∀ c ∈ blanks, isBlank c = true)
    (balanced : Balanced '{' '}' text.bareChars) : Balanced '{' '}' (blanks ++ text).bareChars := by
  rw [Text.bareChars_append (Text.after_of_blank allBlank)]
  exact (balanced_of_inert (Text.inert_of_blank allBlank)).append balanced

theorem mismatched_behind_blanks (allBlank : ∀ c ∈ blanks, isBlank c = true) {before : Text}
    (quotes : Quoting.outside.after before = .outside)
    (balanced : Balanced '{' '}' before.bareChars) (rest : Text) :
    Miscounted (blanks ++ (before ++ '}' :: rest)) ⟨.mismatched, blanks.length + before.length⟩ := by
  have early : Miscounted (blanks ++ before ++ '}' :: rest)
      ⟨.mismatched, (blanks ++ before).length⟩ :=
    .mismatched (by rw [Quoting.after_append, Text.after_of_blank allBlank, quotes])
      (balanced_blanks_append allBlank balanced)
  rwa [List.append_assoc, List.length_append] at early

theorem unclosed_behind_blanks (allBlank : ∀ c ∈ blanks, isBlank c = true) {head rest : Text}
    (quotes : Quoting.outside.after head = .outside) (inert : head.Inert)
    (unclosed : ∀ part, part <+: rest.bareChars → 0 ≤ level ['{'] ['}'] part) :
    Miscounted (blanks ++ (head ++ '{' :: rest)) (unclosedError [] (blanks ++ head)) := by
  have outside := Text.after_of_blank allBlank
  have opens : LeavesOpen [] (blanks ++ head) rest := by
    refine ⟨.inl rfl, ?_, ?_, ?_, unclosed⟩
    · intro c member
      rw [Text.bareChars_append outside] at member
      rcases List.mem_append.mp member with blank | later
      · exact Text.inert_of_blank allBlank c blank
      · exact inert c later
    · rw [List.nil_append, Quoting.after_append, outside, quotes]
    · rw [List.nil_append]
      exact balanced_blanks_append allBlank (balanced_of_inert inert)
  have wrong := Miscounted.unclosed opens
  rwa [List.nil_append, List.append_assoc] at wrong

theorem finished_behind_blanks (allBlank : ∀ c ∈ blanks, isBlank c = true) {body : Text} {c : Char}
    (quotes : Quoting.outside.after body = .outside) (ends : c ∈ [';', '}'])
    (balanced : Balanced '{' '}' (body.bareChars ++ [c])) : Finished (blanks ++ (body ++ [c])) := by
  refine ⟨.inr ⟨blanks ++ body, c, by simp, ?_, ends⟩, balanced_blanks_append allBlank ?_⟩
  · rw [Quoting.after_append, Text.after_of_blank allBlank, quotes]
  · have single : Text.bareChars [c] = [c] := by
      simp only [List.mem_cons, List.not_mem_nil, or_false] at ends
      rcases ends with rfl | rfl <;> rfl
    rwa [Text.bareChars_append quotes, single]

theorem balanced_nil : Balanced '{' '}' (Text.bareChars []) := by decide

theorem not_mem_bareChars_nil : '(' ∉ Text.bareChars [] := by decide

/-! What is reported of a statement that leaves a brace open -/

theorem unclosedError_of_atRule (allBlank : ∀ c ∈ blanks, isBlank c = true) {head rest : Text}
    (starts : (head ++ '{' :: rest).head? = some '@') :
    unclosedError [] (blanks ++ head) = ⟨.unclosedAtRule, blanks.length⟩ := by
  cases head with
  | nil => simp at starts
  | cons c head =>
      obtain rfl : c = '@' := by simpa using starts
      have visible : Text.trimStart (blanks ++ '@' :: head) = '@' :: head :=
        Text.trimStart_append_of_blank allBlank ('@' :: head)
      simp [unclosedError, visible]

theorem unclosedError_of_rule (allBlank : ∀ c ∈ blanks, isBlank c = true) {head rest : Text}
    (starts : (head ++ '{' :: rest).head? ≠ some '@')
    (visible : (head ++ '{' :: rest).trimStart = head ++ '{' :: rest) :
    unclosedError [] (blanks ++ head) = ⟨.unclosedBlock, blanks.length + head.length⟩ := by
  have noAtRule : (blanks ++ head).trimStart.head? ≠ some '@' := by
    rw [Text.trimStart_append_of_blank allBlank, Text.trimStart_of_append visible]
    cases head with
    | nil => simp
    | cons c head => simpa using starts
  simp [unclosedError, noAtRule]

/-! Cuts -/

theorem counted_cutAtRule (allBlank : ∀ c ∈ blanks, isBlank c = true)
    (starts : text.head? = some '@') :
    Counted position blanks text (cutAtRule (position + blanks.length) text) := by
  have scan := bareScan_atRule text
  unfold cutAtRule
  generalize atRuleScanner.run .start text = cut at scan
  cases scan with
  | @ended state crosses =>
      rcases atRule_head crosses with ⟨inert, zero⟩ | ⟨front, behind, chars, inert, inside⟩
      · simp only [zero, if_true]
        exact .last rfl (balanced_of_inert inert)
      · have positive := pos_of_crosses rfl Nat.one_pos inside
        obtain ⟨head, rest, rfl, rfl, quotes, rfl⟩ := exists_of_unquoted chars
        have wrong := unclosed_behind_blanks allBlank quotes inert
          (level_pos_of_crosses rfl inside)
        rw [unclosedError_of_atRule allBlank starts] at wrong
        simp only [Nat.ne_of_gt positive, if_false]
        exact .failed wrong
  | @stopped before rest reached c whole quotes crosses stops =>
      subst whole
      rcases atRule_head crosses with ⟨inert, zero⟩ | ⟨front, behind, chars, inert, inside⟩
      · have flat := balanced_of_inert inert
        rcases endsAtRule_iff.mp stops with ⟨rfl, _⟩ | ⟨rfl, _⟩
        · have finished := finished_behind_blanks allBlank quotes (c := ';') (by decide)
            (flat.append (balanced_of_absent (by decide) (by decide)))
          exact .passed (by simp) finished balanced_nil fun _ => not_mem_bareChars_nil
        · have wrong := mismatched_behind_blanks allBlank quotes flat rest
          simp only [zero, Nat.add_assoc]
          exact .failed wrong
      · have positive := pos_of_crosses rfl Nat.one_pos inside
        rcases endsAtRule_iff.mp stops with ⟨rfl, zero⟩ | ⟨rfl, bounded⟩
        · omega
        · obtain one : reached = 1 := by omega
          rw [one] at inside
          have closed : Balanced '{' '}' (before.bareChars ++ ['}']) := by
            rw [chars, List.append_assoc, List.cons_append]
            exact (balanced_of_inert inert).append (balanced_of_crosses rfl inside).wrap
          have finished := finished_behind_blanks allBlank quotes (by decide) closed
          simp only [one]
          exact .passed (by simp) finished balanced_nil fun _ => not_mem_bareChars_nil

theorem counted_cutBlock (allBlank : ∀ c ∈ blanks, isBlank c = true) {head rest : Text}
    (quotes : Quoting.outside.after head = .outside) (inert : head.Inert)
    (starts : (head ++ '{' :: rest).head? ≠ some '@')
    (visible : (head ++ '{' :: rest).trimStart = head ++ '{' :: rest) (selectors : List Text) :
    Counted position blanks (head ++ '{' :: rest)
      (cutBlock (position + blanks.length + head.length) selectors rest) := by
  have scan := bareScan_block rest
  unfold cutBlock
  generalize blockScanner.run ⟨.outside, 1⟩ rest = cut at scan
  cases scan with
  | @ended state crosses =>
      have wrong := unclosed_behind_blanks allBlank quotes inert (level_pos_of_crosses rfl crosses)
      rw [unclosedError_of_rule allBlank starts visible] at wrong
      simp only [Nat.add_assoc]
      exact .failed wrong
  | @stopped inner rest reached c whole closes crosses stops =>
      simp only [endsBlock, Bool.and_eq_true, beq_iff_eq] at stops
      obtain ⟨one, rfl⟩ := stops
      rw [one] at crosses
      subst whole
      have balanced := balanced_of_crosses rfl crosses
      have chars : Text.bareChars (head ++ '{' :: inner) = head.bareChars ++ '{' :: inner.bareChars :=
        Text.bareChars_append quotes _
      have after : Quoting.outside.after (head ++ '{' :: inner) = .outside := by
        rw [Quoting.after_append, quotes]
        exact closes
      have closed : Balanced '{' '}' (Text.bareChars (head ++ '{' :: inner) ++ ['}']) := by
        rw [chars, List.append_assoc]
        exact (balanced_of_inert inert).append balanced.wrap
      have finished := finished_behind_blanks allBlank after (by decide) closed
      refine .passed (by simp) finished balanced fun flat member => flat ?_
      have leads := Text.bareChars_prefix (head ++ '{' :: inner) ('}' :: rest)
      rw [List.append_assoc, List.cons_append] at leads
      apply leads.subset
      rw [chars]
      exact List.mem_append_right _ (List.mem_cons_of_mem '{' member)

theorem counted_cutRule (allBlank : ∀ c ∈ blanks, isBlank c = true)
    (starts : text.head? ≠ some '@') (visible : text.trimStart = text) (flat : '(' ∉ text.bareChars) :
    Counted position blanks text (cutRule (position + blanks.length) text) := by
  have scan := bareScan_statement text
  unfold cutRule
  generalize statementScanner.run .start text = cut at scan
  cases scan with
  | @ended state crosses =>
      exact .last rfl (balanced_of_inert (inert_of_crosses crosses flat))
  | @stopped before rest reached c whole quotes crosses stops =>
      subst whole
      have inert : before.Inert := inert_of_crosses crosses fun member =>
        flat ((Text.bareChars_prefix _ _).subset member)
      simp only [endsStatement, Bool.and_eq_true, List.contains_iff_mem, List.mem_cons,
        List.not_mem_nil, or_false] at stops
      rcases stops.2 with rfl | rfl | rfl
      · have finished := finished_behind_blanks allBlank quotes (c := ';') (by decide)
          ((balanced_of_inert inert).append (balanced_of_absent (by decide) (by decide)))
        exact .passed (by simp) finished balanced_nil fun _ => not_mem_bareChars_nil
      · exact counted_cutBlock allBlank quotes inert starts visible (selectorList before)
      · have wrong := mismatched_behind_blanks allBlank quotes (balanced_of_inert inert) rest
        simp only [Nat.add_assoc]
        exact .failed wrong

theorem counted_cutStatement (allBlank : ∀ c ∈ blanks, isBlank c = true)
    (visible : text.trimStart = text) (flat : '(' ∉ text.bareChars) :
    Counted position blanks text (cutStatement (position + blanks.length) text) := by
  unfold cutStatement
  split
  · next starts => exact counted_cutAtRule allBlank starts
  · next starts => exact counted_cutRule allBlank starts visible flat

end Cuts

/-! From statement to statement -/

section Steps

variable {position : Nat} {blanks text rest : Text} {statement : Statement}

theorem readFrom_of_failed {error : BraceError} (allBlank : ∀ c ∈ blanks, isBlank c = true)
    (visible : text.trimStart = text) (filled : text ≠ [])
    (cut : cutStatement (position + blanks.length) text = .error error) :
    readFrom position (blanks ++ text) = .error error := by
  have trimmed : (blanks ++ text).trimStart = text := by
    rw [Text.trimStart_append_of_blank allBlank, visible]
  have offset : (blanks ++ text).length - text.length = blanks.length := by simp
  rw [readFrom_of_filled position (trimmed.symm ▸ filled)]
  simp only [trimmed, offset, cut]

/-- Where a statement could be cut off and what is inside it can be read, reading goes on behind
it. -/
theorem readFrom_of_cut (allBlank : ∀ c ∈ blanks, isBlank c = true)
    (visible : text.trimStart = text) (filled : text ≠ [])
    (cut : cutStatement (position + blanks.length) text = .ok (statement, rest))
    (inner : ∀ start, ∃ contents, readFrom start statement.inner = .ok contents) :
    ∃ node, readFrom position (blanks ++ text) =
      (readFrom (position + blanks.length + (text.length - rest.length)) rest).map (node :: ·) := by
  have trimmed : (blanks ++ text).trimStart = text := by
    rw [Text.trimStart_append_of_blank allBlank, visible]
  have offset : (blanks ++ text).length - text.length = blanks.length := by simp
  have known : ∃ node, statement.node = .ok node := by
    cases statement with
    | atRule content => exact ⟨.atRule content, rfl⟩
    | rule content => exact ⟨.rule content, rfl⟩
    | block selectors start inside =>
        obtain ⟨contents, read⟩ := inner start
        exact ⟨.ruleSet selectors contents, congrArg (Except.map (Node.ruleSet selectors)) read⟩
  obtain ⟨node, stands⟩ := known
  refine ⟨node, ?_⟩
  rw [readFrom_of_statement (trimmed.symm ▸ filled) (by rw [trimmed, offset]; exact cut), stands,
    trimmed, offset]
  rfl

end Steps

/-- How a reading ends, told from the braces of the text. -/
inductive Outcome (position : Nat) (text : Text) : Except BraceError (List Node) → Prop where
  | accepted {nodes : List Node} (balanced : Balanced '{' '}' text.bareChars) :
      Outcome position text (.ok nodes)
  | rejected {error : BraceError} (wrong : Miscounted text error) :
      Outcome position text (.error (error.moved position))

/-- The outcome behind a finished part is the outcome of the whole. -/
theorem Outcome.behind {position : Nat} {done rest : Text} {result : Except BraceError (List Node)}
    (finished : Finished done) (outcome : Outcome (position + done.length) rest result)
    (node : Node) : Outcome position (done ++ rest) (result.map (node :: ·)) := by
  cases outcome with
  | accepted balanced =>
      refine .accepted ?_
      rw [Text.bareChars_append finished.ended.quotes]
      exact finished.balanced.append balanced
  | @rejected error wrong =>
      have whole := wrong.behind finished
      have same : error.moved (position + done.length) =
          (error.moved done.length).moved position := by
        simp [BraceError.moved, Nat.add_assoc]
      rw [Except.map, same]
      exact .rejected whole

theorem Outcome.ok_of_balanced {position : Nat} {text : Text}
    {result : Except BraceError (List Node)} (outcome : Outcome position text result)
    (balanced : Balanced '{' '}' text.bareChars) : ∃ nodes, result = .ok nodes := by
  cases outcome with
  | @accepted nodes _ => exact ⟨nodes, rfl⟩
  | rejected wrong => exact absurd balanced wrong.not_balanced

theorem outcome_readFrom (position : Nat) (text : Text) (flat : '(' ∉ text.bareChars) :
    Outcome position text (readFrom position text) := by
  induction size : text.length using Nat.strongRecOn generalizing position text with
  | ind n ih =>
      obtain ⟨blanks, whole, allBlank⟩ := Text.exists_append_trimStart text
      generalize trimmed : text.trimStart = visible at whole
      have kept : visible.trimStart = visible := by
        rw [← trimmed, Text.trimStart_trimStart]
      subst whole
      have outside := Text.after_of_blank allBlank
      by_cases filled : visible = []
      · rw [readFrom_of_blank position (trimmed.trans filled)]
        subst filled
        exact .accepted (balanced_blanks_append allBlank balanced_nil)
      have plain : '(' ∉ visible.bareChars := by
        rw [Text.bareChars_append outside] at flat
        exact fun member => flat (List.mem_append_right _ member)
      have counted : Counted position blanks visible
          (cutStatement (position + blanks.length) visible) :=
        counted_cutStatement allBlank kept plain
      generalize cut : cutStatement (position + blanks.length) visible = result at counted
      cases counted with
      | @failed error wrong =>
          rw [readFrom_of_failed allBlank kept filled cut]
          exact .rejected wrong
      | @last statement empty balanced =>
          have nothing : ∀ start, readFrom start [] = .ok [] :=
            fun start => readFrom_of_blank start rfl
          obtain ⟨node, read⟩ := readFrom_of_cut allBlank kept filled cut
            fun start => ⟨[], empty ▸ nothing start⟩
          rw [read, nothing]
          exact .accepted (balanced_blanks_append allBlank balanced)
      | @passed statement done rest whole finished inner flatInner =>
          have shorter := length_cutStatement cut filled
          have bound : visible.length ≤ n := by
            rw [List.length_append] at size
            omega
          obtain ⟨node, read⟩ := readFrom_of_cut allBlank kept filled cut fun start =>
            (ih _ (by omega) start statement.inner (flatInner plain) rfl).ok_of_balanced inner
          subst whole
          have quotes : Quoting.outside.after done = .outside := by
            have after := finished.ended.quotes
            rwa [Quoting.after_append, outside] at after
          have flatRest : '(' ∉ rest.bareChars := by
            rw [Text.bareChars_append quotes] at plain
            exact fun member => plain (List.mem_append_right _ member)
          have reached : position + blanks.length + ((done ++ rest).length - rest.length) =
              position + (blanks ++ done).length := by
            simp only [List.length_append]
            omega
          rw [read, reached, ← List.append_assoc]
          exact (ih _ (by omega) _ rest flatRest rfl).behind finished node

/-- Where no parenthesis opens outside quotes, a stylesheet can be read exactly when one count of
its braces comes out even, and what is reported otherwise is what the count finds. -/
theorem read_counts_braces (text : Text) (flat : '(' ∉ text.withoutComments.bareChars) :
    ((∃ nodes, read text = .ok nodes) ↔ Balanced '{' '}' text.withoutComments.bareChars) ∧
      ∀ error, read text = .error error ↔ Miscounted text.withoutComments error := by
  have outcome := outcome_readFrom 0 text.withoutComments flat
  rw [read]
  generalize readFrom 0 text.withoutComments = result at outcome
  cases outcome with
  | @accepted nodes balanced =>
      refine ⟨⟨fun _ => balanced, fun _ => ⟨nodes, rfl⟩⟩, ?_⟩
      intro error
      constructor
      · rintro ⟨⟩
      · intro wrong
        exact absurd balanced wrong.not_balanced
  | @rejected error wrong =>
      have here : error.moved 0 = error := by simp [BraceError.moved]
      rw [here]
      refine ⟨⟨?_, ?_⟩, ?_⟩
      · rintro ⟨nodes, ⟨⟩⟩
      · intro balanced
        exact absurd balanced wrong.not_balanced
      · intro other
        constructor
        · rintro ⟨⟩
          exact wrong
        · intro again
          rw [wrong.unique again]

/-- The braces in the comment and in the quotes do not count, and the last block is never closed. -/
def unclosedText : Text := "/*\x7b*/a\x7bb:'\x7d'\x7d @m n\x7bc\x7bd\x7d".toList

theorem read_counts_braces_unclosedText : '(' ∉ unclosedText.withoutComments.bareChars ∧
    read unclosedText = .error ⟨.unclosedAtRule, 9⟩ := by
  have flat : '(' ∉ unclosedText.withoutComments.bareChars := by decide +kernel
  have opens : LeavesOpen "a\x7bb:'\x7d'\x7d".toList " @m n".toList "c\x7bd\x7d".toList := by
    constructor
    case ended =>
      exact .inr ⟨"a\x7bb:'\x7d'".toList, '}', by decide +kernel, by decide +kernel, by decide⟩
    all_goals decide +kernel
  have whole : unclosedText.withoutComments =
      "a\x7bb:'\x7d'\x7d".toList ++ " @m n".toList ++ '{' :: "c\x7bd\x7d".toList := by
    decide +kernel
  have reported : unclosedError "a\x7bb:'\x7d'\x7d".toList " @m n".toList =
      ⟨.unclosedAtRule, 9⟩ := by
    decide +kernel
  refine ⟨flat, ((read_counts_braces unclosedText flat).2 _).mpr ?_⟩
  rw [whole, ← reported]
  exact .unclosed opens

end Node

end Stylesheet

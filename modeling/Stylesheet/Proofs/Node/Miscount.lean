import Stylesheet.Proofs.Node.BareText

/-!
Faults in the count of braces. One count of the braces outside quotes, up and down over a whole
text, goes wrong in one place at most: where it first falls below zero, or at the last brace that
opens a block while none is open and is never closed.
-/

namespace Stylesheet

namespace Text

/-- The text is empty or ends with a statement: its last character is a semicolon or a closing brace
outside quotes. -/
def EndsStatement (text : Text) : Prop :=
  text = [] ∨ ∃ body last, text = body ++ [last] ∧ Quoting.outside.after body = .outside ∧
    last ∈ [';', '}']

/-- Outside quotes nothing ends a statement or opens a block. -/
def Inert (text : Text) : Prop := ∀ c ∈ text.bareChars, c ∉ [';', '{', '}']

instance (text : Text) : Decidable text.Inert :=
  decidable_of_iff (text.bareChars.all fun c => decide (c ∉ [';', '{', '}']))
    (by simp only [List.all_eq_true, decide_eq_true_eq, Inert])

end Text

/-- The opening brace between `done ++ head` and `rest` is never closed. No block is open before it,
and `head` is the statement up to the brace. -/
structure LeavesOpen (done head rest : Text) : Prop where
  ended : done.EndsStatement
  inert : head.Inert
  quotes : Quoting.outside.after (done ++ head) = .outside
  balanced : Balanced '{' '}' (done ++ head).bareChars
  unclosed : ∀ part, part <+: rest.bareChars → 0 ≤ level ['{'] ['}'] part

/-- What is reported of an opening brace that is never closed: its own place, or the place where the
statement starts if that is an at-rule. -/
def unclosedError (done head : Text) : BraceError :=
  if head.trimStart.head? = some '@' then
    ⟨.unclosedAtRule, done.length + (head.length - head.trimStart.length)⟩
  else ⟨.unclosedBlock, done.length + head.length⟩

/-- What one count of the braces outside quotes finds wrong with a text. -/
inductive Miscounted : Text → BraceError → Prop where
  | mismatched {front rest : Text} (quotes : Quoting.outside.after front = .outside)
      (balanced : Balanced '{' '}' front.bareChars) :
      Miscounted (front ++ '}' :: rest) ⟨.mismatched, front.length⟩
  | unclosed {done head rest : Text} (opens : LeavesOpen done head rest) :
      Miscounted (done ++ head ++ '{' :: rest) (unclosedError done head)

/-! Balanced texts -/

section Balance

variable {text : Text}

theorem balanced_of_inert (inert : ∀ c ∈ text, c ∉ [';', '{', '}']) : Balanced '{' '}' text :=
  balanced_of_absent (fun member => inert _ member (by decide))
    (fun member => inert _ member (by decide))

-- A balanced text between braces.
theorem Balanced.wrap (inner : Balanced '{' '}' text) : Balanced '{' '}' ('{' :: text ++ ['}']) := by
  have up : level ['{'] ['}'] ['{'] = 1 := rfl
  have down : level ['{'] ['}'] ['}'] = -1 := rfl
  refine ⟨?_, ?_⟩
  · intro front leads
    rcases List.prefix_concat_iff.mp leads with rfl | short
    · rw [level_append, level_cons, inner.closed]
      omega
    · rcases List.prefix_cons_iff.mp short with rfl | ⟨part, rfl, within⟩
      · exact Int.le_refl 0
      · have above := inner.above part within
        rw [level_cons]
        omega
  · rw [level_append, level_cons, inner.closed]
    omega

end Balance

namespace Text

variable {text : Text}

theorem inert_of_blank (allBlank : ∀ c ∈ text, isBlank c = true) : text.Inert := by
  intro c member marks
  rw [bareChars_of_blank allBlank] at member
  have blank := allBlank c member
  simp only [List.mem_cons, List.not_mem_nil, or_false] at marks
  rcases marks with rfl | rfl | rfl <;> cases blank

theorem EndsStatement.quotes (ended : text.EndsStatement) :
    Quoting.outside.after text = .outside := by
  rcases ended with rfl | ⟨body, last, rfl, quotes, ends⟩
  · rfl
  · rw [Quoting.after_append, quotes]
    simp only [List.mem_cons, List.not_mem_nil, or_false] at ends
    rcases ends with rfl | rfl <;> rfl

theorem EndsStatement.append {left right : Text} (first : left.EndsStatement)
    (second : right.EndsStatement) : (left ++ right).EndsStatement := by
  rcases second with rfl | ⟨body, last, rfl, quotes, ends⟩
  · rwa [List.append_nil]
  · refine .inr ⟨left ++ body, last, by simp, ?_, ends⟩
    rw [Quoting.after_append, first.quotes, quotes]

end Text

def BraceError.moved (offset : Nat) (error : BraceError) : BraceError :=
  { error with position := offset + error.position }

/-- A part of a text that the reader is done with. -/
structure Finished (done : Text) : Prop where
  ended : done.EndsStatement
  balanced : Balanced '{' '}' done.bareChars

/-- What is wrong behind a finished part is wrong with the whole text, in the same place. -/
theorem Miscounted.behind {done text : Text} {error : BraceError} (finished : Finished done)
    (wrong : Miscounted text error) : Miscounted (done ++ text) (error.moved done.length) := by
  have quotes := finished.ended.quotes
  cases wrong with
  | @mismatched front rest closed balanced =>
      have early : Miscounted (done ++ front ++ '}' :: rest) ⟨.mismatched, (done ++ front).length⟩ :=
        .mismatched (by rw [Quoting.after_append, quotes, closed])
          (by rw [Text.bareChars_append quotes]; exact finished.balanced.append balanced)
      rw [List.append_assoc, List.length_append] at early
      exact early
  | @unclosed before head rest opens =>
      have later : Miscounted (done ++ before ++ head ++ '{' :: rest)
          (unclosedError (done ++ before) head) := by
        refine .unclosed ⟨finished.ended.append opens.ended, opens.inert, ?_, ?_, opens.unclosed⟩
        · rw [List.append_assoc, Quoting.after_append, quotes, opens.quotes]
        · rw [List.append_assoc, Text.bareChars_append quotes]
          exact finished.balanced.append opens.balanced
      have moved : unclosedError (done ++ before) head =
          (unclosedError before head).moved done.length := by
        unfold unclosedError
        split <;> simp [BraceError.moved, Nat.add_assoc]
      rw [moved] at later
      simpa using later

/-! One fault at most -/

/-- The character between `front` and `rest` breaks the count for good. -/
structure Breaks (front : Text) (c : Char) (rest : Text) : Prop where
  balanced : Balanced '{' '}' front.bareChars
  lasting : ∀ more, more <+: rest → ¬Balanced '{' '}' (front ++ c :: more).bareChars

theorem Breaks.eq {front other rest later : Text} {c d : Char} (first : Breaks front c rest)
    (second : Breaks other d later) (same : front ++ c :: rest = other ++ d :: later) :
    front = other ∧ c = d := by
  rcases List.append_eq_append_iff.mp same with ⟨more, rfl, tail⟩ | ⟨more, rfl, tail⟩
  · cases more with
    | nil => exact ⟨by simp, (List.cons.inj tail).1⟩
    | cons e more =>
        obtain ⟨rfl, rfl⟩ := List.cons.inj tail
        exact absurd second.balanced (first.lasting more (List.prefix_append _ _))
  · cases more with
    | nil => exact ⟨by simp, (List.cons.inj tail).1.symm⟩
    | cons e more =>
        obtain ⟨rfl, rfl⟩ := List.cons.inj tail
        exact absurd first.balanced (second.lasting more (List.prefix_append _ _))

section Faults

variable {front rest text : Text} {error : BraceError}

theorem breaks_of_closing (quotes : Quoting.outside.after front = .outside)
    (balanced : Balanced '{' '}' front.bareChars) (rest : Text) : Breaks front '}' rest := by
  refine ⟨balanced, ?_⟩
  intro (more : Text) _ whole
  have chars : Text.bareChars (front ++ '}' :: more) = front.bareChars ++ '}' :: more.bareChars :=
    Text.bareChars_append quotes _
  have below := whole.above (front.bareChars ++ ['}']) ⟨more.bareChars, by simp [chars]⟩
  rw [level_append, balanced.closed] at below
  have down : level ['{'] ['}'] ['}'] = -1 := rfl
  omega

theorem breaks_of_opening (quotes : Quoting.outside.after front = .outside)
    (balanced : Balanced '{' '}' front.bareChars)
    (unclosed : ∀ part, part <+: rest.bareChars → 0 ≤ level ['{'] ['}'] part) :
    Breaks front '{' rest := by
  refine ⟨balanced, ?_⟩
  rintro (more : Text) ⟨behind, rfl⟩ whole
  have chars : Text.bareChars (front ++ '{' :: more) = front.bareChars ++ '{' :: more.bareChars :=
    Text.bareChars_append quotes _
  have above := unclosed more.bareChars (Text.bareChars_prefix more behind)
  have closed := whole.closed
  rw [chars, level_append, level_cons, balanced.closed] at closed
  have up : level ['{'] ['}'] ['{'] = 1 := rfl
  omega

-- A statement does not end inside a text in which nothing ends one.
theorem eq_nil_of_inert {done part tail : Text} (quotes : Quoting.outside.after done = .outside)
    (ended : Text.EndsStatement (done ++ part)) (inert : Text.Inert (part ++ tail)) : part = [] := by
  obtain rfl | ⟨body, last, rfl⟩ := List.eq_nil_or_concat' part
  · rfl
  rcases ended with empty | ⟨before, mark, whole, outside, ends⟩
  · simp at empty
  · rw [← List.append_assoc] at whole
    obtain ⟨rfl, single⟩ := List.append_inj' whole rfl
    obtain rfl := List.singleton_inj.mp single
    rw [Quoting.after_append, quotes] at outside
    have shown : last ∈ Text.bareChars (body ++ [last] ++ tail) := by
      rw [List.append_assoc, Text.bareChars_append outside]
      apply List.mem_append_right
      simp only [List.mem_cons, List.not_mem_nil, or_false] at ends
      rcases ends with rfl | rfl <;> exact List.mem_cons_self
    have other := inert last shown
    simp only [List.mem_cons, List.not_mem_nil, or_false] at ends other
    tauto

/-- Where the statement before an opening brace starts is known from the text. -/
theorem head_eq {done head before tail : Text} (ended : done.EndsStatement) (inert : head.Inert)
    (earlier : before.EndsStatement) (plain : tail.Inert) (same : done ++ head = before ++ tail) :
    done = before ∧ head = tail := by
  rcases List.append_eq_append_iff.mp same with ⟨part, rfl, rfl⟩ | ⟨part, rfl, rfl⟩
  · obtain rfl := eq_nil_of_inert ended.quotes earlier inert
    exact ⟨by simp, rfl⟩
  · obtain rfl := eq_nil_of_inert earlier.quotes ended plain
    exact ⟨by simp, rfl⟩

theorem Miscounted.breaks (wrong : Miscounted text error) :
    (∃ front rest, text = front ++ '}' :: rest ∧ Breaks front '}' rest ∧
        error = ⟨.mismatched, front.length⟩) ∨
      ∃ done head rest, text = done ++ head ++ '{' :: rest ∧ Breaks (done ++ head) '{' rest ∧
        done.EndsStatement ∧ head.Inert ∧ error = unclosedError done head := by
  cases wrong with
  | @mismatched front rest quotes balanced =>
      exact .inl ⟨front, rest, rfl, breaks_of_closing quotes balanced rest, rfl⟩
  | @unclosed done head rest opens =>
      exact .inr ⟨done, head, rest, rfl,
        breaks_of_opening opens.quotes opens.balanced opens.unclosed, opens.ended, opens.inert, rfl⟩

theorem Miscounted.not_balanced (wrong : Miscounted text error) :
    ¬Balanced '{' '}' text.bareChars := by
  rcases wrong.breaks with ⟨front, rest, rfl, breaks, _⟩ | ⟨done, head, rest, rfl, breaks, _⟩
  · exact breaks.lasting rest (List.prefix_refl rest)
  · exact breaks.lasting rest (List.prefix_refl rest)

theorem Miscounted.unique {other : BraceError} (wrong : Miscounted text error)
    (again : Miscounted text other) : error = other := by
  rcases wrong.breaks with
    ⟨front, rest, rfl, breaks, rfl⟩ | ⟨done, head, rest, rfl, breaks, ended, inert, rfl⟩
  · rcases again.breaks with
      ⟨before, behind, same, second, rfl⟩ | ⟨before, tail, behind, same, second, _⟩
    · rw [(breaks.eq second same).1]
    · cases (breaks.eq second same).2
  · rcases again.breaks with
      ⟨before, behind, same, second, _⟩ | ⟨before, tail, behind, same, second, earlier, plain, rfl⟩
    · cases (breaks.eq second same).2
    · obtain ⟨rfl, rfl⟩ := head_eq ended inert earlier plain (breaks.eq second same).1
      rfl

end Faults

end Stylesheet

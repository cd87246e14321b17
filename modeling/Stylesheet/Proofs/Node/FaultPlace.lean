import Stylesheet.Proofs.Node.Reading

/-!
Where faults are reported. Blocks are read as texts of their own that know where they start, so a
fault inside a block is found in a part of the sheet, at any depth. The place that is reported is
the place in the whole sheet, and the character there is the one that the fault is about.
-/

namespace Stylesheet

/-- The character that a fault is about. -/
def BraceFault.character : BraceFault → Char
  | mismatched => '}'
  | unclosedBlock => '{'
  | unclosedAtRule => '@'

/-- The error is about a character of a text that starts at `position`. -/
def BraceError.PointsInto (error : BraceError) (position : Nat) (text : Text) : Prop :=
  ∃ front rest : Text, text = front ++ error.fault.character :: rest ∧
    error.position = position + front.length

section Pointing

variable {error : BraceError} {position : Nat} {text : Text}

theorem BraceError.PointsInto.of_part (before behind : Text)
    (points : error.PointsInto (position + before.length) text) :
    error.PointsInto position (before ++ (text ++ behind)) := by
  rcases points with ⟨front, rest, rfl, place⟩
  refine ⟨before ++ front, rest ++ behind, ?_, ?_⟩
  · simp only [List.append_assoc, List.cons_append]
  · rw [place, List.length_append, Nat.add_assoc]

theorem BraceError.PointsInto.of_suffix (before : Text)
    (points : error.PointsInto (position + before.length) text) :
    error.PointsInto position (before ++ text) := by
  have whole := points.of_part before []
  rwa [List.append_nil] at whole

theorem BraceError.PointsInto.getElem? (points : error.PointsInto 0 text) :
    text[error.position]? = some error.fault.character := by
  rcases points with ⟨front, rest, rfl, place⟩
  simp [place]

end Pointing

namespace Node

/-- What is inside a statement stands in the text where the statement says. -/
def Statement.Lies (position : Nat) (text : Text) : Statement → Prop
  | block _ start inner => ∃ before behind : Text, text = before ++ (inner ++ behind) ∧
      start = position + before.length
  | _ => True

/-- What a cut off a text that starts at `position` comes to, with the places it tells. -/
inductive Placed (position : Nat) (text : Text) : Except BraceError (Statement × Text) → Prop where
  | failed {error : BraceError} (points : error.PointsInto position text) :
      Placed position text (.error error)
  | cut {statement : Statement} {rest : Text} (done : Text) (whole : text = done ++ rest)
      (lies : statement.Lies position text) : Placed position text (.ok (statement, rest))

section Cuts

variable (position : Nat) (text : Text)

theorem placed_cutAtRule (starts : text.head? = some '@') :
    Placed position text (cutAtRule position text) := by
  have whole := atRuleScanner.before_append_rest .start text
  unfold cutAtRule
  generalize atRuleScanner.run .start text = cut at whole
  rcases cut with ⟨before, state, _ | ⟨c, rest⟩⟩
  · by_cases closed : state.depth = 0
    · simp only [closed, if_true]
      exact .cut text (List.append_nil text).symm trivial
    · simp only [closed, if_false]
      rcases List.head?_eq_some_iff.mp starts with ⟨rest, rfl⟩
      exact .failed ⟨[], rest, rfl, rfl⟩
  · simp only at whole ⊢
    split
    · next stopped =>
      simp only [Bool.and_eq_true, decide_eq_true_eq] at stopped
      exact .failed ⟨before, rest, by rw [← whole, stopped.1]; rfl, rfl⟩
    · exact .cut (before ++ [c]) (by simp [← whole]) trivial

theorem placed_cutBlock (before : Text) (selectors : List Text) :
    Placed position (before ++ '{' :: text)
      (cutBlock (position + before.length) selectors text) := by
  have whole := blockScanner.before_append_rest ⟨.outside, 1⟩ text
  unfold cutBlock
  generalize blockScanner.run ⟨.outside, 1⟩ text = cut at whole
  rcases cut with ⟨inner, state, _ | ⟨c, rest⟩⟩
  · exact .failed ⟨before, text, rfl, rfl⟩
  · simp only at whole ⊢
    refine .cut (before ++ '{' :: (inner ++ [c])) (by simp [← whole]) ?_
    refine ⟨before ++ ['{'], c :: rest, by simp [← whole], ?_⟩
    rw [List.length_append, List.length_singleton, Nat.add_assoc]

theorem placed_cutRule : Placed position text (cutRule position text) := by
  have whole := statementScanner.before_append_rest .start text
  have stops := fun c rest (found : (statementScanner.run .start text).rest = c :: rest) =>
    statementScanner.stop_of_rest found
  unfold cutRule
  generalize statementScanner.run .start text = cut at whole stops
  rcases cut with ⟨before, state, _ | ⟨c, rest⟩⟩
  · exact .cut text (List.append_nil text).symm trivial
  · simp only at whole stops ⊢
    have kind := stops c rest rfl
    simp only [statementScanner, Bool.and_eq_true, List.contains_iff_mem, List.mem_cons,
      List.not_mem_nil, or_false] at kind
    rcases kind.2 with rfl | rfl | rfl
    · exact .cut (before ++ [';']) (by simp [← whole]) trivial
    · rw [← whole]
      exact placed_cutBlock position rest before (selectorList before)
    · exact .failed ⟨before, rest, whole.symm, rfl⟩

theorem placed_cutStatement : Placed position text (cutStatement position text) := by
  unfold cutStatement
  split
  · next starts => exact placed_cutAtRule position text starts
  · exact placed_cutRule position text

variable {position text}

theorem points_of_cutStatement {error : BraceError}
    (failed : cutStatement position text = .error error) : error.PointsInto position text := by
  have placed := placed_cutStatement position text
  rw [failed] at placed
  cases placed with
  | failed points => exact points

theorem lies_of_cutStatement {statement : Statement} {rest : Text}
    (cut : cutStatement position text = .ok (statement, rest)) :
    (∃ done, text = done ++ rest) ∧ statement.Lies position text := by
  have placed := placed_cutStatement position text
  rw [cut] at placed
  cases placed with
  | cut done whole lies => exact ⟨⟨done, whole⟩, lies⟩

end Cuts

/-! From statement to statement, and into the blocks -/

/-- How reading a text that starts at `position` fails, behind the blanks at its head. -/
inductive Fails : Nat → Text → BraceError → Prop where
  | here {position : Nat} {blanks text : Text} {error : BraceError}
      (cut : cutStatement (position + blanks.length) text = .error error) :
      Fails position (blanks ++ text) error
  | inside {position start : Nat} {blanks text inner rest : Text} {selectors : List Text}
      {error : BraceError}
      (cut : cutStatement (position + blanks.length) text =
        .ok (.block selectors start inner, rest)) :
      Fails start inner error → Fails position (blanks ++ text) error
  | later {position : Nat} {blanks text rest : Text} {statement : Statement} {error : BraceError}
      (cut : cutStatement (position + blanks.length) text = .ok (statement, rest)) :
      Fails (position + blanks.length + (text.length - rest.length)) rest error →
        Fails position (blanks ++ text) error

theorem fails_of_readFrom {position : Nat} {text : Text} {error : BraceError}
    (failed : readFrom position text = .error error) : Fails position text error := by
  induction size : text.length using Nat.strongRecOn generalizing position text with
  | ind n ih =>
      by_cases filled : text.trimStart = []
      · rw [readFrom_of_blank position filled] at failed
        cases failed
      rcases Text.exists_append_trimStart text with ⟨blanks, whole, _⟩
      have lengths := congrArg List.length whole
      rw [List.length_append] at lengths
      have offset : text.length - text.trimStart.length = blanks.length := by omega
      cases cut : cutStatement (position + (text.length - text.trimStart.length))
          text.trimStart with
      | error found =>
          rw [readFrom_of_filled position filled] at failed
          simp only [cut] at failed
          cases failed
          rw [offset] at cut
          rw [← whole]
          exact .here cut
      | ok parts =>
          rcases parts with ⟨statement, rest⟩
          have shorter := length_cutStatement cut filled
          rw [readFrom_of_statement filled cut, offset] at failed
          rw [offset] at cut
          rw [← whole]
          rcases failed_of_bind failed with inside | ⟨node, _, behind⟩
          · cases statement with
            | atRule content => cases inside
            | rule content => cases inside
            | block selectors start inner =>
                simp only [Statement.inner] at shorter
                exact .inside cut (ih inner.length (by omega) (failed_of_map inside) rfl)
          · exact .later cut (ih rest.length (by omega) (failed_of_map behind) rfl)

theorem Fails.points {position : Nat} {text : Text} {error : BraceError}
    (fails : Fails position text error) : error.PointsInto position text := by
  induction fails with
  | @here position blanks text error cut => exact (points_of_cutStatement cut).of_suffix blanks
  | @inside position start blanks text inner rest selectors error cut _ ih =>
      rcases (lies_of_cutStatement cut).2 with ⟨before, behind, rfl, rfl⟩
      exact (ih.of_part before behind).of_suffix blanks
  | @later position blanks text rest statement error cut _ ih =>
      rcases (lies_of_cutStatement cut).1 with ⟨done, rfl⟩
      have passed : (done ++ rest).length - rest.length = done.length := by simp
      rw [passed] at ih
      exact (ih.of_suffix done).of_suffix blanks

/-- A stylesheet that cannot be read has a fault at the place that is reported: a closing brace that
nothing opens, the opening brace of a block, or the start of an at-rule. Nothing else can go wrong.
-/
theorem read_points_at_fault (text : Text) :
    (∃ nodes, read text = .ok nodes) ∨
      ∃ error : BraceError, read text = .error error ∧
        error.position < text.withoutComments.length ∧
        (error.message, text.withoutComments[error.position]?) ∈
          [("Bad CSS: mismatched \x7d".toList, some '}'),
            ("Bad CSS: block is never closed".toList, some '{'),
            ("Bad CSS: at-rule block is never closed".toList, some '@')] := by
  cases outcome : read text with
  | ok nodes => exact .inl ⟨nodes, rfl⟩
  | error error =>
      have found := (fails_of_readFrom outcome).points.getElem?
      refine .inr ⟨error, rfl, (List.getElem?_eq_some_iff.mp found).1, ?_⟩
      rw [found]
      rcases error with ⟨fault, position⟩
      cases fault with
      | mismatched => exact List.mem_cons_self
      | unclosedBlock => exact List.mem_cons_of_mem _ List.mem_cons_self
      | unclosedAtRule =>
          exact List.mem_cons_of_mem _ (List.mem_cons_of_mem _ List.mem_cons_self)

end Node

end Stylesheet

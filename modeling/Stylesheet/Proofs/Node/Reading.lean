import Stylesheet.Node.Reader

/-!
How a reading goes, statement by statement. The first statement is cut off, what is inside it is
read, and then what follows it. A successful reading is told without positions, and every fact about
the nodes that are read from a text is an induction on this relation.
-/

namespace Stylesheet.Node

/-! Outcomes of readings -/

section Outcomes

variable {α β : Type} {outcome : Except BraceError α} {value : β} {error : BraceError}

theorem exists_of_bind {next : α → Except BraceError β} (ended : outcome.bind next = .ok value) :
    ∃ first, outcome = .ok first ∧ next first = .ok value := by
  cases outcome with
  | error error => cases ended
  | ok first => exact ⟨first, rfl, ended⟩

theorem failed_of_bind {next : α → Except BraceError β} (failed : outcome.bind next = .error error) :
    outcome = .error error ∨ ∃ first, outcome = .ok first ∧ next first = .error error := by
  cases outcome with
  | error found =>
      cases failed
      exact .inl rfl
  | ok first => exact .inr ⟨first, rfl, failed⟩

theorem exists_of_map {change : α → β} (ended : outcome.map change = .ok value) :
    ∃ first, outcome = .ok first ∧ change first = value := by
  cases outcome with
  | error error => cases ended
  | ok first => exact ⟨first, rfl, Except.ok.inj ended⟩

theorem failed_of_map {change : α → β} (failed : outcome.map change = .error error) :
    outcome = .error error := by
  cases outcome with
  | error found =>
      cases failed
      rfl
  | ok first => cases failed

end Outcomes

/-! One statement -/

/-- The node that a statement stands for, once what is inside it is read. -/
def Statement.node : Statement → Except BraceError Node
  | atRule content => .ok (.atRule content)
  | rule content => .ok (.rule content)
  | block selectors start inner => (readFrom start inner).map (.ruleSet selectors)

/-- The node of the first statement is read, and then what follows it. -/
theorem readFrom_of_statement {position : Nat} {text rest : Text} {statement : Statement}
    (filled : text.trimStart ≠ [])
    (cut : cutStatement (position + (text.length - text.trimStart.length)) text.trimStart =
      .ok (statement, rest)) :
    readFrom position text = statement.node.bind fun node =>
      (readFrom (position + (text.length - text.trimStart.length) +
        (text.trimStart.length - rest.length)) rest).map (node :: ·) := by
  rw [readFrom_of_filled position filled]
  simp only [cut]
  cases statement with
  | atRule content => rfl
  | rule content => rfl
  | block selectors start inner =>
      dsimp only [Statement.node]
      cases readFrom start inner with
      | error error => rfl
      | ok contents => rfl

/-! Successful readings -/

inductive Reads : Text → List Node → Prop where
  | blank {text : Text} (ended : text.trimStart = []) : Reads text []
  | atRule {position : Nat} {text content rest : Text} {later : List Node}
      (cut : cutStatement position text.trimStart = .ok (.atRule content, rest)) :
      Reads rest later → Reads text (.atRule content :: later)
  | rule {position : Nat} {text content rest : Text} {later : List Node}
      (cut : cutStatement position text.trimStart = .ok (.rule content, rest)) :
      Reads rest later → Reads text (.rule content :: later)
  | block {position start : Nat} {text inner rest : Text} {selectors : List Text}
      {contents later : List Node}
      (cut : cutStatement position text.trimStart = .ok (.block selectors start inner, rest)) :
      Reads inner contents → Reads rest later → Reads text (.ruleSet selectors contents :: later)

theorem reads_of_readFrom {position : Nat} {text : Text} {nodes : List Node}
    (read : readFrom position text = .ok nodes) : Reads text nodes := by
  induction size : text.length using Nat.strongRecOn generalizing position text nodes with
  | ind n ih =>
      by_cases filled : text.trimStart = []
      · rw [readFrom_of_blank position filled] at read
        obtain rfl := Except.ok.inj read
        exact .blank filled
      have bounded := length_trimStart_le text
      cases cut : cutStatement (position + (text.length - text.trimStart.length))
          text.trimStart with
      | error error =>
          rw [readFrom_of_filled position filled] at read
          simp only [cut] at read
          cases read
      | ok parts =>
          obtain ⟨statement, rest⟩ := parts
          have shorter := length_cutStatement cut filled
          rw [readFrom_of_statement filled cut] at read
          obtain ⟨node, inside, behind⟩ := exists_of_bind read
          obtain ⟨later, tail, rfl⟩ := exists_of_map behind
          have following := ih rest.length (by omega) tail rfl
          cases statement with
          | atRule content =>
              obtain rfl := Except.ok.inj inside
              exact .atRule cut following
          | rule content =>
              obtain rfl := Except.ok.inj inside
              exact .rule cut following
          | block selectors start inner =>
              simp only [Statement.inner] at shorter
              obtain ⟨contents, nested, rfl⟩ := exists_of_map inside
              exact .block cut (ih inner.length (by omega) nested rfl) following

end Stylesheet.Node

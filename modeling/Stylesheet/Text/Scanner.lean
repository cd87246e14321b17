import Stylesheet.Text.Basic

/-!
Scanning with a state. A scanner walks a text from the left and keeps a state of what it has
passed; it either stops at the first character that its state asks to stop at, or cuts the text
into pieces at each of them. Nothing of the text is lost: `before_append_rest`.
-/

namespace Stylesheet

structure Scanner (State : Type) where
  step : State → Char → State
  stop : State → Char → Bool

/-- A text cut in two: what was passed, the state after it, and the rest. The rest is empty or
starts with the character that stopped the scan. -/
structure Cut (State : Type) where
  before : Text
  state : State
  rest : Text

namespace Scanner

variable {State : Type} (scanner : Scanner State)

def run : State → Text → Cut State
  | state, [] => ⟨[], state, []⟩
  | state, c :: rest =>
    if scanner.stop state c then ⟨[], state, c :: rest⟩
    else
      let cut := run (scanner.step state c) rest
      { cut with before := c :: cut.before }

/-- The pieces between the characters that the scanner stops at; there is always a last one. -/
def pieces : State → Text → List Text
  | _, [] => [[]]
  | state, c :: rest =>
    let later := pieces (scanner.step state c) rest
    if scanner.stop state c then [] :: later
    else
      match later with
      | [] => [[c]]
      | piece :: more => (c :: piece) :: more

theorem before_append_rest (state : State) (text : Text) :
    (scanner.run state text).before ++ (scanner.run state text).rest = text := by
  induction text generalizing state with
  | nil => rfl
  | cons c rest ih =>
    by_cases stops : scanner.stop state c
    · simp [run, stops]
    · simp [run, stops, ih]

theorem length_rest_le (state : State) (text : Text) :
    (scanner.run state text).rest.length ≤ text.length := by
  have whole := congrArg List.length (scanner.before_append_rest state text)
  simp only [List.length_append] at whole
  omega

theorem stop_of_rest {state : State} {text rest : Text} {c : Char}
    (found : (scanner.run state text).rest = c :: rest) :
    scanner.stop (scanner.run state text).state c = true := by
  induction text generalizing state with
  | nil => simp [run] at found
  | cons d text ih =>
    by_cases stops : scanner.stop state d
    · simp only [run, stops, if_true, List.cons.injEq] at found ⊢
      rwa [← found.1]
    · simp only [run, stops, if_false, Bool.false_eq_true] at found ⊢
      exact ih found

/-- The first piece is what a scan passes; the others are those of the text behind its end. -/
theorem pieces_eq_run (state : State) (text : Text) :
    scanner.pieces state text =
      (scanner.run state text).before ::
        match (scanner.run state text).rest with
        | [] => []
        | c :: rest => scanner.pieces (scanner.step (scanner.run state text).state c) rest := by
  induction text generalizing state with
  | nil => rfl
  | cons d text ih =>
    by_cases stops : scanner.stop state d
    · simp [pieces, run, stops]
    · simp [pieces, run, stops, ih]

end Scanner

end Stylesheet

import Stylesheet.Expander.Memory

/-!
What a run of the command line leaves: an exit code and what it wrote to each stream. Messages lose
the control sequences that colour a terminal; log lines are written as they are.
-/

namespace Stylesheet.Command

structure Report where
  exit : Nat
  out : Text
  err : Text
  deriving DecidableEq

def isSequencePart (c : Char) : Bool := c == ';' || c == '?' || c.isDigit

/-- What follows the parameters and the final letter of a control sequence. -/
def afterSequence? (text : Text) : Option Text :=
  match text.dropWhile isSequencePart with
  | c :: rest => if c.isAlpha then some rest else none
  | [] => none

theorem length_afterSequence? {text rest : Text} (found : afterSequence? text = some rest) :
    rest.length < text.length := by
  have shorter : (text.dropWhile isSequencePart).length ≤ text.length :=
    (List.dropWhile_sublist _).length_le
  unfold afterSequence? at found
  split at found
  · next c remaining same =>
    rw [same] at shorter
    split at found
    · simp only [Option.some.injEq] at found
      subst found
      simp only [List.length_cons] at shorter
      omega
    · simp at found
  · simp at found

/-- Drops the control sequences: escape, bracket, parameters, letter. -/
def stripSequences : Text → Text
  | '\x1b' :: '[' :: rest =>
    match _ : afterSequence? rest with
    | some remaining => stripSequences remaining
    | none => '\x1b' :: stripSequences ('[' :: rest)
  | c :: rest => c :: stripSequences rest
  | [] => []
termination_by text => text.length
decreasing_by
  · have := length_afterSequence? ‹afterSequence? rest = some remaining›
    simp only [List.length_cons]
    omega
  · simp
  · simp

def echo (message : Text) : Text := stripSequences (message ++ ['\n'])

/-- The line that the log shows for an event; loops are not shown. -/
def logLine : Event → Text
  | .defined name parameters =>
    "DEBUG stylemacro.macros.expander: defined macro ".toList ++ name ++
      Text.quotedRow parameters ++ ['\n']
  | .looped _ _ => []
  | .read count =>
    "DEBUG stylemacro.css.lexer: lexed ".toList ++ Text.ofNat count ++
      " top-level css node(s)\n".toList
  | .flattened count =>
    "DEBUG stylemacro.macros.css: denested stylesheet into ".toList ++ Text.ofNat count ++
      " node(s)\n".toList

def errorLine (message : Text) : Text := echo ("Error: ".toList ++ message)

namespace Report

def success (messages : List Text) (log : Text) : Report := ⟨0, messages.flatMap echo, log⟩

def failure (error : Error) (log : Text) : Report := ⟨1, [], log ++ errorLine error.message⟩

end Report

end Stylesheet.Command

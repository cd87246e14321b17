import Stylesheet.Node.Basic
import Stylesheet.Text.Blank
import Stylesheet.Text.Scanner

/-!
Reading nodes from text. Comments are taken out first: they run from a slash and star to the next
star and slash, and one that is never closed is no comment and stays. Braces, semicolons and commas
count only outside quoted strings, and most of them only outside parentheses. Each search starts
anew at the head of a statement, outside any quotes. A statement that opens a block is read up to
its closing brace, and the text in between is read as a stylesheet of its own.
-/

namespace Stylesheet

namespace Text

def afterCommentEnd? : Text → Option Text
  | [] => none
  | '*' :: '/' :: rest => some rest
  | _ :: rest => afterCommentEnd? rest

theorem length_afterCommentEnd? {text rest : Text} (closed : afterCommentEnd? text = some rest) :
    rest.length < text.length := by
  fun_induction afterCommentEnd? text with
  | case1 => simp at closed
  | case2 tail =>
    simp only [Option.some.injEq] at closed
    subst closed
    simp only [List.length_cons]
    omega
  | case3 c tail _ ih => have := ih closed; simp only [List.length_cons]; omega

def withoutComments : Text → Text
  | '/' :: '*' :: rest =>
    match _ : afterCommentEnd? rest with
    | some remaining => withoutComments remaining
    | none => '/' :: '*' :: rest
  | c :: rest => c :: withoutComments rest
  | [] => []
termination_by text => text.length
decreasing_by
  · have := length_afterCommentEnd? ‹afterCommentEnd? rest = some remaining›
    simp only [List.length_cons]
    omega
  · simp

end Text

/-- Where a scan stands with respect to quoted strings. Inside one, a backslash protects the
character behind it. -/
inductive Quoting where
  | outside
  | inside (quote : Char) (escaped : Bool)
  deriving DecidableEq

namespace Quoting

def isQuote (c : Char) : Bool := c = '\x22' || c = '\x27'

def next : Quoting → Char → Quoting
  | outside, c => if isQuote c then inside c false else outside
  | inside quote true, _ => inside quote false
  | inside quote false, c =>
    if c = '\\' then inside quote true
    else if c = quote then outside
    else inside quote false

/-- Whether a character stands outside quoted strings and opens none. -/
def bare : Quoting → Char → Bool
  | outside, c => !isQuote c
  | inside _ _, _ => false

end Quoting

structure Nesting where
  quoting : Quoting
  depth : Nat
  deriving DecidableEq

namespace Nesting

def start : Nesting := ⟨.outside, 0⟩

/-- Counts bare brackets up and down; a closing one too many leaves the count at zero. -/
def next (opening closing : List Char) (state : Nesting) (c : Char) : Nesting :=
  { quoting := state.quoting.next c
    depth :=
      if !state.quoting.bare c then state.depth
      else if opening.contains c then state.depth + 1
      else if closing.contains c then state.depth - 1
      else state.depth }

end Nesting

namespace Node

def statementScanner : Scanner Nesting where
  step := Nesting.next ['('] [')']
  stop state c := state.quoting.bare c && state.depth == 0 && [';', '{', '}'].contains c

/-- Stops at the brace that closes the block whose opening brace has been counted. -/
def blockScanner : Scanner Nesting where
  step := Nesting.next ['{'] ['}']
  stop state c := state.quoting.bare c && state.depth == 1 && c == '}'

/-- Stops at the last character of an at-rule, or at a closing brace that nothing opened. -/
def atRuleScanner : Scanner Nesting where
  step := Nesting.next ['{'] ['}']
  stop state c :=
    state.quoting.bare c && ((c == ';' && state.depth == 0) || (c == '}' && state.depth ≤ 1))

def selectorScanner : Scanner Nesting where
  step := Nesting.next ['(', '['] [')', ']']
  stop state c := state.quoting.bare c && state.depth == 0 && c == ','

/-- The selectors of a comma-separated list, trimmed, without the blank ones. -/
def selectorList (text : Text) : List Text :=
  ((selectorScanner.pieces .start text).map Text.trim).filter (!·.isEmpty)

/-- What stands at the head of a text: a node without a block, or the selectors of a block with its
inner text and where that starts. -/
inductive Statement where
  | atRule (content : Text)
  | rule (content : Text)
  | block (selectors : List Text) (position : Nat) (inner : Text)

def cutAtRule (position : Nat) (text : Text) : Except BraceError (Statement × Text) :=
  let cut := atRuleScanner.run .start text
  match cut.rest with
  | [] =>
    if cut.state.depth = 0 then .ok (.atRule text.trimEnd, [])
    else .error ⟨.unclosedAtRule, position⟩
  | c :: rest =>
    if c = '}' && cut.state.depth = 0 then .error ⟨.mismatched, position + cut.before.length⟩
    else .ok (.atRule (cut.before ++ [c]), rest)

/-- Cuts a block off a text that starts behind its opening brace, which stands at `position`. -/
def cutBlock (position : Nat) (selectors : List Text) (text : Text) :
    Except BraceError (Statement × Text) :=
  let cut := blockScanner.run ⟨.outside, 1⟩ text
  match cut.rest with
  | [] => .error ⟨.unclosedBlock, position⟩
  | _ :: rest => .ok (.block selectors (position + 1) cut.before, rest)

def cutRule (position : Nat) (text : Text) : Except BraceError (Statement × Text) :=
  let cut := statementScanner.run .start text
  let stopped := position + cut.before.length
  match cut.rest with
  | [] => .ok (.rule cut.before.trimEnd, [])
  | c :: rest =>
    if c = ';' then .ok (.rule cut.before.trimEnd, rest)
    else if c = '{' then cutBlock stopped (selectorList cut.before) rest
    else .error ⟨.mismatched, stopped⟩

def cutStatement (position : Nat) (text : Text) : Except BraceError (Statement × Text) :=
  if text.head? = some '@' then cutAtRule position text else cutRule position text

def Statement.inner : Statement → Text
  | block _ _ inner => inner
  | _ => []

theorem length_cutAtRule {position : Nat} {text rest : Text} {statement : Statement}
    (read : cutAtRule position text = .ok (statement, rest)) (filled : text ≠ []) :
    statement.inner.length < text.length ∧ rest.length < text.length := by
  have whole := congrArg List.length (atRuleScanner.before_append_rest .start text)
  have positive := List.length_pos_iff.mpr filled
  simp only [cutAtRule] at read
  split at read
  · split at read
    · simp only [Except.ok.injEq, Prod.mk.injEq] at read
      simp [← read.1, ← read.2, Statement.inner, positive]
    · simp at read
  · next c remaining found =>
    split at read
    · simp at read
    · simp only [Except.ok.injEq, Prod.mk.injEq] at read
      simp only [found, List.length_append, List.length_cons, read.2] at whole
      simp only [← read.1, Statement.inner, List.length_nil]
      omega

theorem length_cutBlock {position : Nat} {selectors : List Text} {text rest : Text}
    {statement : Statement} (read : cutBlock position selectors text = .ok (statement, rest)) :
    statement.inner.length < text.length ∧ rest.length < text.length := by
  have whole := congrArg List.length (blockScanner.before_append_rest ⟨.outside, 1⟩ text)
  simp only [cutBlock] at read
  split at read
  · simp at read
  · next c remaining found =>
    simp only [Except.ok.injEq, Prod.mk.injEq] at read
    simp only [found, List.length_append, List.length_cons, read.2] at whole
    simp only [← read.1, Statement.inner]
    omega

theorem length_cutRule {position : Nat} {text rest : Text} {statement : Statement}
    (read : cutRule position text = .ok (statement, rest)) (filled : text ≠ []) :
    statement.inner.length < text.length ∧ rest.length < text.length := by
  have whole := congrArg List.length (statementScanner.before_append_rest .start text)
  have positive := List.length_pos_iff.mpr filled
  simp only [cutRule] at read
  split at read
  · simp only [Except.ok.injEq, Prod.mk.injEq] at read
    simp [← read.1, ← read.2, Statement.inner, positive]
  · next c remaining found =>
    simp only [found, List.length_append, List.length_cons] at whole
    split at read
    · simp only [Except.ok.injEq, Prod.mk.injEq] at read
      simp only [← read.1, ← read.2, Statement.inner, List.length_nil]
      omega
    · split at read
      · have := length_cutBlock read
        omega
      · simp at read

/-- A statement takes something from the text, and what is inside it is shorter than the text. -/
theorem length_cutStatement {position : Nat} {text rest : Text} {statement : Statement}
    (read : cutStatement position text = .ok (statement, rest)) (filled : text ≠ []) :
    statement.inner.length < text.length ∧ rest.length < text.length := by
  unfold cutStatement at read
  split at read
  · exact length_cutAtRule read filled
  · exact length_cutRule read filled

theorem length_trimStart_le (text : Text) : text.trimStart.length ≤ text.length :=
  (List.dropWhile_sublist _).length_le

def readFrom (position : Nat) (text : Text) : Except BraceError (List Node) :=
  let trimmed := text.trimStart
  let start := position + (text.length - trimmed.length)
  if _ : trimmed = [] then .ok []
  else
    match _ : cutStatement start trimmed with
    | .error error => .error error
    | .ok (.atRule content, rest) => do
      let later ← readFrom (start + (trimmed.length - rest.length)) rest
      .ok (.atRule content :: later)
    | .ok (.rule content, rest) => do
      let later ← readFrom (start + (trimmed.length - rest.length)) rest
      .ok (.rule content :: later)
    | .ok (.block selectors innerStart inner, rest) => do
      let contents ← readFrom innerStart inner
      let later ← readFrom (start + (trimmed.length - rest.length)) rest
      .ok (.ruleSet selectors contents :: later)
termination_by text.length
decreasing_by
  all_goals
    have shorter := length_cutStatement ‹cutStatement start trimmed = _› ‹¬trimmed = []›
    have bounded : trimmed.length ≤ text.length := length_trimStart_le text
    simp only [Statement.inner] at shorter
    omega

theorem readFrom_of_blank {text : Text} (position : Nat) (blank : text.trimStart = []) :
    readFrom position text = .ok [] := by
  rw [readFrom]
  simp [blank]

theorem readFrom_of_filled {text : Text} (position : Nat) (filled : text.trimStart ≠ []) :
    readFrom position text =
      (let start := position + (text.length - text.trimStart.length)
      match cutStatement start text.trimStart with
      | .error error => .error error
      | .ok (.atRule content, rest) => do
        let later ← readFrom (start + (text.trimStart.length - rest.length)) rest
        .ok (.atRule content :: later)
      | .ok (.rule content, rest) => do
        let later ← readFrom (start + (text.trimStart.length - rest.length)) rest
        .ok (.rule content :: later)
      | .ok (.block selectors innerStart inner, rest) => do
        let contents ← readFrom innerStart inner
        let later ← readFrom (start + (text.trimStart.length - rest.length)) rest
        .ok (.ruleSet selectors contents :: later)) := by
  rw [readFrom]
  simp only [filled, dite_false]
  split <;> simp_all

/-- Reads a stylesheet: comments go first, and positions count in the text without them. -/
def read (text : Text) : Except BraceError (List Node) := readFrom 0 text.withoutComments

end Node

end Stylesheet

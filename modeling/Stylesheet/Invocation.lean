import Stylesheet.Text.Blank
import Stylesheet.Text.Scanner

/-!
Macro invocations in running text: a marker, a name, then, where they follow, a list of arguments
in parentheses, a block in braces as one more argument, and a semicolon. Blanks may stand before
the list and before the block. An invocation that ends the text takes the blanks behind it along.
-/

namespace Stylesheet

structure Invocation where
  name : Text
  arguments : List Text
  /-- Whether a semicolon was taken along. -/
  terminated : Bool
  deriving DecidableEq

inductive OpenError where
  | list (position : Nat)
  | block (position : Nat)
  deriving DecidableEq

def OpenError.position : OpenError → Nat
  | list position => position
  | block position => position

def OpenError.message : OpenError → Text
  | list _ => "unterminated ( in macro invocation".toList
  | block _ => "unterminated \x7b in macro invocation".toList

def isGapChar (c : Char) : Bool := c == ' ' || c == '\t' || c == '\n' || c == '\r'

def isArgumentQuote (c : Char) : Bool := c == '\x22' || c == '\x27' || c == '\x60'

/-- Inside an argument list: the quote that is open, whether a backslash protects the next
character, and how many parentheses are open. The count goes below zero in a text that closes more
than it opens. -/
structure ListState where
  quote : Option Char
  escaped : Bool
  depth : Int
  deriving DecidableEq

namespace ListState

def start : ListState := ⟨none, false, 0⟩

/-- A backslash, itself not protected, protects the next character from opening or closing a quote
and has no other effect. -/
def next (state : ListState) (c : Char) : ListState :=
  let escaped := c == '\\' && !state.escaped
  match state.quote with
  | some quote =>
    { quote := if c == quote && !state.escaped then none else some quote
      escaped
      depth := state.depth }
  | none =>
    if isArgumentQuote c then
      { quote := if state.escaped then none else some c, escaped, depth := state.depth }
    else
      { quote := none
        escaped
        depth :=
          if c == '(' then state.depth + 1
          else if c == ')' then state.depth - 1
          else state.depth }

def isAt (depth : Int) (state : ListState) : Bool := state.quote.isNone && state.depth == depth

end ListState

namespace Invocation

def listScanner : Scanner ListState where
  step := ListState.next
  stop state c := state.isAt 1 && c == ')'

def argumentScanner : Scanner ListState where
  step := ListState.next
  stop state c := state.isAt 1 && c == ','

/-- Stops at the brace that closes a block; the state counts the open braces. -/
def blockScanner : Scanner Int where
  step depth c := if c == '{' then depth + 1 else if c == '}' then depth - 1 else depth
  stop depth c := depth == 1 && c == '}'

/-- A list with nothing in it but blanks has no arguments. -/
def dropBlank : List Text → List Text
  | [argument] => if argument.isBlankText then [] else [argument]
  | arguments => arguments

/-- Reads a list of arguments. The first character is taken to open the list, whatever it is. -/
def list? : Text → Option (List Text × Text)
  | [] => none
  | c :: text =>
    let opened := ListState.start.next c
    let cut := listScanner.run opened text
    match cut.rest with
    | [] => none
    | _ :: rest => some (dropBlank (argumentScanner.pieces opened cut.before), rest)

def block? : Text → Option (Text × Text)
  | [] => none
  | c :: text =>
    let cut := blockScanner.run (blockScanner.step 0 c) text
    match cut.rest with
    | [] => none
    | _ :: rest => some (cut.before, rest)

theorem length_list? {text : Text} {arguments : List Text} {rest : Text}
    (read : list? text = some (arguments, rest)) : rest.length < text.length := by
  cases text with
  | nil => simp [list?] at read
  | cons c text =>
    simp only [list?] at read
    split at read
    · simp at read
    · next stopped remaining found =>
      simp only [Option.some.injEq, Prod.mk.injEq] at read
      have := listScanner.length_rest_le (ListState.start.next c) text
      rw [found, read.2] at this
      simp only [List.length_cons] at this ⊢
      omega

theorem length_block? {text block rest : Text}
    (read : block? text = some (block, rest)) : rest.length < text.length := by
  cases text with
  | nil => simp [block?] at read
  | cons c text =>
    simp only [block?] at read
    split at read
    · simp at read
    · next stopped remaining found =>
      simp only [Option.some.injEq, Prod.mk.injEq] at read
      have := blockScanner.length_rest_le (blockScanner.step 0 c) text
      rw [found, read.2] at this
      simp only [List.length_cons] at this ⊢
      omega

structure Tail where
  arguments : List Text
  rest : Text

/-- Reads the list of arguments, if one follows. `position` is where the text starts. -/
def listTail (position : Nat) (text : Text) : Except OpenError Tail :=
  match text.dropWhile isGapChar with
  | '(' :: more =>
    match list? ('(' :: more) with
    | some (arguments, rest) => .ok ⟨arguments, rest⟩
    | none => .error (.list (position + (text.length - (more.length + 1))))
  | _ => .ok ⟨[], text⟩

/-- Reads the block, if one follows, or the blanks that end the text. -/
def blockTail (position : Nat) (text : Text) : Except OpenError Tail :=
  match text.dropWhile isGapChar with
  | '{' :: more =>
    match block? ('{' :: more) with
    | some (block, rest) => .ok ⟨[block], rest⟩
    | none => .error (.block (position + (text.length - (more.length + 1))))
  | [] => .ok ⟨[], []⟩
  | _ => .ok ⟨[], text⟩

/-- Reads the invocation behind a marker and gives the text that follows it. `position` is where
the text behind the marker starts. Without a name there is no invocation. -/
def read (position : Nat) (text : Text) : Except OpenError (Option (Invocation × Text)) :=
  let name := text.takeWhile isNameChar
  if name.isEmpty then .ok none
  else do
    let named := text.dropWhile isNameChar
    let list ← listTail (position + name.length) named
    let block ← blockTail (position + (text.length - list.rest.length)) list.rest
    let arguments := list.arguments ++ block.arguments
    match block.rest with
    | ';' :: rest => .ok (some (⟨name, arguments, true⟩, rest))
    | rest => .ok (some (⟨name, arguments, false⟩, rest))

/-- Whether the text behind a marker starts an invocation of `name`; without a name, any will do. -/
def isNamed : (name : Option Text) → (text : Text) → Bool
  | none, _ => true
  | some name, text =>
    match Text.after? name text with
    | some (c :: _) => !isNameChar c
    | some [] => true
    | none => false

def behind? (marker : Text) (name : Option Text) (text : Text) : Option Text :=
  (Text.after? marker text).filter (isNamed name)

/-- The first marker with the wanted name behind it: the text before it and the text behind it. -/
def find? (marker : Text) (name : Option Text) : Text → Option (Text × Text)
  | [] => (behind? marker name []).map fun behind => ([], behind)
  | c :: rest =>
    match behind? marker name (c :: rest) with
    | some behind => some ([], behind)
    | none => (find? marker name rest).map fun found => (c :: found.1, found.2)

theorem eq_of_behind? {marker : Text} {name : Option Text} {text behind : Text}
    (found : behind? marker name text = some behind) : text = marker ++ behind :=
  Text.eq_of_after? (Option.filter_eq_some_iff.mp found).1

theorem eq_of_find? {marker : Text} {name : Option Text} {text before behind : Text}
    (found : find? marker name text = some (before, behind)) :
    text = before ++ marker ++ behind := by
  induction text generalizing before with
  | nil =>
    obtain ⟨rest, leads, same⟩ := Option.map_eq_some_iff.mp found
    obtain ⟨rfl, rfl⟩ := Prod.mk.inj same
    simpa using eq_of_behind? leads
  | cons c text ih =>
    simp only [find?] at found
    split at found
    · next rest leads =>
      obtain ⟨rfl, rfl⟩ := Prod.mk.inj (Option.some.inj found)
      simpa using eq_of_behind? leads
    · obtain ⟨⟨first, second⟩, later, same⟩ := Option.map_eq_some_iff.mp found
      obtain ⟨rfl, rfl⟩ := Prod.mk.inj same
      simp [ih later]

theorem length_listTail {position : Nat} {text : Text} {tail : Tail}
    (read : listTail position text = .ok tail) : tail.rest.length ≤ text.length := by
  have shorter : (text.dropWhile isGapChar).length ≤ text.length :=
    (List.dropWhile_sublist _).length_le
  unfold listTail at read
  split at read
  · next more opens =>
    rw [opens] at shorter
    split at read
    · next arguments rest listed =>
      have := length_list? listed
      simp only [Except.ok.injEq] at read
      subst read
      simp only [List.length_cons] at this shorter ⊢
      omega
    · simp at read
  · simp only [Except.ok.injEq] at read
    simp [← read]

theorem length_blockTail {position : Nat} {text : Text} {tail : Tail}
    (read : blockTail position text = .ok tail) : tail.rest.length ≤ text.length := by
  have shorter : (text.dropWhile isGapChar).length ≤ text.length :=
    (List.dropWhile_sublist _).length_le
  unfold blockTail at read
  split at read
  · next more opens =>
    rw [opens] at shorter
    split at read
    · next block rest listed =>
      have := length_block? listed
      simp only [Except.ok.injEq] at read
      subst read
      simp only [List.length_cons] at this shorter ⊢
      omega
    · simp at read
  · simp only [Except.ok.injEq] at read
    simp [← read]
  · simp only [Except.ok.injEq] at read
    simp [← read]

theorem length_read {position : Nat} {text rest : Text} {invocation : Invocation}
    (found : read position text = .ok (some (invocation, rest))) : rest.length < text.length := by
  have whole := congrArg List.length (List.takeWhile_append_dropWhile (p := isNameChar) (l := text))
  simp only [List.length_append] at whole
  simp only [read] at found
  split at found
  · simp at found
  · next named =>
    have positive : 0 < (text.takeWhile isNameChar).length := by
      simpa [List.length_pos_iff] using named
    simp only [bind, Except.bind] at found
    split at found
    · simp at found
    · next list listed =>
      have first := length_listTail listed
      split at found
      · simp at found
      · next block blocked =>
        have second := length_blockTail blocked
        split at found
        · next ended =>
          simp only [Except.ok.injEq, Option.some.injEq, Prod.mk.injEq] at found
          rw [ended, found.2] at second
          simp only [List.length_cons] at second
          omega
        · simp only [Except.ok.injEq, Option.some.injEq, Prod.mk.injEq] at found
          rw [found.2] at second
          omega

/-! The same by position in a source. A position need not be one of a bracket or a marker. -/

def listAt (start : Nat) (source : Text) : Except OpenError (List Text × Nat) :=
  match list? (source.drop start) with
  | some (arguments, rest) => .ok (arguments, source.length - rest.length)
  | none => .error (.list start)

def blockAt (start : Nat) (source : Text) : Except OpenError (Text × Nat) :=
  match block? (source.drop start) with
  | some (block, rest) => .ok (block, source.length - rest.length)
  | none => .error (.block start)

/-- The position of the first marker from `start` on that has the wanted name behind it. -/
def position? (marker : Text) (name : Option Text) (start : Nat) (source : Text) : Option Nat :=
  (find? marker name (source.drop start)).map fun found => start + found.1.length

structure Located where
  invocation : Invocation
  start : Nat
  stop : Nat
  deriving DecidableEq

def readAt (marker : Text) (start : Nat) (source : Text) : Except OpenError (Option Located) := do
  let position := start + marker.length
  match ← read position (source.drop position) with
  | some (invocation, rest) => .ok (some ⟨invocation, start, source.length - rest.length⟩)
  | none => .ok none

end Invocation

end Stylesheet

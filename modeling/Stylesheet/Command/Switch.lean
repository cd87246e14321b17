import Stylesheet.Text.Basic

/-!
Command line words: options with and without values, and the words between them.

A long option starts with two dashes and takes its value behind an equals sign or from the next
word. Short options start with one dash and may stand together in one word; the first of them that
takes a value takes the rest of the word, or else the next one. Two dashes alone end the options,
and one dash alone is no option.
-/

namespace Stylesheet.Command

structure Switch (Key : Type) where
  key : Key
  long : Text
  short : Option Char
  takesValue : Bool

inductive SwitchFault where
  | unknown (option : Text)
  | missingValue (option : Text)
  | unexpectedValue (option : Text)
  deriving DecidableEq

/-- The options with their values, and the words that are none, in the order they are given. -/
structure Given (Key : Type) where
  options : List (Key × Text)
  words : List Text

/-- What one word holds: options, and perhaps one more that takes the next word as its value. -/
structure Taken (Key : Type) where
  options : List (Key × Text)
  pending : Option (Key × Text)

section

variable {Key : Type} (switches : List (Switch Key))

def takeShort : Text → Except SwitchFault (Taken Key)
  | [] => .ok ⟨[], none⟩
  | c :: more =>
    match switches.find? (·.short == some c) with
    | none => .error (.unknown ['-', c])
    | some switch =>
      if switch.takesValue then
        if more.isEmpty then .ok ⟨[], some (switch.key, ['-', c])⟩
        else .ok ⟨[(switch.key, more)], none⟩
      else do
        let taken ← takeShort more
        .ok { taken with options := (switch.key, []) :: taken.options }

def takeWord (word : Text) : Except SwitchFault (Taken Key) :=
  let name := word.takeWhile (· != '=')
  let value := (word.dropWhile (· != '=')).tail?
  match switches.find? (·.long == name), value with
  | some switch, none =>
    if switch.takesValue then .ok ⟨[], some (switch.key, name)⟩
    else .ok ⟨[(switch.key, [])], none⟩
  | some switch, some value =>
    if switch.takesValue then .ok ⟨[(switch.key, value)], none⟩
    else .error (.unexpectedValue name)
  | none, _ =>
    if (Text.after? ['-', '-'] word).isSome then .error (.unknown name)
    else takeShort switches (word.drop 1)

def isSwitchWord (word : Text) : Bool := word.head? == some '-' && word.length > 1

/-- Reads a command line. Unless options may stand among the other words, the first other word ends
them. -/
def readWords (mixed : Bool) : List Text → Except SwitchFault (Given Key)
  | [] => .ok ⟨[], []⟩
  | word :: rest =>
    if word = ['-', '-'] then .ok ⟨[], rest⟩
    else if isSwitchWord word then
      match takeWord switches word with
      | .error fault => .error fault
      | .ok ⟨options, none⟩ => do
        let later ← readWords mixed rest
        .ok { later with options := options ++ later.options }
      | .ok ⟨options, some (key, name)⟩ =>
        match rest with
        | [] => .error (.missingValue name)
        | value :: rest => do
          let later ← readWords mixed rest
          .ok { later with options := options ++ (key, value) :: later.options }
    else if mixed then do
      let later ← readWords mixed rest
      .ok { later with words := word :: later.words }
    else .ok ⟨[], word :: rest⟩

end

namespace Given

variable {Key : Type} [DecidableEq Key] (given : Given Key)

def has (key : Key) : Bool := given.options.any fun entry => entry.1 = key

def values (key : Key) : List Text :=
  (given.options.filter fun entry => entry.1 = key).map (·.2)

def value? (key : Key) : Option Text := (given.values key).getLast?

end Given

end Stylesheet.Command

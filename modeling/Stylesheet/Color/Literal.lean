import Stylesheet.Text.Blank
import Stylesheet.Text.LowerCase
import Stylesheet.Text.Quoted

/-!
Colours and amounts as they are written in a stylesheet.

A colour is a hash with three, six or eight hexadecimal digits. Names and functional forms are
recognised and refused as unsupported; anything else cannot be read at all. An amount is a decimal
number, with a percent sign or without one.
-/

namespace Stylesheet

structure Color where
  red : UInt8
  green : UInt8
  blue : UInt8
  alpha : UInt8
  deriving DecidableEq

inductive LiteralError where
  | unreadableColor (text : Text)
  /-- A form of a colour that has no channels here. -/
  | unsupportedColor (text : Text)
  | badHexDigit (digit : Char)
  | unreadableAmount (text : Text)
  deriving DecidableEq

def LiteralError.message : LiteralError → Text
  | unreadableColor text => "unsupported color: ".toList ++ text.quoted
  | unsupportedColor text => "unsupported color: ".toList ++ text.quoted
  | badHexDigit digit => "invalid hex character: ".toList ++ Text.quoted [digit]
  | unreadableAmount text => "invalid amount: ".toList ++ text.quoted

def isLiteralGap (c : Char) : Bool :=
  c == ' ' || c == '\t' || c == '\x0c' || c == '\r' || c == '\n'

theorem of_isLiteralGap {p : Char → Bool} {c : Char}
    (each : [' ', '\t', '\x0c', '\r', '\n'].all p = true) (gap : isLiteralGap c = true) :
    p c = true := by
  apply List.all_eq_true.mp each
  simpa [isLiteralGap, or_assoc] using gap

def hexValue? (c : Char) : Option Nat :=
  if '0' ≤ c ∧ c ≤ '9' then some (c.toNat - '0'.toNat)
  else if 'a' ≤ c ∧ c ≤ 'f' then some (c.toNat - 'a'.toNat + 10)
  else none

namespace Color

/-- Two hexadecimal digits a channel; the opacity is written only where it is not full. -/
def print (color : Color) : Text :=
  let channel (value : UInt8) : Text := Text.hexDigits 2 value.toNat
  '#' :: channel color.red ++ channel color.green ++ channel color.blue ++
    (if color.alpha = 255 then [] else channel color.alpha)

def hexValues : Text → Except LiteralError (List Nat)
  | [] => .ok []
  | c :: rest =>
    match hexValue? c with
    | some value => (value :: ·) <$> hexValues rest
    | none => .error (.badHexDigit c)

def byte (high low : Nat) : UInt8 := (high * 16 + low).toUInt8

/-- Reads the digits behind the hash. Every digit is checked before they are counted. -/
def ofDigits (digits : Text) : Except LiteralError Color := do
  match ← hexValues digits with
  | [r, g, b] => .ok ⟨byte r r, byte g g, byte b b, 255⟩
  | [r, r', g, g', b, b'] => .ok ⟨byte r r', byte g g', byte b b', 255⟩
  | [r, r', g, g', b, b', a, a'] => .ok ⟨byte r r', byte g g', byte b b', byte a a'⟩
  | _ => .error (.unsupportedColor ('#' :: digits))

def isNameStart (c : Char) : Bool := isNameChar c && !c.isDigit

/-- The rest of a colour that starts with a name: nothing, or one group in parentheses, which runs
to the first closing one and ends the text. -/
def readGroup? (text : Text) : Option Text :=
  match text.dropWhile isLiteralGap with
  | [] => some []
  | '(' :: inner =>
    match inner.dropWhile (· != ')') with
    | [')'] => some ('(' :: inner)
    | _ => none
  | _ => none

def read (text : Text) : Except LiteralError Color :=
  let literal := text.trim
  match literal with
  | [] => .error (.unreadableColor literal)
  | c :: rest =>
    if c = '#' then
      let digits : Text := rest.dropWhile isLiteralGap
      if digits.isEmpty || digits.any isBlank then .error (.unreadableColor literal)
      else ofDigits digits.lower
    else if isNameStart c then
      match readGroup? (literal.dropWhile isNameChar) with
      | some group => .error (.unsupportedColor (literal.takeWhile isNameChar ++ group))
      | none => .error (.unreadableColor literal)
    else .error (.unreadableColor literal)

end Color

end Stylesheet

import Stylesheet.Color.Literal

/-!
Amounts: decimal numbers with an optional percent sign. The number as written is kept apart from
the double that it rounds to.
-/

namespace Stylesheet

/-- A decimal number as written: `digits` times ten to the `exponent`, with its sign. -/
structure Decimal where
  negative : Bool
  digits : Nat
  exponent : Int
  deriving DecidableEq

namespace Decimal

/-- The nearest double. A number of more than 400 places before the point is infinite and one that
starts more than 400 places behind it is zero, so that no power of ten beyond these is formed. -/
def toFloat (decimal : Decimal) : Float :=
  let places : Int := (Nat.toDigits 10 decimal.digits).length + decimal.exponent
  let magnitude : Float :=
    if decimal.digits = 0 then 0
    else if places > 400 then 1 / 0
    else if places < -400 then 0
    else Float.ofScientific decimal.digits (decimal.exponent < 0) decimal.exponent.natAbs
  if decimal.negative then -magnitude else magnitude

def ofDigits (start : Nat) (digits : Text) : Nat :=
  digits.foldl (fun value c => value * 10 + (c.toNat - '0'.toNat)) start

def readSign : Text → Bool × Text
  | '-' :: rest => (true, rest)
  | '+' :: rest => (false, rest)
  | text => (false, text)

def readExponent (text : Text) : Int × Text :=
  match text with
  | c :: rest =>
    if c = 'e' || c = 'E' then
      let (negative, unsigned) := readSign rest
      let digits := unsigned.takeWhile Char.isDigit
      -- Without digits there is no power of ten, and nothing is taken.
      if digits.isEmpty then (0, text)
      else
        let size : Int := ofDigits 0 digits
        (if negative then -size else size, unsigned.dropWhile Char.isDigit)
    else (0, text)
  | [] => (0, text)

def readFraction : Text → Option Text × Text
  | '.' :: rest => (some (rest.takeWhile Char.isDigit), rest.dropWhile Char.isDigit)
  | text => (none, text)

/-- Reads a number from the head of a text: a sign, digits with a point in or around them, and a
power of ten. At least one digit stands before or behind the point. -/
def read? (text : Text) : Option (Decimal × Text) :=
  let (negative, unsigned) := readSign text
  let whole := unsigned.takeWhile Char.isDigit
  let (fraction, scaled) := readFraction (unsigned.dropWhile Char.isDigit)
  let places := fraction.getD []
  if whole.isEmpty && places.isEmpty then none
  else
    let (power, rest) := readExponent scaled
    some (⟨negative, ofDigits (ofDigits 0 whole) places, power - places.length⟩, rest)

end Decimal

structure Amount where
  number : Decimal
  percent : Bool
  deriving DecidableEq

namespace Amount

def toFloat (amount : Amount) : Float :=
  if amount.percent then amount.number.toFloat / 100 else amount.number.toFloat

def zero : Amount := ⟨⟨false, 0, 0⟩, false⟩

def ofText? (text : Text) : Option Amount :=
  match Decimal.read? (text.dropWhile isLiteralGap) with
  | none => none
  | some (number, rest) =>
    match rest.dropWhile isLiteralGap with
    | [] => some ⟨number, false⟩
    | '%' :: more => if more.all isLiteralGap then some ⟨number, true⟩ else none
    | _ => none

/-- Reads an amount. Spaces do not count anywhere, and a text of spaces alone is zero. -/
def read (text : Text) : Except LiteralError Amount :=
  let literal := text.filter (· != ' ')
  if literal.isEmpty then .ok zero
  else
    match ofText? literal with
    | some amount => .ok amount
    | none => .error (.unreadableAmount literal)

end Amount

end Stylesheet

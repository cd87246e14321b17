import Stylesheet.Color.Amount
import Stylesheet.Color.Hls

/-!
The ways to move a colour, and colours moved step by step.
-/

namespace Stylesheet

def clampUnit (x : Float) : Float :=
  -- NaN is below no bound and counts as 1.
  let capped := if x < 1 then x else 1
  if capped > 0 then capped else 0

inductive Adjustment where
  | lighten
  | darken
  | rotateHue
  | saturate
  | desaturate
  deriving DecidableEq

namespace Adjustment

def all : List Adjustment := [lighten, darken, rotateHue, saturate, desaturate]

def name : Adjustment → Text
  | lighten => "lighten".toList
  | darken => "darken".toList
  | rotateHue => "rotateHue".toList
  | saturate => "saturate".toList
  | desaturate => "desaturate".toList

/-- Lightness and saturation move by an amount and stop at the ends of their scale; the hue turns
by a number of degrees. -/
def move (adjustment : Adjustment) (amount : Float) (hls : Hls) : Hls :=
  match adjustment with
  | lighten => { hls with lightness := clampUnit (hls.lightness + amount) }
  | darken => { hls with lightness := clampUnit (hls.lightness - amount) }
  | rotateHue => { hls with hue := fractionalPart (hls.hue + amount / 360) }
  | saturate => { hls with saturation := clampUnit (hls.saturation + amount) }
  | desaturate => { hls with saturation := clampUnit (hls.saturation - amount) }

def apply (adjustment : Adjustment) (color : Color) (amount : Float) : Color :=
  (adjustment.move amount (Hls.ofColor color)).toColor color.alpha

end Adjustment

namespace Color

/-- The colours that a list of steps leads through from `color` on. Each amount is read when its
step is reached. -/
def follow (color : Color) : List (Adjustment × Text) → Except LiteralError (List Color)
  | [] => .ok []
  | (adjustment, literal) :: steps => do
    let amount ← Amount.read literal
    let moved := adjustment.apply color amount.toFloat
    return moved :: (← follow moved steps)

def chain (literal : Text) (steps : List (Adjustment × Text)) :
    Except LiteralError (List Color) := do
  let color ← Color.read literal
  return color :: (← follow color steps)

end Color

end Stylesheet

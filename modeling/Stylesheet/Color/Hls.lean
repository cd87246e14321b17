import Stylesheet.Color.Literal

/-!
Colours by hue, lightness and saturation, each on a scale from 0 to 1 with the hue going round.
All arithmetic is in double precision, in the order written, since another order rounds to other
bytes.
-/

namespace Stylesheet

def wholePart (x : Float) : Float :=
  let size := if x < 0 then -x else x
  if size < 9007199254740992 then
    let whole := size.toUInt64.toNat.toFloat
    if x < 0 then -whole else whole
  -- From 2 ^ 53 on every double is whole.
  else x

/-- What is left of a number when whole numbers are taken from it or added to it, from 0 up to 1. An
infinite number has no such part, which gives NaN. -/
def fractionalPart (x : Float) : Float :=
  let remainder := x - wholePart x
  if remainder == 0 then 0
  else if remainder < 0 then remainder + 1
  else remainder

def nearestByte (x : Float) : UInt8 :=
  let below := x.toUInt8
  let distance := x - below.toFloat
  -- Of two bytes that are equally near, the even one.
  if below < 255 && (distance > 0.5 || (distance == 0.5 && below % 2 == 1)) then below + 1
  else below

structure Hls where
  hue : Float
  lightness : Float
  saturation : Float

namespace Hls

/-- The hue of three unequal channels, as a position on a ring of six. -/
def sextant (red green blue highest range : Float) : Float :=
  let redGap := (highest - red) / range
  let greenGap := (highest - green) / range
  let blueGap := (highest - blue) / range
  if red == highest then blueGap - greenGap
  else if green == highest then 2 + redGap - blueGap
  else 4 + greenGap - redGap

def ofColor (color : Color) : Hls :=
  let unit (channel : UInt8) : Float := channel.toFloat / 255
  let red := unit color.red
  let green := unit color.green
  let blue := unit color.blue
  let highest := unit (max color.red (max color.green color.blue))
  let lowest := unit (min color.red (min color.green color.blue))
  let sum := highest + lowest
  let range := highest - lowest
  let lightness := sum / 2
  if lowest == highest then ⟨0, lightness, 0⟩
  else
    -- The older of two formulas in use: by it #7a778a is #8a777d after a quarter turn. The newer
    -- one divides by `2 - highest - lowest`, which rounds differently and makes it #8a777e.
    let saturation := if lightness ≤ 0.5 then range / sum else range / (2 - sum)
    ⟨fractionalPart (sextant red green blue highest range / 6), lightness, saturation⟩

/-- One channel of a colour whose channels lie between `low` and `high`: it rises over a sixth of
the ring, stays high for a third, falls over a sixth and stays low for the rest. -/
def channel (low high hue : Float) : Float :=
  let turn := fractionalPart hue
  if turn < 1 / 6 then low + (high - low) * turn * 6
  else if turn < 0.5 then high
  else if turn < 2 / 3 then low + (high - low) * (2 / 3 - turn) * 6
  else low

def byte (x : Float) : UInt8 := nearestByte (x * 255)

def toColor (hls : Hls) (alpha : UInt8) : Color :=
  if hls.saturation == 0 then
    let grey := byte hls.lightness
    ⟨grey, grey, grey, alpha⟩
  else
    let high :=
      if hls.lightness ≤ 0.5 then hls.lightness * (1 + hls.saturation)
      else hls.lightness + hls.saturation - hls.lightness * hls.saturation
    let low := 2 * hls.lightness - high
    ⟨byte (channel low high (hls.hue + 1 / 3)), byte (channel low high hls.hue),
      byte (channel low high (hls.hue - 1 / 3)), alpha⟩

end Hls

end Stylesheet

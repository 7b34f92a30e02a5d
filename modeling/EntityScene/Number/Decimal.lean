import EntityScene.Number.Binary
import EntityScene.Number.Shortest

/-!
Decimal text of binary floating-point numbers and its reading. A number is written with the fewest
digits that read back, always positionally, without an exponent.
-/

namespace EntityScene

/-- The layout of a binary format: stored fraction bits and exponent bits under a sign bit. -/
structure BinaryFormat where
  fraction : Nat
  exponent : Nat

def BinaryFormat.single : BinaryFormat := ⟨23, 8⟩

def BinaryFormat.double : BinaryFormat := ⟨52, 11⟩

/-- Writes `digits * 10 ^ exponent` without an exponent. -/
def positional (digits : Nat) (exponent : Int) : String :=
  let text := Nat.toDigits 10 digits
  let zeros (count : Nat) := List.replicate count '0'
  let places := (-exponent).toNat
  String.ofList <|
    if places = 0 then text ++ zeros exponent.toNat
    else if places < text.length then
      text.take (text.length - places) ++ '.' :: text.drop (text.length - places)
    else '0' :: '.' :: (zeros (places - text.length) ++ text)

/-- Text of the number with the given bits. The sign of a NaN is not written. -/
def BinaryFormat.text (format : BinaryFormat) (bits : Nat) : String :=
  let fraction := bits % Nat.pow 2 format.fraction
  let exponent := bits / Nat.pow 2 format.fraction % Nat.pow 2 format.exponent
  let top := Nat.pow 2 format.exponent - 1
  let sign := if bits / Nat.pow 2 (format.fraction + format.exponent) % 2 = 1 then "-" else ""
  -- The exponent of the last fraction bit when the exponent field is one.
  let least : Int := 2 - (Nat.pow 2 (format.exponent - 1) + format.fraction : Nat)
  if exponent = top then
    if fraction = 0 then sign ++ "inf" else "NaN"
  else if exponent = 0 then
    if fraction = 0 then sign ++ "0"
    else
      let (digits, place) := (RoundingInterval.ofBinary fraction least false).shortest
      sign ++ positional digits place
  else
    let mantissa := Nat.pow 2 format.fraction + fraction
    let narrow := fraction == 0 && decide (1 < exponent)
    let (digits, place) :=
      (RoundingInterval.ofBinary mantissa (least + exponent - 1) narrow).shortest
    sign ++ positional digits place

def Single.text (x : Single) : String := BinaryFormat.single.text x.bits.toNat

def Double.text (x : Double) : String := BinaryFormat.double.text x.bits.toNat

/-- Text of a double that shows it is no whole number literal: a finite one without a point ends in
`.0`. -/
def Double.pointedText (x : Double) : String :=
  if x.isFinite && !x.text.contains '.' then x.text ++ ".0" else x.text

/-- The double nearest to `digits * 10 ^ exponent`. Far outside the range of doubles the power of
ten is not computed. -/
def Double.ofDecimal (digits : Nat) (exponent : Int) : Double :=
  let magnitude : Int := (Nat.toDigits 10 digits).length + exponent
  if digits = 0 || magnitude < -330 then .zero
  else if 310 < magnitude then .infinity
  else .ofFloat (Float.ofScientific digits (decide (exponent < 0)) exponent.natAbs)

end EntityScene

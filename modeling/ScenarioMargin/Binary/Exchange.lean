/-
ScenarioMargin/Binary/Exchange.lean

Between binary and decimal numbers.  A binary number becomes the decimal number
that its text writes; a decimal number becomes the nearest binary one.
-/
import ScenarioMargin.Binary.Shortest
import ScenarioMargin.Decimal.Basic

namespace ScenarioMargin

/-- The decimal number that the text of a binary number writes: its shortest
digits, and one zero behind the point of a plain whole number. -/
def Decimal.ofFloat (x : Float) : Decimal :=
  let bits := Binary.magnitudeBits x
  let negative := Binary.isNegative x
  if Binary.infinityBits < bits then .nan false false 0
  else if bits = Binary.infinityBits then .infinity negative
  else
    let found := (Binary.Magnitude.ofBits bits).shortest
    if 0 ≤ found.2 ∧ Binary.plainLayout.isPlain found.1 found.2 = true then
      .finite negative (found.1 * Nat.pow 10 (found.2.toNat + 1)) (-1)
    else .finite negative found.1 found.2

/-- A finite decimal number as the nearest binary one.  Beyond the range of
binary numbers its exponent decides. -/
def Decimal.finiteToFloat (negative : Bool) (coeff : Nat)
    (exponent : Int) : Float :=
  if coeff = 0 then Binary.ofMagnitudeBits negative 0
  else if 310 < leading coeff exponent then
    Binary.ofMagnitudeBits negative Binary.infinityBits
  else if leading coeff exponent < -330 then Binary.ofMagnitudeBits negative 0
  else Binary.nearest negative (coeff * Nat.pow 10 exponent.toNat)
    (Nat.pow 10 (-exponent).toNat)

/-- A decimal number as the nearest binary one; a signaling NaN has none. -/
def Decimal.toFloat? : Decimal → Option Float
  | .finite s c e => some (finiteToFloat s c e)
  | .infinity s => some (Binary.ofMagnitudeBits s Binary.infinityBits)
  | .nan _ true _ => none
  | .nan s false _ => some (Binary.ofMagnitudeBits s 0x7FF8000000000000)

end ScenarioMargin

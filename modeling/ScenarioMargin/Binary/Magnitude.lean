/-
ScenarioMargin/Binary/Magnitude.lean

Binary floating-point numbers as exact numbers.  The bits of a finite number
give its magnitude `mantissa * 2 ^ power`; the other way round, `nearestBits`
is the number closest to a fraction, a half going to the even mantissa.  Both
are whole-number arithmetic.
-/
namespace ScenarioMargin.Binary

/-- A finite magnitude `mantissa * 2 ^ power`. -/
structure Magnitude where
  mantissa : Nat
  power : Int
  /-- the next number below is half as far away as the next one above -/
  nearBelow : Bool
  deriving Repr

/-- The smallest power of two that a mantissa may have. -/
def leastPower : Int := -1074

/-- The number of fractions that share an exponent: two to the power 52. -/
def fractionSpan : Nat := 0x10000000000000

/-- The bit of the sign: two to the power 63. -/
def signBit : Nat := 0x8000000000000000

/-- The bits of infinity, above those of all finite magnitudes. -/
def infinityBits : Nat := 0x7FF0000000000000

/-- The magnitude that finite bits without a sign stand for. -/
def Magnitude.ofBits (bits : Nat) : Magnitude :=
  let field := bits / fractionSpan
  let rest := bits % fractionSpan
  if field = 0 then ⟨rest, leastPower, false⟩
  else ⟨fractionSpan + rest, (field : Int) - 1075, rest == 0 && 1 < field⟩

/-- The bits of a number without its sign. -/
def magnitudeBits (x : Float) : Nat :=
  x.toBits.toNat % signBit

/-- Whether the sign of a number is set. -/
def isNegative (x : Float) : Bool :=
  signBit ≤ x.toBits.toNat

/-- The number with these bits under a sign. -/
def ofMagnitudeBits (negative : Bool) (bits : Nat) : Float :=
  Float.ofBits (UInt64.ofNat (if negative then signBit + bits else bits))

/-- The nearest whole number to `num / den`, a half to the even one. -/
def nearestWhole (num den : Nat) : Nat :=
  let quotient := num / den
  let rest := num % den
  if 2 * rest < den then quotient
  else if den < 2 * rest then quotient + 1
  else quotient + quotient % 2

/-- The power of two of the leading bit of `num / den`. -/
def leadingPower (num den : Nat) : Int :=
  let guess : Int := (num.log2 : Int) - den.log2
  if den * Nat.pow 2 guess.toNat ≤ num * Nat.pow 2 (-guess).toNat then guess
  else guess - 1

/-- The bits of the number nearest to `num / den`; those of infinity beyond the
largest number. -/
def nearestBits (num den : Nat) : Nat :=
  if num = 0 then 0
  else
    let power := max (leadingPower num den - 52) leastPower
    let mantissa := nearestWhole (num * Nat.pow 2 (-power).toNat)
      (den * Nat.pow 2 power.toNat)
    min infinityBits ((power - leastPower).toNat * fractionSpan + mantissa)

/-- The number nearest to `± num / den`. -/
def nearest (negative : Bool) (num den : Nat) : Float :=
  ofMagnitudeBits negative (nearestBits num den)

/-- The whole part of a number, toward zero; an infinity or a NaN has none. -/
def whole? (x : Float) : Option Int :=
  if infinityBits ≤ magnitudeBits x then none
  else
    let v := Magnitude.ofBits (magnitudeBits x)
    let n := v.mantissa * Nat.pow 2 v.power.toNat / Nat.pow 2 (-v.power).toNat
    some (if isNegative x then -(n : Int) else n)

end ScenarioMargin.Binary

/-
ScenarioMargin/Decimal/Arithmetic.lean

Arithmetic and order on decimal numbers in the working precision.

An operation forms its exact result and rounds it once.  Two operands of a sum
may be so far apart that aligning them would take an astronomical number of
digits; the lower one is then replaced by a single digit far below the last
kept one (`absorb`), which rounds the same way.  Order is by value, without
rounding, and refuses NaNs.
-/
import ScenarioMargin.Decimal.Rounding

namespace ScenarioMargin.Decimal

/-! ### Sums -/

/-- The coefficient with `k` zeros appended. -/
def widen (coeff k : Nat) : Nat :=
  if coeff = 0 then 0 else coeff * Nat.pow 10 k

/-- A coefficient under a sign. -/
def signed (negative : Bool) (coeff : Nat) : Int :=
  if negative then -(coeff : Int) else coeff

/-- The lower operand `d * 10 ^ f` of a sum, or a single digit in its place
where it lies too far below the digits of `c * 10 ^ e` to matter for anything
but the direction of rounding. -/
def absorb (c : Nat) (e : Int) (d : Nat) (f : Int) : Nat × Int :=
  if c = 0 then (d, f)
  else
    let floor : Int :=
      e - 1 +
        if precision < digitCount c then 0
        else (digitCount c : Int) - precision - 1
    if leading d f < floor then (if d = 0 then 0 else 1, floor) else (d, f)

/-- The rounded sum of two finite numbers, the first with the higher
exponent. -/
def sumAligned (s : Bool) (c : Nat) (e : Int) (t : Bool) (d : Nat) (f : Int) :
    Except Signal Decimal :=
  let low := absorb c e d f
  let total := signed s (widen c (e - low.2).toNat) + signed t low.1
  round (if total = 0 then s && t else total < 0) total.natAbs low.2

/-- The sum of two numbers. -/
def add : Decimal → Decimal → Except Signal Decimal
  | .finite s c e, .finite t d f =>
    if f ≤ e then sumAligned s c e t d f else sumAligned t d f s c e
  | .infinity s, .infinity t =>
    if s = t then .ok (.infinity s) else .error .invalidOperation
  | .infinity s, .finite .. => .ok (.infinity s)
  | .finite .., .infinity t => .ok (.infinity t)
  | a, b => nanResult a b

/-- The number with the other sign, unrounded; a NaN stays as it is. -/
def flip : Decimal → Decimal
  | .finite s c e => .finite (!s) c e
  | .infinity s => .infinity (!s)
  | a => a

/-- The difference of two numbers. -/
def sub (a b : Decimal) : Except Signal Decimal :=
  add a b.flip

/-! ### Products and quotients -/

/-- The product of two numbers. -/
def mul : Decimal → Decimal → Except Signal Decimal
  | .finite s c e, .finite t d f => round (s != t) (c * d) (e + f)
  | .infinity s, .infinity t => .ok (.infinity (s != t))
  | .infinity s, .finite t d _ =>
    if d = 0 then .error .invalidOperation else .ok (.infinity (s != t))
  | .finite s c _, .infinity t =>
    if c = 0 then .error .invalidOperation else .ok (.infinity (s != t))
  | a, b => nanResult a b

/-- Strips trailing zeros from a coefficient, raising the exponent up to
`ideal`. -/
def stripTo (ideal : Int) (coeff : Nat) (exponent : Int) : Nat → Nat × Int
  | 0 => (coeff, exponent)
  | steps + 1 =>
    if coeff % 10 = 0 ∧ exponent < ideal then
      stripTo ideal (coeff / 10) (exponent + 1) steps
    else (coeff, exponent)

/-- The rounded quotient of two finite numbers, the second not zero.  The
quotient is computed with at least two digits more than are kept, and a last
digit that could be mistaken for a half is marked when something remains. -/
def quotient (negative : Bool) (c : Nat) (e : Int) (d : Nat) (f : Int) :
    Except Signal Decimal :=
  if c = 0 then .ok (roundZero negative (e - f))
  else
    let shift : Int := (digitCount d : Int) - digitCount c + precision + 1
    let num := c * Nat.pow 10 shift.toNat
    let den := d * Nat.pow 10 (-shift).toNat
    let q := num / den
    if num % den = 0 then
      let exact := stripTo (e - f) q (e - f - shift) (digitCount q)
      round negative exact.1 exact.2
    else round negative (if q % 5 = 0 then q + 1 else q) (e - f - shift)

/-- The quotient of two numbers. -/
def div : Decimal → Decimal → Except Signal Decimal
  | .finite s c e, .finite t d f =>
    if d = 0 then .error (if c = 0 then .invalidOperation else .divisionByZero)
    else quotient (s != t) c e d f
  | .infinity _, .infinity _ => .error .invalidOperation
  | .infinity s, .finite t _ _ => .ok (.infinity (s != t))
  | .finite s _ _, .infinity t => .ok (.finite (s != t) 0 tinyExponent)
  | a, b => nanResult a b

/-! ### Sign -/

/-- The number with the other sign, rounded; zero becomes positive. -/
def neg : Decimal → Except Signal Decimal
  | .finite s c e => round (c != 0 && !s) c e
  | .infinity s => .ok (.infinity (!s))
  | a => nanResult a a

/-- The magnitude of a number, rounded. -/
def abs : Decimal → Except Signal Decimal
  | .finite _ c e => round false c e
  | .infinity _ => .ok (.infinity false)
  | a => nanResult a a

/-! ### Order -/

/-- The order of the magnitudes `c * 10 ^ e` and `d * 10 ^ f`. -/
def compareMagnitude (c : Nat) (e : Int) (d : Nat) (f : Int) : Ordering :=
  if c = 0 ∨ d = 0 then compare c d
  else
    match compare (leading c e) (leading d f) with
    | .eq => compare (c * Nat.pow 10 (e - f).toNat) (d * Nat.pow 10 (f - e).toNat)
    | o => o

/-- The order of two numbers by value; a NaN has no place in it. -/
def compare? : Decimal → Decimal → Option Ordering
  | .finite s c e, .finite t d f =>
    some <|
      if c = 0 ∧ d = 0 then .eq
      else
        match decide (s = true ∧ c ≠ 0), decide (t = true ∧ d ≠ 0) with
        | false, false => compareMagnitude c e d f
        | true, true => compareMagnitude d f c e
        | true, false => .lt
        | false, true => .gt
  | .infinity s, .infinity t => some (compare t.toNat s.toNat)
  | .infinity s, .finite .. => some (if s then .lt else .gt)
  | .finite .., .infinity t => some (if t then .gt else .lt)
  | _, _ => none

/-- Whether the first number is below the second. -/
def lt (a b : Decimal) : Except Signal Bool :=
  match compare? a b with
  | some o => .ok (o == .lt)
  | none => .error .invalidOperation

/-- The larger of two numbers; of two equal ones the first. -/
def larger (a b : Decimal) : Except Signal Decimal := do
  if ← lt a b then return b else return a

/-- The smaller of two numbers; of two equal ones the first. -/
def smaller (a b : Decimal) : Except Signal Decimal := do
  if ← lt b a then return b else return a

/-! ### Powers of ten -/

/-- The largest step of the exponent that `scale` takes. -/
def maxStep : Nat := 2 * (maxExponent.toNat + precision)

/-- The number times `10 ^ n`, by moving the exponent. -/
def scale (a : Decimal) (n : Int) : Except Signal Decimal :=
  match a with
  | .nan .. => nanResult a a
  | .infinity s =>
    if maxStep < n.natAbs then .error .invalidOperation else .ok (.infinity s)
  | .finite s c e =>
    if maxStep < n.natAbs then .error .invalidOperation else round s c (e + n)

/-- The finite number `± c * 10 ^ e` with its last digit at exponent `f`, cut
toward zero. -/
def cutAt (s : Bool) (c : Nat) (e f : Int) : Except Signal Decimal :=
  if f < tinyExponent ∨ maxExponent < f then .error .invalidOperation
  else if c = 0 then .ok (.finite s 0 f)
  else if (precision : Int) < digitCount c + (e - f) then .error .invalidOperation
  else
    let kept :=
      if f ≤ e then c * Nat.pow 10 (e - f).toNat else dropDown c (f - e).toNat
    if maxExponent < leading kept f then .error .invalidOperation
    else .ok (.finite s kept f)

/-- The number with the exponent of `unit`, cut toward zero; refused where the
digits do not fit. -/
def quantizeDown : Decimal → Decimal → Except Signal Decimal
  | .finite s c e, .finite _ _ f => cutAt s c e f
  | .infinity s, .infinity _ => .ok (.infinity s)
  | .infinity _, .finite .. => .error .invalidOperation
  | .finite .., .infinity _ => .error .invalidOperation
  | a, b => nanResult a b

end ScenarioMargin.Decimal

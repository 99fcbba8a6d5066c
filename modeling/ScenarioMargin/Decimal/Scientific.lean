/-
ScenarioMargin/Decimal/Scientific.lean

Writing decimal numbers without loss.  The coefficient is written with all its
digits; the exponent moves the point while that takes at most five zeros behind
it, and is written out after `E` otherwise, so that the text gives back
coefficient and exponent.
-/
import ScenarioMargin.Decimal.Basic

namespace ScenarioMargin.Decimal

/-- The digits of a whole number. -/
def wholeChars (n : Nat) : List Char :=
  Nat.toDigits 10 n

/-- An exponent with its sign. -/
def exponentChars (e : Int) : List Char :=
  'E' :: (if e < 0 then '-' else '+') :: wholeChars e.natAbs

/-- Digits with a point so placed that `places` of them follow it. -/
def pointed (ds : List Char) (places : Nat) : List Char :=
  if places = 0 then ds
  else if places < ds.length then
    ds.take (ds.length - places) ++ '.' :: ds.drop (ds.length - places)
  else '0' :: '.' :: (List.replicate (places - ds.length) '0' ++ ds)

/-- Digits with a point after the first. -/
def pointedFirst : List Char → List Char
  | [] => []
  | [d] => [d]
  | d :: rest => d :: '.' :: rest

/-- The characters of an unsigned finite number. -/
def finiteChars (coeff : Nat) (exponent : Int) : List Char :=
  let ds := wholeChars coeff
  let lead := exponent + ds.length - 1
  if exponent ≤ 0 ∧ -6 ≤ lead then pointed ds exponent.natAbs
  else pointedFirst ds ++ exponentChars lead

/-- The digits of a NaN's payload; none for zero. -/
def payloadChars (payload : Nat) : List Char :=
  if payload = 0 then [] else wholeChars payload

/-- The sign of a negative number. -/
def signChars (negative : Bool) : List Char :=
  if negative then ['-'] else []

/-- The characters of a number. -/
def toChars : Decimal → List Char
  | .finite s c e => signChars s ++ finiteChars c e
  | .infinity s => signChars s ++ "Infinity".toList
  | .nan s signaling p =>
    signChars s ++ (if signaling then ['s'] else []) ++ "NaN".toList ++
      payloadChars p

/-- The text of a number. -/
def toText (a : Decimal) : String :=
  String.ofList a.toChars

end ScenarioMargin.Decimal

/-
ScenarioMargin/Text/Hex.lean

Bytes written as pairs of hexadecimal digits.  Written text is lower case
without spaces; read text may have either case and white space around the
pairs, but not inside one.
-/
import ScenarioMargin.Text.Blank

namespace ScenarioMargin.Text.Hex

/-- The value of a hexadecimal digit in either case. -/
def digit? (c : Char) : Option Nat :=
  if '0' ≤ c ∧ c ≤ '9' then some (c.toNat - 48)
  else if 'a' ≤ c ∧ c ≤ 'f' then some (c.toNat - 87)
  else if 'A' ≤ c ∧ c ≤ 'F' then some (c.toNat - 55)
  else none

/-- The lower-case digit with a value below sixteen. -/
def digitOf (n : Nat) : Char :=
  if n < 10 then Char.ofNat (48 + n) else Char.ofNat (87 + n)

/-- The byte of a pair of digits. -/
def pair? (high low : Char) : Option UInt8 := do
  let h ← digit? high
  let l ← digit? low
  return UInt8.ofNat (16 * h + l)

/-- The bytes that a list of characters writes. -/
def decode : List Char → Option (List UInt8)
  | [] => some []
  | [c] => if isPlainBlank c then some [] else none
  | c :: d :: rest =>
    if isPlainBlank c then decode (d :: rest)
    else
      match pair? c d with
      | none => none
      | some b => (decode rest).map (b :: ·)

/-- The digits of a list of bytes. -/
def encode : List UInt8 → List Char
  | [] => []
  | b :: rest => digitOf (b.toNat / 16) :: digitOf (b.toNat % 16) :: encode rest

/-- The text of a list of bytes. -/
def text (bytes : List UInt8) : String :=
  String.ofList (encode bytes)

end ScenarioMargin.Text.Hex

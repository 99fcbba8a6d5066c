/-
ScenarioMargin/Text/Blank.lean

White space.  Decimal numerals may be surrounded by any of it (`isBlank`).
Whole numbers and bytes written in hex know two smaller sets: the six
characters of plain text (`isPlainBlank`), and these together with the white
space outside plain text (`isWideBlank`).
-/
namespace ScenarioMargin.Text

/-- White space of plain text: tab, the line breaks, form feed and space. -/
def isPlainBlank (c : Char) : Bool :=
  (9 ≤ c.toNat && c.toNat ≤ 13) || c.toNat == 32

/-- White space outside plain text. -/
def isForeignBlank (c : Char) : Bool :=
  [0x85, 0xA0, 0x1680, 0x2028, 0x2029, 0x202F, 0x205F, 0x3000].contains c.toNat
    || (0x2000 ≤ c.toNat && c.toNat ≤ 0x200A)

/-- White space that may surround a whole number. -/
def isWideBlank (c : Char) : Bool :=
  isPlainBlank c || isForeignBlank c

/-- White space of any kind, the four separator controls included. -/
def isBlank (c : Char) : Bool :=
  isWideBlank c || (28 ≤ c.toNat && c.toNat ≤ 31)

/-- The text without the characters of a class at its two ends. -/
def trim (blank : Char → Bool) (cs : List Char) : List Char :=
  ((cs.dropWhile blank).reverse.dropWhile blank).reverse

end ScenarioMargin.Text

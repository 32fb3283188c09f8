/-!
# Numerals

Unsigned decimal numbers as they stand in settings, kernel files and command lines.

* **`value`** — the number a run of digits denotes.
* **`readDigits?`** — reads at least one digit, with nothing around it, when the number is below a
  bound.  Superfluous zeros are allowed.
* **`read?`** — reads the same with an optional plus sign before it.  A minus sign is not allowed,
  even before a zero.
* **`readUInt64?`**, **`readUInt32?`** — the two widths the library reads.
-/

namespace OpTiming.Text.Numeral

/-- The value of one decimal digit; the character is taken to be one. -/
def digitValue (c : Char) : Nat := c.toNat - '0'.toNat

/-- The number that a run of decimal digits denotes. -/
def value (digits : List Char) : Nat :=
  digits.foldl (fun n c => 10 * n + digitValue c) 0

/-- Whether a text is a run of at least one decimal digit. -/
def isRun (cs : List Char) : Bool := !cs.isEmpty && cs.all Char.isDigit

/-- A text without the plus sign it may start with. -/
def dropPlus : List Char → List Char
  | '+' :: cs => cs
  | cs => cs

/-- Read a run of digits that denotes a number below a bound. -/
def readDigits? (bound : Nat) (digits : List Char) : Option Nat :=
  if isRun digits ∧ value digits < bound then some (value digits) else none

/-- Read an unsigned number below a bound. -/
def read? (bound : Nat) (cs : List Char) : Option Nat := readDigits? bound (dropPlus cs)

/-- Read a 64-bit unsigned number. -/
def readUInt64? (cs : List Char) : Option UInt64 :=
  (read? UInt64.size cs).map UInt64.ofNat

/-- Read a 32-bit unsigned number. -/
def readUInt32? (cs : List Char) : Option UInt32 :=
  (read? UInt32.size cs).map UInt32.ofNat

end OpTiming.Text.Numeral

import OpTiming.Decimal.Shortest
import OpTiming.Text.Numeral

/-!
# Number literals

A JSON number is kept as it is spelled: a **`Literal`** holds the sign, the digits before and after
the point and the exponent, so that nothing is rounded before it is known what the number is for.

* **`text`**, **`read?`** — the spelling of a literal, and the literal of a spelling.
* **`ofNat`**, **`ofFloat?`** — the literal under which a number is written.  A count is written in
  full.  A double-precision number is written with the fewest digits that read back, always with a
  point or an exponent; one whose first digit stands between the fifth place after the point and the
  sixteenth before it has no exponent.
* **`toNat?`**, **`toFloat?`** — what a literal denotes.  Counts are read exactly.  For a
  double-precision number the digits are first gathered into a 64-bit significand, and the power of
  ten is then applied by a single multiplication or division, so the result is not always the
  nearest number.
-/

namespace OpTiming.Json

/-- How the sign of an exponent is spelled. -/
inductive ExponentSign
  | absent | plus | minus
  deriving DecidableEq, Repr

/-- A number as it is spelled. -/
structure Literal where
  /-- Whether a minus sign stands before it. -/
  negative : Bool
  /-- The digits before the point: at least one, and a first zero stands alone. -/
  whole : List Char
  /-- The digits after the point; none if there is no point. -/
  fraction : List Char
  /-- The exponent's sign and digits, if there is an exponent. -/
  exponent : Option (ExponentSign × List Char)
  deriving DecidableEq, Repr

namespace Literal

/-! ## Spelling -/

/-- The spelling of an exponent's sign. -/
def signText : ExponentSign → List Char
  | .absent => []
  | .plus => ['+']
  | .minus => ['-']

/-- The spelling of a literal. -/
def text (l : Literal) : List Char :=
  (if l.negative then ['-'] else []) ++ l.whole ++
    (if l.fraction.isEmpty then [] else '.' :: l.fraction) ++
    match l.exponent with
    | none => []
    | some (sign, digits) => 'e' :: (signText sign ++ digits)

/-- Whether a run of digits may stand before the point. -/
def isWhole : List Char → Bool
  | ['0'] => true
  | '0' :: _ => false
  | cs => Text.Numeral.isRun cs

/-- Read the part after the mark of an exponent. -/
def readExponent? : List Char → Option (ExponentSign × List Char)
  | '+' :: ds => if Text.Numeral.isRun ds then some (.plus, ds) else none
  | '-' :: ds => if Text.Numeral.isRun ds then some (.minus, ds) else none
  | ds => if Text.Numeral.isRun ds then some (.absent, ds) else none

/-- Read the part after the whole digits: a fraction, an exponent, both or neither. -/
def readTail? (negative : Bool) (whole : List Char) : List Char → Option Literal
  | [] => some ⟨negative, whole, [], none⟩
  | '.' :: cs =>
    let fraction := cs.takeWhile Char.isDigit
    if fraction.isEmpty then none
    else match cs.dropWhile Char.isDigit with
      | [] => some ⟨negative, whole, fraction, none⟩
      | c :: ds =>
        if c == 'e' || c == 'E' then
          (readExponent? ds).map fun e => ⟨negative, whole, fraction, some e⟩
        else none
  | c :: ds =>
    if c == 'e' || c == 'E' then (readExponent? ds).map fun e => ⟨negative, whole, [], some e⟩
    else none

/-- Read an unsigned literal. -/
def readUnsigned? (negative : Bool) (cs : List Char) : Option Literal :=
  let whole := cs.takeWhile Char.isDigit
  if isWhole whole then readTail? negative whole (cs.dropWhile Char.isDigit) else none

/-- Read a literal; all of the text has to belong to it. -/
def read? : List Char → Option Literal
  | '-' :: cs => readUnsigned? true cs
  | cs => readUnsigned? false cs

/-! ## Writing numbers -/

/-- A count, written in full. -/
def ofNat (n : Nat) : Literal := ⟨false, Nat.toDigits 10 n, [], none⟩

/-- Where the written form of a number changes. -/
structure Layout where
  /-- The least decimal exponent that is written without an exponent. -/
  leastPlain : Int
  /-- The least decimal exponent above it that is written with an exponent again. -/
  firstLarge : Int

/-- Numbers from `0.00001` up to below `10 ^ 16` are written without an exponent. -/
def layout : Layout := ⟨-5, 16⟩

/-- Write digits without an exponent, with at least one digit on both sides of the point. -/
def plain (negative : Bool) (d : Decimal.Digits) : Literal :=
  if d.point ≤ 0 then
    ⟨negative, ['0'], List.replicate (-d.point).toNat '0' ++ d.digits, none⟩
  else
    let n := d.point.toNat
    let whole := d.digits.take n ++ List.replicate (n - d.digits.length) '0'
    let fraction := d.digits.drop n
    ⟨negative, whole, if fraction.isEmpty then ['0'] else fraction, none⟩

/-- Write digits with an exponent, one digit before the point. -/
def scientific (negative : Bool) (d : Decimal.Digits) : Literal :=
  let e := d.point - 1
  let sign := if e < 0 then ExponentSign.minus else .plus
  ⟨negative, d.digits.take 1, d.digits.drop 1, some (sign, Nat.toDigits 10 e.natAbs)⟩

/-- The literal of a finite number; there is none for the other ones. -/
def ofFloat? (x : Float) : Option Literal :=
  match Decimal.Binary.ofFloat x with
  | .nan | .infinite _ => none
  | .finite negative 0 _ => some ⟨negative, ['0'], ['0'], none⟩
  | .finite negative mantissa exponent =>
    let d := Decimal.shortest mantissa exponent
    if layout.leastPlain ≤ d.point - 1 ∧ d.point - 1 < layout.firstLarge then
      some (plain negative d)
    else some (scientific negative d)

/-! ## Reading numbers -/

/-- Whether a literal has neither fraction nor exponent. -/
def isInteger (l : Literal) : Bool := l.fraction.isEmpty && l.exponent.isNone

/-- The count that a literal denotes.  A minus sign rules a count out, even before zero. -/
def toNat? (l : Literal) : Option Nat :=
  if l.isInteger && !l.negative then some (Text.Numeral.value l.whole) else none

/-- A significand and a power of ten, gathered digit by digit. -/
structure Gathered where
  significand : Nat
  exponent : Int
  /-- Whether a digit on the present side of the point did not fit any more; from then on the digits
  of that side are only counted or dropped. -/
  full : Bool

/-- Take in a digit before the point.  One that no longer fits 64 bits only counts as a place. -/
def Gathered.pushWhole (g : Gathered) (c : Char) : Gathered :=
  let next := 10 * g.significand + Text.Numeral.digitValue c
  if g.full || UInt64.size ≤ next then { g with exponent := g.exponent + 1, full := true }
  else { g with significand := next }

/-- Take in a digit after the point.  One that no longer fits 64 bits is dropped. -/
def Gathered.pushFraction (g : Gathered) (c : Char) : Gathered :=
  let next := 10 * g.significand + Text.Numeral.digitValue c
  if g.full || UInt64.size ≤ next then { g with full := true }
  else { g with significand := next, exponent := g.exponent - 1 }

/-- The digits of a literal, gathered: those before the point, then those after it. -/
def gathered (l : Literal) : Gathered :=
  let whole := l.whole.foldl Gathered.pushWhole ⟨0, 0, false⟩
  l.fraction.foldl Gathered.pushFraction { whole with full := false }

/-- The power of ten that a literal's exponent denotes. -/
def exponentValue (l : Literal) : Int :=
  match l.exponent with
  | none => 0
  | some (.minus, digits) => -(Text.Numeral.value digits : Int)
  | some (_, digits) => Text.Numeral.value digits

/-- A power of ten as a double-precision number; the exponent is at most 308. -/
def powerOfTen (n : Nat) : Float := Float.ofScientific 1 false n

/-- Divide by powers of ten; each step takes off at most 308, and a zero stays zero. -/
def scaleDown (x : Float) (n : Nat) : Float :=
  if h : n ≤ 308 then x / powerOfTen n
  else if x == 0 then x
  else scaleDown (x / powerOfTen 308) (n - 308)
termination_by n
decreasing_by omega

/-- Apply a power of ten to a number; nothing where the result is out of range. -/
def scale? (x : Float) (exponent : Int) : Option Float :=
  if exponent < 0 then some (scaleDown x exponent.natAbs)
  else if exponent ≤ 308 then
    let y := x * powerOfTen exponent.toNat
    if y.isInf then none else some y
  else if x == 0 then some x
  else none

/-- The double-precision number that a literal denotes, unless it is out of range. -/
def toFloat? (l : Literal) : Option Float :=
  let g := l.gathered
  (scale? g.significand.toFloat (g.exponent + l.exponentValue)).map fun x =>
    if l.negative then -x else x

end Literal

end OpTiming.Json

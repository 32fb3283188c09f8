import OpTiming.Json.Printer

/-!
# Written forms

How the records of the library are written as JSON values and read back.  **`Form`** pairs the two
directions for a type; the rest of this module are the parts they are made of.

* *Scalars.* A count is read exactly and has to fit its width; a number with a fraction or an
  exponent is no count.  A real number may be spelled as a count.
* *Records.* An object whose members are named after the fields, in any order: a missing or repeated
  field is refused, a member of another name is ignored.  An array of all fields in order does as
  well.
* *Variants.* The name of a variant; one with contents is an object with that single member.  A
  variant without contents may also be written as such an object around `null`.
-/

namespace OpTiming.Json

/-- How a type is written as a JSON value, and read from one. -/
class Form (α : Type) where
  encode : α → Value
  decode : Value → Option α

namespace Form

variable {α : Type} [Form α]

/-- The text of a value, without blanks. -/
def compact (x : α) : String := String.ofList (encode x).compact

/-- The text of a value, on several lines. -/
def pretty (x : α) : String := String.ofList (encode x).pretty

/-- Read a value from a text. -/
def parse? (text : String) : Option α := (Value.parse? text.toList).bind decode

end Form

/-! ## Scalars -/

def ofString (s : String) : Value := .string (some s.toList)

def toString? : Value → Option String
  | .string spelled => spelled.map String.ofList
  | _ => none

def ofBool (b : Bool) : Value := .bool b

def toBool? : Value → Option Bool
  | .bool b => some b
  | _ => none

def ofNat (n : Nat) : Value := .number (.ofNat n)

/-- Read a count below a bound. -/
def toNat? (bound : Nat) : Value → Option Nat
  | .number literal => literal.toNat?.filter (· < bound)
  | _ => none

def toUInt64? (v : Value) : Option UInt64 := (toNat? UInt64.size v).map UInt64.ofNat

def toUInt32? (v : Value) : Option UInt32 := (toNat? UInt32.size v).map UInt32.ofNat

/-- Write a real number; what is not finite becomes null. -/
def ofFloat (x : Float) : Value :=
  match Literal.ofFloat? x with
  | some literal => .number literal
  | none => .null

def toFloat? : Value → Option Float
  | .number literal => literal.toFloat?
  | _ => none

/-- Write a text that may be absent. -/
def ofOptionalString : Option String → Value
  | none => .null
  | some s => ofString s

/-- Read a text that may be absent, from a member that may be absent. -/
def toOptionalString? : Option Value → Option (Option String)
  | none | some .null => some none
  | some v => (toString? v).map some

/-! ## Records -/

def record (members : List (String × Value)) : Value :=
  .object (members.map fun (key, value) => (some key.toList, value))

/-- The values of the members that have a certain key. -/
def valuesOf (key : String) (members : List (Spelled × Value)) : List Value :=
  (members.filter fun member => member.1 == some key.toList).map (·.2)

/-- The value of each field of a record, if it is there. -/
def fields? (names : List String) : Value → Option (List (Option Value))
  | .object members =>
    if members.any fun member => member.1.isNone then none
    else names.mapM fun name =>
      -- a key that stands there twice spoils the record, also with one value both times
      match valuesOf name members with
      | [] => some none
      | [value] => some (some value)
      | _ => none
  -- a record may be given by position as well, but then with all of its fields
  | .array items => if items.length = names.length then some (items.map some) else none
  | _ => none

/-! ## Variants -/

/-- Write a variant without contents. -/
def variant (name : String) : Value := ofString name

/-- Write a variant with contents. -/
def variantOf (name : String) (contents : Value) : Value := record [(name, contents)]

/-- The name of a variant and its contents, where it has any. -/
def variant? : Value → Option (String × Option Value)
  | .string (some name) => some (String.ofList name, none)
  | .object [(some name, contents)] => some (String.ofList name, some contents)
  | _ => none

/-- Whether the contents of a variant are those of one without contents. -/
def isUnit : Option Value → Bool
  | none | some .null => true
  | some _ => false

/-- Read one of several variants without contents, each given with its name. -/
def unitVariant? {α : Type} (all : List α) (name : α → String) (v : Value) : Option α :=
  match variant? v with
  | some (text, contents) => if isUnit contents then all.find? fun x => name x == text else none
  | none => none

end OpTiming.Json

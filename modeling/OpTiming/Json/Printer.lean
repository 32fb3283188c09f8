import OpTiming.Json.Value

/-!
# Printing values

Two layouts of a value.  **`compact`** puts nothing between tokens.  **`pretty`** puts every item
and member on a line of its own, two blanks deeper than what holds it, and one blank after a colon;
an array or object without contents stays on one line.

A literal that denotes no text has no spelling to give back; it is printed as the empty text.  No
value the library writes holds one.
-/

namespace OpTiming.Json.Value

/-- The spelling of a string literal. -/
def spell (spelled : Spelled) : List Char := Text.quote (spelled.getD [])

/-- A scalar in either layout. -/
def boolText (b : Bool) : List Char := if b then ['t', 'r', 'u', 'e'] else ['f', 'a', 'l', 's', 'e']

def nullText : List Char := ['n', 'u', 'l', 'l']

/-! ## Without blanks -/

mutual

/-- The text of a value with nothing between tokens. -/
def compact : Value → List Char
  | null => nullText
  | bool b => boolText b
  | number literal => literal.text
  | string spelled => spell spelled
  | array [] => ['[', ']']
  | array (item :: items) => '[' :: (compact item ++ compactItems items)
  | object [] => ['\x7b', '\x7d']
  | object ((key, value) :: members) =>
    '\x7b' :: (spell key ++ ':' :: (compact value ++ compactMembers members))

/-- The items after the first one, and the end of their array. -/
def compactItems : List Value → List Char
  | [] => [']']
  | item :: items => ',' :: (compact item ++ compactItems items)

/-- The members after the first one, and the end of their object. -/
def compactMembers : List (Spelled × Value) → List Char
  | [] => ['\x7d']
  | (key, value) :: members =>
    ',' :: (spell key ++ ':' :: (compact value ++ compactMembers members))

end

/-! ## On lines of their own -/

/-- A new line at some depth. -/
def newLine (depth : Nat) : List Char := '\n' :: List.replicate (2 * depth) ' '

mutual

/-- The text of a value that starts at some depth, with its contents on lines of their own. -/
def prettyAt (depth : Nat) : Value → List Char
  | null => nullText
  | bool b => boolText b
  | number literal => literal.text
  | string spelled => spell spelled
  | array [] => ['[', ']']
  | array (item :: items) =>
    '[' :: (newLine (depth + 1) ++ prettyAt (depth + 1) item ++ prettyItems depth items)
  | object [] => ['\x7b', '\x7d']
  | object ((key, value) :: members) =>
    '\x7b' :: (newLine (depth + 1) ++ spell key ++ ':' :: ' ' ::
      (prettyAt (depth + 1) value ++ prettyMembers depth members))

/-- The items after the first one, and the end of their array. -/
def prettyItems (depth : Nat) : List Value → List Char
  | [] => newLine depth ++ [']']
  | item :: items =>
    ',' :: (newLine (depth + 1) ++ prettyAt (depth + 1) item ++ prettyItems depth items)

/-- The members after the first one, and the end of their object. -/
def prettyMembers (depth : Nat) : List (Spelled × Value) → List Char
  | [] => newLine depth ++ ['\x7d']
  | (key, value) :: members =>
    ',' :: (newLine (depth + 1) ++ spell key ++ ':' :: ' ' ::
      (prettyAt (depth + 1) value ++ prettyMembers depth members))

end

/-- The text of a value with its contents on lines of their own. -/
def pretty (v : Value) : List Char := prettyAt 0 v

end OpTiming.Json.Value

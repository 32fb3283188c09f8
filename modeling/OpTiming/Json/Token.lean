import OpTiming.Json.Literal
import OpTiming.Json.Text

/-!
# Tokens

A JSON text as a sequence of tokens.  Blanks — space, tabulator, line feed and carriage return —
only stand between tokens, so two texts that differ in nothing but their layout have the same
tokens.  **`ofChars?`** reads a text; it needs one step for every character at most, and the number
of steps left is its first argument.
-/

namespace OpTiming.Json

/-- A word of a JSON text. -/
inductive Token
  | openArray | closeArray | openObject | closeObject | colon | comma
  | null
  | bool (value : Bool)
  | number (literal : Literal)
  | string (spelled : Spelled)
  deriving DecidableEq, Repr

namespace Token

/-- Whether a character may stand between tokens. -/
def isBlank (c : Char) : Bool := c == ' ' || c == '\t' || c == '\n' || c == '\r'

/-- Whether a character can belong to a number. -/
def isNumeric (c : Char) : Bool :=
  c.isDigit || c == '-' || c == '+' || c == '.' || c == 'e' || c == 'E'

/-- The token of a single character. -/
def mark? : Char → Option Token
  | '[' => some openArray
  | ']' => some closeArray
  | '\x7b' => some openObject
  | '\x7d' => some closeObject
  | ':' => some colon
  | ',' => some comma
  | _ => none

/-- The token of a word in small letters. -/
def word? : List Char → Option Token
  | ['n', 'u', 'l', 'l'] => some null
  | ['t', 'r', 'u', 'e'] => some (bool true)
  | ['f', 'a', 'l', 's', 'e'] => some (bool false)
  | _ => none

/-- The first token of a text that starts with a given character, and what follows it. -/
def next? (c : Char) (rest : List Char) : Option (Token × List Char) :=
  match mark? c with
  | some token => some (token, rest)
  | none =>
    if c == '"' then (Text.scan rest).map fun (spelled, rest) => (string spelled, rest)
    else if c.isLower then
      (word? ((c :: rest).takeWhile Char.isLower)).map (·, (c :: rest).dropWhile Char.isLower)
    else
      (Literal.read? ((c :: rest).takeWhile isNumeric)).map fun literal =>
        (number literal, (c :: rest).dropWhile isNumeric)

/-- The tokens of a text, within a number of steps. -/
def ofCharsWithin? : Nat → List Char → Option (List Token)
  | _, [] => some []
  | 0, _ :: _ => none
  | steps + 1, c :: rest =>
    if isBlank c then ofCharsWithin? steps rest
    else match next? c rest with
      | none => none
      | some (token, rest) => (ofCharsWithin? steps rest).map (token :: ·)

/-- The tokens of a text. -/
def ofChars? (cs : List Char) : Option (List Token) := ofCharsWithin? cs.length cs

end Token

end OpTiming.Json

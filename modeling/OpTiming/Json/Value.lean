import OpTiming.Json.Token

/-!
# Values

The values that JSON texts denote.  An object keeps all its members, in order and with repeated
keys, because it is for the reader of a record to say what a repeated key means.

* **`ofTokens?`** — the value of a sequence of tokens, read by a machine that looks at one token at a
  time.  What is open lies on a stack: an array with the items read so far, or an object with the
  members read so far and the key whose value is due.
* **`parse?`** — the value of a text; nothing but blanks may follow it.
-/

namespace OpTiming.Json

/-- A JSON value. -/
inductive Value
  | null
  | bool (value : Bool)
  | number (literal : Literal)
  | string (spelled : Spelled)
  | array (items : List Value)
  | object (members : List (Spelled × Value))

namespace Value

/-! ## The value of tokens -/

/-- Something open: what has been read of it, in reverse. -/
inductive Frame
  | items (before : List Value)
  | members (before : List (Spelled × Value)) (key : Spelled)

/-- What may come next, above what is open. -/
inductive Due
  /-- A value. -/
  | value (stack : List Frame)
  /-- The first item of an array, or its end. -/
  | firstItem (stack : List Frame)
  /-- The first key of an object, or its end. -/
  | firstKey (stack : List Frame)
  /-- A further key of an object. -/
  | key (stack : List Frame) (before : List (Spelled × Value))
  /-- The colon after a key. -/
  | colon (stack : List Frame) (before : List (Spelled × Value)) (key : Spelled)
  /-- What follows a complete value. -/
  | rest (stack : List Frame) (value : Value)

/-- Take a token where a value may start. -/
def start? (stack : List Frame) : Token → Option Due
  | .null => some (.rest stack null)
  | .bool b => some (.rest stack (bool b))
  | .number literal => some (.rest stack (number literal))
  | .string spelled => some (.rest stack (string spelled))
  | .openArray => some (.firstItem stack)
  | .openObject => some (.firstKey stack)
  | _ => none

/-- Take a token after a complete value. -/
def continue? (v : Value) : List Frame → Token → Option Due
  | .items before :: stack, .comma => some (.value (.items (v :: before) :: stack))
  | .items before :: stack, .closeArray => some (.rest stack (array (v :: before).reverse))
  | .members before key :: stack, .comma => some (.key stack ((key, v) :: before))
  | .members before key :: stack, .closeObject =>
    some (.rest stack (object ((key, v) :: before).reverse))
  | _, _ => none

/-- Take one token. -/
def step? : Due → Token → Option Due
  | .value stack, token => start? stack token
  | .firstItem stack, .closeArray => some (.rest stack (array []))
  | .firstItem stack, token => start? (.items [] :: stack) token
  | .firstKey stack, .closeObject => some (.rest stack (object []))
  | .firstKey stack, .string key => some (.colon stack [] key)
  | .key stack before, .string key => some (.colon stack before key)
  | .colon stack before key, .colon => some (.value (.members before key :: stack))
  | .rest stack v, token => continue? v stack token
  | _, _ => none

def run? : Due → List Token → Option Due
  | due, [] => some due
  | due, token :: rest => (step? due token).bind (run? · rest)

/-- The value of a sequence of tokens. -/
def ofTokens? (ts : List Token) : Option Value :=
  match run? (.value []) ts with
  | some (.rest [] v) => some v
  | _ => none

/-- The value of a text. -/
def parse? (cs : List Char) : Option Value := (Token.ofChars? cs).bind ofTokens?

end Value

end OpTiming.Json

import OpTiming.Json.Form

/-!
# Output formats

Result lines are written for people (`text`) or for programs (`json`, one JSON object a line).
-/

namespace OpTiming

/-- How result lines are written. -/
inductive OutputFormat
  | text
  | json
  deriving DecidableEq, Repr

namespace OutputFormat

/-- The name under which a format is serialised. -/
def variant : OutputFormat → String
  | text => "Text"
  | json => "Json"

def all : List OutputFormat := [text, json]

def decode (v : Json.Value) : Option OutputFormat := Json.unitVariant? all variant v

instance : Json.Form OutputFormat := ⟨fun format => Json.variant format.variant, decode⟩

end OutputFormat

end OpTiming

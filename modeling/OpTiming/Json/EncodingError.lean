import OpTiming.Text.Numeral

/-!
# Errors of encoding

Why a value has no JSON text, in words, and the place where that was noticed if there is one.  The
place stands at the end of an error's text, as in `not a map at line 3 column 7`.  Lines are counted
from one, so an error that names line zero has no place, and none is shown.

* **`EncodingError.read`** — the error that a text describes.  Only the last place in it counts, and
  only if the text ends there; any other text is words from end to end.
* **`EncodingError.text`** — the text of an error.
-/

namespace OpTiming.Json

/-- A place in a JSON text. -/
structure Place where
  /-- The line, counted from one. -/
  line : Nat
  column : Nat
  deriving DecidableEq, Repr

/-- Why a value has no JSON text. -/
structure EncodingError where
  words : String
  /-- Where it was noticed. -/
  place? : Option Place
  deriving DecidableEq, Repr

namespace Place

/-- What introduces a line. -/
def lineMark : List Char := " at line ".toList

/-- What introduces a column. -/
def columnMark : List Char := " column ".toList

/-- Read a place, without the mark before its line: two numbers of 64 bits and the mark between. -/
def read? (cs : List Char) : Option Place :=
  let rest := cs.dropWhile Char.isDigit
  if columnMark.isPrefixOf rest then
    match Text.Numeral.readDigits? UInt64.size (cs.takeWhile Char.isDigit),
        Text.Numeral.readDigits? UInt64.size (rest.drop columnMark.length) with
    | some line, some column => some ⟨line, column⟩
    | _, _ => none
  else none

/-- A place as it stands at the end of a text. -/
def text (p : Place) : String :=
  String.ofList lineMark ++ toString p.line ++ String.ofList columnMark ++ toString p.column

end Place

namespace EncodingError

/-- What stands before and after the last occurrence of a mark, which has a character at least. -/
def splitLast? (mark : List Char) : List Char → Option (List Char × List Char)
  | [] => none
  | c :: cs =>
    match splitLast? mark cs with
    | some (before, after) => some (c :: before, after)
    | none =>
      if mark.isPrefixOf (c :: cs) then some ([], (c :: cs).drop mark.length) else none

/-- The words of a text and the place at its end, where there is one. -/
def split? (text : String) : Option (String × Place) :=
  match splitLast? Place.lineMark text.toList with
  | none => none
  | some (words, place) => (Place.read? place).map (String.ofList words, ·)

/-- The error that a text describes. -/
def read (text : String) : EncodingError :=
  match split? text with
  | none => ⟨text, none⟩
  | some (words, place) => ⟨words, if place.line = 0 then none else some place⟩

def text (e : EncodingError) : String := e.words ++ (e.place?.map Place.text).getD ""

end EncodingError

end OpTiming.Json

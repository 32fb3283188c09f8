/-!
# Blanks, words and lines

How a text is cut before anything is read from it.  Every reader of the library works on the
characters of a text, so the cuts are functions on `List Char`:

* **`split`** — the stretches between the characters of a class, empty ones included.  It is the
  only cut that recurses; the others are written through it.
* **`trim`**, **`words`** — what is left when blanks are taken from both ends, or everywhere.
* **`lines`** — the stretches that end at a line feed, or at the end of the text.

A *blank* is a character with the Unicode property `White_Space`.  The class is wider than the one
core calls whitespace: it also holds the vertical tab, the form feed, the next-line control, the
no-break spaces and the typographic spaces, but not the zero-width ones.
-/

namespace OpTiming.Text

/-! ## The class of blanks -/

/-- A **blank** is a character with the Unicode property `White_Space`. -/
def isBlank (c : Char) : Bool :=
  let n := c.toNat
  (9 ≤ n && n ≤ 13) || n == 0x20 || n == 0x85 || n == 0xA0 || n == 0x1680 ||
    (0x2000 ≤ n && n ≤ 0x200A) || n == 0x2028 || n == 0x2029 || n == 0x202F || n == 0x205F ||
    n == 0x3000

/-! ## Cutting -/

/-- Put a character before the first of several stretches. -/
def consHead (c : Char) : List (List Char) → List (List Char)
  | [] => [[c]]
  | s :: rest => (c :: s) :: rest

/-- The stretches between the characters of a class, in order.  A text with `n` such characters has
`n + 1` stretches, some of them perhaps empty. -/
def split (p : Char → Bool) : List Char → List (List Char)
  | [] => [[]]
  | c :: cs => if p c then [] :: split p cs else consHead c (split p cs)

/-- A text without the blanks at its two ends. -/
def trim (cs : List Char) : List Char :=
  ((cs.dropWhile isBlank).reverse.dropWhile isBlank).reverse

/-- The maximal runs of characters that are not blank. -/
def words (cs : List Char) : List (List Char) :=
  (split isBlank cs).filter fun w => !w.isEmpty

/-- A line without the carriage return that may stand before its line feed. -/
def dropReturn (line : List Char) : List Char :=
  match line.reverse with
  | '\r' :: rest => rest.reverse
  | _ => line

/-- The lines of a text.  A line feed ends a line, together with one carriage return before it;
what follows the last line feed is a line only if it is not empty, and keeps its carriage return. -/
def lines (cs : List Char) : List (List Char) :=
  let stretches := split (· == '\n') cs
  stretches.dropLast.map dropReturn ++
    match stretches.getLast? with
    | none | some [] => []
    | some last => [last]

/-! ## The same on strings -/

/-- A text with its ASCII capitals made small; every other character stays. -/
def lowerAscii (cs : List Char) : List Char := cs.map Char.toLower

def trimString (s : String) : String := String.ofList (trim s.toList)

def wordsOf (s : String) : List String := (words s.toList).map String.ofList

end OpTiming.Text

import OpTiming.Text.CaseTable

/-!
# Small letters

A text with all its capitals made small, in every alphabet.  Two capitals do not simply have a small
letter each.  The dotted capital I becomes a small i and a dot above it.  A capital sigma has a form
of its own at the end of a word: it is the final one if the text before it ends in a letter with a
case and the text after it does not start with one, where ignorable characters are looked through.
-/

namespace OpTiming.Text

/-- Whether a code point lies in one of several ranges. -/
def inRanges (ranges : List (Nat × Nat)) (n : Nat) : Bool :=
  ranges.any fun (first, last) => first ≤ n && n ≤ last

/-- Whether the first character that is not ignorable is a letter with a case. -/
def startsCased (cs : List Char) : Bool :=
  match cs.dropWhile fun c => inRanges CaseTable.ignorable c.toNat with
  | [] => false
  | c :: _ => inRanges CaseTable.cased c.toNat

/-- The small letter of a character by the table of runs; the character itself if it is in none. -/
def smallByTable (c : Char) : Char :=
  let n := c.toNat
  match CaseTable.smallRuns.find? fun (first, last, distance, _) =>
      first ≤ n && n ≤ last && (n - first) % distance == 0 with
  | some (first, _, _, small) => Char.ofNat (small + (n - first))
  | none => c

/-- The small form of a character, given what stands before it (in reverse) and after it. -/
def smallAt (before : List Char) (c : Char) (after : List Char) : List Char :=
  if c.toNat < 0x80 then [c.toLower]
  else if c == 'Σ' then
    if startsCased before && !startsCased after then ['ς'] else ['σ']
  else if c == 'İ' then ['i', '\u0307']
  else [smallByTable c]

/-- Make the capitals of a text small, given what stands before it (in reverse). -/
def lowercaseAfter (before : List Char) : List Char → List Char
  | [] => []
  | c :: after => smallAt before c after ++ lowercaseAfter (c :: before) after

/-- Make the capitals of a text small. -/
def lowercase (cs : List Char) : List Char := lowercaseAfter [] cs

end OpTiming.Text

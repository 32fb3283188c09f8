import OpTiming.Text.HiddenTable
import OpTiming.Text.Lowercase

/-!
# Quoted texts

A text shown between quotation marks so that all of it can be seen.  The quotation mark and the
backslash are escaped, the commonest control characters have short escapes, and every other character
that does not show is given by its hexadecimal number.
-/

namespace OpTiming.Text

/-- Whether a character does not show where it stands. -/
def isHidden (c : Char) : Bool :=
  if c.toNat < 0x7F then c.toNat < 0x20 else inRanges HiddenTable.ranges c.toNat

/-- One character between quotation marks. -/
def shownChar (c : Char) : List Char :=
  match c with
  | '\x00' => ['\\', '0']
  | '\t' => ['\\', 't']
  | '\r' => ['\\', 'r']
  | '\n' => ['\\', 'n']
  | '"' => ['\\', '"']
  | '\\' => ['\\', '\\']
  | c => if isHidden c then '\\' :: 'u' :: '\x7b' :: (Nat.toDigits 16 c.toNat ++ ['\x7d']) else [c]

/-- A text between quotation marks, with everything in it visible. -/
def quoted (s : String) : String :=
  String.ofList ('"' :: (s.toList.flatMap shownChar ++ ['"']))

end OpTiming.Text

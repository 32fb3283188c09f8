/-!
# String literals

How a text stands between quotation marks.  **`quote`** escapes the quotation mark, the backslash
and the control characters below the blank, and nothing else.  **`scan`** reads what follows an
opening mark: raw characters other than control characters, the eight short escapes and the
four-digit ones.

A four-digit escape spells a UTF-16 unit.  A high half followed by the escape of a low half spells
one character; a half that stands alone spells none.  A literal with such a half is well formed but
denotes no text, so the text of a literal is optional.
-/

namespace OpTiming.Json

/-- What a string literal denotes: nothing if one of its escapes is half a character. -/
abbrev Spelled := Option (List Char)

namespace Text

/-! ## Writing -/

/-- A hexadecimal digit, in small letters. -/
def hexDigit (n : Nat) : Char := Nat.digitChar (n % 16)

/-- One character as it stands between quotation marks. -/
def escape (c : Char) : List Char :=
  if c == '"' then ['\\', '"']
  else if c == '\\' then ['\\', '\\']
  else if c.toNat = 8 then ['\\', 'b']
  else if c.toNat = 9 then ['\\', 't']
  else if c.toNat = 10 then ['\\', 'n']
  else if c.toNat = 12 then ['\\', 'f']
  else if c.toNat = 13 then ['\\', 'r']
  else if c.toNat < 32 then ['\\', 'u', '0', '0', hexDigit (c.toNat / 16), hexDigit c.toNat]
  else [c]

def quote (cs : List Char) : List Char := '"' :: (cs.flatMap escape ++ ['"'])

/-! ## Reading -/

def hexValue? (c : Char) : Option Nat :=
  if '0' ≤ c ∧ c ≤ '9' then some (c.toNat - '0'.toNat)
  else if 'a' ≤ c ∧ c ≤ 'f' then some (c.toNat - 'a'.toNat + 10)
  else if 'A' ≤ c ∧ c ≤ 'F' then some (c.toNat - 'A'.toNat + 10)
  else none

/-- The value of four hexadecimal digits. -/
def unit? (a b c d : Char) : Option Nat := do
  return (((← hexValue? a) * 16 + (← hexValue? b)) * 16 + (← hexValue? c)) * 16 + (← hexValue? d)

/-- Whether a UTF-16 unit is the first half of a character. -/
def isHigh (n : Nat) : Bool := 0xD800 ≤ n && n < 0xDC00

/-- Whether a UTF-16 unit is the second half of a character. -/
def isLow (n : Nat) : Bool := 0xDC00 ≤ n && n < 0xE000

/-- The character that two halves make. -/
def joined (high low : Nat) : Char := Char.ofNat (0x10000 + (high - 0xD800) * 0x400 + (low - 0xDC00))

/-- The character of a short escape. -/
def shortEscape? : Char → Option Char
  | '"' => some '"'
  | '\\' => some '\\'
  | '/' => some '/'
  | 'b' => some (Char.ofNat 8)
  | 't' => some '\t'
  | 'n' => some '\n'
  | 'f' => some (Char.ofNat 12)
  | 'r' => some '\r'
  | _ => none

/-- Put a character before what the rest of a literal denotes. -/
def before (c : Char) : Spelled × List Char → Spelled × List Char
  | (spelled, rest) => (spelled.map (c :: ·), rest)

/-- The rest of a literal that denotes no text. -/
def broken : Spelled × List Char → Spelled × List Char
  | (_, rest) => (none, rest)

/-- Read up to the closing mark: what the literal denotes, and what follows it. -/
def scan : List Char → Option (Spelled × List Char)
  | [] => none
  | '"' :: rest => some (some [], rest)
  | '\\' :: 'u' :: a :: b :: c :: d :: '\\' :: 'u' :: e :: f :: g :: h :: rest =>
    match unit? a b c d with
    | none => none
    | some first =>
      if isHigh first then
        -- a first half counts only together with the second half that follows it at once
        match unit? e f g h with
        | none => none
        | some second =>
          if isLow second then (scan rest).map (before (joined first second))
          else (scan ('\\' :: 'u' :: e :: f :: g :: h :: rest)).map broken
      else if isLow first then
        (scan ('\\' :: 'u' :: e :: f :: g :: h :: rest)).map broken
      else (scan ('\\' :: 'u' :: e :: f :: g :: h :: rest)).map (before (Char.ofNat first))
  | '\\' :: 'u' :: a :: b :: c :: d :: rest =>
    match unit? a b c d with
    | none => none
    | some unit =>
      if isHigh unit || isLow unit then (scan rest).map broken
      else (scan rest).map (before (Char.ofNat unit))
  | '\\' :: c :: rest =>
    match shortEscape? c with
    | some e => (scan rest).map (before e)
    | none => none
  | c :: rest => if c.toNat < 32 || c == '\\' then none else (scan rest).map (before c)

end Text

end OpTiming.Json

import OpTiming.Json.Form
import OpTiming.Text.Blank

/-!
# Capabilities

A **capability** is a named extension of a processor's instruction set.  Capabilities stand in a
fixed order, the *threshold order*: x86 extensions from old to new, then those of Arm.  Switching
off "everything from here on" means everything from one place of this order on.

* **`all`**, **`ordinal`**, **`ofOrdinal?`** — the order, and the place of a capability in it.
* **`name`** — the short name, as shown to people.
* **`variant`** — the name under which a capability is serialised.
* **`parse?`** — reads a name loosely: blanks around it, the separators `.`, `_`, `-` anywhere in it
  and the case of ASCII letters do not matter, and two names of Arm kernels are accepted as well.
  **`ofName`** reads it too, and says what was given where it names nothing.
-/

namespace OpTiming

/-- A named extension of an instruction set. -/
inductive Capability
  | sse | sse2 | sse3 | sse41 | sse42 | avx | avx2 | fma | avx512 | vnni
  | neon | dotProd | i8mm | bf16
  deriving DecidableEq, Repr

namespace Capability

/-- Every capability, in threshold order. -/
def all : List Capability :=
  [sse, sse2, sse3, sse41, sse42, avx, avx2, fma, avx512, vnni, neon, dotProd, i8mm, bf16]

/-- The place of a capability in the threshold order, counted from zero. -/
def ordinal : Capability → Nat
  | sse => 0 | sse2 => 1 | sse3 => 2 | sse41 => 3 | sse42 => 4 | avx => 5 | avx2 => 6
  | fma => 7 | avx512 => 8 | vnni => 9 | neon => 10 | dotProd => 11 | i8mm => 12 | bf16 => 13

/-- The capability at a place of the threshold order, if there is one. -/
def ofOrdinal? (n : Nat) : Option Capability := all[n]?

/-- The bit of a capability in a word that packs capabilities: the one at its place. -/
def bit (cap : Capability) : UInt32 := 1 <<< cap.ordinal.toUInt32

/-- The short name of a capability. -/
def name : Capability → String
  | sse => "sse" | sse2 => "sse2" | sse3 => "sse3" | sse41 => "sse4.1" | sse42 => "sse4.2"
  | avx => "avx" | avx2 => "avx2" | fma => "fma" | avx512 => "avx512" | vnni => "vnni"
  | neon => "neon" | dotProd => "dotprod" | i8mm => "i8mm" | bf16 => "bf16"

/-- The name under which a capability is serialised. -/
def variant : Capability → String
  | sse => "Sse" | sse2 => "Sse2" | sse3 => "Sse3" | sse41 => "Sse41" | sse42 => "Sse42"
  | avx => "Avx" | avx2 => "Avx2" | fma => "Fma" | avx512 => "Avx512" | vnni => "Vnni"
  | neon => "Neon" | dotProd => "DotProd" | i8mm => "I8mm" | bf16 => "Bf16"

/-! ## Reading a name -/

/-- Whether a character only separates the parts of a name. -/
def isSeparator (c : Char) : Bool := c == '.' || c == '_' || c == '-'

/-- What counts of a name: blanks around it and separators are dropped, ASCII letters are small. -/
def key (name : String) : String :=
  String.ofList ((Text.lowerAscii (Text.trim name.toList)).filter fun c => !isSeparator c)

/-- The sixteen accepted words and what they name. -/
def ofKey? : String → Option Capability
  | "sse" => some sse
  | "sse2" => some sse2
  | "sse3" => some sse3
  | "sse41" => some sse41
  | "sse42" => some sse42
  | "avx" => some avx
  | "avx2" => some avx2
  | "fma" => some fma
  | "avx512" => some avx512
  | "vnni" => some vnni
  | "neon" | "asimd" => some neon
  | "dotprod" | "dot" => some dotProd
  | "i8mm" => some i8mm
  | "bf16" => some bf16
  | _ => none

/-- Read the name of a capability. -/
def parse? (text : String) : Option Capability := ofKey? (key text)

/-- A text that names no capability, as it was given. -/
structure Unknown where
  text : String
  deriving DecidableEq, Repr

/-- The words in which an unknown name is reported. -/
def Unknown.message (unknown : Unknown) : String := "unknown cpu feature: " ++ unknown.text

/-- The capability that a text names, or else the text. -/
def ofName (text : String) : Except Unknown Capability := (parse? text).elim (.error ⟨text⟩) .ok

/-! ## As a record -/

def decode (v : Json.Value) : Option Capability := Json.unitVariant? all variant v

instance : Json.Form Capability := ⟨fun cap => Json.variant cap.variant, decode⟩

end Capability

end OpTiming

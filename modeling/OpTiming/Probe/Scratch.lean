/-!
# Scratch memory

The probes that load and store need memory to do it on.  There is one buffer for all of them, small
enough for the innermost cache and aligned to a cache line, so that no access crosses one.

* **`Scratch`** — where a buffer stands; the alignment is part of the type.
* **`Scratch.atOrAbove`** — the first place for a buffer from an address on.
-/

namespace OpTiming.Probe

/-- The bytes of a scratch buffer. -/
def scratchBytes : Nat := 2048

/-- The bytes of a cache line, to which a scratch buffer is aligned. -/
def scratchAlignment : Nat := 64

structure Scratch where
  /-- The address of its first byte. -/
  address : Nat
  /-- It starts with a cache line. -/
  aligned : address % scratchAlignment = 0

namespace Scratch

/-- The first buffer that starts at an address or above it. -/
def atOrAbove (address : Nat) : Scratch :=
  ⟨(address + (scratchAlignment - 1)) / scratchAlignment * scratchAlignment, Nat.mul_mod_left _ _⟩

/-- The addresses of a buffer's bytes. -/
def addresses (s : Scratch) : List Nat := List.range' s.address scratchBytes

end Scratch

end OpTiming.Probe

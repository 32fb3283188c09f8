import OpTiming.Capability

/-!
# Detection on Arm

On Arm the operating system hands a program two words of capability bits.  **`detect64`** reads
them on a 64-bit processor, where the vector unit is always there; **`detect32`** reads the first
one on a 32-bit processor, where the vector unit has a bit of its own.
-/

namespace OpTiming.Detection.Arm

/-- The capabilities of a 64-bit processor. -/
def detect64 (word word2 : UInt64) : List Capability :=
  [ (.neon, true),
    (.dotProd, word.toNat.testBit 20),
    (.i8mm, word2.toNat.testBit 13),
    (.bf16, word2.toNat.testBit 14) ].filterMap fun (cap, present) => if present then some cap else none

/-- The capabilities of a 32-bit processor. -/
def detect32 (word : UInt64) : List Capability :=
  if word.toNat.testBit 12 then [.neon] else []

end OpTiming.Detection.Arm

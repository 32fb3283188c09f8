import OpTiming.Capability

/-!
# Detection on x86

Which capabilities an x86 processor has, decided from what it says of itself:

* **`Registers`** — the four registers that one leaf of the identification instruction fills.
* **`Processor`** — every leaf, and the extended control register in which the operating system
  says which register state it keeps; **`Processor.least`** is what every 64-bit program can count on.
* **`detect`** — the capabilities found, in the order of the tests.

The extended control register may be read only where leaf 1 says that the operating system uses it;
elsewhere it counts as zero.  Leaf 7 may be read only where the highest leaf is at least 7.  What
uses wide registers also needs the operating system to keep them: the capabilities from AVX on need
the state bits `0x6`, those of AVX-512 need `0xE6`.
-/

namespace OpTiming.Detection.X86

/-! ## The processor's account of itself -/

/-- The registers filled by one leaf of the identification instruction. -/
structure Registers where
  eax : UInt32
  ebx : UInt32
  ecx : UInt32
  edx : UInt32
  deriving DecidableEq, Repr

/-- A leaf that says nothing. -/
def Registers.zero : Registers := ⟨0, 0, 0, 0⟩

/-- An x86 processor: its identification leaves and its extended control register. -/
structure Processor where
  /-- The registers of a leaf. -/
  leaf : Nat → Registers
  /-- The extended control register. -/
  xcr0 : UInt64

/-- The least processor that runs 64-bit programs: all it says of itself is that it has the two oldest
extensions. -/
def Processor.least : Processor :=
  { leaf := fun n => if n = 1 then { Registers.zero with edx := 0x6000000 } else .zero, xcr0 := 0 }

/-- Whether a bit of a register is set. -/
def bit (register : UInt32) (n : Nat) : Bool := register.toNat.testBit n

/-! ## What the operating system keeps -/

/-- The state of the 128-bit and 256-bit registers. -/
def stateAvx : UInt64 := 0x6

/-- The state of the 512-bit registers and their masks as well. -/
def stateAvx512 : UInt64 := 0xE6

/-- The extended control register, zero where it may not be read. -/
def Processor.readableXcr0 (p : Processor) : UInt64 :=
  if bit (p.leaf 1).ecx 27 then p.xcr0 else 0

/-- Whether the operating system keeps all of some state. -/
def Processor.keeps (p : Processor) (state : UInt64) : Bool :=
  p.readableXcr0 &&& state == state

/-! ## The tests -/

/-- The capabilities that leaf 1 decides, each with its test. -/
def basicTests (p : Processor) : List (Capability × Bool) :=
  let one := p.leaf 1
  [ (.sse, bit one.edx 25),
    (.sse2, bit one.edx 26),
    (.sse3, bit one.ecx 0),
    (.sse41, bit one.ecx 19),
    (.sse42, bit one.ecx 20),
    (.avx, p.keeps stateAvx && bit one.ecx 28),
    (.fma, p.keeps stateAvx && bit one.ecx 12) ]

/-- The capabilities that leaf 7 decides, each with its test. -/
def extendedTests (p : Processor) : List (Capability × Bool) :=
  let seven := p.leaf 7
  let reached : Bool := 7 ≤ (p.leaf 0).eax.toNat
  [ (.avx2, reached && p.keeps stateAvx && bit seven.ebx 3 && bit seven.ebx 5 && bit seven.ebx 8),
    (.avx512, reached && p.keeps stateAvx512 && bit seven.ebx 16 && bit seven.ebx 30),
    (.vnni, reached && p.keeps stateAvx512 && bit seven.ebx 16 && bit seven.ebx 17 &&
      bit seven.ebx 30 && bit seven.ebx 31 && bit seven.ecx 11) ]

/-- The capabilities found, in the order of the tests. -/
def detect (p : Processor) : List Capability :=
  ((basicTests p ++ extendedTests p).filter (·.2)).map (·.1)

end OpTiming.Detection.X86

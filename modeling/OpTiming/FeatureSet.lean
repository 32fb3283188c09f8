import OpTiming.Capability

/-!
# Feature sets

What a run may use: the capabilities a processor was found to have, cut at an optional
**threshold**.  A capability at or above the threshold counts as absent, whatever was found.  What was
found is packed into one word, a bit for each capability.

* **`ofList`** — a set from found capabilities; order and repetition do not matter.
* **`disabledFrom`** — the same findings under a given threshold, which takes the place of an
  earlier one.
* **`supports`** — the one question everything else is written through: `supportsOrdinal`,
  `supportsAll`, `firstMissing?`, `toList` and `show`.
-/

namespace OpTiming

/-- Found capabilities, and the threshold from which on they are ignored. -/
structure FeatureSet where
  /-- The word in which the bit of each capability that the processor was found to have is set. -/
  mask : UInt32
  /-- The first capability, in threshold order, that counts as absent. -/
  threshold : Option Capability
  deriving DecidableEq

namespace FeatureSet

/-- The set in which nothing was found. -/
def none : FeatureSet := ⟨0, .none⟩

/-- A word in which the bits of the listed capabilities are set as well. -/
def pack (mask : UInt32) (caps : List Capability) : UInt32 :=
  caps.foldl (fun mask cap => mask ||| cap.bit) mask

/-- The set of the listed capabilities, without a threshold. -/
def ofList (caps : List Capability) : FeatureSet := ⟨pack 0 caps, .none⟩

/-- Whether the processor was found to have a capability. -/
def found (s : FeatureSet) (cap : Capability) : Bool := s.mask &&& cap.bit != 0

/-- The same findings, with a capability and every later one counting as absent. -/
def disabledFrom (s : FeatureSet) (cap : Capability) : FeatureSet := { s with threshold := some cap }

/-- The same findings under an optional threshold; without one the set stays as it is. -/
def restrict (s : FeatureSet) : Option Capability → FeatureSet
  | .none => s
  | some cap => s.disabledFrom cap

/-- Whether a capability is below a threshold. -/
def below : Option Capability → Capability → Bool
  | .none, _ => true
  | some t, cap => cap.ordinal < t.ordinal

/-! ## Questions -/

/-- Whether what needs a capability may run. -/
def supports (s : FeatureSet) (cap : Capability) : Bool := below s.threshold cap && s.found cap

/-- Whether the capability at a place of the threshold order is supported.  A place that holds no
capability is not supported, and is reported by a note. -/
def supportsOrdinal (s : FeatureSet) (n : Nat) : Bool × Option String :=
  match Capability.ofOrdinal? n with
  | some cap => (s.supports cap, .none)
  | .none => (false, some ("unknown cpu feature: ordinal " ++ toString n))

def supportsAll (s : FeatureSet) (caps : List Capability) : Bool := caps.all s.supports

/-- The first listed capability that is not supported. -/
def firstMissing? (s : FeatureSet) (caps : List Capability) : Option Capability :=
  caps.find? fun cap => !s.supports cap

/-- The supported capabilities, in threshold order. -/
def toList (s : FeatureSet) : List Capability := Capability.all.filter s.supports

/-- The names of the supported capabilities, in threshold order. -/
def «show» (s : FeatureSet) : String :=
  match s.toList with
  | [] => "(none)"
  | caps => " ".intercalate (caps.map Capability.name)

end FeatureSet

end OpTiming

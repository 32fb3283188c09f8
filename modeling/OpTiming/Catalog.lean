import OpTiming.Config
import OpTiming.FeatureSet
import OpTiming.Runner
import OpTiming.Terminal

/-!
# Catalogs

A **catalog** is a list of probe families, run in order against a feature set.  A probe runs if all
that its family and it itself need is supported, and is skipped otherwise.  A family is warmed up
just before its probes, but only if one of them will run.

* **`missing?`** — the first capability that keeps a probe from running.
* **`run`** — run a catalog; the **`Report`** holds the results and the probes skipped, both in table
  order.  With verbose settings every family is announced by a header, and every skipped probe is
  noted.
-/

namespace OpTiming.Catalog

open OpTiming.Action

/-- A probe that was not run. -/
structure Skipped where
  name : String
  /-- The first unsupported capability among its needs. -/
  missing : Capability
  deriving DecidableEq, Repr

/-- What a catalog run gives. -/
structure Report where
  /-- The results, in the order in which they were measured. -/
  measured : List Timed
  /-- The probes not run, in table order. -/
  skipped : List Skipped

def Report.empty : Report := ⟨[], []⟩

/-- The report of two runs, one after the other. -/
def Report.append (a b : Report) : Report := ⟨a.measured ++ b.measured, a.skipped ++ b.skipped⟩

/-- The first capability that keeps a probe of a family from running. -/
def missing? (features : FeatureSet) (family : Family) (probe : Probe) : Option Capability :=
  (features.firstMissing? family.requires).or (features.firstMissing? probe.requires)

/-- Whether any probe of a family will run. -/
def isRunnable (features : FeatureSet) (family : Family) : Bool :=
  family.probes.any fun probe => (missing? features family probe).isNone

/-- Call a warmup body several times. -/
def warmUp (body : Body) (runs : UInt64) : Nat → Action Unit
  | 0 => pure ()
  | times + 1 => do
    let _ ← call body runs
    warmUp body runs times

/-- Run the probes of a family, or skip them. -/
def runProbes (ink : Ink) (features : FeatureSet) (config : Config) (family : Family) :
    List Probe → Action Report
  | [] => pure .empty
  | probe :: probes => do
    match missing? features family probe with
    | some missing =>
      noteIf config.verbose (Terminal.skip ink probe.name missing)
      let rest ← runProbes ink features config family probes
      return { rest with skipped := ⟨probe.name, missing⟩ :: rest.skipped }
    | none =>
      let timed ← Runner.run config.format probe config.runs
      let rest ← runProbes ink features config family probes
      return { rest with measured := timed :: rest.measured }

def runFamily (ink : Ink) (features : FeatureSet) (config : Config) (family : Family) :
    Action Report := do
  noteIf config.verbose (Terminal.familyHeader ink family.title)
  if isRunnable features family then
    warmUp family.warmup config.runs config.warmup.toNat
  runProbes ink features config family family.probes

def run (ink : Ink) (features : FeatureSet) (config : Config) : List Family → Action Report
  | [] => pure .empty
  | family :: families => do
    let first ← runFamily ink features config family
    let rest ← run ink features config families
    return first.append rest

/-- A skipped probe as a record. -/
def Skipped.encode (s : Skipped) : Json.Value :=
  Json.record [("name", Json.ofString s.name), ("missing", Json.variant s.missing.variant)]

/-- The skipped probes as a text for programs. -/
def Report.skippedText (r : Report) : String :=
  String.ofList (Json.Value.array (r.skipped.map Skipped.encode)).compact

end OpTiming.Catalog

import OpTiming.Probe
import OpTiming.Text.Quoted

/-!
# Probes in words

**`Probe.show`** describes a probe for whoever looks for a mistake in a table: all that is known of it
but its bodies, with texts quoted.
-/

namespace OpTiming.Probe

/-- A text that may be absent. -/
def showOptional : Option String → String
  | none => "None"
  | some text => "Some(" ++ Text.quoted text ++ ")"

/-- All that is known of a probe but its bodies. -/
def «show» (p : Probe) : String :=
  "ProbePair \x7b name: " ++ Text.quoted p.name ++ ", width: " ++ toString p.width ++
    ", annotation: " ++ showOptional p.remark ++ " \x7d"

end OpTiming.Probe

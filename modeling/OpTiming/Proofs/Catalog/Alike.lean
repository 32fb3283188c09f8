import OpTiming.Proofs.Alike
import OpTiming.Proofs.Catalog.Plan

/-!
# Two catalog runs side by side

What a catalog run writes and gives does not depend on whether it is verbose, nor on the ink of its notes, nor
on the clock beyond the figures that it shows.  A run performs its plan, so this is seen step by step
(`act_alike`) and then of whole performances (`perform_alike`).
-/

namespace OpTiming.Catalog

open OpTiming.Action

/-- Two reports hold alike results and the same skipped probes. -/
structure Report.Alike (r r' : Report) : Prop where
  measured : List.Forall₂ Timed.Alike r.measured r'.measured
  skipped : r.skipped = r'.skipped

lemma Report.Alike.append {a a' b b' : Report} (h : a.Alike a') (h' : b.Alike b') :
    (a.append b).Alike (a'.append b') where
  measured := List.rel_append h.measured h'.measured
  skipped := by rw [Report.append, Report.append, h.skipped, h'.skipped]

variable {ink ink' : Ink} {config : Config} {verbose : Bool} {b b' : Bench}

/-- **A step ends alike on two benches**, verbose or not. -/
lemma act_alike (step : Step) (h : b.Alike b') :
    EndAlike Report.Alike ((step.act ink config).on b) ((step.act ink' { config with verbose }).on b') := by
  cases step with
  | announce title =>
      rw [act_announce, act_announce]
      exact .ok ⟨.nil, rfl⟩ ⟨h.sink, h.calls⟩
  | skip name missing =>
      rw [act_skip, act_skip]
      exact .ok ⟨.nil, rfl⟩ ⟨h.sink, h.calls⟩
  | warm body =>
      rw [act_warm, act_warm]
      cases body.count config.runs with
      | ok groups => exact .ok ⟨.nil, rfl⟩ ⟨h.sink, by rw [h.calls]⟩
      | error fault => exact .faultLeft fault _ _
  | measure probe =>
      refine EndAlike.bind (EndAlike.run h config.format probe config.runs) fun t t' c c' ht hc => ?_
      exact .ok ⟨.cons ht .nil, rfl⟩ hc

/-- **Performances of the same steps end alike.** -/
theorem perform_alike (steps : List Step) (h : b.Alike b') :
    EndAlike Report.Alike ((perform ink config steps).on b)
      ((perform ink' { config with verbose } steps).on b') := by
  induction steps generalizing b b' with
  | nil => exact .ok ⟨.nil, rfl⟩ h
  | cons step steps ih =>
      refine EndAlike.bind (act_alike step h) fun first first' c c' hfirst hc => ?_
      refine EndAlike.bind (ih hc) fun rest rest' d d' hrest hd => ?_
      exact .ok (hfirst.append hrest) hd

/-- **Runs of a catalog end alike**, verbose or not, whatever the table. -/
theorem run_alike (features : FeatureSet) (families : List Family) (h : b.Alike b') :
    EndAlike Report.Alike ((run ink features config families).on b)
      ((run ink' features { config with verbose } families).on b') := by
  rw [run_eq_perform, run_eq_perform]
  exact perform_alike (plan features config families) h

end OpTiming.Catalog

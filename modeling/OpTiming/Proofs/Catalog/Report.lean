import OpTiming.Proofs.Capability
import OpTiming.Proofs.Catalog.Output
import OpTiming.Proofs.Text.Split

/-!
# What a catalog run reports

A run that gives a report has dealt with every row of the table once.  Rows end up in one of two lists,
as results or as entries for what was left out, and verbose runs note the second kind while they go on.

* **`Skips`** — an entry belongs to a row: it names the row and the first of its needs that is not
  supported.
* **`entryNote`** — what is noted of an entry, in words.  It tells the row and the capability
  (`entryNote_injective`).
* **`groups`** — the entries family by family, because the notes put the header of each family before
  the entries of that family.
* **`report_partitions_table`** — results, entries and notes of a run, all three read off the table.
-/

namespace OpTiming

/-! ## Emphasis -/

namespace Ink

lemma afterResets_of_escape_free {added cs : List Char} (h : '\x1b' ∉ cs) : afterResets added cs = cs := by
  fun_induction afterResets added cs with
  | case1 rest ih => simp at h
  | case2 c rest _ ih => rw [ih fun hrest => h (List.mem_cons_of_mem _ hrest)]
  | case3 => rfl

/-- **Emphasis puts a sequence before a text and one behind it**, and nothing between its characters. -/
lemma paint_colored {text : String} (h : '\x1b' ∉ text.toList) (style : Style) :
    colored.paint style text = String.ofList style.sequence ++ text ++ String.ofList reset := by
  rw [paint, afterResets_of_escape_free h, String.ofList_append, String.ofList_append, String.ofList_toList]

end Ink

namespace Catalog

variable {ink : Ink} {features : FeatureSet} {config : Config}

/-! ## Entries -/

/-- An entry belongs to a row that was left out: it carries the name of the row and, of all that the
family and then the row itself need, the first capability that is not supported. -/
structure Skips (features : FeatureSet) (row : Family × Probe) (entry : Skipped) : Prop where
  name : entry.name = row.2.name
  missing : ∃ before after, row.1.requires ++ row.2.requires = before ++ entry.missing :: after ∧
    (∀ cap ∈ before, features.supports cap = true) ∧ features.supports entry.missing = false

/-- The note on an entry: the name of the row, and that of the capability it misses. -/
def entryNote (ink : Ink) (entry : Skipped) : String :=
  ink.paint .dimmed "skip" ++ " " ++ entry.name ++ ": requires " ++ entry.missing.name

/-- The notes of a family: its header, then one note for each of its entries. -/
def familyNotes (ink : Ink) (family : Family) (entries : List Skipped) : List String :=
  ink.paint .bold ("== " ++ family.title ++ " ==") :: entries.map (entryNote ink)

/-- **A note tells what was left out and why**: it is the note on one entry only. -/
lemma entryNote_injective {entry entry' : Skipped} (h : entryNote ink entry = entryNote ink entry') :
    entry = entry' := by
  obtain ⟨name, missing⟩ := entry
  obtain ⟨name', missing'⟩ := entry'
  -- what stands behind the last space is the capability
  have hpieces : ∀ name missing, Text.split (· == ' ') (entryNote ink ⟨name, missing⟩).toList =
      Text.split (· == ' ') (ink.paint .dimmed "skip" ++ " " ++ name ++ ": requires").toList ++
        [missing.name.toList] := by
    intro name missing
    have hcut : (entryNote ink ⟨name, missing⟩).toList =
        (ink.paint .dimmed "skip" ++ " " ++ name ++ ": requires").toList ++ ' ' :: missing.name.toList := by
      simp [entryNote]
    have hfree : ∀ c ∈ missing.name.toList, (c == ' ') = false := by
      intro c hc
      rw [beq_eq_false_iff_ne]
      rintro rfl
      exact missing.space_not_mem_name hc
    rw [hcut, Text.split_append_cons rfl, Text.split_of_free hfree]
  have hmissing : missing = missing' := by
    have hsplit := hpieces name missing
    rw [h, hpieces name' missing'] at hsplit
    have hlast := List.append_inj_right' hsplit rfl
    exact (Capability.name_injective (String.toList_inj.mp (List.singleton_inj.mp hlast))).symm
  subst hmissing
  simpa [entryNote] using h

/-- The rows of a family that are left out. -/
def leftOutOf (features : FeatureSet) (family : Family) : List (Family × Probe) :=
  (family.probes.filter fun probe => !family.admits features probe).map fun probe => (family, probe)

/-- The entries of a family. -/
def entriesOf (features : FeatureSet) (family : Family) : List Skipped :=
  (family.probes.map (stepOf features family)).flatMap Step.entries

/-- The entries of a table, family by family. -/
def groups (features : FeatureSet) (families : List Family) : List (List Skipped) :=
  families.map (entriesOf features)

lemma skips_of_firstMissing? {family : Family} {probe : Probe} {missing : Capability}
    (h : features.firstMissing? (family.needs probe) = some missing) :
    Skips features (family, probe) ⟨probe.name, missing⟩ := by
  rw [FeatureSet.firstMissing?, List.find?_eq_some_iff_append] at h
  obtain ⟨hmissing, before, after, hneeds, hbefore⟩ := h
  refine ⟨rfl, before, after, hneeds, ?_, ?_⟩
  · intro cap hcap
    simpa using hbefore cap hcap
  · simpa using hmissing

/-- The entries of a family belong, one each, to its rows that are left out. -/
lemma entriesOf_skips (features : FeatureSet) (family : Family) :
    List.Forall₂ (Skips features) (leftOutOf features family) (entriesOf features family) := by
  rw [leftOutOf, entriesOf]
  induction family.probes with
  | nil => exact .nil
  | cons probe probes ih =>
      rw [List.map_cons, List.flatMap_cons, List.filter_cons]
      obtain ⟨hadmits, hstep⟩ | ⟨hadmits, missing, hmissing, hstep⟩ := stepOf_cases features family probe
      · rw [hstep, hadmits]
        exact ih
      · rw [hstep, hadmits]
        exact .cons (skips_of_firstMissing? hmissing) ih

lemma leftOut_eq_flatten (features : FeatureSet) (families : List Family) :
    leftOut features families = (families.map (leftOutOf features)).flatten := by
  rw [leftOut, filter_rows, ← List.flatMap_def]
  rfl

lemma groups_skip (features : FeatureSet) (families : List Family) :
    List.Forall₂ (fun family group => List.Forall₂ (Skips features) (leftOutOf features family) group)
      families (groups features families) := by
  rw [groups, List.forall₂_map_right_iff, List.forall₂_same]
  exact fun family _ => entriesOf_skips features family

/-! ## The traces of a run -/

lemma plan_entries (families : List Family) :
    (plan features config families).flatMap Step.entries = (groups features families).flatten := by
  rw [plan_flatMap, groups, ← List.flatMap_def]
  congr 1
  funext family
  rw [warmups_flatMap_eq_nil fun _ => rfl]
  rfl

/-- A probe is noted as skipped exactly where it is entered as skipped. -/
lemma stepOf_remarks (family : Family) (probe : Probe) :
    (stepOf features family probe).remarks ink =
      (stepOf features family probe).entries.map (entryNote ink) := by
  obtain ⟨-, hstep⟩ | ⟨-, missing, -, hstep⟩ := stepOf_cases features family probe
  · rw [hstep]
    rfl
  · rw [hstep]
    rfl

lemma plan_remarks (config : Config) (families : List Family) :
    (plan features config families).flatMap (Step.remarks ink) =
      (List.zipWith (familyNotes ink) families (groups features families)).flatten := by
  rw [plan_flatMap, groups, List.zipWith_map_right, List.zipWith_self, ← List.flatMap_def]
  congr 1
  funext family
  rw [warmups_flatMap_eq_nil fun _ => rfl, familyNotes, entriesOf, List.map_flatMap, List.flatMap_map,
    List.flatMap_map]
  simp only [stepOf_remarks]
  rfl

lemma plan_notes (families : List Family) :
    (plan features config families).flatMap (Step.notes ink config.verbose) =
      if config.verbose then
        (List.zipWith (familyNotes ink) families (groups features families)).flatten
      else [] := by
  cases config.verbose with
  | true =>
      rw [if_pos rfl, ← plan_remarks config]
      rfl
  | false =>
      rw [if_neg Bool.false_ne_true, List.flatMap_eq_nil_iff]
      exact fun _ _ => rfl

/-- **The report of a run partitions the table.**  The results belong, one each and in table order, to
the rows whose needs are all supported; the entries belong in the same way to the rows that remain.
Nothing is noted unless the run is verbose; then the notes are, family by family, the header and one
note for each entry of that family, which is the note on this entry only.  Emphasis leaves a text as it is, or
puts one sequence before it and one behind it. -/
theorem report_partitions_table {families : List Family} {b after : Bench} {report : Report}
    (h : (run ink features config families).on b = (.ok report, after)) :
    List.Forall₂ (fun row timed => Carries row.2 timed.result) (runnable features families)
        report.measured ∧
      List.Forall₂ (Skips features) (leftOut features families) report.skipped ∧
      (∃ parts, report.skipped = parts.flatten ∧
        List.Forall₂ (fun family part =>
          List.Forall₂ (Skips features) (leftOutOf features family) part) families parts ∧
        after.notes.toList = b.notes.toList ++
          if config.verbose then (List.zipWith (familyNotes ink) families parts).flatten else []) ∧
      (∀ entry entry', entryNote ink entry = entryNote ink entry' → entry = entry') ∧
      ∀ style text, Ink.plain.paint style text = text ∧
        ('\x1b' ∉ text.toList → Ink.colored.paint style text =
          String.ofList style.sequence ++ text ++ String.ofList Ink.reset) := by
  rw [run_eq_perform] at h
  have hnotes := perform_notes_of_ok h
  rw [plan_notes] at hnotes
  rw [perform_eq_ok h, plan_entries]
  have hgroups := groups_skip features families
  refine ⟨results_carry features config families b.clock, ?_, ⟨groups features families, rfl, hgroups, hnotes⟩,
    fun _ _ => entryNote_injective, fun style text => ⟨rfl, fun hfree => Ink.paint_colored hfree style⟩⟩
  rw [leftOut_eq_flatten]
  exact List.rel_flatten (List.forall₂_map_left_iff.mpr hgroups)

/-- A processor with only the first of two extensions measures the first row of the sample family and
enters the second one as skipped, which the notes tell with emphasis. -/
theorem report_of_sample :
    ∃ report after,
      (run .colored (.ofList [.sse]) { verbose := true } [Family.sample]).on
          (.new (.ticking 0 5 1) (.new none none) (.ofList [])) = (.ok report, after) ∧
        report.measured.map (fun timed => timed.result.name) = ["mulps_sse"] ∧
        report.skipped = [⟨"mulps_avx", .avx⟩] ∧
        after.notes.toList = ["\x1b[1m== SSE ==\x1b[0m", "\x1b[2mskip\x1b[0m mulps_avx: requires avx"] := by
  have hsample : ∀ family ∈ [Family.sample], family.Orderly ({ verbose := true } : Config).runs := by
    simpa using Family.sample_orderly _
  have hsink : (Bench.new (.ticking 0 5 1) (.new none none) (.ofList [])).sink = .new none none := rfl
  obtain ⟨report, after, hrun⟩ := run_ok_of_unlimited .colored (.ofList [.sse]) hsink hsample
  obtain ⟨hmeasured, hskipped, ⟨parts, hparts, hfamilies, hnotes⟩, -⟩ := report_partitions_table hrun
  obtain ⟨timed, rest, hcarries, hrest, hreport⟩ := List.forall₂_cons_left_iff.mp hmeasured
  obtain ⟨entry, rest', hskips, hrest', hreport'⟩ := List.forall₂_cons_left_iff.mp hskipped
  rw [List.forall₂_nil_left_iff.mp hrest'] at hreport'
  obtain ⟨part, rest'', -, hrest'', rfl⟩ := List.forall₂_cons_left_iff.mp hfamilies
  obtain rfl := List.forall₂_nil_left_iff.mp hrest''
  rw [List.flatten_singleton, hreport'] at hparts
  have hentry : entry = ⟨"mulps_avx", .avx⟩ := by
    obtain ⟨hname, before, later, hneeds, -, hmissing⟩ := hskips
    have hmem : entry.missing ∈ [Capability.sse, .avx] := by
      rw [show [Capability.sse, .avx] = before ++ entry.missing :: later from hneeds]
      exact List.mem_append_right _ (List.mem_cons_self ..)
    obtain ⟨name, missing⟩ := entry
    obtain rfl : name = "mulps_avx" := hname
    obtain rfl | rfl : missing = .sse ∨ missing = .avx := by simpa using hmem
    · exact absurd hmissing (by decide)
    · rfl
  refine ⟨report, after, hrun, ?_, by rw [hreport', hentry], ?_⟩
  · rw [hreport, List.forall₂_nil_left_iff.mp hrest, List.map_singleton, hcarries.name]
  · rw [hnotes, ← hparts, hentry]
    decide +kernel

end Catalog

end OpTiming

import OpTiming.Accelerator.Library
import OpTiming.Proofs.Text.Split

/-!
# The places in which libraries are looked for

The places that a text gives are the non-empty stretches between its colons, and the usual places are tried behind
them.  One equation carries everything: a colon between two texts gives the places of the one and then those of the
other (`givenPlaces_append`).  An empty stretch is thus a text that gives nothing, wherever it stands.

* **`Written`** — places that are written down one after the other, with as many colons around them as one likes.
  What a text gives is written down in it (`written_givenPlaces`).
* **`givenPlaces_eq_iff`** — the places of a text are the only ones that are written down in it.
* **`candidates_keep_order`** — all places to try.
-/

namespace OpTiming.Accelerator.Library

variable {text place : String} {places : List String}

/-! ## Places and colons -/

/-- A text that can be a place: not empty, and without a colon. -/
def IsPlace (place : String) : Prop := place ≠ "" ∧ ':' ∉ place.toList

/-- A stretch without a colon is empty, or it can be a place. -/
lemma eq_nil_or_isPlace {stretch : List Char} (hfree : ∀ c ∈ stretch, (c == ':') = false) :
    stretch = [] ∨ IsPlace (String.ofList stretch) := by
  by_cases hnil : stretch = []
  · exact .inl hnil
  · refine .inr ⟨by simpa using hnil, fun hcolon => ?_⟩
    rw [String.toList_ofList] at hcolon
    simpa using hfree ':' hcolon

/-- A text of so many colons. -/
def colons (n : Nat) : String := String.ofList (List.replicate n ':')

lemma colons_succ (n : Nat) : colons (n + 1) = "" ++ ":" ++ colons n := by
  rw [← String.toList_inj]
  simp [colons, List.replicate_succ]

/-- **Places written down**, one after the other.  Any number of colons may stand before a place, a colon is
needed behind every place but the last one, and behind that any number of them may stand. -/
inductive Written : List String → String → Prop
  | none (n : Nat) : Written [] (colons n)
  | last (n : Nat) (place : String) : Written [place] (colons n ++ place)
  | next (n : Nat) (place : String) {places : List String} {text : String} (rest : Written places text) :
      Written (place :: places) (colons n ++ place ++ ":" ++ text)

/-- One more colon before everything. -/
lemma Written.colon (h : Written places text) : Written places (":" ++ text) := by
  have hcolon : ∀ n, ":" ++ colons n = colons (n + 1) := fun n => by rw [colons_succ, String.empty_append]
  cases h with
  | none n =>
    rw [hcolon]
    exact .none (n + 1)
  | last n place =>
    rw [← String.append_assoc, hcolon]
    exact .last (n + 1) place
  | next n place rest =>
    rw [← String.append_assoc, ← String.append_assoc, ← String.append_assoc, hcolon]
    exact .next (n + 1) place rest

/-! ## The places of a text -/

/-- **A colon between two texts** gives the places of both, in order. -/
lemma givenPlaces_append (before after : String) :
    givenPlaces (before ++ ":" ++ after) = givenPlaces before ++ givenPlaces after := by
  have hcut : (before ++ ":" ++ after).toList = before.toList ++ ':' :: after.toList := by simp
  rw [givenPlaces, hcut, Text.split_append_cons rfl, List.filter_append, List.map_append]
  rfl

lemma givenPlaces_empty : givenPlaces "" = [] := by decide +kernel

lemma givenPlaces_of_isPlace (h : IsPlace place) : givenPlaces place = [place] := by
  obtain ⟨hne, hfree⟩ := h
  have hsplit : Text.split (· == ':') place.toList = [place.toList] := by
    refine Text.split_of_free fun c hc => ?_
    rw [beq_eq_false_iff_ne]
    rintro rfl
    exact hfree hc
  rw [givenPlaces, hsplit]
  simp [hne]

/-- No place of a text is empty, and none has a colon in it. -/
lemma isPlace_of_mem_givenPlaces (h : place ∈ givenPlaces text) : IsPlace place := by
  obtain ⟨stretch, hstretch, rfl⟩ := List.mem_map.mp h
  obtain ⟨hsplit, hne⟩ := List.mem_filter.mp hstretch
  exact (eq_nil_or_isPlace (Text.eq_false_of_mem_split hsplit)).resolve_left (by simpa using hne)

/-- Colons before a text give nothing. -/
lemma givenPlaces_colons_append (n : Nat) (text : String) : givenPlaces (colons n ++ text) = givenPlaces text := by
  induction n with
  | zero => rw [show colons 0 = "" from rfl, String.empty_append]
  | succ n ih =>
    have hcut : colons (n + 1) ++ text = "" ++ ":" ++ (colons n ++ text) := by
      rw [colons_succ, String.append_assoc]
    rw [hcut, givenPlaces_append, givenPlaces_empty, ih, List.nil_append]

lemma givenPlaces_colons (n : Nat) : givenPlaces (colons n) = [] := by
  have hcolons := givenPlaces_colons_append n ""
  rwa [String.append_empty, givenPlaces_empty] at hcolons

/-- **What is written down is given**, in order and without a loss. -/
lemma givenPlaces_of_written (h : Written places text) (hplaces : ∀ place ∈ places, IsPlace place) :
    givenPlaces text = places := by
  induction h with
  | none n => exact givenPlaces_colons n
  | last n place =>
    rw [givenPlaces_colons_append, givenPlaces_of_isPlace (hplaces place (List.mem_singleton_self place))]
  | next n place rest ih =>
    obtain ⟨hplace, hrest⟩ := List.forall_mem_cons.mp hplaces
    rw [givenPlaces_append, givenPlaces_colons_append, givenPlaces_of_isPlace hplace, ih hrest,
      List.singleton_append]

/-- **The places of a text are written down in it.** -/
lemma written_givenPlaces (cs : List Char) :
    Written (givenPlaces (String.ofList cs)) (String.ofList cs) := by
  induction cs using Text.mark_induction (· == ':') with
  | free stretch hfree =>
    obtain rfl | hplace := eq_nil_or_isPlace hfree
    · exact givenPlaces_empty ▸ Written.none 0
    · rw [givenPlaces_of_isPlace hplace]
      simpa [colons] using Written.last 0 (String.ofList stretch)
  | marked stretch mark rest hfree hmark ih =>
    obtain rfl : mark = ':' := by simpa using hmark
    have hcut : String.ofList (stretch ++ ':' :: rest) = String.ofList stretch ++ ":" ++ String.ofList rest := by
      rw [← String.toList_inj]
      simp
    rw [hcut, givenPlaces_append]
    obtain rfl | hplace := eq_nil_or_isPlace hfree
    · exact ih.colon
    · rw [givenPlaces_of_isPlace hplace]
      simpa [colons] using Written.next 0 (String.ofList stretch) ih

/-- **The places of a text** are the places that are written down in it. -/
lemma givenPlaces_eq_iff :
    givenPlaces text = places ↔ Written places text ∧ ∀ place ∈ places, IsPlace place := by
  constructor
  · rintro rfl
    have hwritten := written_givenPlaces text.toList
    rw [String.ofList_toList] at hwritten
    exact ⟨hwritten, fun place => isPlace_of_mem_givenPlaces⟩
  · rintro ⟨hwritten, hplaces⟩
    exact givenPlaces_of_written hwritten hplaces

lemma givenPlaces_eq_nil_iff : givenPlaces text = [] ↔ ∃ n, text = colons n := by
  rw [givenPlaces_eq_iff]
  constructor
  · rintro ⟨hwritten, -⟩
    cases hwritten with
    | none n => exact ⟨n, rfl⟩
  · rintro ⟨n, rfl⟩
    exact ⟨.none n, by simp⟩

/-! ## All places to try -/

/-- **Candidates keep their order.**  The places that a text gives come first, and all the usual ones follow, in
their order, whatever is given before them.  A colon between two texts gives the places of the one and then those
of the other.  No place that is given is empty or has a colon in it.  A text gives a list of such places iff they
are written down in it one after the other, with any number of colons before, between and behind them.  So nothing
but the usual places is tried iff no text is given or one that has no characters but colons. -/
theorem candidates_keep_order :
    (candidates none = usualPlaces ∧ ∀ text, candidates (some text) = givenPlaces text ++ usualPlaces) ∧
      (∀ before after, givenPlaces (before ++ ":" ++ after) = givenPlaces before ++ givenPlaces after) ∧
      (∀ text, ∀ place ∈ givenPlaces text, place ≠ "" ∧ ':' ∉ place.toList) ∧
      (∀ text places, givenPlaces text = places ↔
        Written places text ∧ ∀ place ∈ places, place ≠ "" ∧ ':' ∉ place.toList) ∧
      ∀ text, candidates (some text) = usualPlaces ↔ ∃ n, text = colons n := by
  refine ⟨⟨rfl, fun text => rfl⟩, givenPlaces_append, fun text place => isPlace_of_mem_givenPlaces,
    fun text places => givenPlaces_eq_iff, fun text => ?_⟩
  rw [← givenPlaces_eq_nil_iff]
  exact List.append_left_eq_self

/-- A usual place that is given once more, behind another one, with colons everywhere. -/
theorem candidates_keep_order_of_sample :
    Written ["/opt/a", "libOpenCL.so"] "::/opt/a:::libOpenCL.so:" ∧
      candidates (some "::/opt/a:::libOpenCL.so:") = ["/opt/a", "libOpenCL.so"] ++ usualPlaces ∧
      usualPlaces = ["/usr/lib64/libOpenCL.so", "/usr/local/lib64/libOpenCL.so",
        "/usr/local/cuda/lib64/libOpenCL.so", "/opt/intel/opencl/libOpenCL.so", "/usr/lib/libOpenCL.so",
        "libOpenCL.so"] := by
  obtain ⟨⟨-, hcandidates⟩, -, -, hwritten, -⟩ := candidates_keep_order
  have hsample : Written ["/opt/a", "libOpenCL.so"] "::/opt/a:::libOpenCL.so:" :=
    .next 2 "/opt/a" (.next 2 "libOpenCL.so" (.none 0))
  refine ⟨hsample, ?_, rfl⟩
  rw [hcandidates, (hwritten _ _).mpr ⟨hsample, by decide +kernel⟩]

end OpTiming.Accelerator.Library

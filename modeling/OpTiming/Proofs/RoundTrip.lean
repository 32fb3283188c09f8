import OpTiming.Accelerator.Workload
import OpTiming.Backend
import OpTiming.Capability
import OpTiming.Preflight.Warning
import OpTiming.Proofs.Measurement

/-!
# Reports read back

Everything the library reports has a written form that is read back as what was reported: measurements,
figures of kernels, devices, workloads, element types, capabilities, backends, output formats, warnings and
findings.  Texts may hold any characters and counts may have any value of their width; of a real number it
is asked that its literal reads back as it (`Literal.ReadsBack`).

Each type is `Faithful` for its own reasons; `reports_read_back` collects them, and adds that two
measurements with one text have one note: no note, an empty one and any other are told apart.
-/

namespace OpTiming

open OpTiming.Json

/-! ## Names alone -/

namespace Capability

lemma faithful (cap : Capability) : Form.Faithful cap where
  wellFormed := wellFormed_variant _
  decode_encode := unitVariant?_variant (by cases cap <;> decide) (by cases cap <;> decide)

end Capability

namespace Backend

lemma faithful (backend : Backend) : Form.Faithful backend where
  wellFormed := wellFormed_variant _
  decode_encode := unitVariant?_variant (by cases backend <;> decide) (by cases backend <;> decide)

end Backend

namespace OutputFormat

lemma faithful (format : OutputFormat) : Form.Faithful format where
  wellFormed := wellFormed_variant _
  decode_encode := unitVariant?_variant (by cases format <;> decide) (by cases format <;> decide)

end OutputFormat

/-! ## Measurements -/

namespace Measurement

/-- The real numbers of a measurement. -/
def figures (m : Measurement) : List Float := [m.throughputNs, m.gflops, m.latencyNs]

/-- **A measurement is read back**, also whether it has a note: the field of an absent note is left out,
and that of an empty note is there. -/
lemma faithful {m : Measurement} (h : ∀ x ∈ m.figures, Literal.ReadsBack x) : Form.Faithful m where
  wellFormed := m.wellFormed_encode
  decode_encode := by
    simp only [figures, List.forall_mem_cons] at h
    obtain ⟨hthroughput, hgflops, hlatency, -⟩ := h
    obtain ⟨name, throughputNs, gflops, latencyNs, width, remark⟩ := m
    show decode (encode _) = _
    rw [decode, encode]
    -- without a note the record has one field less
    cases remark with
    | none =>
        rw [fields?_record (by simp only [List.map_append, List.map_cons, List.map_nil]; decide)]
        simp [fieldNames, List.lookup_cons, toFloat?_ofFloat, hthroughput, hgflops, hlatency]
    | some note =>
        rw [fields?_record (by simp only [List.map_append, List.map_cons, List.map_nil]; decide)]
        simp [fieldNames, List.lookup_cons, toFloat?_ofFloat, hthroughput, hgflops, hlatency]

end Measurement

/-! ## Accelerators -/

namespace Accelerator

lemma ElementType.faithful (element : ElementType) : Form.Faithful element where
  wellFormed := wellFormed_variant _
  decode_encode := unitVariant?_variant (by cases element <;> decide) (by cases element <;> decide)

/-- A workload is its name, or the name of its kind around its element type. -/
lemma Workload.faithful (workload : Workload) : Form.Faithful workload := by
  cases workload with
  | localBandwidth => exact ⟨wellFormed_variant _, rfl⟩
  | globalBandwidth => exact ⟨wellFormed_variant _, rfl⟩
  | compute element =>
      refine ⟨wellFormed_variantOf _ (wellFormed_variant _), ?_⟩
      show decode (variantOf "Compute" (variant element.variant)) = _
      have helement : ElementType.decode (variant element.variant) = some element :=
        (ElementType.faithful element).decode_encode
      simp only [decode, variant?_variantOf, helement, Option.map_some]

lemma KernelResult.faithful {r : KernelResult} (h : Literal.ReadsBack r.value) : Form.Faithful r where
  wellFormed := by
    refine wellFormed_record ?_
    simp only [List.forall_mem_cons]
    exact ⟨r.workload.faithful.wellFormed, wellFormed_ofString _, wellFormed_ofFloat _, nofun⟩
  decode_encode := by
    have hworkload : Workload.decode r.workload.encode = some r.workload := r.workload.faithful.decode_encode
    show decode (encode r) = _
    rw [decode, encode, fields?_record (by simp only [List.map_cons, List.map_nil]; decide)]
    simp [List.lookup_cons, hworkload, toFloat?_ofFloat h]

/-- **The properties of a device are read back**, whatever its texts and its counts. -/
lemma Device.faithful (d : Device) : Form.Faithful d where
  wellFormed := by
    refine wellFormed_record ?_
    simp only [List.forall_mem_cons]
    exact ⟨wellFormed_ofString _, wellFormed_ofString _, wellFormed_ofString _, wellFormed_ofNat _,
      wellFormed_ofNat _, wellFormed_ofNat _, wellFormed_ofNat _, wellFormed_ofNat _, wellFormed_ofBool _,
      wellFormed_ofBool _, nofun⟩
  decode_encode := by
    show decode (encode d) = _
    rw [decode, encode, fields?_record (by simp only [List.map_cons, List.map_nil]; decide)]
    simp [fieldNames, List.lookup_cons]

end Accelerator

/-! ## Warnings -/

namespace Preflight

namespace Warning

/-- The real numbers of a warning. -/
def figures : Warning → List Float
  | governorNotPerformance .. | governorUnreadable .. | clockBelowMax .. => []
  | busySibling _ _ busy => [busy]
  | coarseTimer resolution perOperation => [resolution, perOperation]

lemma wellFormed_encode (w : Warning) : w.encode.WellFormed := by
  cases w <;> refine wellFormed_variantOf _ (wellFormed_record ?_) <;>
    simp [wellFormed_ofNat, wellFormed_ofString, wellFormed_ofFloat]

/-- A variant with contents is read by its name. -/
lemma decode_variantOf (name : String) (contents : Json.Value) :
    decode (variantOf name contents) = decodeContents contents name := by
  simp only [decode, variant?_variantOf]

lemma faithful {w : Warning} (h : ∀ x ∈ w.figures, Literal.ReadsBack x) : Form.Faithful w where
  wellFormed := w.wellFormed_encode
  decode_encode := by
    show decode (encode w) = _
    cases w with
    | governorNotPerformance core governor =>
        rw [encode, decode_variantOf, decodeContents, fields?_record (by simp)]
        simp [List.lookup_cons]
    | governorUnreadable core reason =>
        rw [encode, decode_variantOf, decodeContents, fields?_record (by simp)]
        simp [List.lookup_cons]
    | clockBelowMax core current max =>
        rw [encode, decode_variantOf, decodeContents, fields?_record (by simp)]
        simp [List.lookup_cons]
    | busySibling core sibling busy =>
        have hbusy : Literal.ReadsBack busy := h busy (List.mem_singleton_self busy)
        rw [encode, decode_variantOf, decodeContents, fields?_record (by simp)]
        simp [List.lookup_cons, toFloat?_ofFloat hbusy]
    | coarseTimer resolution perOperation =>
        simp only [figures, List.forall_mem_cons] at h
        obtain ⟨hresolution, hperOperation, -⟩ := h
        rw [encode, decode_variantOf, decodeContents, fields?_record (by simp)]
        simp [List.lookup_cons, toFloat?_ofFloat, hresolution, hperOperation]

end Warning

namespace Findings

/-- The real numbers of all warnings. -/
def figures (f : Findings) : List Float := f.warnings.flatMap Warning.figures

lemma mapM_decode_encode {warnings : List Warning}
    (h : ∀ w ∈ warnings, ∀ x ∈ w.figures, Literal.ReadsBack x) :
    (warnings.map Warning.encode).mapM Warning.decode = some warnings := by
  induction warnings with
  | nil => rfl
  | cons w warnings ih =>
      obtain ⟨hw, hwarnings⟩ := List.forall_mem_cons.mp h
      have hdecode : Warning.decode w.encode = some w := (Warning.faithful hw).decode_encode
      rw [List.map_cons, List.mapM_cons, hdecode, ih hwarnings]
      rfl

lemma faithful {f : Findings} (h : ∀ x ∈ f.figures, Literal.ReadsBack x) : Form.Faithful f where
  wellFormed := by
    refine wellFormed_record (List.forall_mem_singleton.mpr (.array ?_))
    rw [List.forall_mem_map]
    exact fun w _ => w.wellFormed_encode
  decode_encode := by
    have hwarnings : (f.warnings.map Warning.encode).mapM Warning.decode = some f.warnings :=
      mapM_decode_encode fun w hw x hx => h x (List.mem_flatMap.mpr ⟨w, hw, hx⟩)
    show decode (encode f) = _
    rw [decode, encode, fields?_record (by simp)]
    simp [List.lookup_cons, hwarnings]

end Findings

end Preflight

/-! ## All of them -/

/-- Two values with one text are read back from it, so they are the same. -/
lemma Json.Form.RoundTrips.eq_of_text {α : Type} [Form α] {x y : α} (hx : Form.RoundTrips x)
    (hy : Form.RoundTrips y) (h : Form.compact x = Form.compact y ∨ Form.pretty x = Form.pretty y) :
    x = y := by
  obtain hcompact | hpretty := h
  · exact Option.some.inj (hx.1.symm.trans (hcompact ▸ hy.1))
  · exact Option.some.inj (hx.2.symm.trans (hpretty ▸ hy.2))

/-- **Every report is read back from its text**, in either layout, if the literals of its real numbers read
back; and texts of measurements with different notes differ. -/
theorem reports_read_back :
    (∀ m : Measurement, (∀ x ∈ m.figures, Literal.ReadsBack x) → Form.RoundTrips m) ∧
    (∀ r : Accelerator.KernelResult, Literal.ReadsBack r.value → Form.RoundTrips r) ∧
    (∀ d : Accelerator.Device, Form.RoundTrips d) ∧
    (∀ workload : Accelerator.Workload, Form.RoundTrips workload) ∧
    (∀ element : Accelerator.ElementType, Form.RoundTrips element) ∧
    (∀ cap : Capability, Form.RoundTrips cap) ∧
    (∀ backend : Backend, Form.RoundTrips backend) ∧
    (∀ format : OutputFormat, Form.RoundTrips format) ∧
    (∀ w : Preflight.Warning, (∀ x ∈ w.figures, Literal.ReadsBack x) → Form.RoundTrips w) ∧
    (∀ f : Preflight.Findings, (∀ x ∈ f.figures, Literal.ReadsBack x) → Form.RoundTrips f) ∧
    ∀ m m' : Measurement, (∀ x ∈ m.figures, Literal.ReadsBack x) → (∀ x ∈ m'.figures, Literal.ReadsBack x) →
      m.remark ≠ m'.remark → Form.compact m ≠ Form.compact m' ∧ Form.pretty m ≠ Form.pretty m' := by
  refine ⟨fun m h => (Measurement.faithful h).roundTrips,
    fun r h => (Accelerator.KernelResult.faithful h).roundTrips, fun d => d.faithful.roundTrips,
    fun workload => workload.faithful.roundTrips, fun element => element.faithful.roundTrips,
    fun cap => cap.faithful.roundTrips, fun backend => backend.faithful.roundTrips,
    fun format => format.faithful.roundTrips, fun w h => (Preflight.Warning.faithful h).roundTrips,
    fun f h => (Preflight.Findings.faithful h).roundTrips, ?_⟩
  intro m m' hm hm' hremark
  have hback := (Measurement.faithful hm).roundTrips
  have hback' := (Measurement.faithful hm').roundTrips
  exact ⟨fun htext => hremark (congrArg _ (hback.eq_of_text hback' (Or.inl htext))),
    fun htext => hremark (congrArg _ (hback.eq_of_text hback' (Or.inr htext)))⟩

/-- A measurement whose texts hold a quote, a backslash and control characters. -/
def awkwardMeasurement (remark : Option String) : Measurement :=
  { name := "a \"b\" \\ \n\t\x00\x1f\x7f é", throughputNs := 0.125, gflops := 1e300, latencyNs := 1e-7
    width := 4294967295, remark := remark }

/-- Findings with both kinds of warning that hold real numbers. -/
def awkwardFindings : Preflight.Findings :=
  { warnings := [.coarseTimer 41.5 0.001, .busySibling 18446744073709551615 0 1.0,
      .governorUnreadable 0 "\r\x08 \"?\""] }

/-- Three notes that are written differently, and reports of each kind with real numbers. -/
theorem reports_read_back_of_sample :
    Form.RoundTrips (awkwardMeasurement none) ∧ Form.RoundTrips (awkwardMeasurement (some "")) ∧
    Form.compact (awkwardMeasurement none) ≠ Form.compact (awkwardMeasurement (some "")) ∧
    Form.pretty (awkwardMeasurement (some "")) ≠ Form.pretty (awkwardMeasurement (some "\n")) ∧
    Form.RoundTrips (⟨.compute .half, "half4", 12345.678⟩ : Accelerator.KernelResult) ∧
    Form.RoundTrips (Preflight.Warning.coarseTimer 41.5 0.001) ∧ Form.RoundTrips awkwardFindings := by
  have hfigures : ∀ remark, ∀ x ∈ (awkwardMeasurement remark).figures, Literal.ReadsBack x := by
    intro remark
    show ∀ x ∈ [0.125, 1e300, 1e-7], Literal.ReadsBack x
    decide +kernel
  obtain ⟨hmeasurement, hkernel, -, -, -, -, -, -, hwarning, hfindings, hnotes⟩ := reports_read_back
  refine ⟨hmeasurement _ (hfigures _), hmeasurement _ (hfigures _),
    (hnotes _ _ (hfigures _) (hfigures _) (by decide)).1,
    (hnotes _ _ (hfigures _) (hfigures _) (by decide)).2, hkernel _ (by decide +kernel),
    hwarning _ (by decide +kernel), hfindings _ (by decide +kernel)⟩

end OpTiming

import OpTiming.Accelerator.Device
import OpTiming.Proofs.Text.Words

/-!
# What the extensions of a device decide

Three decisions hang on the text in which a device names its extensions: whether it computes with 16-bit numbers,
whether with 64-bit numbers, and whether a context is made with performance hints.  Each of them asks for words of
the text and for nothing else, so the order of the words, their repetitions and the blanks between them do not
matter, and a further word never takes a decision back.

* **`Offers`** — the words of an extension text, said without cutting it.  **`OffersWithin`** — texts of which
  one names everything that the other names.
* **`hasExtension_iff`**, **`halfSupported_iff`**, **`doubleSupported_iff`**, **`contextProperties_of_offers`** —
  each question and each decision, told by words.
* **`decisions_follow_words`** — two texts side by side.
-/

namespace OpTiming.Accelerator

open Text (IsWord)

variable {extensions extensions' : String} {platform : Int}

/-! ## Words of an extension text -/

/-- An extension text names an extension as one of its words. -/
def Offers (extensions name : String) : Prop := IsWord extensions.toList name.toList

/-- Every word of an extension text is a word of another one. -/
def OffersWithin (extensions extensions' : String) : Prop :=
  ∀ name, Offers extensions name → Offers extensions' name

/-- **An extension is found** iff it is a word of the text. -/
lemma hasExtension_iff {name : String} : hasExtension extensions name = true ↔ Offers extensions name := by
  rw [hasExtension, List.contains_iff_mem, Text.mem_words_iff, Offers]

/-! ## Decisions -/

lemma halfSupported_iff (q : Query) :
    (Device.ofQuery q).halfSupported = true ↔ Offers q.extensions "cl_khr_fp16" := hasExtension_iff

/-- Either of two extensions brings 64-bit numbers. -/
lemma doubleSupported_iff (q : Query) :
    (Device.ofQuery q).doubleSupported = true ↔
      Offers q.extensions "cl_khr_fp64" ∨ Offers q.extensions "cl_amd_fp64" := by
  simp only [Device.ofQuery, Bool.or_eq_true, hasExtension_iff]

/-- The properties of a context that is asked for high performance and high priority. -/
def hintedProperties (platform : Int) : List Int := [0x1084, platform, 0x40C2, 0x40C3, 0x40C9, 0x40CA, 0]

/-- The properties of a context without hints. -/
def plainProperties (platform : Int) : List Int := [0x1084, platform, 0]

lemma contextProperties_of_offers (h : Offers extensions "cl_qcom_perf_hint") :
    contextProperties platform extensions = hintedProperties platform := by
  simp [contextProperties, hasExtension_iff.mpr h, propertyKeys, hintedProperties]

lemma contextProperties_of_not_offers (h : ¬ Offers extensions "cl_qcom_perf_hint") :
    contextProperties platform extensions = plainProperties platform := by
  simp [contextProperties, mt hasExtension_iff.mp h, propertyKeys, plainProperties]

/-- **The hints are asked for** iff the device offers them. -/
lemma contextProperties_eq_hinted_iff :
    contextProperties platform extensions = hintedProperties platform ↔ Offers extensions "cl_qcom_perf_hint" := by
  constructor
  · intro hhinted
    by_contra hplain
    rw [contextProperties_of_not_offers hplain] at hhinted
    simp [plainProperties, hintedProperties] at hhinted
  · exact contextProperties_of_offers

/-! ## Two texts -/

/-- **Further words keep what was decided** for fewer of them. -/
lemma decisions_grow {q q' : Query} (h : OffersWithin q.extensions q'.extensions) :
    ((Device.ofQuery q).halfSupported = true → (Device.ofQuery q').halfSupported = true) ∧
      ((Device.ofQuery q).doubleSupported = true → (Device.ofQuery q').doubleSupported = true) ∧
      ∀ platform, contextProperties platform q.extensions = hintedProperties platform →
        contextProperties platform q'.extensions = hintedProperties platform := by
  simp only [halfSupported_iff, doubleSupported_iff, contextProperties_eq_hinted_iff]
  exact ⟨h _, Or.imp (h _) (h _), fun _ => h _⟩

lemma contextProperties_congr (h : ∀ name, Offers extensions name ↔ Offers extensions' name) :
    contextProperties platform extensions = contextProperties platform extensions' := by
  by_cases hoffers : Offers extensions "cl_qcom_perf_hint"
  · rw [contextProperties_of_offers hoffers, contextProperties_of_offers ((h _).mp hoffers)]
  · rw [contextProperties_of_not_offers hoffers, contextProperties_of_not_offers (mt (h _).mpr hoffers)]

/-- **Decisions follow the words.**  A text has an extension iff its name is a maximal run of the text without
blanks: it is not empty, has no blank in it, and stands between blanks or ends of the text.  Devices whose texts
have the same words, in whatever order, however often and with blanks of whatever kind between them, support the
same numbers and get the same context on every platform, whatever else is different about them.  A device whose
text has all the words of another one's, and perhaps more, supports the numbers that the other one supports and is
given the hints that the other one is given. -/
theorem decisions_follow_words :
    (∀ extensions name : String, hasExtension extensions name = true ↔
      name ≠ "" ∧ (∀ c ∈ name.toList, Text.isBlank c = false) ∧
        ∃ before after, extensions.toList = before ++ name.toList ++ after ∧
          (∀ c, before.getLast? = some c → Text.isBlank c = true) ∧
          ∀ c, after.head? = some c → Text.isBlank c = true) ∧
      (∀ q q' : Query, (∀ name, Offers q.extensions name ↔ Offers q'.extensions name) →
        (Device.ofQuery q).halfSupported = (Device.ofQuery q').halfSupported ∧
          (Device.ofQuery q).doubleSupported = (Device.ofQuery q').doubleSupported ∧
          ∀ platform, contextProperties platform q.extensions = contextProperties platform q'.extensions) ∧
      (∀ platform extensions, contextProperties platform extensions = hintedProperties platform ∨
        contextProperties platform extensions = plainProperties platform) ∧
      ∀ q q' : Query, OffersWithin q.extensions q'.extensions →
        ((Device.ofQuery q).halfSupported = true → (Device.ofQuery q').halfSupported = true) ∧
          ((Device.ofQuery q).doubleSupported = true → (Device.ofQuery q').doubleSupported = true) ∧
          ∀ platform, contextProperties platform q.extensions = hintedProperties platform →
            contextProperties platform q'.extensions = hintedProperties platform := by
  refine ⟨fun extensions name => ?_, fun q q' h => ?_, fun platform extensions => ?_, fun q q' => decisions_grow⟩
  · have hempty : name.toList ≠ [] ↔ name ≠ "" := by simp
    rw [hasExtension_iff, ← hempty]
    constructor
    · rintro ⟨hne, hfree, hmaximal⟩
      exact ⟨hne, hfree, hmaximal⟩
    · rintro ⟨hne, hfree, hmaximal⟩
      exact ⟨hne, hfree, hmaximal⟩
  · have hgrow := decisions_grow (fun name => (h name).mp : OffersWithin q.extensions q'.extensions)
    have hback := decisions_grow (fun name => (h name).mpr : OffersWithin q'.extensions q.extensions)
    refine ⟨?_, ?_, fun platform => contextProperties_congr h⟩
    · exact Bool.eq_iff_iff.mpr ⟨hgrow.1, hback.1⟩
    · exact Bool.eq_iff_iff.mpr ⟨hgrow.2.1, hback.2.1⟩
  · by_cases hoffers : Offers extensions "cl_qcom_perf_hint"
    · exact .inl (contextProperties_of_offers hoffers)
    · exact .inr (contextProperties_of_not_offers hoffers)

/-- The same words in another order, one of them twice, with other blanks between them; and a longer word, which
brings nothing of what the words in it would bring. -/
theorem decisions_follow_words_of_samples :
    let few : Query := { extensions := "cl_khr_fp64 cl_qcom_perf_hint" }
    let many : Query := { few with extensions := "\u2003cl_qcom_perf_hint\tcl_khr_fp64\u00A0\ncl_qcom_perf_hint" }
    let more : Query := { few with extensions := "cl_khr_fp64 cl_khr_fp16_extra cl_qcom_perf_hint" }
    (Device.ofQuery few).doubleSupported = (Device.ofQuery many).doubleSupported ∧
      contextProperties 7 few.extensions = contextProperties 7 many.extensions ∧
      (Device.ofQuery more).doubleSupported = true ∧
      contextProperties 7 more.extensions = hintedProperties 7 ∧
      (Device.ofQuery more).halfSupported = false := by
  intro few many more
  have hwords : ∀ extensions name, Offers extensions name ↔ name.toList ∈ Text.words extensions.toList :=
    fun extensions name => Text.mem_words_iff.symm
  have hfew : Text.words few.extensions.toList = ["cl_khr_fp64".toList, "cl_qcom_perf_hint".toList] := by
    decide +kernel
  have hmany : Text.words many.extensions.toList =
      ["cl_qcom_perf_hint".toList, "cl_khr_fp64".toList, "cl_qcom_perf_hint".toList] := by
    decide +kernel
  have hmore : Text.words more.extensions.toList =
      ["cl_khr_fp64".toList, "cl_khr_fp16_extra".toList, "cl_qcom_perf_hint".toList] := by
    decide +kernel
  obtain ⟨-, hsame, -, hgrow⟩ := decisions_follow_words
  obtain ⟨-, hdouble, hproperties⟩ := hsame few many fun name => by
    rw [hwords, hwords, hfew, hmany]
    simp only [List.mem_cons, List.not_mem_nil, or_false]
    constructor
    · rintro (h | h)
      · exact .inr (.inl h)
      · exact .inl h
    · rintro (h | h | h)
      · exact .inr h
      · exact .inl h
      · exact .inr h
  obtain ⟨-, hdouble', hproperties'⟩ := hgrow few more fun name => by
    rw [hwords, hwords, hfew, hmore]
    simp only [List.mem_cons, List.not_mem_nil, or_false]
    exact Or.imp_right .inr
  refine ⟨hdouble, hproperties 7, hdouble' ?_, hproperties' 7 ?_, ?_⟩
  · decide +kernel
  · decide +kernel
  · decide +kernel

end OpTiming.Accelerator

import Mathlib
import OpTiming.Proofs.Config
import OpTiming.Proofs.Numeral

/-!
# Which environments are valid

An environment is taken or refused by the texts of four variables, and every one of them is judged by itself.
What the text of a variable stands for is said here without a reader: a numeral with blanks around it, the name
of a capability, or one of nine words in small letters or capitals.

* **`Counts`**, **`Names`**, **`Switches`** — what a text stands for, as a number, a capability and a flag.
* **`GoesBy`** — settings that an environment gives, each of them by its own variable.
* **`Variable`** — the four variables that can be refused, in the order in which they are read.
* **`Writes`** — an environment in which settings are written down, with blanks of any kind around them.
-/

namespace OpTiming

namespace Config

open Text (Bare Padded)
open Text.Numeral (Denotes)

variable {α : Type} {lookup : String → Option String} {config : Config} {text : String}

/-! ## What a text stands for -/

/-- A text is a numeral for a number, with blanks around it. -/
def Counts (text : String) (n : Nat) : Prop := ∃ body, Padded body text.toList ∧ Denotes body n

/-- A text is a name of a capability, as loosely as names are read. -/
def Names (text : String) (cap : Capability) : Prop := Capability.parse? text = some cap

/-- The words for a flag, in small letters. -/
def flagWords : Bool → List String
  | false => ["", "0", "false", "no", "off"]
  | true => ["1", "true", "yes", "on"]

/-- A text is a word in which any of the small letters may have become capitals. -/
def InAnyCase (word : String) (text : List Char) : Prop :=
  List.Forall₂ (fun small c => c = small ∨ c = small.toUpper) word.toList text

/-- A text is a word for a flag, in any case and with blanks around it. -/
def Switches (text : String) (flag : Bool) : Prop :=
  ∃ body, Padded body text.toList ∧ ∃ word ∈ flagWords flag, InAnyCase word body

/-! ## Numbers -/

lemma bare_of_denotes {body : List Char} {n : Nat} (h : Denotes body n) : Bare body :=
  Text.bare_of_blank_free h.blank_free

lemma counts_iff {n : Nat} : Counts text n ↔ Denotes (Text.trim text.toList) n := by
  constructor
  · rintro ⟨body, hpadded, hdenotes⟩
    rwa [Text.trim_eq_iff.mpr ⟨hpadded, bare_of_denotes hdenotes⟩]
  · exact fun hdenotes => ⟨_, Text.padded_trim _, hdenotes⟩

lemma runsOf?_eq_some_iff {runs : UInt64} : runsOf? text = some runs ↔ Counts text runs.toNat := by
  rw [runsOf?, Text.Numeral.readUInt64?_eq_some_iff, counts_iff]

lemma warmupOf?_eq_some_iff {warmup : UInt32} : warmupOf? text = some warmup ↔ Counts text warmup.toNat := by
  rw [warmupOf?, Text.Numeral.readUInt32?_eq_some_iff, counts_iff]

/-! ## Flags -/

lemma flagOfWord?_eq_some_iff {word : String} {flag : Bool} :
    flagOfWord? word = some flag ↔ word ∈ flagWords flag := by
  rw [flagOfWord?.eq_def]
  split <;> cases flag <;> simp_all [flagWords]

lemma toLower_eq_iff {c small : Char} (hsmall : small.toLower = small) :
    c.toLower = small ↔ c = small ∨ c = small.toUpper := by
  constructor
  · rintro rfl
    by_cases hcapital : c.isUpper = true
    · right
      rw [Char.toUpper_toLower_eq_toUpper,
        Char.toUpper_eq_of_not_isLower (Char.not_isLower_of_isUpper hcapital)]
    · exact .inl (Char.toLower_eq_of_not_isUpper hcapital).symm
  · rintro (rfl | rfl)
    · exact hsmall
    · rw [Char.toLower_toUpper_eq_toLower, hsmall]

lemma lowerAscii_eq_iff {word : String} (hsmall : ∀ small ∈ word.toList, small.toLower = small)
    {cs : List Char} : String.ofList (Text.lowerAscii cs) = word ↔ InAnyCase word cs := by
  rw [← String.toList_inj, String.toList_ofList, Text.lowerAscii, InAnyCase]
  -- the letters alone: what follows the first of them is not given as a string
  generalize word.toList = letters at hsmall ⊢
  induction letters generalizing cs with
  | nil => simp
  | cons small letters ih =>
    obtain ⟨hhead, htail⟩ := List.forall_mem_cons.mp hsmall
    cases cs with
    | nil => simp
    | cons c cs => rw [List.map_cons, List.cons.injEq, List.forall₂_cons, ih htail, toLower_eq_iff hhead]

/-- A letter is plain if it is small, and neither it nor its capital is a blank. -/
def isPlain (small : Char) : Bool :=
  small.toLower == small && !Text.isBlank small && !Text.isBlank small.toUpper

lemma isPlain_of_mem_flagWords {word : String} {flag : Bool} (h : word ∈ flagWords flag) :
    ∀ small ∈ word.toList, isPlain small = true := by
  have hall : ∀ flag, ((flagWords flag).all fun word => word.toList.all isPlain) = true := by decide +kernel
  exact List.all_eq_true.mp (List.all_eq_true.mp (hall flag) word h)

lemma toLower_of_isPlain {small : Char} (h : isPlain small = true) : small.toLower = small := by
  simp only [isPlain, Bool.and_eq_true, beq_iff_eq] at h
  exact h.1.1

lemma isBlank_of_isPlain {small c : Char} (h : isPlain small = true) (hc : c = small ∨ c = small.toUpper) :
    Text.isBlank c = false := by
  simp only [isPlain, Bool.and_eq_true, Bool.not_eq_eq_eq_not, Bool.not_true] at h
  obtain rfl | rfl := hc
  · exact h.1.2
  · exact h.2

lemma InAnyCase.bare {word : String} {body : List Char} (hword : ∀ small ∈ word.toList, isPlain small = true)
    (h : InAnyCase word body) : Bare body := by
  have hsmall := fun small hc => toLower_of_isPlain (hword small hc)
  have hlower : String.ofList (Text.lowerAscii body) = word := (lowerAscii_eq_iff hsmall).mpr h
  refine Text.bare_of_blank_free fun c hc => ?_
  have hmem : c.toLower ∈ word.toList := by
    rw [← hlower, String.toList_ofList]
    exact List.mem_map_of_mem hc
  exact isBlank_of_isPlain (hword _ hmem) ((toLower_eq_iff (hsmall _ hmem)).mp rfl)

lemma flagOf?_eq_some_iff {flag : Bool} : flagOf? text = some flag ↔ Switches text flag := by
  rw [flagOf?, flagOfWord?_eq_some_iff]
  constructor
  · intro hword
    have hsmall := fun small hc => toLower_of_isPlain (isPlain_of_mem_flagWords hword small hc)
    exact ⟨_, Text.padded_trim _, _, hword, (lowerAscii_eq_iff hsmall).mp rfl⟩
  · rintro ⟨body, hpadded, word, hword, hcase⟩
    have hplain := isPlain_of_mem_flagWords hword
    have hsmall := fun small hc => toLower_of_isPlain (hplain small hc)
    rwa [Text.trim_eq_iff.mpr ⟨hpadded, hcase.bare hplain⟩, (lowerAscii_eq_iff hsmall).mpr hcase]

/-! ## Settings that go by their variables -/

/-- A value that a variable gives, or the default where the variable is absent. -/
def Given (stands : String → α → Prop) (default : α) (given : Option String) (value : α) : Prop :=
  (given = none → value = default) ∧ ∀ text, given = some text → stands text value

/-- Settings that go by the variables of an environment, each of them by its own. -/
@[mk_iff goesBy_iff_fields]
structure GoesBy (lookup : String → Option String) (config : Config) : Prop where
  runs : Given (fun text runs => Counts text runs.toNat) 80000000 (lookup "PEAKPROBE_RUNS") config.runs
  warmup : Given (fun text warmup => Counts text warmup.toNat) 10 (lookup "PEAKPROBE_WARMUP") config.warmup
  disabledFrom : Given (fun text threshold => ∃ cap, Names text cap ∧ threshold = some cap) none
    (lookup "PEAKPROBE_DISABLE_FROM") config.disabledFrom
  verbose : Given Switches false (lookup "PEAKPROBE_VERBOSE") config.verbose
  format : config.format = .text
  deviceId : config.deviceId = 0
  libraryPath : ∀ path, config.libraryPath = some path ↔ lookup "LIBOPENCL_PATH" = some path ∧ path ≠ ""

section Given

variable {stands : String → α → Prop} {grammar : String → Option α} {default value : α} {given : Option String}

lemma given_iff (hstands : ∀ text x, grammar text = some x ↔ stands text x) (key : String) :
    Given stands default given value ↔
      refused? grammar key given = none ∧ (given.bind grammar).getD default = value := by
  rw [Given]
  cases given with
  | none => simp [refused?_none, eq_comm]
  | some text =>
    simp only [reduceCtorEq, false_implies, true_and, Option.some.injEq, forall_eq', Option.bind_some,
      ← hstands]
    cases htext : grammar text with
    | none => simp [refused?_of_none htext]
    | some x => simp [refused?_of_some htext]

end Given

lemma eq_filter_iff {given path : Option String} :
    (∀ value, path = some value ↔ given = some value ∧ value ≠ "") ↔ given.filter (· ≠ "") = path := by
  rw [eq_comm, Option.ext_iff]
  simp only [Option.filter_eq_some_iff, decide_eq_true_eq]

lemma threshold_iff (text : String) (threshold : Option Capability) :
    (Capability.parse? text).map some = some threshold ↔ ∃ cap, Names text cap ∧ threshold = some cap := by
  rw [Option.map_eq_some_iff]
  exact exists_congr fun cap => and_congr_right fun _ => eq_comm

/-- **Settings go by an environment** iff none of its variables is refused, and they are read off them. -/
lemma goesBy_iff : GoesBy lookup config ↔ invalidVariable? lookup = none ∧ fromVariables lookup = config := by
  rw [goesBy_iff_fields, given_iff (fun _ _ => runsOf?_eq_some_iff) "PEAKPROBE_RUNS",
    given_iff (fun _ _ => warmupOf?_eq_some_iff) "PEAKPROBE_WARMUP",
    given_iff threshold_iff "PEAKPROBE_DISABLE_FROM", refused?_map, bind_map_some,
    given_iff (fun _ _ => flagOf?_eq_some_iff) "PEAKPROBE_VERBOSE", eq_filter_iff]
  simp only [invalidVariable?, Option.or_eq_none_iff]
  -- format and device have no variable, and stay what they are by default
  constructor
  · cases config with
    | mk runs warmup disabledFrom verbose format deviceId libraryPath =>
      rintro ⟨⟨hruns, rfl⟩, ⟨hwarmup, rfl⟩, ⟨hcap, rfl⟩, ⟨hverbose, rfl⟩, rfl, rfl, rfl⟩
      exact ⟨⟨hruns, hwarmup, hcap, hverbose⟩, rfl⟩
  · rintro ⟨⟨hruns, hwarmup, hcap, hverbose⟩, rfl⟩
    exact ⟨⟨hruns, rfl⟩, ⟨hwarmup, rfl⟩, ⟨hcap, rfl⟩, ⟨hverbose, rfl⟩, rfl, rfl, rfl⟩

/-! ## The variables that are judged -/

/-- A variable whose text can be invalid. -/
inductive Variable
  | runs | warmup | disableFrom | verbose

namespace Variable

def inOrder : List Variable := [runs, warmup, disableFrom, verbose]

def key : Variable → String
  | runs => "PEAKPROBE_RUNS"
  | warmup => "PEAKPROBE_WARMUP"
  | disableFrom => "PEAKPROBE_DISABLE_FROM"
  | verbose => "PEAKPROBE_VERBOSE"

/-- A text that a variable may have: a number of 64 bits, one of 32 bits, a capability, a flag. -/
def Accepts : Variable → String → Prop
  | runs, text => ∃ n < 2 ^ 64, Counts text n
  | warmup, text => ∃ n < 2 ^ 32, Counts text n
  | disableFrom, text => ∃ cap, Names text cap
  | verbose, text => ∃ flag, Switches text flag

/-- In an environment a variable is absent, or has a text that it accepts. -/
def IsValid (v : Variable) (lookup : String → Option String) : Prop :=
  ∀ text, lookup v.key = some text → v.Accepts text

def refusal? (lookup : String → Option String) : Variable → Option (String × String)
  | runs => refused? runsOf? "PEAKPROBE_RUNS" (lookup "PEAKPROBE_RUNS")
  | warmup => refused? warmupOf? "PEAKPROBE_WARMUP" (lookup "PEAKPROBE_WARMUP")
  | disableFrom => refused? Capability.parse? "PEAKPROBE_DISABLE_FROM" (lookup "PEAKPROBE_DISABLE_FROM")
  | verbose => refused? flagOf? "PEAKPROBE_VERBOSE" (lookup "PEAKPROBE_VERBOSE")

/-- What is accepted is what has a value in the grammar; the rest is refused as it stands. -/
lemma refused?_eq_some_iff {grammar : String → Option α} {accepts : String → Prop} {given : Option String}
    {key key' : String} (h : ∀ text, (∃ x, grammar text = some x) ↔ accepts text) :
    refused? grammar key given = some (key', text) ↔ key' = key ∧ given = some text ∧ ¬ accepts text := by
  simp only [refused?, Option.map_eq_some_iff, Option.filter_eq_some_iff, Option.isNone_iff_eq_none,
    Prod.mk.injEq, ← h, ← Option.isSome_iff_exists, Option.not_isSome_iff_eq_none]
  constructor
  · rintro ⟨_, ⟨hgiven, hnone⟩, rfl, rfl⟩
    exact ⟨rfl, hgiven, hnone⟩
  · rintro ⟨rfl, hgiven, hnone⟩
    exact ⟨text, ⟨hgiven, hnone⟩, rfl, rfl⟩

lemma exists_counts_iff {bound : Nat} {toNat : α → Nat} (hlt : ∀ x, toNat x < bound)
    (hsurj : ∀ n < bound, ∃ x, toNat x = n) :
    (∃ x, Counts text (toNat x)) ↔ ∃ n < bound, Counts text n := by
  constructor
  · rintro ⟨x, hx⟩
    exact ⟨toNat x, hlt x, hx⟩
  · rintro ⟨n, hn, hcounts⟩
    obtain ⟨x, rfl⟩ := hsurj n hn
    exact ⟨x, hcounts⟩

lemma refusal?_eq_some_iff {v : Variable} {key : String} :
    v.refusal? lookup = some (key, text) ↔ key = v.key ∧ lookup v.key = some text ∧ ¬ v.Accepts text := by
  cases v with
  | runs =>
    refine refused?_eq_some_iff fun text => ?_
    simp only [runsOf?_eq_some_iff]
    exact exists_counts_iff UInt64.toNat_lt fun n hn => ⟨.ofNat n, UInt64.toNat_ofNat_of_lt' hn⟩
  | warmup =>
    refine refused?_eq_some_iff fun text => ?_
    simp only [warmupOf?_eq_some_iff]
    exact exists_counts_iff UInt32.toNat_lt fun n hn => ⟨.ofNat n, UInt32.toNat_ofNat_of_lt' hn⟩
  | disableFrom => exact refused?_eq_some_iff fun text => Iff.rfl
  | verbose => exact refused?_eq_some_iff fun text => exists_congr fun _ => flagOf?_eq_some_iff

lemma refusal?_eq_none_iff {v : Variable} : v.refusal? lookup = none ↔ v.IsValid lookup := by
  simp only [Option.eq_none_iff_forall_ne_some, ne_eq, Prod.forall, refusal?_eq_some_iff, IsValid]
  exact ⟨fun h text htext => by_contra fun hnot => h v.key text ⟨rfl, htext, hnot⟩,
    fun h key text hrefused => hrefused.2.2 (h text hrefused.2.1)⟩

/-- **The first invalid variable** in the order of reading is the one that is reported. -/
lemma invalidVariable?_eq (lookup : String → Option String) :
    invalidVariable? lookup = inOrder.findSome? (refusal? lookup) := by
  have horder : inOrder = [runs] ++ ([warmup] ++ ([disableFrom] ++ [verbose])) := rfl
  simp only [horder, List.findSome?_append, List.findSome?_singleton]
  rfl

lemma invalidVariable?_eq_none_iff : invalidVariable? lookup = none ↔ ∀ v ∈ inOrder, v.IsValid lookup := by
  rw [invalidVariable?_eq, List.findSome?_eq_none_iff]
  exact forall₂_congr fun v _ => refusal?_eq_none_iff

lemma invalidVariable?_eq_some_iff {key : String} : invalidVariable? lookup = some (key, text) ↔
    ∃ before v after, inOrder = before ++ v :: after ∧ (∀ u ∈ before, u.IsValid lookup) ∧
      key = v.key ∧ lookup v.key = some text ∧ ¬ v.Accepts text := by
  rw [invalidVariable?_eq, List.findSome?_eq_some_iff]
  simp only [refusal?_eq_some_iff, refusal?_eq_none_iff]
  exact exists₃_congr fun before v after => and_congr_right fun _ => and_comm

lemma mem_inOrder (v : Variable) : v ∈ inOrder := by
  cases v <;> simp [inOrder]

end Variable

lemma unlessRefused_eq_ok_iff {refused : Option (String × String)} {value value' : α} :
    unlessRefused refused value = .ok value' ↔ refused = none ∧ value = value' := by
  cases refused with
  | none => simp [unlessRefused]
  | some refusal => simp [unlessRefused]

lemma unlessRefused_eq_error_iff {refused : Option (String × String)} {value : α} {failure : Failure} :
    unlessRefused refused value = .error failure ↔
      ∃ key text, refused = some (key, text) ∧ failure = .invalidSetting key text := by
  cases refused with
  | none => simp [unlessRefused]
  | some refusal => simp [unlessRefused, invalid, Prod.ext_iff, eq_comm]

lemma ofEnvironment_eq_ok_iff : ofEnvironment lookup = .ok config ↔ GoesBy lookup config := by
  rw [ofEnvironment_eq, unlessRefused_eq_ok_iff, goesBy_iff]

lemma ofEnvironment_eq_error_iff {failure : Failure} : ofEnvironment lookup = .error failure ↔
    ∃ before v after text, Variable.inOrder = before ++ v :: after ∧ (∀ u ∈ before, u.IsValid lookup) ∧
      lookup v.key = some text ∧ ¬ v.Accepts text ∧ failure = .invalidSetting v.key text := by
  rw [ofEnvironment_eq, unlessRefused_eq_error_iff]
  simp only [Variable.invalidVariable?_eq_some_iff]
  constructor
  · rintro ⟨_, text, ⟨before, v, after, horder, hbefore, rfl, hlookup, hrefused⟩, hfailure⟩
    exact ⟨before, v, after, text, horder, hbefore, hlookup, hrefused, hfailure⟩
  · rintro ⟨before, v, after, text, horder, hbefore, hlookup, hrefused, hfailure⟩
    exact ⟨_, text, ⟨before, v, after, horder, hbefore, rfl, hlookup, hrefused⟩, hfailure⟩

lemma exists_ofEnvironment_iff :
    (∃ config, ofEnvironment lookup = .ok config) ↔ ∀ v : Variable, v.IsValid lookup := by
  simp only [ofEnvironment_eq, unlessRefused_eq_ok_iff, exists_and_left, exists_eq', and_true,
    Variable.invalidVariable?_eq_none_iff]
  exact forall_congr' fun v => forall_prop_of_true v.mem_inOrder

/-! ## Settings that are written down -/

/-- An environment in which values are written down, each with blanks of any kind around it but for the path. -/
structure Writes (lookup : String → Option String) (runs : UInt64) (warmup : UInt32) (cap : Capability)
    (flag : Bool) (path : String) : Prop where
  runs : ∃ text, lookup "PEAKPROBE_RUNS" = some text ∧ Padded (toString runs).toList text.toList
  warmup : ∃ text, lookup "PEAKPROBE_WARMUP" = some text ∧ Padded (toString warmup).toList text.toList
  disabledFrom : ∃ text, lookup "PEAKPROBE_DISABLE_FROM" = some text ∧ Padded cap.name.toList text.toList
  verbose : ∃ text, lookup "PEAKPROBE_VERBOSE" = some text ∧ Switches text flag
  libraryPath : lookup "LIBOPENCL_PATH" = some path ∧ path ≠ ""

lemma given_of_some {stands : String → α → Prop} {default value : α} {given : Option String}
    (hgiven : given = some text) (h : stands text value) : Given stands default given value := by
  subst hgiven
  refine ⟨nofun, fun text' htext => ?_⟩
  obtain rfl := Option.some.inj htext
  exact h

variable {runs : UInt64} {warmup : UInt32} {cap : Capability} {flag : Bool} {path : String}

/-- **Settings that are written down** are those that an environment gives. -/
lemma Writes.goesBy (h : Writes lookup runs warmup cap flag path) :
    GoesBy lookup { runs, warmup, disabledFrom := some cap, verbose := flag, libraryPath := some path } where
  runs := by
    obtain ⟨text, hlookup, hpadded⟩ := h.runs
    exact given_of_some hlookup ⟨_, hpadded, Text.Numeral.denotes_repr _⟩
  warmup := by
    obtain ⟨text, hlookup, hpadded⟩ := h.warmup
    exact given_of_some hlookup ⟨_, hpadded, Text.Numeral.denotes_repr _⟩
  disabledFrom := by
    obtain ⟨text, hlookup, hpadded⟩ := h.disabledFrom
    have hname : Names text cap := (Capability.parse?_of_padded hpadded).trans cap.parse?_name
    exact given_of_some hlookup ⟨cap, hname, rfl⟩
  verbose := by
    obtain ⟨text, hlookup, hswitches⟩ := h.verbose
    exact given_of_some hlookup hswitches
  format := rfl
  deviceId := rfl
  libraryPath := by
    obtain ⟨hlookup, hne⟩ := h.libraryPath
    rw [hlookup]
    exact fun value => ⟨fun hvalue => ⟨hvalue, Option.some.inj hvalue ▸ hne⟩, fun hvalue => hvalue.1⟩

/-! ## The environment -/

/-- **The environments that are valid.**  An environment is accepted iff each of the four variables that can be
refused is absent or has a text it accepts.  The settings are then the ones that go by the variables, every field
by its own or else by its default, and depend on no other variable.  Otherwise the failure names the first invalid
variable, in the order of reading, and holds its text as it was given.  Settings that are written down, with
blanks of any kind around them, are read back. -/
theorem ofEnvironment_reads_variables (lookup : String → Option String) :
    ((∃ config, ofEnvironment lookup = .ok config) ↔ ∀ v : Variable, v.IsValid lookup) ∧
      (∀ config, ofEnvironment lookup = .ok config ↔ GoesBy lookup config) ∧
      (∀ other config config', ofEnvironment lookup = .ok config → ofEnvironment other = .ok config' →
        (lookup "PEAKPROBE_RUNS" = other "PEAKPROBE_RUNS" → config.runs = config'.runs) ∧
        (lookup "PEAKPROBE_WARMUP" = other "PEAKPROBE_WARMUP" → config.warmup = config'.warmup) ∧
        (lookup "PEAKPROBE_DISABLE_FROM" = other "PEAKPROBE_DISABLE_FROM" →
          config.disabledFrom = config'.disabledFrom) ∧
        (lookup "PEAKPROBE_VERBOSE" = other "PEAKPROBE_VERBOSE" → config.verbose = config'.verbose) ∧
        (lookup "LIBOPENCL_PATH" = other "LIBOPENCL_PATH" → config.libraryPath = config'.libraryPath)) ∧
      (∀ failure, ofEnvironment lookup = .error failure ↔
        ∃ before v after text, Variable.inOrder = before ++ v :: after ∧ (∀ u ∈ before, u.IsValid lookup) ∧
          lookup v.key = some text ∧ ¬ v.Accepts text ∧ failure = .invalidSetting v.key text) ∧
      ∀ runs warmup cap flag path, Writes lookup runs warmup cap flag path →
        ofEnvironment lookup =
          .ok { runs, warmup, disabledFrom := some cap, verbose := flag, libraryPath := some path } := by
  refine ⟨exists_ofEnvironment_iff, fun config => ofEnvironment_eq_ok_iff, fun other config config' h h' => ?_,
    fun failure => ofEnvironment_eq_error_iff,
    fun runs warmup cap flag path hwrites => ofEnvironment_eq_ok_iff.mpr hwrites.goesBy⟩
  obtain ⟨-, rfl⟩ := goesBy_iff.mp (ofEnvironment_eq_ok_iff.mp h)
  obtain ⟨-, rfl⟩ := goesBy_iff.mp (ofEnvironment_eq_ok_iff.mp h')
  simp +contextual only [fromVariables, implies_true, and_self]

/-- The greatest number of runs, a capability and a flag between blanks, a path that keeps its blank. -/
def writtenSample (key : String) : Option String :=
  List.lookup key
    [("PEAKPROBE_RUNS", "\u200918446744073709551615\n"), ("PEAKPROBE_WARMUP", "\t7"),
      ("PEAKPROBE_DISABLE_FROM", "sse4.1\u3000"), ("PEAKPROBE_VERBOSE", " yEs "), ("LIBOPENCL_PATH", " /opt/a.so")]

/-- Two invalid variables, of which the first is a number that is one too great. -/
def spoiltSample (key : String) : Option String :=
  List.lookup key
    [("PEAKPROBE_RUNS", "+007"), ("PEAKPROBE_WARMUP", " 4294967296"), ("PEAKPROBE_VERBOSE", "maybe")]

/-- One environment that is read back, and one that is refused. -/
theorem ofEnvironment_of_samples :
    Writes writtenSample 18446744073709551615 7 .sse41 true " /opt/a.so" ∧
      ofEnvironment writtenSample = .ok
        { runs := 18446744073709551615, warmup := 7, disabledFrom := some .sse41, verbose := true,
          libraryPath := some " /opt/a.so" } ∧
      ofEnvironment spoiltSample = .error (.invalidSetting "PEAKPROBE_WARMUP" " 4294967296") := by
  have hwrites : Writes writtenSample 18446744073709551615 7 .sse41 true " /opt/a.so" := by
    refine ⟨⟨"\u200918446744073709551615\n", by decide +kernel, ?_⟩, ⟨"\t7", by decide +kernel, ?_⟩,
      ⟨"sse4.1\u3000", by decide +kernel, ?_⟩, ⟨" yEs ", by decide +kernel, ?_⟩, by decide +kernel⟩
    · exact ⟨['\u2009'], ['\n'], by decide, by decide, by decide +kernel⟩
    · exact ⟨['\t'], [], by decide, by decide, by decide +kernel⟩
    · exact ⟨[], ['\u3000'], by decide, by decide, by decide +kernel⟩
    · exact flagOf?_eq_some_iff.mp (by decide +kernel)
  have hruns : Variable.runs.IsValid spoiltSample := Variable.refusal?_eq_none_iff.mp (by decide +kernel)
  have hwarmup : Variable.warmup.refusal? spoiltSample = some ("PEAKPROBE_WARMUP", " 4294967296") := by
    decide +kernel
  obtain ⟨-, hlookup, hrefused⟩ := Variable.refusal?_eq_some_iff.mp hwarmup
  refine ⟨hwrites, (ofEnvironment_reads_variables writtenSample).2.2.2.2 _ _ _ _ _ hwrites, ?_⟩
  exact ((ofEnvironment_reads_variables spoiltSample).2.2.2.1 _).mpr
    ⟨[.runs], .warmup, [.disableFrom, .verbose], _, rfl, by simpa using hruns, hlookup, hrefused, rfl⟩

end Config

end OpTiming

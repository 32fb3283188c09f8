import Mathlib.Tactic.Common
import OpTiming.Config
import OpTiming.Proofs.Capability

/-!
# The environment as settings

Every variable is read by a grammar of its own, and reading the environment stops at the first variable
that its grammar refuses.

* **`Reads`** — a reader goes by a grammar: it gives the value, or names the setting and holds the text as
  it was given.
* **`refused?`** — a setting and its text, where the grammar refuses it.
* **`invalidVariable?`**, **`fromVariables`** — the variable that decides the failure, and the settings where
  there is none; **`ofEnvironment_eq`** says that nothing else can come out.

Blanks around the name of a capability are dropped twice on the way from the environment, and once on the
way from an option.  By `Capability.parse?_trimString` this makes no difference.
-/

namespace OpTiming

namespace Config

variable {α : Type}

/-! ## Grammars

What a whole text stands for, blanks included. -/

def runsOf? (text : String) : Option UInt64 := Text.Numeral.readUInt64? (Text.trim text.toList)

def warmupOf? (text : String) : Option UInt32 := Text.Numeral.readUInt32? (Text.trim text.toList)

def flagOf? (text : String) : Option Bool :=
  flagOfWord? (String.ofList (Text.lowerAscii (Text.trim text.toList)))

/-- A reader that goes by a grammar. -/
def Reads (read : String → String → Except Failure α) (grammar : String → Option α) : Prop :=
  ∀ key text, read key text = (grammar text).elim (.error (invalid key text)) .ok

lemma reads_readTrimmed (grammar : List Char → Option α) :
    Reads (readTrimmed grammar) fun text => grammar (Text.trim text.toList) := by
  intro key text
  change readTrimmed grammar key text = (grammar (Text.trim text.toList)).elim _ _
  rw [readTrimmed]
  cases grammar (Text.trim text.toList) with
  | none => rfl
  | some x => rfl

lemma reads_readRuns : Reads readRuns runsOf? := reads_readTrimmed _

lemma reads_readWarmup : Reads readWarmup warmupOf? := reads_readTrimmed _

lemma reads_readFlag : Reads readFlag flagOf? := reads_readTrimmed _

lemma reads_readCapability : Reads readCapability Capability.parse? := by
  intro key text
  have htrimmed : readCapability key text = _ := reads_readTrimmed _ key text
  rw [htrimmed]
  change (Capability.parse? (Text.trimString text)).elim _ _ = _
  rw [Capability.parse?_trimString]

lemma Reads.some {read : String → String → Except Failure α} {grammar : String → Option α}
    (h : Reads read grammar) :
    Reads (fun key text => Option.some <$> read key text) fun text => (grammar text).map Option.some := by
  intro key text
  change Option.some <$> read key text = ((grammar text).map Option.some).elim _ _
  rw [h key text]
  cases grammar text with
  | none => rfl
  | some x => rfl

/-! ## Variables -/

/-- A setting and the text that is given for it, if the text stands for no value. -/
def refused? (grammar : String → Option α) (key : String) (given : Option String) :
    Option (String × String) :=
  (given.filter fun text => (grammar text).isNone).map (key, ·)

lemma refused?_none (grammar : String → Option α) (key : String) : refused? grammar key none = none := rfl

lemma refused?_of_none {grammar : String → Option α} {text : String} (h : grammar text = none)
    (key : String) : refused? grammar key (some text) = some (key, text) := by
  rw [refused?, Option.filter_some_pos (by simp [h]), Option.map_some]

lemma refused?_of_some {grammar : String → Option α} {text : String} {x : α} (h : grammar text = some x)
    (key : String) : refused? grammar key (some text) = none := by
  rw [refused?, Option.filter_some_neg (by simp [h]), Option.map_none]

/-- Whether a text is refused does not depend on the setting that it is given for. -/
lemma refused?_eq_none_iff_of_keys (grammar : String → Option α) (key key' : String)
    (given : Option String) : refused? grammar key given = none ↔ refused? grammar key' given = none := by
  rw [refused?, refused?, Option.map_eq_none_iff, Option.map_eq_none_iff]

lemma refused?_map {β : Type} (grammar : String → Option α) (f : α → β) (key : String)
    (given : Option String) :
    refused? (fun text => (grammar text).map f) key given = refused? grammar key given := by
  simp [refused?]

lemma bind_map_some (grammar : String → Option α) (given : Option String) :
    (given.bind fun text => (grammar text).map some).getD none = given.bind grammar := by
  cases given with
  | none => rfl
  | some text =>
    rw [Option.bind_some, Option.bind_some]
    cases grammar text with
    | none => rfl
    | some x => rfl

/-- A value, unless a variable is refused. -/
def unlessRefused (refused : Option (String × String)) (value : α) : Except Failure α :=
  refused.elim (.ok value) fun (key, text) => .error (invalid key text)

/-- Of two refusals the first one is reported. -/
lemma unlessRefused_bind {β : Type} {first rest : Option (String × String)} {x : α} {y : β}
    {f : α → Except Failure β} (h : f x = unlessRefused rest y) :
    unlessRefused first x >>= f = unlessRefused (first.or rest) y := by
  cases first with
  | none => exact h
  | some refusal => rfl

lemma readOr_eq {read : String → String → Except Failure α} {grammar : String → Option α}
    (h : Reads read grammar) (key : String) (lookup : String → Option String) (default : α) :
    readOr read key lookup default =
      unlessRefused (refused? grammar key (lookup key)) (((lookup key).bind grammar).getD default) := by
  rw [readOr]
  cases lookup key with
  | none => rfl
  | some text =>
    change read key text = _
    rw [h key text, Option.bind_some]
    cases htext : grammar text with
    | none => rw [refused?_of_none htext]; rfl
    | some x => rw [refused?_of_some htext]; rfl

/-! ## The environment -/

/-- The first variable whose text stands for no value, in the order in which they are read. -/
def invalidVariable? (lookup : String → Option String) : Option (String × String) :=
  (refused? runsOf? "PEAKPROBE_RUNS" (lookup "PEAKPROBE_RUNS")).or <|
  (refused? warmupOf? "PEAKPROBE_WARMUP" (lookup "PEAKPROBE_WARMUP")).or <|
  (refused? Capability.parse? "PEAKPROBE_DISABLE_FROM" (lookup "PEAKPROBE_DISABLE_FROM")).or <|
  refused? flagOf? "PEAKPROBE_VERBOSE" (lookup "PEAKPROBE_VERBOSE")

/-- Every setting from its own variable, or else its default. -/
def fromVariables (lookup : String → Option String) : Config where
  runs := ((lookup "PEAKPROBE_RUNS").bind runsOf?).getD 80000000
  warmup := ((lookup "PEAKPROBE_WARMUP").bind warmupOf?).getD 10
  disabledFrom := (lookup "PEAKPROBE_DISABLE_FROM").bind Capability.parse?
  verbose := ((lookup "PEAKPROBE_VERBOSE").bind flagOf?).getD false
  format := .text
  deviceId := 0
  libraryPath := (lookup "LIBOPENCL_PATH").filter (· ≠ "")

/-- **The environment** gives the failure of its first invalid variable, and its settings otherwise. -/
theorem ofEnvironment_eq (lookup : String → Option String) :
    ofEnvironment lookup = unlessRefused (invalidVariable? lookup) (fromVariables lookup) := by
  rw [ofEnvironment, readOr_eq reads_readRuns, readOr_eq reads_readWarmup,
    readOr_eq reads_readCapability.some, readOr_eq reads_readFlag, refused?_map, bind_map_some]
  refine unlessRefused_bind (unlessRefused_bind (unlessRefused_bind ?_))
  -- the last reading; nothing comes after it that could be refused
  cases refused? flagOf? "PEAKPROBE_VERBOSE" (lookup "PEAKPROBE_VERBOSE") with
  | none => rfl
  | some refusal => rfl

end Config

end OpTiming

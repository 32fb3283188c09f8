import Mathlib.Data.List.Nodup
import OpTiming.CommandLine
import OpTiming.Proofs.Numeral

/-!
# What arguments give

Arguments are a text in a small language: every option is spelled by one argument or by two, and several can share
one.  They ask for a run iff they spell options that are all different, and the options of the run are just those.

* **`Given`** — an option as it is given, with what its value stands for.  **`Means`** — the values of a setting.
* **`Letters`**, **`Spells`**, **`Asks`** — what the letters behind a dash spell, what one argument spells, and what
  all of them do.  A setting may wait for the next argument, so each of these says which one is left waiting.
* **`Options.Has`**, **`Options.Lacks`**, **`Options.add`** — options as a set of what is given.  **`Grows`** — one
  option after the other is added, and each of them is new.
* **`Leads`** — reading an argument adds what it spells, or ends without a run; one lemma for each reader.
* **`request_eq_run_iff`** — reading and spelling agree.  **`request_threshold_attached`** and
  **`request_threshold_separate`** put one more option in front.
-/

namespace OpTiming.CommandLine

open Text.Numeral (Denotes)

/-! ## Options as they are given -/

/-- An option as it is given, with what its value stands for. -/
inductive Given
  | json
  | verbose
  | device (name : String)
  | deviceId (id : UInt64)
  | runs (count : UInt64)
  | disableFrom (name : String)
  deriving DecidableEq, Repr

/-- The option that is given. -/
def Given.switch : Given → Switch
  | json => .flag .json
  | verbose => .flag .verbose
  | device _ => .setting .device
  | deviceId _ => .setting .deviceId
  | runs _ => .setting .runs
  | disableFrom _ => .setting .disableFrom

namespace Options

/-- What is given is among the options. -/
def Has (o : Options) : Given → Prop
  | .json => o.json = true
  | .verbose => o.verbose = true
  | .device name => o.device = some name
  | .deviceId id => o.deviceId = some id
  | .runs count => o.runs = some count
  | .disableFrom name => o.disableFrom = some name

/-- An option is not given. -/
def Lacks (o : Options) : Switch → Prop
  | .flag .json => o.json = false
  | .flag .verbose => o.verbose = false
  | .flag .help | .flag .version => True
  | .setting .device => o.device = none
  | .setting .deviceId => o.deviceId = none
  | .setting .runs => o.runs = none
  | .setting .disableFrom => o.disableFrom = none

/-- The options with one more. -/
def add (o : Options) : Given → Options
  | .json => { o with json := true }
  | .verbose => { o with verbose := true }
  | .device name => { o with device := some name }
  | .deviceId id => { o with deviceId := some id }
  | .runs count => { o with runs := some count }
  | .disableFrom name => { o with disableFrom := some name }

variable {o o' : Options} {g : Given}

lemma lacks_empty (switch : Switch) : ({} : Options).Lacks switch := by
  rcases switch with flag | setting
  · cases flag <;> trivial
  · cases setting <;> rfl

lemma Lacks.not_has (h : o.Lacks g.switch) : ¬ o.Has g := by
  cases g <;> simp_all [Lacks, Has, Given.switch]

/-- **Options are what is given in them.** -/
lemma ext_has (h : ∀ g, o.Has g ↔ o'.Has g) : o = o' := by
  obtain ⟨device, deviceId, json, verbose, runs, disableFrom⟩ := o
  obtain ⟨device', deviceId', json', verbose', runs', disableFrom'⟩ := o'
  have hdevice : device = device' := Option.ext fun name => h (.device name)
  have hdeviceId : deviceId = deviceId' := Option.ext fun id => h (.deviceId id)
  have hjson : json = json' := Bool.eq_iff_iff.mpr (h .json)
  have hverbose : verbose = verbose' := Bool.eq_iff_iff.mpr (h .verbose)
  have hruns : runs = runs' := Option.ext fun count => h (.runs count)
  have hdisableFrom : disableFrom = disableFrom' := Option.ext fun name => h (.disableFrom name)
  rw [hdevice, hdeviceId, hjson, hverbose, hruns, hdisableFrom]

/-- **A new option is added** to what is given, and nothing else is. -/
lemma has_add (h : o.Lacks g.switch) (g' : Given) : (o.add g).Has g' ↔ o.Has g' ∨ g = g' := by
  cases g <;> cases g' <;> simp_all [Lacks, Has, add, Given.switch]

lemma lacks_add {switch : Switch} : (o.add g).Lacks switch ↔ o.Lacks switch ∧ g.switch ≠ switch := by
  rcases switch with flag | setting
  · cases flag <;> cases g <;> simp [Lacks, add, Given.switch]
  · cases setting <;> cases g <;> simp [Lacks, add, Given.switch]

end Options

/-- One option after the other is added, and each of them is new. -/
def Grows (o : Options) : List Given → Options → Prop
  | [], o' => o = o'
  | g :: given, o' => o.Lacks g.switch ∧ Grows (o.add g) given o'

variable {o o' : Options} {g : Given} {given : List Given}

lemma grows_append {given' : List Given} :
    Grows o (given ++ given') o' ↔ ∃ mid, Grows o given mid ∧ Grows mid given' o' := by
  induction given generalizing o with
  | nil => simp [Grows]
  | cons g given ih => simp only [List.cons_append, Grows, ih, and_assoc, exists_and_left]

/-- **Options that have grown** are what was there and what was given, and no option was given twice. -/
lemma grows_iff : Grows o given o' ↔
    (given.map Given.switch).Nodup ∧ (∀ g ∈ given, o.Lacks g.switch) ∧ ∀ g, o'.Has g ↔ o.Has g ∨ g ∈ given := by
  induction given generalizing o with
  | nil =>
    simp only [Grows, List.map_nil, List.nodup_nil, List.not_mem_nil, or_false, true_and, IsEmpty.forall_iff,
      implies_true]
    constructor
    · rintro rfl g
      rfl
    · exact fun h => Options.ext_has fun g => (h g).symm
  | cons g given ih =>
    simp only [Grows, ih, Options.lacks_add, List.map_cons, List.nodup_cons, List.forall_mem_cons, List.mem_map]
    constructor
    · rintro ⟨hnew, hnodup, hlacks, hhas⟩
      refine ⟨⟨?_, hnodup⟩, ⟨hnew, fun g' hg' => (hlacks g' hg').1⟩, fun g' => ?_⟩
      · rintro ⟨g', hg', hsame⟩
        exact (hlacks g' hg').2 hsame.symm
      · rw [hhas, Options.has_add hnew, or_assoc, List.mem_cons, eq_comm]
    · rintro ⟨⟨hfirst, hnodup⟩, ⟨hnew, hlacks⟩, hhas⟩
      refine ⟨hnew, hnodup, fun g' hg' => ⟨hlacks g' hg', fun hsame => ?_⟩, fun g' => ?_⟩
      · exact hfirst ⟨g', hg', hsame.symm⟩
      · rw [hhas, Options.has_add hnew, or_assoc, List.mem_cons, eq_comm]

/-- From nothing, options grow to just what is given. -/
lemma grows_empty_iff : Grows {} given o ↔ (given.map Given.switch).Nodup ∧ ∀ g, o.Has g ↔ g ∈ given := by
  have hnothing : ∀ g, ¬ ({} : Options).Has g := fun g => (Options.lacks_empty g.switch).not_has
  simp only [grows_iff, Options.lacks_empty, hnothing, implies_true, true_and, false_or]

/-! ## Spelling -/

/-- The long name of a setting. -/
def Setting.name : Setting → String
  | device => "device"
  | deviceId => "dev-id"
  | runs => "runs"
  | disableFrom => "disable-from"

/-- The letter of a setting that has one. -/
def Setting.letter? : Setting → Option Char
  | device => some 'd'
  | deviceId => some 'i'
  | runs | disableFrom => none

/-- What a text means as the value of a setting. -/
inductive Means : Setting → List Char → Given → Prop
  | device (name : String) : Means .device name.toList (.device name)
  | deviceId {text : List Char} {id : UInt64} (h : Denotes text id.toNat) : Means .deviceId text (.deviceId id)
  | runs {text : List Char} {count : UInt64} (h : Denotes text count.toNat) : Means .runs text (.runs count)
  | disableFrom (name : String) : Means .disableFrom name.toList (.disableFrom name)

/-- A text can be an argument of its own behind the setting that it is for: it does not look like an option. -/
def StandsAlone (text : List Char) : Prop := text = ['-'] ∨ text.head? ≠ some '-'

/-- What letters behind one dash spell, and the setting that they leave waiting.  Only the last option among them
can be a setting, as what follows it is its value. -/
inductive Letters : List Char → List Given → Option Setting → Prop
  | nil : Letters [] [] none
  | verbose {cs : List Char} {given : List Given} {waiting : Option Setting} (rest : Letters cs given waiting) :
      Letters ('v' :: cs) (.verbose :: given) waiting
  | setting {setting : Setting} {c : Char} (hc : setting.letter? = some c) : Letters [c] [] (some setting)
  | equals {setting : Setting} {c : Char} {text : List Char} {g : Given} (hc : setting.letter? = some c)
      (htext : Means setting text g) : Letters (c :: '=' :: text) [g] none
  | attached {setting : Setting} {c : Char} {text : List Char} {g : Given} (hc : setting.letter? = some c)
      (hne : text ≠ []) (hequals : text.head? ≠ some '=') (htext : Means setting text g) :
      Letters (c :: text) [g] none

/-- What one argument spells, and the setting that it leaves waiting. -/
inductive Spells : List Char → List Given → Option Setting → Prop
  | json : Spells "--json".toList [.json] none
  | verbose : Spells "--verbose".toList [.verbose] none
  | setting (setting : Setting) : Spells ('-' :: '-' :: setting.name.toList) [] (some setting)
  | equals {setting : Setting} {text : List Char} {g : Given} (htext : Means setting text g) :
      Spells ('-' :: '-' :: setting.name.toList ++ '=' :: text) [g] none
  | letters {cs : List Char} {given : List Given} {waiting : Option Setting} (hne : cs ≠ [])
      (h : Letters cs given waiting) : Spells ('-' :: cs) given waiting

/-- What arguments spell, the first of which is the value of a setting if one is waiting.  Two dashes alone may
stand behind all others. -/
inductive Asks : Option Setting → List (List Char) → List Given → Prop
  | nil : Asks none [] []
  | dashes : Asks none [['-', '-']] []
  | argument {argument : List Char} {given given' : List Given} {waiting : Option Setting}
      {arguments : List (List Char)} (h : Spells argument given waiting) (rest : Asks waiting arguments given') :
      Asks none (argument :: arguments) (given ++ given')
  | value {setting : Setting} {text : List Char} {g : Given} {given : List Given} {arguments : List (List Char)}
      (hvalue : StandsAlone text) (htext : Means setting text g) (rest : Asks none arguments given) :
      Asks (some setting) (text :: arguments) (g :: given)

/-! ## Flags and values -/

/-- A step adds what is spelled, or ends without a run. -/
def Leads (o : Options) (spells : List Given → Option Setting → Prop) : Except Request Pending → Prop
  | .ok (o', waiting) => ∃ given, spells given waiting ∧ Grows o given o'
  | .error request => ∀ o', request ≠ .run o'

lemma setFlag_of_lacks {flag : Flag} (hflag : g.switch = .flag flag) (h : o.Lacks g.switch) :
    setFlag o flag = .ok (o.add g) := by
  cases g <;> cases hflag
  · exact if_neg (Bool.eq_false_iff.mp h)
  · exact if_neg (Bool.eq_false_iff.mp h)

/-- A flag is taken if it is new, and ends the reading otherwise. -/
lemma setFlag_cases (o : Options) (flag : Flag) :
    (∃ g, g.switch = .flag flag ∧ o.Lacks g.switch ∧ setFlag o flag = .ok (o.add g)) ∨
      ∃ request, setFlag o flag = .error request ∧ ∀ o', request ≠ .run o' := by
  cases flag with
  | json =>
    cases hgiven : o.json with
    | false => exact .inl ⟨.json, rfl, hgiven, setFlag_of_lacks rfl hgiven⟩
    | true => exact .inr ⟨.rejected, by rw [setFlag, hgiven]; rfl, nofun⟩
  | verbose =>
    cases hgiven : o.verbose with
    | false => exact .inl ⟨.verbose, rfl, hgiven, setFlag_of_lacks rfl hgiven⟩
    | true => exact .inr ⟨.rejected, by rw [setFlag, hgiven]; rfl, nofun⟩
  | help => exact .inr ⟨.help, rfl, nofun⟩
  | version => exact .inr ⟨.version, rfl, nofun⟩

lemma setOnce_eq_ok_iff {α : Type} {given value : Option α} {store : α → Options} :
    setOnce given value store = .ok o ↔ given = none ∧ ∃ x, value = some x ∧ store x = o := by
  cases given with
  | some _ => simp [setOnce]
  | none =>
    cases value with
    | none => simp [setOnce]
    | some x => simp [setOnce]

lemma setOnce_error {α : Type} {given value : Option α} {store : α → Options} {request : Request}
    (h : setOnce given value store = .error request) : request = .rejected := by
  unfold setOnce at h
  split at h
  · cases h
  · cases h
    rfl

/-- A setting whose value is read by itself. -/
lemma setOnce_eq_ok_iff_means {α : Type} {given value : Option α} (make : α → Given) {text : List Char}
    {setting : Setting} (hlacks : ∀ x, o.Lacks (make x).switch ↔ given = none)
    (hmeans : ∀ g, Means setting text g ↔ ∃ x, value = some x ∧ make x = g) :
    setOnce given value (fun x => o.add (make x)) = .ok o' ↔ ∃ g, Means setting text g ∧ Grows o [g] o' := by
  simp only [setOnce_eq_ok_iff, hmeans, Grows]
  constructor
  · rintro ⟨hnone, x, hx, ho⟩
    exact ⟨make x, ⟨x, hx, rfl⟩, (hlacks x).mpr hnone, ho⟩
  · rintro ⟨_, ⟨x, hx, rfl⟩, hnew, ho⟩
    exact ⟨(hlacks x).mp hnew, x, hx, ho⟩

/-- **A value is taken** if its setting is new and the text means something. -/
lemma setValue_eq_ok_iff {text : List Char} {setting : Setting} :
    setValue o text setting = .ok o' ↔ ∃ g, Means setting text g ∧ Grows o [g] o' := by
  cases setting with
  | device =>
    refine setOnce_eq_ok_iff_means .device (fun _ => Iff.rfl) fun g => ⟨?_, ?_⟩
    · intro h
      cases h with
      | device name => exact ⟨name, by rw [String.ofList_toList], rfl⟩
    · rintro ⟨name, hname, rfl⟩
      cases hname
      simpa using Means.device (String.ofList text)
  | deviceId =>
    refine setOnce_eq_ok_iff_means .deviceId (fun _ => Iff.rfl) fun g => ⟨?_, ?_⟩
    · intro h
      cases h with
      | deviceId hid => exact ⟨_, Text.Numeral.readUInt64?_eq_some_iff.mpr hid, rfl⟩
    · rintro ⟨id, hid, rfl⟩
      exact .deviceId (Text.Numeral.readUInt64?_eq_some_iff.mp hid)
  | runs =>
    refine setOnce_eq_ok_iff_means .runs (fun _ => Iff.rfl) fun g => ⟨?_, ?_⟩
    · intro h
      cases h with
      | runs hcount => exact ⟨_, Text.Numeral.readUInt64?_eq_some_iff.mpr hcount, rfl⟩
    · rintro ⟨count, hcount, rfl⟩
      exact .runs (Text.Numeral.readUInt64?_eq_some_iff.mp hcount)
  | disableFrom =>
    refine setOnce_eq_ok_iff_means .disableFrom (fun _ => Iff.rfl) fun g => ⟨?_, ?_⟩
    · intro h
      cases h with
      | disableFrom name => exact ⟨name, by rw [String.ofList_toList], rfl⟩
    · rintro ⟨name, hname, rfl⟩
      cases hname
      simpa using Means.disableFrom (String.ofList text)

lemma setValue_error {text : List Char} {setting : Setting} {request : Request}
    (h : setValue o text setting = .error request) : request = .rejected := by
  cases setting <;> exact setOnce_error h

/-! ## Reading one argument -/

lemma Leads.cons {spells spells' : List Given → Option Setting → Prop} {outcome : Except Request Pending}
    (h : Leads (o.add g) spells outcome) (hnew : o.Lacks g.switch)
    (hspells : ∀ given waiting, spells given waiting → spells' (g :: given) waiting) : Leads o spells' outcome := by
  match outcome, h with
  | .ok (o', waiting), ⟨given, hgiven, hgrows⟩ => exact ⟨g :: given, hspells given waiting hgiven, hnew, hgrows⟩
  | .error request, h => exact h

/-- The value of a setting in the argument of the setting. -/
lemma setValue_leads (o : Options) {text : List Char} {setting : Setting} {spells : List Given → Option Setting → Prop}
    (hspells : ∀ g, Means setting text g → spells [g] none) :
    Leads o spells ((setValue o text setting).map (·, none)) := by
  cases hset : setValue o text setting with
  | error request =>
    rw [setValue_error hset]
    exact nofun
  | ok o' =>
    obtain ⟨g, hmeans, hgrows⟩ := setValue_eq_ok_iff.mp hset
    exact ⟨[g], hspells g hmeans, hgrows⟩

lemma setValue_map_of_grows {text : List Char} {setting : Setting} (hmeans : Means setting text g)
    (hgrows : Grows o [g] o') : (setValue o text setting).map (·, (none : Option Setting)) = .ok (o', none) := by
  rw [setValue_eq_ok_iff.mpr ⟨g, hmeans, hgrows⟩]
  rfl

/-! Letters behind one dash. -/

lemma short?_eq_setting_iff {c : Char} {setting : Setting} :
    short? c = some (.setting setting) ↔ setting.letter? = some c := by
  constructor
  · intro h
    unfold short? at h
    split at h <;> cases h <;> rfl
  · intro h
    cases setting <;> cases h <;> rfl

/-- The only flag with a letter that a run can have. -/
lemma short?_eq_flag {c : Char} {flag : Flag} (h : short? c = some (.flag flag)) (hg : g.switch = .flag flag) :
    c = 'v' ∧ g = .verbose := by
  unfold short? at h
  split at h <;> cases h <;> cases g <;> cases hg
  exact ⟨rfl, rfl⟩

lemma readShort_leads (o : Options) (cs : List Char) : Leads o (Letters cs) (readShort o cs) := by
  induction cs generalizing o with
  | nil => exact ⟨[], .nil, rfl⟩
  | cons c cs ih =>
    rw [readShort]
    rcases hshort : short? c with _ | flag | setting
    · exact nofun
    · obtain ⟨g, hg, hnew, hset⟩ | ⟨request, hset, hrun⟩ := setFlag_cases o flag
      · obtain ⟨rfl, rfl⟩ := short?_eq_flag hshort hg
        simp only [hset]
        exact (ih (o.add .verbose)).cons hnew fun _ _ => .verbose
      · simp only [hset]
        exact hrun
    · have hc := short?_eq_setting_iff.mp hshort
      simp only
      split
      · exact ⟨[], .setting hc, rfl⟩
      · exact setValue_leads o fun g hmeans => .equals hc hmeans
      · next hnil hequals =>
        refine setValue_leads o fun g hmeans => .attached hc hnil ?_ hmeans
        intro hhead
        obtain ⟨rest, rfl⟩ := List.head?_eq_some_iff.mp hhead
        exact hequals rest rfl

lemma readShort_of_letters {cs : List Char} {waiting : Option Setting} (h : Letters cs given waiting)
    (hgrows : Grows o given o') : readShort o cs = .ok (o', waiting) := by
  induction h generalizing o with
  | nil =>
    cases hgrows
    rfl
  | verbose rest ih =>
    obtain ⟨hnew, hrest⟩ := hgrows
    have hset : setFlag o .verbose = .ok (o.add .verbose) := setFlag_of_lacks rfl hnew
    simp only [readShort, short?, hset]
    exact ih hrest
  | setting hc =>
    cases hgrows
    simp only [readShort, short?_eq_setting_iff.mpr hc]
  | equals hc htext =>
    simp only [readShort, short?_eq_setting_iff.mpr hc]
    exact setValue_map_of_grows htext hgrows
  | attached hc hne hequals htext =>
    simp only [readShort, short?_eq_setting_iff.mpr hc]
    split
    · exact absurd rfl hne
    · exact absurd rfl hequals
    · exact setValue_map_of_grows htext hgrows

/-! Names behind two dashes. -/

lemma eq_of_splitEquals {cs name : List Char} {value : Option (List Char)} (h : splitEquals cs = (name, value)) :
    cs = name ++ (value.map ('=' :: ·)).getD [] := by
  fun_induction splitEquals cs generalizing name value with
  | case1 =>
    cases h
    rfl
  | case2 cs =>
    cases h
    rfl
  | case3 c cs _ before after hrest ih =>
    cases h
    rw [List.cons_append, ← ih hrest]

lemma splitEquals_of_free {name : List Char} (h : '=' ∉ name) : splitEquals name = (name, none) := by
  induction name with
  | nil => rfl
  | cons c name ih =>
    rw [List.mem_cons, not_or] at h
    rw [splitEquals, ih h.2]
    exact fun heq => h.1 heq.symm

lemma splitEquals_append {name value : List Char} (h : '=' ∉ name) :
    splitEquals (name ++ '=' :: value) = (name, some value) := by
  induction name with
  | nil => rfl
  | cons c name ih =>
    rw [List.mem_cons, not_or] at h
    rw [List.cons_append, splitEquals, ih h.2]
    exact fun heq => h.1 heq.symm

lemma long?_eq_setting_iff {name : String} {setting : Setting} :
    long? name = some (.setting setting) ↔ name = setting.name := by
  constructor
  · intro h
    unfold long? at h
    split at h <;> cases h <;> rfl
  · rintro rfl
    cases setting <;> rfl

/-- The only flags that a run can have. -/
lemma long?_eq_flag {name : String} {flag : Flag} (h : long? name = some (.flag flag)) (hg : g.switch = .flag flag) :
    (name = "json" ∧ g = .json) ∨ (name = "verbose" ∧ g = .verbose) := by
  unfold long? at h
  split at h <;> cases h <;> cases g <;> cases hg
  · exact .inl ⟨rfl, rfl⟩
  · exact .inr ⟨rfl, rfl⟩

lemma equals_not_mem_name (setting : Setting) : '=' ∉ setting.name.toList := by
  cases setting <;> decide

lemma readLong_leads (o : Options) (cs : List Char) : Leads o (Spells ('-' :: '-' :: cs)) (readLong o cs) := by
  rcases hsplit : splitEquals cs with ⟨name, value⟩
  have hcs := eq_of_splitEquals hsplit
  simp only [readLong, hsplit]
  rcases hlong : long? (String.ofList name) with _ | flag | setting
  · exact nofun
  · cases value with
    | some value => exact nofun
    | none =>
      obtain ⟨g, hg, hnew, hset⟩ | ⟨request, hset, hrun⟩ := setFlag_cases o flag
      · simp only [hset]
        have hcs' : cs = name := by simpa using hcs
        subst hcs'
        refine ⟨[g], ?_, hnew, rfl⟩
        obtain ⟨hname, rfl⟩ | ⟨hname, rfl⟩ := long?_eq_flag hlong hg
        · rw [← String.toList_ofList (l := cs), hname]
          exact .json
        · rw [← String.toList_ofList (l := cs), hname]
          exact .verbose
      · simp only [hset]
        exact hrun
  · have hname : name = setting.name.toList := by
      rw [← long?_eq_setting_iff.mp hlong, String.toList_ofList]
    subst hname
    cases value with
    | none =>
      have hcs' : cs = setting.name.toList := by simpa using hcs
      subst hcs'
      exact ⟨[], .setting setting, rfl⟩
    | some value =>
      have hcs' : cs = setting.name.toList ++ '=' :: value := hcs
      subst hcs'
      exact setValue_leads o fun g hmeans => .equals hmeans

lemma readArgument_leads (o : Options) (cs : List Char) : Leads o (Spells cs) (readArgument o cs) := by
  unfold readArgument
  split
  · next c cs => exact readLong_leads o (c :: cs)
  · next c cs _ =>
    split
    · exact nofun
    · have hletters := readShort_leads o (c :: cs)
      match hread : readShort o (c :: cs), hletters with
      | .ok (o', waiting), ⟨given, hgiven, hgrows⟩ => exact ⟨given, .letters (List.cons_ne_nil c cs) hgiven, hgrows⟩
      | .error request, h => exact h
  · exact nofun

lemma Letters.head_ne_dash {cs : List Char} {waiting : Option Setting} (h : Letters cs given waiting) :
    cs.head? ≠ some '-' := by
  have hletter : ∀ {setting : Setting} {c : Char}, setting.letter? = some c → c ≠ '-' := by
    rintro setting c hc rfl
    cases setting <;> cases hc
  cases h with
  | nil => simp
  | verbose rest => simp
  | setting hc => simpa using hletter hc
  | equals hc htext => simpa using hletter hc
  | attached hc hne hequals htext => simpa using hletter hc

lemma readArgument_long {cs : List Char} (hne : cs ≠ []) : readArgument o ('-' :: '-' :: cs) = readLong o cs := by
  cases cs with
  | nil => exact absurd rfl hne
  | cons c cs => rfl

lemma readArgument_short {cs : List Char} (hne : cs ≠ []) (hdash : cs.head? ≠ some '-') :
    readArgument o ('-' :: cs) = readShort o cs := by
  cases cs with
  | nil => exact absurd rfl hne
  | cons c cs =>
    have hc : c ≠ '-' := by simpa using hdash
    rw [readArgument]
    · simp [hc]
    · exact fun _ _ heq => absurd heq hc

lemma name_ne_nil (setting : Setting) : setting.name.toList ≠ [] := by
  cases setting <;> decide

lemma readArgument_of_spells {cs : List Char} {waiting : Option Setting} (h : Spells cs given waiting)
    (hgrows : Grows o given o') : readArgument o cs = .ok (o', waiting) := by
  cases h with
  | json =>
    obtain ⟨hnew, rfl⟩ := hgrows
    have hset : setFlag o .json = .ok (o.add .json) := setFlag_of_lacks rfl hnew
    simp [readArgument, readLong, splitEquals, long?, hset, Except.map]
  | verbose =>
    obtain ⟨hnew, rfl⟩ := hgrows
    have hset : setFlag o .verbose = .ok (o.add .verbose) := setFlag_of_lacks rfl hnew
    simp [readArgument, readLong, splitEquals, long?, hset, Except.map]
  | setting setting =>
    cases hgrows
    rw [readArgument_long (name_ne_nil setting), readLong, splitEquals_of_free (equals_not_mem_name setting)]
    simp only [String.ofList_toList, long?_eq_setting_iff.mpr rfl]
  | @equals setting text g htext =>
    have hne : setting.name.toList ++ '=' :: text ≠ [] := by simp
    rw [List.cons_append, List.cons_append, readArgument_long hne, readLong,
      splitEquals_append (equals_not_mem_name setting)]
    simp only [String.ofList_toList, long?_eq_setting_iff.mpr rfl]
    exact setValue_map_of_grows htext hgrows
  | letters hne h =>
    rw [readArgument_short hne h.head_ne_dash]
    exact readShort_of_letters h hgrows

/-! ## Reading all arguments -/

lemma isValue_iff {text : List Char} : isValue text = true ↔ StandsAlone text := by
  unfold isValue StandsAlone
  split
  · simp
  · simp_all
  · next hdash =>
    simp only [true_iff]
    refine .inr fun hhead => ?_
    obtain ⟨rest, rfl⟩ := List.head?_eq_some_iff.mp hhead
    exact hdash rest rfl

lemma asks_of_readArguments {waiting : Option Setting} {arguments : List (List Char)}
    (h : readArguments (o, waiting) arguments = .run o') :
    ∃ given, Asks waiting arguments given ∧ Grows o given o' := by
  induction arguments generalizing o waiting with
  | nil =>
    cases waiting with
    | none =>
      cases h
      exact ⟨[], .nil, rfl⟩
    | some setting => cases h
  | cons argument rest ih =>
    cases waiting with
    | some setting =>
      rw [readArguments] at h
      split at h
      · next hvalue =>
        cases hset : setValue o argument setting with
        | error request =>
          simp only [hset, setValue_error hset] at h
          cases h
        | ok next =>
          simp only [hset] at h
          obtain ⟨g, hmeans, hnew, rfl⟩ := setValue_eq_ok_iff.mp hset
          obtain ⟨given, hgiven, hgrows⟩ := ih h
          exact ⟨g :: given, .value (isValue_iff.mp hvalue) hmeans hgiven, hnew, hgrows⟩
      · cases h
    | none =>
      rw [readArguments] at h
      split at h
      · next hdashes =>
        split at h
        · next hlast =>
          cases h
          rw [hdashes, List.isEmpty_iff.mp hlast]
          exact ⟨[], .dashes, rfl⟩
        · cases h
      · have hleads := readArgument_leads o argument
        match hread : readArgument o argument, hleads with
        | .error request, hrun =>
          simp only [hread] at h
          exact absurd h (hrun o')
        | .ok (next, waiting), ⟨given, hspells, hnext⟩ =>
          simp only [hread] at h
          obtain ⟨given', hgiven, hgrows⟩ := ih h
          exact ⟨given ++ given', .argument hspells hgiven, grows_append.mpr ⟨next, hnext, hgrows⟩⟩

lemma readArguments_of_asks {waiting : Option Setting} {arguments : List (List Char)}
    (h : Asks waiting arguments given) (hgrows : Grows o given o') :
    readArguments (o, waiting) arguments = .run o' := by
  induction h generalizing o with
  | nil =>
    cases hgrows
    rfl
  | dashes =>
    cases hgrows
    rfl
  | @argument argument given given' waiting arguments hspells rest ih =>
    obtain ⟨next, hnext, hrest⟩ := grows_append.mp hgrows
    have hread := readArgument_of_spells hspells hnext
    have hdashes : argument ≠ ['-', '-'] := by
      rintro rfl
      cases hread
    simp only [readArguments, if_neg hdashes, hread]
    exact ih hrest
  | @value setting text g given arguments hvalue hmeans rest ih =>
    obtain ⟨hnew, hrest⟩ := hgrows
    have hset : setValue o text setting = .ok (o.add g) := setValue_eq_ok_iff.mpr ⟨g, hmeans, hnew, rfl⟩
    simp only [readArguments, if_pos (isValue_iff.mpr hvalue), hset]
    exact ih hrest

/-- **Arguments ask for a run** iff they spell options that are all different, and what the options of the run hold
is just what is spelled. -/
theorem request_eq_run_iff {arguments : List String} : request arguments = .run o ↔
    ∃ given, Asks none (arguments.map String.toList) given ∧ (given.map Given.switch).Nodup ∧
      ∀ g, o.Has g ↔ g ∈ given := by
  simp only [← grows_empty_iff]
  constructor
  · exact asks_of_readArguments
  · rintro ⟨given, hgiven, hgrows⟩
    exact readArguments_of_asks hgiven hgrows

/-! ## One more option -/

/-- What is asked for together with one option that is new. -/
lemma exists_given_cons {arguments : List String} (h : request arguments = .run o) (hnew : o.Lacks g.switch) :
    ∃ given, Asks none (arguments.map String.toList) given ∧ ((g :: given).map Given.switch).Nodup ∧
      ∀ g', (o.add g).Has g' ↔ g' ∈ g :: given := by
  obtain ⟨given, hgiven, hnodup, hhas⟩ := request_eq_run_iff.mp h
  refine ⟨given, hgiven, List.nodup_cons.mpr ⟨?_, hnodup⟩, fun g' => ?_⟩
  · intro hmem
    obtain ⟨g', hg', hsame⟩ := List.mem_map.mp hmem
    rw [← hsame] at hnew
    exact hnew.not_has ((hhas g').mpr hg')
  · rw [Options.has_add hnew, hhas, List.mem_cons, or_comm, eq_comm]

/-- **An option in front** of arguments that ask for a run without it, in one argument with its value. -/
lemma request_cons {argument : String} {arguments : List String} (h : request arguments = .run o)
    (hnew : o.Lacks g.switch) (hspells : Spells argument.toList [g] none) :
    request (argument :: arguments) = .run (o.add g) := by
  obtain ⟨given, hgiven, hmore⟩ := exists_given_cons h hnew
  exact request_eq_run_iff.mpr ⟨g :: given, .argument hspells hgiven, hmore⟩

/-- **An option in front**, with its value in an argument of its own. -/
lemma request_cons_cons {argument text : String} {arguments : List String} {setting : Setting}
    (h : request arguments = .run o) (hnew : o.Lacks g.switch) (hspells : Spells argument.toList [] (some setting))
    (hvalue : StandsAlone text.toList) (hmeans : Means setting text.toList g) :
    request (argument :: text :: arguments) = .run (o.add g) := by
  obtain ⟨given, hgiven, hmore⟩ := exists_given_cons h hnew
  exact request_eq_run_iff.mpr ⟨g :: given, .argument hspells (.value hvalue hmeans hgiven), hmore⟩

/-- **A threshold in front** of arguments that ask for a run without one, in one argument with its option. -/
lemma request_threshold_attached {arguments : List String} (h : request arguments = .run o)
    (hnone : o.disableFrom = none) (text : String) :
    request (("--disable-from=" ++ text) :: arguments) = .run (o.add (.disableFrom text)) := by
  have hspelled : ("--disable-from=" ++ text).toList =
      '-' :: '-' :: Setting.disableFrom.name.toList ++ '=' :: text.toList := by
    simp [Setting.name]
  refine request_cons h hnone ?_
  rw [hspelled]
  exact .equals (.disableFrom text)

/-- **A threshold in front**, in an argument of its own. -/
lemma request_threshold_separate {arguments : List String} (h : request arguments = .run o)
    (hnone : o.disableFrom = none) {text : String} (hvalue : StandsAlone text.toList) :
    request ("--disable-from" :: text :: arguments) = .run (o.add (.disableFrom text)) := by
  have hspelled : "--disable-from".toList = '-' :: '-' :: Setting.disableFrom.name.toList := by
    simp [Setting.name]
  refine request_cons_cons h hnone ?_ hvalue (.disableFrom text)
  rw [hspelled]
  exact .setting .disableFrom

/-! ## The flag for records -/

lemma Letters.json_not_mem {cs : List Char} {waiting : Option Setting} (h : Letters cs given waiting) :
    .json ∉ given := by
  induction h with
  | nil => simp
  | verbose rest ih => simpa using ih
  | setting hc => simp
  | equals hc htext => cases htext <;> simp
  | attached hc hne hequals htext => cases htext <;> simp

lemma Spells.json_mem_iff {cs : List Char} {waiting : Option Setting} (h : Spells cs given waiting) :
    .json ∈ given ↔ cs = "--json".toList := by
  cases h with
  | json => simp
  | verbose => simp
  | setting setting => cases setting <;> simp [Setting.name]
  | @equals setting text g htext => cases htext <;> simp [Setting.name]
  | letters hne h =>
    constructor
    · exact fun hjson => absurd hjson h.json_not_mem
    · intro hcs
      obtain ⟨-, rfl⟩ := List.cons.inj hcs
      exact absurd rfl h.head_ne_dash

lemma Asks.json_mem_iff {waiting : Option Setting} {arguments : List (List Char)} (h : Asks waiting arguments given) :
    .json ∈ given ↔ "--json".toList ∈ arguments := by
  induction h with
  | nil => simp
  | dashes => simp
  | argument hspells rest ih => rw [List.mem_append, List.mem_cons, hspells.json_mem_iff, ih, eq_comm]
  | @value setting text g given arguments hvalue hmeans rest ih =>
    have hg : Given.json ≠ g := by
      rintro rfl
      cases hmeans
    have htext : "--json".toList ≠ text := by
      rintro rfl
      obtain hdash | hhead := hvalue
      · simp at hdash
      · simp at hhead
    rw [List.mem_cons, List.mem_cons, ih, or_iff_right hg, or_iff_right htext]

/-- **Records are asked for** by one argument and in no other way. -/
lemma json_iff_mem {arguments : List String} (h : request arguments = .run o) :
    o.json = true ↔ "--json" ∈ arguments := by
  obtain ⟨given, hgiven, -, hhas⟩ := request_eq_run_iff.mp h
  have hmem : "--json".toList ∈ arguments.map String.toList ↔ "--json" ∈ arguments := by
    simp only [List.mem_map, String.toList_inj, exists_eq_right]
  exact (hhas .json).trans (hgiven.json_mem_iff.trans hmem)

end OpTiming.CommandLine

import OpTiming.Json.Printer
import OpTiming.Proofs.Json.Token

/-!
# Values read back

A value is printed in one of two layouts and read by a machine that looks at one token at a time.  Between
the two stand the **`tokens`** of the value, and each side is proved against them alone.

* **Printing** spells these tokens, in either layout (`spells_compact`, `spells_prettyAt`).
* **Reading** takes these tokens back to the value, whatever is open below it (`run?_tokens`).

So a value is read back from its text in either layout (`parse?_compact`, `parse?_pretty`), as long as it
is **`WellFormed`**: its numbers are well spelled, and its string literals denote texts.
-/

namespace OpTiming.Json.Value

/-- The numbers of a value are well spelled, and its string literals and keys denote texts. -/
inductive WellFormed : Value → Prop
  | null : WellFormed null
  | bool (b : Bool) : WellFormed (bool b)
  | number {l : Literal} (h : l.WellFormed) : WellFormed (number l)
  | string (cs : List Char) : WellFormed (string (some cs))
  | array {items : List Value} (h : ∀ item ∈ items, WellFormed item) : WellFormed (array items)
  | object {members : List (Spelled × Value)} (hkeys : ∀ member ∈ members, ∃ key, member.1 = some key)
      (h : ∀ member ∈ members, WellFormed member.2) : WellFormed (object members)

/-! ## The tokens of a value -/

mutual

/-- The tokens of a value. -/
def tokens : Value → List Token
  | null => [.null]
  | bool b => [.bool b]
  | number l => [.number l]
  | string spelled => [.string spelled]
  | array [] => [.openArray, .closeArray]
  | array (item :: items) => .openArray :: (tokens item ++ itemTokens items)
  | object [] => [.openObject, .closeObject]
  | object ((key, value) :: members) =>
    .openObject :: .string key :: .colon :: (tokens value ++ memberTokens members)

/-- The tokens of the items after the first one, and of the end of their array. -/
def itemTokens : List Value → List Token
  | [] => [.closeArray]
  | item :: items => .comma :: (tokens item ++ itemTokens items)

/-- The tokens of the members after the first one, and of the end of their object. -/
def memberTokens : List (Spelled × Value) → List Token
  | [] => [.closeObject]
  | (key, value) :: members => .comma :: .string key :: .colon :: (tokens value ++ memberTokens members)

end

/-! ## Reading -/

/-- From wherever a value is due, its tokens lead to where it has been read. -/
def Reads (v : Value) : Prop :=
  ∀ stack ts, run? (.value stack) (tokens v ++ ts) = run? (.rest stack v) ts

/-- The first token of a value does not close an array. -/
lemma tokens_eq_cons (v : Value) : ∃ t ts, tokens v = t :: ts ∧ t ≠ .closeArray := by
  cases v with
  | null => exact ⟨_, _, rfl, nofun⟩
  | bool b => exact ⟨_, _, rfl, nofun⟩
  | number l => exact ⟨_, _, rfl, nofun⟩
  | string spelled => exact ⟨_, _, rfl, nofun⟩
  | array items =>
      refine ⟨.openArray, (tokens (array items)).tail, ?_, nofun⟩
      cases items <;> rw [tokens, List.tail_cons]
  | object members =>
      refine ⟨.openObject, (tokens (object members)).tail, ?_, nofun⟩
      rcases members with _ | ⟨⟨key, value⟩, members⟩ <;> rw [tokens, List.tail_cons]

/-- Where the first item of an array or its end may come, a value is read as the first item. -/
lemma run?_firstItem (v : Value) (stack : List Frame) (ts : List Token) :
    run? (.firstItem stack) (tokens v ++ ts) = run? (.value (.items [] :: stack)) (tokens v ++ ts) := by
  obtain ⟨t, ts', htokens, ht⟩ := tokens_eq_cons v
  rw [htokens, List.cons_append, run?, run?, step?, step?]
  exact ht

/-- The items after the first one are read into the frame of their array, and its end closes it. -/
lemma run?_itemTokens {items : List Value} (h : ∀ item ∈ items, Reads item) (stack : List Frame)
    (before : List Value) (v : Value) (ts : List Token) :
    run? (.rest (.items before :: stack) v) (itemTokens items ++ ts) =
      run? (.rest stack (array ((v :: before).reverse ++ items))) ts := by
  induction items generalizing before v with
  | nil => simp [itemTokens, run?, step?, continue?]
  | cons item items ih =>
      obtain ⟨hitem, hitems⟩ := List.forall_mem_cons.mp h
      rw [itemTokens, List.cons_append, List.append_assoc, run?]
      simp only [step?, continue?, Option.bind_some]
      rw [hitem, ih hitems]
      simp

lemma run?_memberTokens {members : List (Spelled × Value)} (h : ∀ member ∈ members, Reads member.2)
    (stack : List Frame) (before : List (Spelled × Value)) (key : Spelled) (v : Value) (ts : List Token) :
    run? (.rest (.members before key :: stack) v) (memberTokens members ++ ts) =
      run? (.rest stack (object (((key, v) :: before).reverse ++ members))) ts := by
  induction members generalizing before key v with
  | nil => simp [memberTokens, run?, step?, continue?]
  | cons member members ih =>
      obtain ⟨key', value⟩ := member
      obtain ⟨hvalue, hmembers⟩ := List.forall_mem_cons.mp h
      rw [memberTokens, List.cons_append, List.cons_append, List.cons_append, List.append_assoc]
      simp only [run?, step?, continue?, Option.bind_some]
      rw [hvalue, ih hmembers]
      simp

/-- **The tokens of a value are read as that value.** -/
theorem run?_tokens {v : Value} (hv : v.WellFormed) : Reads v := by
  induction hv with
  | null => exact fun stack ts => by simp [tokens, run?, step?, start?]
  | bool b => exact fun stack ts => by simp [tokens, run?, step?, start?]
  | number h => exact fun stack ts => by simp [tokens, run?, step?, start?]
  | string cs => exact fun stack ts => by simp [tokens, run?, step?, start?]
  | @array items h ih =>
      intro stack ts
      cases items with
      | nil => simp [tokens, run?, step?, start?]
      | cons item items =>
          obtain ⟨hitem, hitems⟩ := List.forall_mem_cons.mp ih
          rw [tokens, List.cons_append, List.append_assoc, run?]
          simp only [step?, start?, Option.bind_some]
          -- where its first item is due the array may end as well, which `run?_firstItem` rules out
          rw [run?_firstItem, hitem, run?_itemTokens hitems]
          simp
  | @object members hkeys h ih =>
      intro stack ts
      rcases members with _ | ⟨⟨key, value⟩, members⟩
      · simp [tokens, run?, step?, start?]
      · obtain ⟨hvalue, hmembers⟩ := List.forall_mem_cons.mp ih
        rw [tokens, List.cons_append, List.cons_append, List.cons_append, List.append_assoc]
        simp only [run?, step?, start?, Option.bind_some]
        rw [hvalue, run?_memberTokens hmembers]
        simp

/-- **A text that spells the tokens of a value is read as that value.** -/
lemma parse?_of_spells {v : Value} (hv : v.WellFormed) {cs : List Char}
    (h : Token.Spells cs (tokens v)) : parse? cs = some v := by
  have hrun := run?_tokens hv [] []
  rw [List.append_nil] at hrun
  simp [parse?, Token.ofChars?_of_spells h, ofTokens?, hrun, run?]

/-! ## Printing

The two layouts differ in the blanks between tokens and in nothing else.  So the contents of an array or
object are first printed with *any* gaps — before what comes next, and before the end — and are shown to
spell their tokens. -/

open Token

/-- What a printer puts before the rest of a text spells the tokens of a value before those of the rest. -/
def SpelledBy (print : Value → List Char) (v : Value) : Prop :=
  ∀ rest ts, Breaks rest → Spells rest ts → Spells (print v ++ rest) (tokens v ++ ts)

/-- A text that stands between tokens. -/
def Gap (cs : List Char) : Prop := ∀ c ∈ cs, isBlank c = true

section Gaps

variable (print : Value → List Char) (gap stop colonGap : List Char)

/-- The items after the first one and the end of their array, with gaps. -/
def laidItems : List Value → List Char
  | [] => stop ++ [']']
  | item :: items => ',' :: (gap ++ print item ++ laidItems items)

/-- A key, the colon and the value of a member, with gaps. -/
def laidMember (key : Spelled) (value : Value) : List Char :=
  gap ++ spell key ++ ':' :: (colonGap ++ print value)

/-- The members after the first one and the end of their object, with gaps. -/
def laidMembers : List (Spelled × Value) → List Char
  | [] => stop ++ ['\x7d']
  | (key, value) :: members => ',' :: (laidMember print gap colonGap key value ++ laidMembers members)

variable {print gap stop colonGap} {rest : List Char} {ts : List Token}

lemma breaks_gap_append {gap : List Char} (hgap : Gap gap) {c : Char} (hc : Breaks [c]) (rest : List Char) :
    Breaks (gap ++ c :: rest) := by
  cases gap with
  | nil => exact breaks_cons (hc c rfl).1 (hc c rfl).2 rest
  | cons d gap =>
      have hblank : isBlank d = true := hgap d (List.mem_cons_self ..)
      simp only [isBlank, Bool.or_eq_true, beq_iff_eq] at hblank
      obtain ((rfl | rfl) | rfl) | rfl := hblank <;> exact breaks_cons rfl rfl _

lemma breaks_laidItems (hstop : Gap stop) (items : List Value) (rest : List Char) :
    Breaks (laidItems print gap stop items ++ rest) := by
  cases items with
  | nil =>
      rw [laidItems, List.append_assoc]
      exact breaks_gap_append hstop (breaks_cons rfl rfl _) _
  | cons item items => exact breaks_cons rfl rfl _

lemma breaks_laidMembers (hstop : Gap stop) (members : List (Spelled × Value)) (rest : List Char) :
    Breaks (laidMembers print gap stop colonGap members ++ rest) := by
  cases members with
  | nil =>
      rw [laidMembers, List.append_assoc]
      exact breaks_gap_append hstop (breaks_cons rfl rfl _) _
  | cons member members => exact breaks_cons rfl rfl _

lemma spells_laidItems (hgap : Gap gap) (hstop : Gap stop) {items : List Value}
    (h : ∀ item ∈ items, SpelledBy print item) (hrest : Spells rest ts) :
    Spells (laidItems print gap stop items ++ rest) (itemTokens items ++ ts) := by
  induction items with
  | nil =>
      rw [laidItems, itemTokens, List.append_assoc]
      exact .blanks hstop (.mark rfl rfl hrest)
  | cons item items ih =>
      obtain ⟨hitem, hitems⟩ := List.forall_mem_cons.mp h
      rw [laidItems, itemTokens, List.cons_append, List.cons_append, List.append_assoc, List.append_assoc,
        List.append_assoc]
      exact .mark rfl rfl (.blanks hgap (hitem _ _ (breaks_laidItems hstop items rest) (ih hitems)))

lemma spells_laidMember (hgap : Gap gap) (hcolon : Gap colonGap) {key : List Char} {value : Value}
    (h : SpelledBy print value) (hbreaks : Breaks rest) (hrest : Spells rest ts) :
    Spells (laidMember print gap colonGap (some key) value ++ rest)
      (.string (some key) :: .colon :: (tokens value ++ ts)) := by
  rw [laidMember, spell, Option.getD_some, List.append_assoc, List.append_assoc, List.cons_append,
    List.append_assoc]
  exact .blanks hgap (.string key (.mark rfl rfl (.blanks hcolon (h _ _ hbreaks hrest))))

lemma spells_laidMembers (hgap : Gap gap) (hstop : Gap stop) (hcolon : Gap colonGap)
    {members : List (Spelled × Value)} (hkeys : ∀ member ∈ members, ∃ key, member.1 = some key)
    (h : ∀ member ∈ members, SpelledBy print member.2) (hrest : Spells rest ts) :
    Spells (laidMembers print gap stop colonGap members ++ rest) (memberTokens members ++ ts) := by
  induction members with
  | nil =>
      rw [laidMembers, memberTokens, List.append_assoc]
      exact .blanks hstop (.mark rfl rfl hrest)
  | cons member members ih =>
      obtain ⟨key, value⟩ := member
      obtain ⟨hvalue, hmembers⟩ := List.forall_mem_cons.mp h
      obtain ⟨⟨cs, rfl⟩, hkeys'⟩ := List.forall_mem_cons.mp hkeys
      rw [laidMembers, memberTokens, List.cons_append, List.cons_append, List.append_assoc,
        List.cons_append, List.cons_append, List.append_assoc]
      exact .mark rfl rfl (spells_laidMember hgap hcolon hvalue (breaks_laidMembers hstop members rest)
        (ih hkeys' hmembers))

/-- An array whose items are printed with gaps spells its tokens. -/
lemma spells_laidArray (hgap : Gap gap) (hstop : Gap stop) {item : Value} {items : List Value}
    (h : ∀ i ∈ item :: items, SpelledBy print i) (hrest : Spells rest ts) :
    Spells ('[' :: (gap ++ print item ++ laidItems print gap stop items) ++ rest)
      (tokens (array (item :: items)) ++ ts) := by
  obtain ⟨hitem, hitems⟩ := List.forall_mem_cons.mp h
  rw [tokens, List.cons_append, List.cons_append, List.append_assoc, List.append_assoc, List.append_assoc]
  exact .mark rfl rfl (.blanks hgap (hitem _ _ (breaks_laidItems hstop items rest)
    (spells_laidItems hgap hstop hitems hrest)))

/-- An object whose members are printed with gaps spells its tokens. -/
lemma spells_laidObject (hgap : Gap gap) (hstop : Gap stop) (hcolon : Gap colonGap) {key : Spelled}
    {value : Value} {members : List (Spelled × Value)}
    (hkeys : ∀ member ∈ (key, value) :: members, ∃ key, member.1 = some key)
    (h : ∀ member ∈ (key, value) :: members, SpelledBy print member.2) (hrest : Spells rest ts) :
    Spells ('\x7b' :: (laidMember print gap colonGap key value ++
        laidMembers print gap stop colonGap members) ++ rest)
      (tokens (object ((key, value) :: members)) ++ ts) := by
  obtain ⟨hvalue, hmembers⟩ := List.forall_mem_cons.mp h
  obtain ⟨⟨cs, rfl⟩, hkeys'⟩ := List.forall_mem_cons.mp hkeys
  rw [tokens, List.cons_append, List.cons_append, List.append_assoc, List.cons_append, List.cons_append,
    List.append_assoc]
  exact .mark rfl rfl (spells_laidMember hgap hcolon hvalue (breaks_laidMembers hstop members rest)
    (spells_laidMembers hgap hstop hcolon hkeys' hmembers hrest))

end Gaps

/-! ### Scalars -/

lemma spelledBy_null {print : Value → List Char} (hprint : print null = nullText) : SpelledBy print null := by
  intro rest ts hbreaks hrest
  rw [hprint]
  exact .word 'n' ['u', 'l', 'l'] rfl (List.all_eq_true.mp rfl) rfl rfl (by decide) hbreaks hrest

lemma spelledBy_bool {print : Value → List Char} {b : Bool} (hprint : print (bool b) = boolText b) :
    SpelledBy print (bool b) := by
  intro rest ts hbreaks hrest
  rw [hprint]
  cases b with
  | true => exact .word 't' ['r', 'u', 'e'] rfl (List.all_eq_true.mp rfl) rfl rfl (by decide) hbreaks hrest
  | false => exact .word 'f' ['a', 'l', 's', 'e'] rfl (List.all_eq_true.mp rfl) rfl rfl (by decide) hbreaks hrest

lemma spelledBy_number {print : Value → List Char} {l : Literal} (hprint : print (number l) = l.text)
    (h : l.WellFormed) : SpelledBy print (number l) := by
  intro rest ts hbreaks hrest
  rw [hprint]
  exact .number h hbreaks hrest

lemma spelledBy_string {print : Value → List Char} {cs : List Char}
    (hprint : print (string (some cs)) = spell (some cs)) : SpelledBy print (string (some cs)) := by
  intro rest ts _ hrest
  rw [hprint]
  exact .string cs hrest

/-! ### Without blanks -/

lemma compactItems_eq (items : List Value) : compactItems items = laidItems compact [] [] items := by
  induction items with
  | nil => rfl
  | cons item items ih => rw [compactItems, laidItems, ih, List.nil_append]

lemma compactMembers_eq (members : List (Spelled × Value)) :
    compactMembers members = laidMembers compact [] [] [] members := by
  induction members with
  | nil => rfl
  | cons member members ih =>
      obtain ⟨key, value⟩ := member
      rw [compactMembers, laidMembers, ih, laidMember]
      simp

/-- **A text without blanks spells the tokens of its value.** -/
theorem spells_compact {v : Value} (hv : v.WellFormed) : SpelledBy compact v := by
  have hgap : Gap [] := nofun
  induction hv with
  | null => exact spelledBy_null rfl
  | bool b => exact spelledBy_bool rfl
  | number h => exact spelledBy_number rfl h
  | string cs => exact spelledBy_string rfl
  | @array items h ih =>
      intro rest ts _ hrest
      cases items with
      | nil => exact .mark rfl rfl (.mark rfl rfl hrest)
      | cons item items =>
          rw [compact, compactItems_eq, ← List.nil_append (compact item)]
          exact spells_laidArray hgap hgap ih hrest
  | @object members hkeys h ih =>
      intro rest ts _ hrest
      rcases members with _ | ⟨⟨key, value⟩, members⟩
      · exact .mark rfl rfl (.mark rfl rfl hrest)
      · have hmember : spell key ++ ':' :: (compact value ++ compactMembers members) =
            laidMember compact [] [] key value ++ laidMembers compact [] [] [] members := by
          rw [compactMembers_eq, laidMember]
          simp
        rw [compact, hmember]
        exact spells_laidObject hgap hgap hgap hkeys ih hrest

/-! ### On lines of their own -/

lemma gap_newLine (depth : Nat) : Gap (newLine depth) := by
  refine List.forall_mem_cons.mpr ⟨rfl, fun c hc => ?_⟩
  rw [List.eq_of_mem_replicate hc]
  rfl

lemma prettyItems_eq (depth : Nat) (items : List Value) : prettyItems depth items =
    laidItems (prettyAt (depth + 1)) (newLine (depth + 1)) (newLine depth) items := by
  induction items with
  | nil => rfl
  | cons item items ih => rw [prettyItems, laidItems, ih]

lemma prettyMembers_eq (depth : Nat) (members : List (Spelled × Value)) : prettyMembers depth members =
    laidMembers (prettyAt (depth + 1)) (newLine (depth + 1)) (newLine depth) [' '] members := by
  induction members with
  | nil => rfl
  | cons member members ih =>
      obtain ⟨key, value⟩ := member
      rw [prettyMembers, laidMembers, ih, laidMember]
      simp

/-- **A text on several lines spells the tokens of its value**, at whatever depth it starts. -/
theorem spells_prettyAt {v : Value} (hv : v.WellFormed) (depth : Nat) : SpelledBy (prettyAt depth) v := by
  induction hv generalizing depth with
  | null => exact spelledBy_null rfl
  | bool b => exact spelledBy_bool rfl
  | number h => exact spelledBy_number rfl h
  | string cs => exact spelledBy_string rfl
  | @array items h ih =>
      intro rest ts _ hrest
      cases items with
      | nil => exact .mark rfl rfl (.mark rfl rfl hrest)
      | cons item items =>
          rw [prettyAt, prettyItems_eq]
          exact spells_laidArray (gap_newLine _) (gap_newLine _) (fun i hi => ih i hi _) hrest
  | @object members hkeys h ih =>
      intro rest ts _ hrest
      rcases members with _ | ⟨⟨key, value⟩, members⟩
      · exact .mark rfl rfl (.mark rfl rfl hrest)
      · have hmember : newLine (depth + 1) ++ spell key ++
            ':' :: ' ' :: (prettyAt (depth + 1) value ++ prettyMembers depth members) =
              laidMember (prettyAt (depth + 1)) (newLine (depth + 1)) [' '] key value ++
                laidMembers (prettyAt (depth + 1)) (newLine (depth + 1)) (newLine depth) [' '] members := by
          rw [prettyMembers_eq, laidMember]
          simp
        have hcolon : Gap [' '] := List.forall_mem_singleton.mpr rfl
        rw [prettyAt, hmember]
        exact spells_laidObject (gap_newLine _) (gap_newLine _) hcolon hkeys
          (fun member hmem => ih member hmem _) hrest

/-! ## There and back -/

/-- **A value is read back from its text without blanks.** -/
theorem parse?_compact {v : Value} (hv : v.WellFormed) : parse? v.compact = some v := by
  have hspells := spells_compact hv [] [] breaks_nil .nil
  rw [List.append_nil, List.append_nil] at hspells
  exact parse?_of_spells hv hspells

/-- **A value is read back from its text on several lines.** -/
theorem parse?_pretty {v : Value} (hv : v.WellFormed) : parse? v.pretty = some v := by
  have hspells := spells_prettyAt hv 0 [] [] breaks_nil .nil
  rw [List.append_nil, List.append_nil] at hspells
  exact parse?_of_spells hv hspells

end OpTiming.Json.Value

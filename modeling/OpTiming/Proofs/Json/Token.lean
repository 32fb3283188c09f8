import OpTiming.Json.Token
import OpTiming.Proofs.Json.Literal
import OpTiming.Proofs.Json.Text

/-!
# Texts that spell tokens

A text **`Spells`** tokens if it is made of the spellings of these tokens with blanks between them.  A text
is read as the tokens it spells (`ofChars?_of_spells`), so what is left to say of a layout is that it spells
the right ones, which is said token by token:

* a mark or a string literal spells its token whatever follows (`Spells.mark`, `Spells.string`);
* a word or a number does so where what follows **`Breaks`** it, that is, does not go on with it
  (`Spells.word`, `Spells.number`).
-/

namespace OpTiming.Json.Token

/-- A text is made of the spellings of tokens, with blanks between them. -/
inductive Spells : List Char → List Token → Prop
  | nil : Spells [] []
  | blank {c : Char} {cs : List Char} {ts : List Token} (hblank : isBlank c = true)
      (hrest : Spells cs ts) : Spells (c :: cs) ts
  | token {c : Char} {word cs : List Char} {t : Token} {ts : List Token} (hblank : isBlank c = false)
      (hnext : next? c (word ++ cs) = some (t, cs)) (hrest : Spells cs ts) :
      Spells (c :: (word ++ cs)) (t :: ts)

lemma ofCharsWithin?_of_spells {cs : List Char} {ts : List Token} (h : Spells cs ts) {steps : Nat}
    (hsteps : cs.length ≤ steps) : ofCharsWithin? steps cs = some ts := by
  induction h generalizing steps with
  | nil => rw [ofCharsWithin?]
  | blank hblank _ ih =>
      rw [List.length_cons] at hsteps
      obtain ⟨steps, rfl⟩ : ∃ n, steps = n + 1 := ⟨steps - 1, by omega⟩
      rw [ofCharsWithin?, if_pos hblank]
      exact ih (by omega)
  | token hblank hnext _ ih =>
      rw [List.length_cons, List.length_append] at hsteps
      obtain ⟨steps, rfl⟩ : ∃ n, steps = n + 1 := ⟨steps - 1, by omega⟩
      rw [ofCharsWithin?, hblank, if_neg Bool.false_ne_true, hnext]
      simp only [ih (show _ ≤ steps by omega), Option.map_some]

/-- **A text is read as the tokens it spells.** -/
theorem ofChars?_of_spells {cs : List Char} {ts : List Token} (h : Spells cs ts) :
    ofChars? cs = some ts :=
  ofCharsWithin?_of_spells h (Nat.le_refl _)

/-! ## Where a word or a number ends -/

/-- What follows goes on neither with a word nor with a number. -/
def Breaks (rest : List Char) : Prop := ∀ c ∈ rest.head?, isNumeric c = false ∧ c.isLower = false

lemma breaks_nil : Breaks [] := nofun

lemma breaks_cons {c : Char} (hnumeric : isNumeric c = false) (hlower : c.isLower = false)
    (rest : List Char) : Breaks (c :: rest) := by
  rintro d ⟨⟩
  exact ⟨hnumeric, hlower⟩

/-! ## The spellings of tokens -/

variable {rest : List Char} {ts : List Token}

lemma Spells.mark {c : Char} {t : Token} (hmark : mark? c = some t) (hblank : isBlank c = false)
    (h : Spells rest ts) : Spells (c :: rest) (t :: ts) := by
  have hnext : next? c ([] ++ rest) = some (t, rest) := by simp only [List.nil_append, next?, hmark]
  exact .token hblank hnext h

lemma Spells.blanks {gap : List Char} (hgap : ∀ c ∈ gap, isBlank c = true) (h : Spells rest ts) :
    Spells (gap ++ rest) ts := by
  induction gap with
  | nil => exact h
  | cons c gap ih =>
      obtain ⟨hc, hgap⟩ := List.forall_mem_cons.mp hgap
      exact .blank hc (ih hgap)

lemma Spells.string (cs : List Char) (h : Spells rest ts) :
    Spells (Text.quote cs ++ rest) (string (some cs) :: ts) := by
  have hquote : Text.quote cs ++ rest = '"' :: ((cs.flatMap Text.escape ++ ['"']) ++ rest) := rfl
  rw [hquote]
  refine .token rfl ?_ h
  have hmark : mark? '"' = none := rfl
  simp only [next?, hmark, beq_self_eq_true, if_true, List.append_assoc, List.singleton_append,
    Text.scan_quoted, Option.map_some]

lemma Spells.word (c : Char) (cs : List Char) {t : Token} (hword : word? (c :: cs) = some t)
    (hlower : ∀ d ∈ c :: cs, d.isLower = true) (hmark : mark? c = none) (hblank : isBlank c = false)
    (hquote : c ≠ '"') (hrest : Breaks rest) (h : Spells rest ts) :
    Spells (c :: (cs ++ rest)) (t :: ts) := by
  obtain ⟨htake, hdrop⟩ := takeWhile_dropWhile_append hlower fun d hd => (hrest d hd).2
  rw [List.cons_append] at htake hdrop
  refine .token hblank ?_ h
  simp only [next?, hmark, beq_iff_eq, hquote, if_false, hlower c (List.mem_cons_self ..), if_true, htake,
    hdrop, hword, Option.map_some]

/-! ## Numbers -/

lemma ne_of_isDigit {c d : Char} (hc : c.isDigit = true) (hd : d.isDigit = false) : c ≠ d := by
  rintro rfl
  rw [hc] at hd
  cases hd

/-- What may start a number: a digit or a minus sign. -/
def StartsNumber (c : Char) : Prop := c.isDigit = true ∨ c = '-'

/-- What may start a number starts no other token. -/
lemma StartsNumber.plain {c : Char} (h : StartsNumber c) :
    mark? c = none ∧ c ≠ '"' ∧ c.isLower = false ∧ isBlank c = false := by
  obtain hdigit | rfl := h
  · have hne : ∀ d : Char, d.isDigit = false → c ≠ d := fun d => ne_of_isDigit hdigit
    refine ⟨?_, hne '"' rfl, ?_, ?_⟩
    · rw [mark?] <;> exact hne _ rfl
    · have hcode := (Char.isDigit_iff_toNat.mp hdigit).2
      have hlower : ¬ 'a'.toNat ≤ c.toNat := fun h => absurd (h.trans hcode) (by decide)
      show (decide _ && decide _) = false
      exact Bool.and_eq_false_iff.mpr (Or.inl (decide_eq_false hlower))
    · simp [isBlank, hne ' ' rfl, hne '\t' rfl, hne '\n' rfl, hne '\r' rfl]
  · decide

lemma isNumeric_of_isDigit {c : Char} (h : c.isDigit = true) : isNumeric c = true := by
  simp [isNumeric, h]

/-- The text of a literal is made of characters of numbers. -/
lemma isNumeric_of_mem_text {l : Literal} (h : l.WellFormed) : ∀ c ∈ l.text, isNumeric c = true := by
  have hwhole : ∀ c ∈ l.whole, isNumeric c = true := fun c hc =>
    isNumeric_of_isDigit ((Text.Numeral.isRun_iff.mp (Literal.isRun_of_isWhole h.whole)).2 c hc)
  have hpoint : ∀ c ∈ (if l.fraction.isEmpty then [] else '.' :: l.fraction), isNumeric c = true := by
    split
    · nofun
    · exact List.forall_mem_cons.mpr ⟨rfl, fun c hc => isNumeric_of_isDigit (h.fraction c hc)⟩
  rw [Literal.text]
  simp only [List.forall_mem_append]
  refine ⟨⟨⟨?_, hwhole⟩, hpoint⟩, ?_⟩
  · cases l.negative <;> exact List.all_eq_true.mp rfl
  · rcases hexponent : l.exponent with _ | ⟨sign, digits⟩
    · nofun
    · have hdigits := (Text.Numeral.isRun_iff.mp (h.exponent sign digits hexponent)).2
      simp only [List.forall_mem_cons, List.forall_mem_append]
      refine ⟨rfl, ?_, fun c hc => isNumeric_of_isDigit (hdigits c hc)⟩
      cases sign <;> exact List.all_eq_true.mp rfl

lemma exists_cons_text {l : Literal} (h : l.WellFormed) : ∃ c cs, l.text = c :: cs ∧ StartsNumber c := by
  obtain ⟨hne, hwhole⟩ := Text.Numeral.isRun_iff.mp (Literal.isRun_of_isWhole h.whole)
  obtain ⟨c, cs, hcons⟩ := List.exists_cons_of_ne_nil hne
  rw [Literal.text_eq]
  cases l.negative with
  | true => exact ⟨'-', _, rfl, Or.inr rfl⟩
  | false =>
      rw [hcons]
      exact ⟨c, _, rfl, Or.inl (hwhole c (by simp [hcons]))⟩

lemma Spells.number {l : Literal} (hl : l.WellFormed) (hrest : Breaks rest) (h : Spells rest ts) :
    Spells (l.text ++ rest) (number l :: ts) := by
  obtain ⟨htake, hdrop⟩ := takeWhile_dropWhile_append (isNumeric_of_mem_text hl)
    fun c hc => (hrest c hc).1
  have hread := Literal.read?_text hl
  obtain ⟨c, cs, hcons, hstart⟩ := exists_cons_text hl
  obtain ⟨hmark, hquote, hlower, hblank⟩ := hstart.plain
  rw [hcons] at htake hdrop hread ⊢
  rw [List.cons_append] at htake hdrop
  refine .token hblank ?_ h
  simp only [next?, hmark, beq_iff_eq, hquote, if_false, hlower, Bool.false_eq_true, htake, hdrop, hread,
    Option.map_some]

end OpTiming.Json.Token

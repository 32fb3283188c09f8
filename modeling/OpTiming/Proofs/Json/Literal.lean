import OpTiming.Json.Literal
import OpTiming.Proofs.Decimal.Shortest

/-!
# Number literals read back

A literal is kept as it is spelled, so its text is read as that very literal, provided that its parts are
what they claim to be (**`WellFormed`**).

* **`read?_text`** — the text of a well-formed literal is read as it.
* **`wellFormed_ofNat`**, **`wellFormed_ofFloat`** — the literals under which numbers are written are well
  formed.
* **`toNat?_ofNat`** — a count is read back exactly.
* **`ReadsBack`** — a number is finite, and the literal under which it is written denotes it again.  This
  does not hold of every finite number, because reading rounds on its way.
-/

namespace OpTiming.Json

open OpTiming.Text

/-- A run of characters of a class ends where what follows does not go on with one. -/
lemma takeWhile_dropWhile_append {p : Char → Bool} {run rest : List Char}
    (hrun : ∀ c ∈ run, p c = true) (hrest : ∀ c ∈ rest.head?, p c = false) :
    (run ++ rest).takeWhile p = run ∧ (run ++ rest).dropWhile p = rest := by
  rw [List.takeWhile_append_of_pos hrun, List.dropWhile_append_of_pos hrun]
  cases rest with
  | nil => simp
  | cons c rest =>
      have hc : p c = false := hrest c rfl
      simp [hc]

namespace Literal

/-- The parts of a literal are runs of digits, and a first zero before the point stands alone. -/
structure WellFormed (l : Literal) : Prop where
  whole : isWhole l.whole = true
  fraction : ∀ c ∈ l.fraction, c.isDigit = true
  exponent : ∀ sign digits, l.exponent = some (sign, digits) → Numeral.isRun digits = true

/-! ## Digits before the point -/

lemma isRun_of_isWhole {cs : List Char} (h : isWhole cs = true) : Numeral.isRun cs = true := by
  rw [isWhole.eq_def] at h
  split at h
  · rfl
  · cases h
  · exact h

lemma isWhole_of_isRun {cs : List Char} (h : Numeral.isRun cs = true) (hhead : cs.head? ≠ some '0') :
    isWhole cs = true := by
  rw [isWhole]
  · exact h
  · rintro rfl
    exact hhead rfl
  · rintro ds rfl
    exact hhead rfl

/-! ## Text -/

/-- What stands after the digits before the point. -/
def tail (l : Literal) : List Char :=
  (if l.fraction.isEmpty then [] else '.' :: l.fraction) ++
    match l.exponent with
    | none => []
    | some (sign, digits) => 'e' :: (signText sign ++ digits)

lemma text_eq (l : Literal) : l.text = (if l.negative then ['-'] else []) ++ (l.whole ++ l.tail) := by
  show ((_ ++ _) ++ _) ++ _ = _
  rw [List.append_assoc, List.append_assoc]
  rfl

lemma isDigit_head?_tail (l : Literal) : ∀ c ∈ l.tail.head?, c.isDigit = false := by
  intro c hc
  rw [tail] at hc
  split at hc
  · split at hc
    · cases hc
    · cases hc
      rfl
  · cases hc
    rfl

lemma readExponent?_text {digits : List Char} (h : Numeral.isRun digits = true) (sign : ExponentSign) :
    readExponent? (signText sign ++ digits) = some (sign, digits) := by
  cases sign with
  | plus => simp [signText, readExponent?, h]
  | minus => simp [signText, readExponent?, h]
  | absent =>
      have hdigits := (Numeral.isRun_iff.mp h).2
      have hsign : ∀ c : Char, c.isDigit = false → ∀ ds, digits ≠ c :: ds := by
        rintro c hc ds rfl
        have hdigit := hdigits c (List.mem_cons_self ..)
        rw [hc] at hdigit
        cases hdigit
      rw [signText, List.nil_append, readExponent?, if_pos h]
      · exact hsign '+' rfl
      · exact hsign '-' rfl

/-- The part after the whole digits is read as the literal's fraction and exponent. -/
lemma readTail?_tail {l : Literal} (h : l.WellFormed) : readTail? l.negative l.whole l.tail = some l := by
  obtain ⟨negative, whole, fraction, exponent⟩ := l
  obtain ⟨-, hfraction, hexponent⟩ := h
  have hexponent? : ∀ sign digits, exponent = some (sign, digits) →
      readExponent? (signText sign ++ digits) = some (sign, digits) :=
    fun sign digits he => readExponent?_text (hexponent sign digits he) sign
  cases fraction with
  | nil =>
      rcases exponent with _ | ⟨sign, digits⟩
      · rfl
      · simp [tail, readTail?, hexponent? sign digits rfl]
  | cons d ds =>
      have hdigits : ∀ c ∈ d :: ds, c.isDigit = true := hfraction
      rcases exponent with _ | ⟨sign, digits⟩
      · have hend : ∀ c ∈ ([] : List Char).head?, c.isDigit = false := nofun
        obtain ⟨htake, hdrop⟩ := takeWhile_dropWhile_append hdigits hend
        rw [List.append_nil] at htake hdrop
        simp only [tail, List.isEmpty_cons, Bool.false_eq_true, if_false, List.append_nil, readTail?, htake,
          hdrop]
      · have hend : ∀ c ∈ ('e' :: (signText sign ++ digits)).head?, c.isDigit = false := by
          rintro c ⟨⟩
          rfl
        obtain ⟨htake, hdrop⟩ := takeWhile_dropWhile_append hdigits hend
        rw [List.cons_append] at htake hdrop
        simp [tail, readTail?, htake, hdrop, hexponent? sign digits rfl]

lemma readUnsigned?_text {l : Literal} (h : l.WellFormed) :
    readUnsigned? l.negative (l.whole ++ l.tail) = some l := by
  obtain ⟨-, hwhole⟩ := Numeral.isRun_iff.mp (isRun_of_isWhole h.whole)
  obtain ⟨htake, hdrop⟩ := takeWhile_dropWhile_append hwhole l.isDigit_head?_tail
  simp only [readUnsigned?, htake, hdrop, h.whole, if_true, readTail?_tail h]

/-- **The text of a well-formed literal is read as that literal.** -/
theorem read?_text {l : Literal} (h : l.WellFormed) : read? l.text = some l := by
  have hunsigned := readUnsigned?_text h
  rw [text_eq]
  cases hnegative : l.negative with
  | true =>
      rw [hnegative] at hunsigned
      exact hunsigned
  | false =>
      rw [hnegative] at hunsigned
      obtain ⟨hne, hwhole⟩ := Numeral.isRun_iff.mp (isRun_of_isWhole h.whole)
      obtain ⟨c, cs, hcons⟩ := List.exists_cons_of_ne_nil hne
      -- the first digit is not taken for a sign
      have hsign : c ≠ '-' := by
        rintro rfl
        cases hwhole '-' (by simp [hcons])
      rw [hcons] at hunsigned ⊢
      rw [if_neg Bool.false_ne_true, List.nil_append, List.cons_append, read?]
      · exact hunsigned
      · intro ds hds
        exact hsign (List.cons.inj hds).1

/-! ## The literals of numbers -/

lemma wellFormed_ofNat (n : Nat) : (ofNat n).WellFormed where
  whole := by
    by_cases hn : n = 0
    · rw [hn]
      rfl
    · exact isWhole_of_isRun (Numeral.isRun_toDigits n) (Numeral.head?_toDigits_ne_zero hn)
  fraction := nofun
  exponent := nofun

/-- **A count is read back exactly.** -/
lemma toNat?_ofNat (n : Nat) : (ofNat n).toNat? = some n := by
  show some (Numeral.value (Nat.toDigits 10 n)) = some n
  rw [Numeral.value_toDigits]

lemma isDigit_of_mem_replicate_zero {n : Nat} : ∀ c ∈ List.replicate n '0', c.isDigit = true := by
  intro c hc
  rw [List.eq_of_mem_replicate hc]
  rfl

lemma wellFormed_plain (negative : Bool) {d : Decimal.Digits} (h : d.Proper) :
    (plain negative d).WellFormed := by
  obtain ⟨hne, hdigits⟩ := Numeral.isRun_iff.mp h.isRun
  rw [plain]
  by_cases hpoint : d.point ≤ 0
  · rw [if_pos hpoint]
    refine ⟨rfl, ?_, nofun⟩
    exact List.forall_mem_append.mpr ⟨isDigit_of_mem_replicate_zero, hdigits⟩
  · rw [if_neg hpoint]
    refine ⟨?_, ?_, nofun⟩
    · show isWhole (d.digits.take d.point.toNat ++ _) = true
      obtain hleading | rfl := h.leading
      · obtain ⟨c, cs, hcons⟩ := List.exists_cons_of_ne_nil hne
        obtain ⟨n, hn⟩ : ∃ n, d.point.toNat = n + 1 := ⟨d.point.toNat - 1, by omega⟩
        refine isWhole_of_isRun (Numeral.isRun_iff.mpr ⟨by simp [hcons, hn], ?_⟩) ?_
        · exact List.forall_mem_append.mpr
            ⟨fun c hc => hdigits c (List.take_subset _ _ hc), isDigit_of_mem_replicate_zero⟩
        · rw [hcons] at hleading
          rw [hcons, hn, List.take_succ_cons, List.cons_append]
          exact hleading
      · rfl
    · show ∀ c ∈ (if (d.digits.drop d.point.toNat).isEmpty then _ else _), _
      split
      · exact fun c hc => isDigit_of_mem_replicate_zero (n := 1) c hc
      · exact fun c hc => hdigits c (List.drop_subset _ _ hc)

lemma wellFormed_scientific (negative : Bool) {d : Decimal.Digits} (h : d.Proper) :
    (scientific negative d).WellFormed := by
  obtain ⟨hne, hdigits⟩ := Numeral.isRun_iff.mp h.isRun
  refine ⟨?_, fun c hc => hdigits c (List.drop_subset _ _ hc), ?_⟩
  · show isWhole (d.digits.take 1) = true
    obtain hleading | rfl := h.leading
    · obtain ⟨c, cs, hcons⟩ := List.exists_cons_of_ne_nil hne
      rw [hcons] at hleading ⊢
      exact isWhole_of_isRun (by simp [Numeral.isRun, hdigits c (by simp [hcons])]) hleading
    · rfl
  · intro sign digits hexponent
    cases hexponent
    exact Numeral.isRun_toDigits _

/-- **The literal of a finite number is well formed.** -/
theorem wellFormed_ofFloat {x : Float} {l : Literal} (h : ofFloat? x = some l) : l.WellFormed := by
  rw [ofFloat?] at h
  split at h
  next => cases h
  next => cases h
  next =>
    cases h
    exact ⟨rfl, by simp, nofun⟩
  next negative mantissa exponent hmantissa _ =>
    have hpositive : mantissa ≠ 0 := hmantissa
    have hproper := Decimal.proper_shortest hpositive exponent
    simp only at h
    split at h
    next =>
      cases h
      exact wellFormed_plain negative hproper
    next =>
      cases h
      exact wellFormed_scientific negative hproper

/-! ## Numbers that are read back -/

/-- A number is finite, and the literal under which it is written denotes it. -/
def ReadsBack (x : Float) : Prop := (ofFloat? x).bind toFloat? = some x

instance (x : Float) : Decidable (ReadsBack x) :=
  inferInstanceAs (Decidable ((ofFloat? x).bind toFloat? = some x))

-- reading applies the power of ten to the digits, and that rounds once more
example : ¬ ReadsBack (632 / 7) := by decide +kernel

lemma ReadsBack.exists_literal {x : Float} (h : ReadsBack x) :
    ∃ l, ofFloat? x = some l ∧ l.WellFormed ∧ l.toFloat? = some x := by
  obtain ⟨l, hl, hx⟩ := Option.bind_eq_some_iff.mp h
  exact ⟨l, hl, wellFormed_ofFloat hl, hx⟩

end Literal

end OpTiming.Json

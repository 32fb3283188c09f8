import OpTiming.Json.Form
import OpTiming.Proofs.Json.Value

/-!
# Forms read back

A type is written as a JSON value and read from one.  A member of the type is **`Faithful`** if the value
it is written as is well formed and is read as that member; then its text in either layout is read back as
well (`Faithful.roundTrips`).

The rest are the parts that forms are made of: scalars, records — whose fields are looked up by name, so
that an absent one is told from one that is there (`fields?_record`) — and variants.
-/

namespace OpTiming.Json

namespace Form

variable {α : Type} [Form α]

/-- Both texts of a value are read back as that value. -/
def RoundTrips (x : α) : Prop := parse? (compact x) = some x ∧ parse? (pretty x) = some x

/-- A value is written as a well-formed JSON value, which is read as it. -/
structure Faithful (x : α) : Prop where
  wellFormed : (encode x).WellFormed
  decode_encode : decode (encode x) = some x

/-- **What is written faithfully is read back from its text**, in either layout. -/
theorem Faithful.roundTrips {x : α} (h : Faithful x) : RoundTrips x := by
  constructor
  · rw [parse?, compact, String.toList_ofList, Value.parse?_compact h.wellFormed]
    exact h.decode_encode
  · rw [parse?, pretty, String.toList_ofList, Value.parse?_pretty h.wellFormed]
    exact h.decode_encode

end Form

/-! ## Scalars -/

lemma wellFormed_ofString (s : String) : (ofString s).WellFormed := .string s.toList

lemma wellFormed_ofBool (b : Bool) : (ofBool b).WellFormed := .bool b

lemma wellFormed_ofNat (n : Nat) : (ofNat n).WellFormed := .number (Literal.wellFormed_ofNat n)

/-- A number that is not finite is written as a null, which is well formed as well. -/
lemma wellFormed_ofFloat (x : Float) : (ofFloat x).WellFormed := by
  rw [ofFloat]
  cases h : Literal.ofFloat? x with
  | none => exact .null
  | some l => exact .number (Literal.wellFormed_ofFloat h)

@[simp] lemma toString?_ofString (s : String) : toString? (ofString s) = some s := by
  simp [toString?, ofString]

@[simp] lemma toOptionalString?_none : toOptionalString? none = some none := rfl

/-- A text that is there is told from one that is not, also if it is empty. -/
@[simp] lemma toOptionalString?_ofString (s : String) :
    toOptionalString? (some (ofString s)) = some (some s) := by
  show (toString? (ofString s)).map some = some (some s)
  rw [toString?_ofString, Option.map_some]

@[simp] lemma toBool?_ofBool (b : Bool) : toBool? (ofBool b) = some b := rfl

lemma toNat?_ofNat {n bound : Nat} (h : n < bound) : toNat? bound (ofNat n) = some n := by
  simp [toNat?, ofNat, Literal.toNat?_ofNat, h]

@[simp] lemma toUInt64?_ofNat (n : UInt64) : toUInt64? (ofNat n.toNat) = some n := by
  rw [toUInt64?, toNat?_ofNat n.toNat_lt_size, Option.map_some, UInt64.ofNat_toNat]

@[simp] lemma toUInt32?_ofNat (n : UInt32) : toUInt32? (ofNat n.toNat) = some n := by
  rw [toUInt32?, toNat?_ofNat n.toNat_lt_size, Option.map_some, UInt32.ofNat_toNat]

lemma toFloat?_ofFloat {x : Float} (h : Literal.ReadsBack x) : toFloat? (ofFloat x) = some x := by
  obtain ⟨l, hl, -, hx⟩ := h.exists_literal
  simp only [ofFloat, hl, toFloat?, hx]

/-! ## Records -/

lemma wellFormed_record {members : List (String × Value)} (h : ∀ member ∈ members, member.2.WellFormed) :
    (record members).WellFormed := by
  refine .object ?_ ?_
  · rw [List.forall_mem_map]
    exact fun member _ => ⟨_, rfl⟩
  · rw [List.forall_mem_map]
    exact h

/-- The members of a key are those listed under that name. -/
lemma valuesOf_record (key : String) (members : List (String × Value)) :
    valuesOf key (members.map fun (k, v) => (some k.toList, v)) =
      (members.filter fun member => member.1 == key).map (·.2) := by
  have hkey : ∀ k : String, (some k.toList == some key.toList) = (k == key) := by
    intro k
    rw [Bool.eq_iff_iff, beq_iff_eq, beq_iff_eq, Option.some.injEq, String.toList_inj]
  rw [valuesOf, List.filter_map, List.map_map]
  simp only [Function.comp_def, hkey]

/-- Where names are listed once, a name has one member at most: the one that is looked up. -/
lemma map_filter_eq_lookup {members : List (String × Value)} (h : (members.map Prod.fst).Nodup)
    (key : String) :
    (members.filter fun member => member.1 == key).map (·.2) = (members.lookup key).toList := by
  induction members with
  | nil => rfl
  | cons member members ih =>
      obtain ⟨k, v⟩ := member
      rw [List.map_cons, List.nodup_cons] at h
      rw [List.filter_cons, List.lookup_cons]
      by_cases hk : k = key
      · have hrest : members.filter (fun member => member.1 == key) = [] := by
          rw [List.filter_eq_nil_iff]
          rintro member hmember hkey
          rw [beq_iff_eq] at hkey
          exact h.1 (List.mem_map.mpr ⟨member, hmember, hkey.trans hk.symm⟩)
        simp [hk, hrest]
      · have hk' : (key == k) = false := beq_false_of_ne fun heq => hk heq.symm
        simp only [beq_false_of_ne hk, Bool.false_eq_true, if_false, hk', ih h.2]

/-- **The fields of a record are looked up by name**, in whichever order they are asked for. -/
theorem fields?_record {members : List (String × Value)} (h : (members.map Prod.fst).Nodup)
    (names : List String) :
    fields? names (record members) = some (names.map fun name => members.lookup name) := by
  have hkeys : (members.map fun (k, v) => ((some k.toList, v) : Spelled × Value)).any
      (fun member => member.1.isNone) = false := by
    simp [List.any_eq_false]
  rw [record, fields?, hkeys, if_neg Bool.false_ne_true]
  calc _ = names.mapM fun name => some (members.lookup name) := by
          congr 1
          funext name
          rw [valuesOf_record, map_filter_eq_lookup h]
          cases members.lookup name <;> rfl
    _ = some (names.map fun name => members.lookup name) := List.mapM_pure

/-! ## Variants -/

lemma wellFormed_variant (name : String) : (variant name).WellFormed := wellFormed_ofString name

lemma wellFormed_variantOf (name : String) {contents : Value} (h : contents.WellFormed) :
    (variantOf name contents).WellFormed :=
  wellFormed_record (List.forall_mem_singleton.mpr h)

@[simp] lemma variant?_variant (name : String) : variant? (variant name) = some (name, none) := by
  simp [variant?, variant, ofString]

@[simp] lemma variant?_variantOf (name : String) (contents : Value) :
    variant? (variantOf name contents) = some (name, some contents) := by
  simp [variant?, variantOf, record]

/-- A variant without contents is read back if its name is that of no other one. -/
lemma unitVariant?_variant {α : Type} {all : List α} {name : α → String} {x : α} (hmem : x ∈ all)
    (hname : ∀ y ∈ all, name y = name x → y = x) : unitVariant? all name (variant (name x)) = some x := by
  have hfind : (all.find? fun y => name y == name x).isSome = true := by
    rw [List.find?_isSome]
    exact ⟨x, hmem, beq_self_eq_true _⟩
  obtain ⟨y, hy⟩ := Option.isSome_iff_exists.mp hfind
  have hsame : (name y == name x) = true := List.find?_some (p := fun y => name y == name x) hy
  have hyx : y = x := hname y (List.mem_of_find?_eq_some hy) (eq_of_beq hsame)
  rw [unitVariant?, variant?_variant]
  simp only [isUnit, if_true]
  rw [hy, hyx]

end OpTiming.Json

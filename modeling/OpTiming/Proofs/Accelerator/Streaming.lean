import Mathlib.Algebra.Order.Floor.Div
import OpTiming.Proofs.Accelerator.Size
import OpTiming.Proofs.Pairwise

/-!
# Streaming through global memory

The streamed buffer is filled piece by piece and then read by a dispatch whose size was divided down four
times: to half an allocation, to vectors of a width, to the vectors of one work-item, and to whole work-groups.
Each division rounds down, so what the dispatch reads lies in the buffer, and what it writes lies in the
smaller buffer of one element for each work-item.

* **`StaysInside`** — what a number of work-items has to do with the two buffers.
* **`stream_stays_inside`** — how large the buffer is, and that every dispatch stays inside.
* **`Partitions`** — pieces that lie one behind the other and make up a buffer.
* **`seedChunks_partition`** — the pieces in which a buffer is filled do.
-/

namespace OpTiming.Accelerator

/-! ## The size of the buffer -/

lemma isRounded_globalElements (maxAllocation : UInt64) :
    IsRounded (maxAllocation.toNat / 8) (globalElements maxAllocation).toNat := by
  have hbound : (maxAllocation / 4 / 2).toNat = maxAllocation.toNat / 8 := by
    rw [UInt64.toNat_div, UInt64.toNat_div, Nat.div_div_eq_div_mul]
    rfl
  rw [globalElements, ← hbound]
  exact isRounded_roundToPower2 _

/-! ## The dispatch -/

/-- What a number of work-items has to do with a buffer of so many elements, which they read in vectors of a
width, and with a second buffer, to which each of them writes one element. -/
structure StaysInside (elements width : Nat) (group items : UInt64) : Prop where
  groups : group.toNat ∣ items.toNat
  source : fetchesPerItem * items.toNat * width ≤ elements
  destination : items.toNat ≤ elements / fetchesPerItem
  /-- Work-groups of a power of two leave nothing of the buffer out. -/
  whole : group.toNat.isPowerOfTwo → fetchesPerItem * width * group.toNat ≤ elements →
    fetchesPerItem * items.toNat * width = elements

/-- The widths in which global memory is read are small powers of two. -/
lemma widths_isPowerOfTwo {width : Nat} (h : width ∈ Workload.globalBandwidth.widths) :
    width.isPowerOfTwo ∧ width ≤ 16 := by
  have hwidth : width = 1 ∨ width = 2 ∨ width = 4 ∨ width = 8 ∨ width = 16 := by
    simpa [Workload.widths] using h
  obtain rfl | rfl | rfl | rfl | rfl := hwidth
  · exact ⟨⟨0, rfl⟩, by omega⟩
  · exact ⟨⟨1, rfl⟩, by omega⟩
  · exact ⟨⟨2, rfl⟩, by omega⟩
  · exact ⟨⟨3, rfl⟩, by omega⟩
  · exact ⟨⟨4, rfl⟩, by omega⟩

lemma exists_streamDispatch (elements : UInt64) {width : Nat} (hpositive : 0 < width) (hle : width ≤ 16) :
    ∃ items, streamDispatch elements width = .ok (.d1 items) ∧
      items.toNat = elements.toNat / (fetchesPerItem * width) := by
  have hwidth : (UInt64.ofNat width).toNat = width := UInt64.toNat_ofNat_of_lt' (Nat.lt_of_le_of_lt hle (by decide))
  have hnonzero : UInt64.ofNat width ≠ 0 := by
    intro hzero
    rw [hzero] at hwidth
    exact absurd hwidth (Nat.ne_of_lt hpositive)
  obtain ⟨vectors, hvectors, hcount⟩ := checkedDiv_of_ne elements hnonzero
  have hfetches : UInt64.ofNat fetchesPerItem ≠ 0 := by decide
  obtain ⟨items, hitems, hvalue⟩ := checkedDiv_of_ne vectors hfetches
  refine ⟨items, ?_, ?_⟩
  · rw [streamDispatch, hvectors, ok_bind, hitems, ok_bind]
    rfl
  · rw [hvalue, hcount, hwidth, Nat.div_div_eq_div_mul, Nat.mul_comm]
    rfl

lemma staysInside_of_cut {elements width : Nat} {group size items : UInt64}
    (helements : elements = 0 ∨ elements.isPowerOfTwo) (hwidth : width.isPowerOfTwo) (hgroup : group ≠ 0)
    (hsize : size.toNat = elements / (fetchesPerItem * width)) (hitems : items = size / group * group) :
    StaysInside elements width group items := by
  have hshare : 0 < fetchesPerItem * width := Nat.mul_pos (by decide) (Nat.pos_of_isPowerOfTwo hwidth)
  obtain ⟨hdvd, hle⟩ := (Range.isGreatest_cut size hgroup).1
  rw [← hitems, hsize] at hle
  rw [← hitems] at hdvd
  have hsource : fetchesPerItem * width * items.toNat ≤ elements :=
    Nat.le_trans (Nat.mul_le_mul_left _ hle) (Nat.mul_div_le ..)
  refine ⟨hdvd, ?_, ?_, ?_⟩
  · rwa [Nat.mul_right_comm]
  · rw [Nat.le_div_iff_mul_le (by decide), Nat.mul_comm]
    refine Nat.le_trans ?_ hsource
    exact Nat.mul_le_mul_right _ (Nat.le_mul_of_pos_right _ (Nat.pos_of_isPowerOfTwo hwidth))
  · intro hgroupPower henough
    -- a share of each work-group is a power of two, and so divides the buffer
    have hgroupShare : (fetchesPerItem * width * group.toNat).isPowerOfTwo :=
      isPowerOfTwo_mul (isPowerOfTwo_mul ⟨4, rfl⟩ hwidth) hgroupPower
    have hpower : elements.isPowerOfTwo := by
      obtain rfl | hpower := helements
      · exact absurd (Nat.pos_of_isPowerOfTwo hgroupShare) (Nat.not_lt.mpr henough)
      · exact hpower
    obtain ⟨times, rfl⟩ := dvd_of_isPowerOfTwo hgroupShare hpower henough
    rw [Nat.mul_assoc, Nat.mul_div_cancel_left _ hshare] at hsize
    have hvalue : items.toNat = group.toNat * times := by
      rw [hitems, Range.toNat_cut, hsize, Nat.mul_div_cancel_left _ (toNat_pos hgroup),
        Nat.mul_comm]
    rw [Nat.mul_right_comm, hvalue, ← Nat.mul_assoc]

/-- **The streamed buffer and its dispatches.**  The buffer has no elements or a power of two of them; they
fill at most half of the largest allocation, and more than a quarter of it if there is room for one.  For each
width and every work-group, the dispatch can be made and cut down to whole groups, and what is left of it
stays inside. -/
theorem stream_stays_inside (maxAllocation : UInt64) :
    ((globalElements maxAllocation).toNat = 0 ∨ (globalElements maxAllocation).toNat.isPowerOfTwo) ∧
      8 * (globalElements maxAllocation).toNat ≤ maxAllocation.toNat ∧
      (8 ≤ maxAllocation.toNat → maxAllocation.toNat < 16 * (globalElements maxAllocation).toNat) ∧
      ∀ width ∈ Workload.globalBandwidth.widths, ∀ group : UInt64, group ≠ 0 → ∃ dispatch items,
        streamDispatch (globalElements maxAllocation) width = .ok dispatch ∧
        Range.divideDown dispatch (.d1 group) = .ok (.d1 items) ∧
        StaysInside (globalElements maxAllocation).toNat width group items := by
  have hrounded := isRounded_globalElements maxAllocation
  refine ⟨hrounded.zero_or_isPowerOfTwo, ?_, fun hroom => ?_, fun width hwidth group hgroup => ?_⟩
  · have hle := hrounded.le
    omega
  · have hhalf := hrounded.lt_two_mul (by omega)
    omega
  · obtain ⟨hpower, hle⟩ := widths_isPowerOfTwo hwidth
    obtain ⟨size, hdispatch, hsize⟩ :=
      exists_streamDispatch (globalElements maxAllocation) (Nat.pos_of_isPowerOfTwo hpower) hle
    exact ⟨.d1 size, _, hdispatch, Range.divideDown_d1 size hgroup,
      staysInside_of_cut hrounded.zero_or_isPowerOfTwo hpower hgroup hsize rfl⟩

/-- In an allocation of 1000 bytes 64 elements are streamed.  Two work-groups of one read all of them in pairs;
a work-group of three gets nothing to do. -/
theorem stream_stays_inside_of_sample :
    1000 < 16 * (globalElements 1000).toNat ∧
      (∃ dispatch items, streamDispatch (globalElements 1000) 2 = .ok dispatch ∧
        Range.divideDown dispatch (.d1 1) = .ok (.d1 items) ∧
        fetchesPerItem * items.toNat * 2 = (globalElements 1000).toNat) ∧
      ∃ dispatch items, streamDispatch (globalElements 1000) 2 = .ok dispatch ∧
        Range.divideDown dispatch (.d1 3) = .ok (.d1 items) ∧
        StaysInside (globalElements 1000).toNat 2 3 items := by
  obtain ⟨-, -, hquarter, hdispatches⟩ := stream_stays_inside 1000
  have hwidth : 2 ∈ Workload.globalBandwidth.widths := by decide
  obtain ⟨dispatch, items, hdispatch, hcut, hinside⟩ := hdispatches 2 hwidth 1 (by decide)
  refine ⟨hquarter (by decide), ⟨dispatch, items, hdispatch, hcut, ?_⟩, hdispatches 2 hwidth 3 (by decide)⟩
  exact hinside.whole ⟨0, rfl⟩ (by decide)

/-! ## The pieces -/

/-- Pieces that lie one behind the other and make up a buffer of so many elements.  Each has an offset and a
length, and only the last one may be shorter than a chunk. -/
structure Partitions (pieces : List (UInt64 × UInt64)) (elements : UInt64) : Prop where
  first : ∀ piece, pieces.head? = some piece → piece.1 = 0
  consecutive : pieces.IsChain fun piece next => next.1.toNat = piece.1.toNat + piece.2.toNat
  length : ∀ piece ∈ pieces, 1 ≤ piece.2 ∧ piece.2 ≤ chunkElements
  full : ∀ piece ∈ pieces.dropLast, piece.2 = chunkElements
  total : exactSum (pieces.map Prod.snd) = elements.toNat
  count : pieces.length = elements.toNat ⌈/⌉ chunkElements.toNat

/-- The piece at a place. -/
structure IsPiece (elements : UInt64) (index : Nat) (piece : UInt64 × UInt64) : Prop where
  offset : piece.1.toNat = index * chunkElements.toNat
  length : piece.2.toNat = min chunkElements.toNat (elements.toNat - index * chunkElements.toNat)

variable {elements : UInt64} {index : Nat} {piece : UInt64 × UInt64} {pieces : List (UInt64 × UInt64)}

lemma chunkElements_pos : 0 < chunkElements.toNat := by decide

lemma lt_chunkCount_iff : index < chunkCount elements ↔ index * chunkElements.toNat < elements.toNat := by
  have hpositive := chunkElements_pos
  rw [chunkCount, ← Nat.succ_le_iff, Nat.le_div_iff_mul_le hpositive, Nat.succ_mul]
  omega

/-- **A piece that is reached is inside**: its offset fits, and there is something left to take. -/
lemma exists_chunk (h : index < chunkCount elements) :
    ∃ piece, chunk elements index = .ok piece ∧ IsPiece elements index piece := by
  have hinside := lt_chunkCount_iff.mp h
  have helements : elements.toNat < 2 ^ 64 := elements.toNat_lt
  have hindex : (UInt64.ofNat index).toNat = index := by
    have hle : index ≤ index * chunkElements.toNat := Nat.le_mul_of_pos_right _ chunkElements_pos
    apply UInt64.toNat_ofNat_of_lt'
    change index < 2 ^ 64
    omega
  have hfits : (UInt64.ofNat index).toNat * chunkElements.toNat < 2 ^ 64 := by
    rw [hindex]
    omega
  obtain ⟨offset, hoffset, hplace⟩ := checkedMul_of_lt hfits
  rw [hindex] at hplace
  obtain ⟨left, hleft, hrest⟩ := checkedSub_of_le (show offset.toNat ≤ elements.toNat by omega)
  refine ⟨(offset, min chunkElements left), ?_, hplace, ?_⟩
  · rw [chunk, hoffset, ok_bind, hleft, ok_bind]
    rfl
  · rw [UInt64.toNat_min, hrest, hplace]

/-- Pieces that stand at the places of a buffer, in order. -/
def Staged (elements : UInt64) (pieces : List (UInt64 × UInt64)) : Prop :=
  List.Forall₂ (IsPiece elements) (List.range (chunkCount elements)) pieces

lemma exists_staged (elements : UInt64) : ∃ pieces, seedChunks elements = .ok pieces ∧ Staged elements pieces := by
  apply exists_mapM_eq_ok
  intro index hindex
  exact exists_chunk (List.mem_range.mp hindex)

/-- What the first pieces amount to: whole chunks, up to the end of the buffer. -/
lemma sum_lengths (elements count : Nat) :
    ((List.range count).map fun index =>
      min chunkElements.toNat (elements - index * chunkElements.toNat)).sum =
      min (count * chunkElements.toNat) elements := by
  induction count with
  | zero => simp
  | succ count ih =>
    rw [List.range_succ, List.map_append, List.sum_append, ih, List.map_singleton, List.sum_singleton,
      Nat.succ_mul]
    omega

namespace Staged

lemma length_eq (h : Staged elements pieces) : pieces.length = chunkCount elements := by
  rw [← List.Forall₂.length_eq h, List.length_range]

/-- A place that has a piece lies before the end of the buffer. -/
lemma lt_of_lt_length (h : Staged elements pieces) (hindex : index < pieces.length) :
    index * chunkElements.toNat < elements.toNat :=
  lt_chunkCount_iff.mp (h.length_eq ▸ hindex)

lemma isPiece (h : Staged elements pieces) (hindex : index < pieces.length) :
    IsPiece elements index pieces[index] := by
  have hcount : index < (List.range (chunkCount elements)).length := by
    rwa [List.length_range, ← h.length_eq]
  have hpiece := List.Forall₂.get h hcount hindex
  rwa [List.get_eq_getElem, List.get_eq_getElem, List.getElem_range] at hpiece

lemma first (h : Staged elements pieces) (hpiece : pieces.head? = some piece) : piece.1 = 0 := by
  rw [List.head?_eq_getElem?] at hpiece
  obtain ⟨hlength, rfl⟩ := List.getElem?_eq_some_iff.mp hpiece
  exact UInt64.toNat_inj.mp ((h.isPiece hlength).offset.trans (Nat.zero_mul _))

/-- A piece before another one is a whole chunk. -/
lemma full_of_next (h : Staged elements pieces) (hindex : index < pieces.length)
    (hnext : index + 1 < pieces.length) : pieces[index].2.toNat = chunkElements.toNat := by
  have hreached := h.lt_of_lt_length hnext
  rw [Nat.succ_mul] at hreached
  rw [(h.isPiece hindex).length]
  omega

lemma consecutive (h : Staged elements pieces) :
    pieces.IsChain fun piece next => next.1.toNat = piece.1.toNat + piece.2.toNat := by
  rw [List.isChain_iff_getElem]
  intro index hnext
  have hindex := Nat.lt_of_succ_lt hnext
  rw [(h.isPiece hnext).offset, (h.isPiece hindex).offset, h.full_of_next hindex hnext, Nat.succ_mul]

lemma length_mem (h : Staged elements pieces) (hpiece : piece ∈ pieces) :
    1 ≤ piece.2 ∧ piece.2 ≤ chunkElements := by
  obtain ⟨index, hindex, rfl⟩ := List.getElem_of_mem hpiece
  have hreached := h.lt_of_lt_length hindex
  have hpositive := chunkElements_pos
  rw [UInt64.le_iff_toNat_le, UInt64.le_iff_toNat_le, (h.isPiece hindex).length, UInt64.toNat_one]
  omega

lemma full (h : Staged elements pieces) (hpiece : piece ∈ pieces.dropLast) : piece.2 = chunkElements := by
  obtain ⟨index, hbefore, rfl⟩ := List.getElem_of_mem hpiece
  rw [List.length_dropLast] at hbefore
  rw [List.getElem_dropLast, ← UInt64.toNat_inj]
  exact h.full_of_next (by omega) (by omega)

lemma total (h : Staged elements pieces) : exactSum (pieces.map Prod.snd) = elements.toNat := by
  have hlengths : ((List.range (chunkCount elements)).map fun index =>
      min chunkElements.toNat (elements.toNat - index * chunkElements.toNat)) =
      (pieces.map Prod.snd).map UInt64.toNat := by
    rw [List.map_map]
    exact map_eq_map_of_forall₂ (fun _ _ hpiece => hpiece.length.symm) h
  -- the place after the last piece is not before the end
  have hend : elements.toNat ≤ chunkCount elements * chunkElements.toNat := by
    rw [← Nat.not_lt, ← lt_chunkCount_iff]
    exact Nat.lt_irrefl _
  rw [exactSum, ← hlengths, sum_lengths, Nat.min_eq_right hend]

end Staged

/-- **A buffer is filled piece by piece**, whatever its size: no step of it overflows, and the pieces make up
the buffer. -/
theorem seedChunks_partition (elements : UInt64) :
    ∃ pieces, seedChunks elements = .ok pieces ∧ Partitions pieces elements := by
  obtain ⟨pieces, hok, hstaged⟩ := exists_staged elements
  refine ⟨pieces, hok, fun _ => hstaged.first, hstaged.consecutive, fun _ => hstaged.length_mem,
    fun _ => hstaged.full, hstaged.total, ?_⟩
  rw [hstaged.length_eq, chunkCount, Nat.ceilDiv_eq_add_pred_div]

end OpTiming.Accelerator

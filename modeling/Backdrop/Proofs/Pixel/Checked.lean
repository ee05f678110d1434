import Backdrop.Pixel.Checked
import Backdrop.Proofs.Pixel.Cover
import Backdrop.Proofs.Pixel.Window

/-!
# Backdrop.Proofs.Pixel.Checked

What is checked on the way never fails, unless a length that is asked for does not fit into a word.

* Each step in `Checked` has a lemma that says what it does where it can be done.
* `rowsPlaced` is a screen with some of its rows placed; `run_writeRow` is about one row and
  `run_writeRows` about any number of them.
* `refusal?` is the judgement on a scaling, with all products taken as exact numbers.
* `judged_exactly`: covering a screen is refused as `refusal?` says and then leaves the buffer as it
  was, and succeeds otherwise, unless a length that is asked for does not fit into a word. Then it
  crashes before a byte is written.
-/

namespace Backdrop
namespace Cover

/-- Why a scaling is refused, in exact numbers. -/
def refusal? (dst : Array UInt8) (target : Extent) (src : Array UInt8) (source : Extent) :
    Option ScaleError :=
  if source.isEmpty || target.isEmpty then some (.zeroExtent source target)
  else if src.size < source.byteCount then
    some (.lengthMismatch .source source.byteCount src.size)
  else if dst.size < target.byteCount then
    some (.lengthMismatch .destination target.byteCount dst.size)
  else none

/-- The judgement asks for a length that does not fit into a word. -/
def Overflows (target : Extent) (src : Array UInt8) (source : Extent) : Prop :=
  (source.isEmpty || target.isEmpty) = false ∧
    (UInt64.size ≤ source.byteCount ∨
      source.byteCount ≤ src.size ∧ UInt64.size ≤ target.byteCount)

theorem byteCount_rows (e : Extent) : e.byteCount = e.height.toNat * (e.width.toNat * 4) := by
  rw [Extent.byteCount, Nat.mul_comm e.width.toNat, Nat.mul_assoc]

/-- A row ends with the picture or before. -/
theorem row_le {e : Extent} {y : ℕ} (hy : y < e.height.toNat) :
    y * (e.width.toNat * 4) + e.width.toNat * 4 ≤ e.byteCount := by
  rw [byteCount_rows, ← Nat.succ_mul]
  exact Nat.mul_le_mul_right _ hy

namespace Checked

variable {dst : Array UInt8}

/-! ## Steps -/

section Steps

variable {α β : Type} {x : Writing α} {f : α → Writing β} {dst' : Array UInt8}

theorem run_bind {a : α} (h : x.run dst = .ok a dst') : (x >>= f).run dst = (f a).run dst' := by
  rw [EStateM.run_bind, h]

theorem run_bind_stop {e : Stop} (h : x.run dst = .error e dst') :
    (x >>= f).run dst = .error e dst' := by
  rw [EStateM.run_bind, h]

theorem run_get_bind (f : Array UInt8 → Writing β) (dst : Array UInt8) :
    ((get : Writing (Array UInt8)) >>= f).run dst = (f dst).run dst := rfl

end Steps

/-! ## Words and slices -/

section Words

variable {a b : UInt64}

theorem run_times (fits : a.toNat * b.toNat < UInt64.size) (dst : Array UInt8) :
    (times a b).run dst = .ok (a * b) dst := by
  rw [times, if_pos fits]
  rfl

theorem run_times_overflow (wide : UInt64.size ≤ a.toNat * b.toNat) (dst : Array UInt8) :
    (times a b).run dst = .error (.crashed .overflow) dst := by
  rw [times, if_neg (Nat.not_lt.mpr wide)]
  rfl

theorem run_plus (fits : a.toNat + b.toNat < UInt64.size) (dst : Array UInt8) :
    (plus a b).run dst = .ok (a + b) dst := by
  rw [plus, if_pos fits]
  rfl

theorem toNat_times (fits : a.toNat * b.toNat < UInt64.size) :
    (a * b).toNat = a.toNat * b.toNat := by
  rw [UInt64.toNat_mul]
  exact Nat.mod_eq_of_lt fits

theorem toNat_plus (fits : a.toNat + b.toNat < UInt64.size) :
    (a + b).toNat = a.toNat + b.toNat := by
  rw [UInt64.toNat_add]
  exact Nat.mod_eq_of_lt fits

/-- With a remainder the divisor is at least two, and there is room for one more. -/
theorem run_divCeil (hb : 0 < b.toNat) (dst : Array UInt8) :
    (divCeil a b).run dst = .ok (Cover.divCeil a b) dst := by
  have nonzero : b ≠ 0 := by
    rintro rfl
    exact Nat.lt_irrefl 0 hb
  rw [divCeil, if_neg nonzero, Cover.divCeil]
  split
  · rename_i some_rest
    have rest : a.toNat % b.toNat < b.toNat := Nat.mod_lt _ hb
    have positive : 0 < a.toNat % b.toNat := by
      rw [gt_iff_lt, UInt64.lt_iff_toNat_lt, UInt64.toNat_mod] at some_rest
      exact some_rest
    have small : a.toNat / b.toNat ≤ a.toNat / 2 := Nat.div_le_div_left (by omega) (by omega)
    have word : a.toNat < 2 ^ 64 := a.toNat_lt
    refine run_plus ?_ dst
    rw [UInt64.toNat_div, UInt64.toNat_one]
    show _ < 2 ^ 64
    omega
  · rfl

theorem run_clamp {low high : UInt64} (x : UInt64) (order : low.toNat ≤ high.toNat)
    (dst : Array UInt8) : (clamp x low high).run dst = .ok (clampWord x low high) dst := by
  have ordered : ¬ high < low := by
    rw [UInt64.lt_iff_toNat_lt]
    omega
  rw [clamp, if_neg ordered]
  rfl

theorem run_slice {bytes : Array UInt8} {start stop : UInt64} (order : start.toNat ≤ stop.toNat)
    (inside : stop.toNat ≤ bytes.size) (dst : Array UInt8) :
    (slice bytes start stop).run dst = .ok (bytes.extract start.toNat stop.toNat) dst := by
  rw [slice, if_pos ⟨UInt64.le_iff_toNat_le.mpr order, inside⟩]
  rfl

theorem run_splitAt {bytes : Array UInt8} {n : UInt64} (inside : n.toNat ≤ bytes.size)
    (dst : Array UInt8) :
    (splitAt bytes n).run dst =
      .ok (bytes.extract 0 n.toNat, bytes.extract n.toNat bytes.size) dst := by
  rw [splitAt, if_pos inside]
  rfl

end Words

/-! ## Lengths -/

section Lengths

variable {e : Extent} {side : Side} {buffer : Array UInt8}

/-- The number of pixels always fits into a word. -/
theorem toNat_pixels (e : Extent) :
    (e.width.toUInt64 * e.height.toUInt64).toNat * (4 : UInt64).toNat = e.byteCount := by
  rw [toNat_product]
  rfl

theorem product_fits (a b : UInt32) : a.toUInt64.toNat * b.toUInt64.toNat < UInt64.size := by
  rw [UInt32.toNat_toUInt64, UInt32.toNat_toUInt64]
  exact Nat.mul_lt_mul'' a.toNat_lt b.toNat_lt

theorem toNat_byteCount (fits : e.byteCount < UInt64.size) :
    e.byteCount.toUInt64.toNat = e.byteCount :=
  Nat.mod_eq_of_lt fits

/-- A length that fits into a word is the product of words. -/
theorem product_eq (fits : e.byteCount < UInt64.size) :
    e.width.toUInt64 * e.height.toUInt64 * 4 = e.byteCount.toUInt64 := by
  rw [← UInt64.toNat_inj, toNat_byteCount fits, toNat_times, toNat_pixels]
  rw [toNat_pixels]
  exact fits

theorem run_byteLength (fits : e.byteCount < UInt64.size) (dst : Array UInt8) :
    (byteLength e).run dst = .ok e.byteCount.toUInt64 dst := by
  rw [byteLength, run_bind (run_times (product_fits _ _) dst), ← product_eq fits]
  exact run_times (by rw [toNat_pixels]; exact fits) dst

theorem run_byteLength_overflow (wide : UInt64.size ≤ e.byteCount) (dst : Array UInt8) :
    (byteLength e).run dst = .error (.crashed .overflow) dst := by
  rw [byteLength, run_bind (run_times (product_fits _ _) dst)]
  exact run_times_overflow (by rw [toNat_pixels]; exact wide) dst

theorem run_checkLength (fits : e.byteCount < UInt64.size) (long : e.byteCount ≤ buffer.size)
    (side : Side) (dst : Array UInt8) : (checkLength side buffer e).run dst = .ok () dst := by
  rw [checkLength, run_bind (run_byteLength fits dst), toNat_byteCount fits,
    if_neg (Nat.not_lt.mpr long)]
  rfl

theorem run_checkLength_short (fits : e.byteCount < UInt64.size)
    (short : buffer.size < e.byteCount) (side : Side) (dst : Array UInt8) :
    (checkLength side buffer e).run dst =
      .error (.refused (.lengthMismatch side e.byteCount buffer.size)) dst := by
  rw [checkLength, run_bind (run_byteLength fits dst), toNat_byteCount fits, if_pos short]
  rfl

theorem run_checkLength_overflow (wide : UInt64.size ≤ e.byteCount) (side : Side)
    (buffer dst : Array UInt8) :
    (checkLength side buffer e).run dst = .error (.crashed .overflow) dst :=
  run_bind_stop (run_byteLength_overflow wide dst)

end Lengths

/-! ## The window -/

theorem run_window {source target : Extent} (some_source : source.isEmpty = false)
    (some_target : target.isEmpty = false) (dst : Array UInt8) :
    (window source target).run dst = .ok (Cover.window source target) dst := by
  obtain ⟨wide, high⟩ := Extent.isEmpty_eq_false_iff.mp some_source
  obtain ⟨across, down⟩ := Extent.isEmpty_eq_false_iff.mp some_target
  have word : ∀ {n : UInt32}, n ≠ 0 → (1 : UInt64).toNat ≤ n.toUInt64.toNat := by
    intro n hn
    rw [UInt32.toNat_toUInt64]
    exact side_pos hn
  rw [window, run_bind (run_times (product_fits _ _) dst),
    run_bind (run_times (product_fits _ _) dst), Cover.window]
  simp only [apply_ite (EStateM.run · dst), ge_iff_le]
  split
  · rw [run_bind (run_divCeil (word wide) dst), run_bind (run_clamp _ (word down) dst)]
    rfl
  · rw [run_bind (run_divCeil (word high) dst), run_bind (run_clamp _ (word across) dst)]
    rfl

/-! ## Rows -/

section Rows

variable {picture : Array UInt8} {target size : Extent} {y y' y'' : ℕ}

/-- The rows from `y` up to `y'` are placed, and all else is as it was. -/
def rowsPlaced (target : Extent) (picture : Array UInt8) (size : Extent) (y y' : ℕ)
    (dst : Array UInt8) : Array UInt8 :=
  dst.mapIdx fun i b =>
    if y * (target.width.toNat * 4) ≤ i ∧ i < y' * (target.width.toNat * 4) then
      placedByte picture size target i
    else b

theorem size_rowsPlaced : (rowsPlaced target picture size y y' dst).size = dst.size := by
  simp [rowsPlaced]

theorem rowsPlaced_self : rowsPlaced target picture size y y dst = dst := by
  refine Array.ext_getElem? fun i => ?_
  have nowhere : ¬ (y * (target.width.toNat * 4) ≤ i ∧ i < y * (target.width.toNat * 4)) := by
    omega
  simp only [rowsPlaced, Array.getElem?_mapIdx, if_neg nowhere, Option.map_id']

theorem rowsPlaced_trans (h : y ≤ y') (h' : y' ≤ y'') :
    rowsPlaced target picture size y' y'' (rowsPlaced target picture size y y' dst) =
      rowsPlaced target picture size y y'' dst := by
  have first : y * (target.width.toNat * 4) ≤ y' * (target.width.toNat * 4) :=
    Nat.mul_le_mul_right _ h
  have second : y' * (target.width.toNat * 4) ≤ y'' * (target.width.toNat * 4) :=
    Nat.mul_le_mul_right _ h'
  refine Array.ext_getElem? fun i => ?_
  simp only [rowsPlaced, Array.getElem?_mapIdx, Option.map_map]
  refine congrArg (Option.map · dst[i]?) (funext fun b => ?_)
  simp only [Function.comp_apply]
  split
  · rw [if_pos (by omega)]
  · split
    · rw [if_pos (by omega)]
    · rw [if_neg (by omega)]

theorem rowsPlaced_eq_place :
    rowsPlaced target picture size 0
        (min target.height.toNat (dst.size / (target.width.toNat * 4))) dst =
      Cover.place dst target picture size := by
  simp only [rowsPlaced, Nat.zero_mul, Nat.zero_le, true_and, Cover.place]

theorem toNat_rowLength (w : UInt32) : (w.toUInt64 * 4).toNat = w.toNat * 4 := by
  have word := w.toNat_lt
  rw [toNat_times]
  · rw [UInt32.toNat_toUInt64]
    rfl
  · rw [UInt32.toNat_toUInt64]
    show w.toNat * 4 < 2 ^ 64
    omega

theorem run_rowLength (w : UInt32) (dst : Array UInt8) :
    (times w.toUInt64 4).run dst = .ok (w.toUInt64 * 4) dst := by
  have word := w.toNat_lt
  refine run_times ?_ dst
  rw [UInt32.toNat_toUInt64]
  show w.toNat * 4 < 2 ^ 64
  omega

/-- Byte `j` of row `y` of a screen. -/
theorem placedByte_row {j : ℕ} (hj : j < target.width.toNat * 4) :
    placedByte picture size target (y * (target.width.toNat * 4) + j) =
      if j / 4 < size.width.toNat ∧ y < size.height.toNat then
        picture.getD (y * (size.width.toNat * 4) + (j / 4 * 4 + swapChannel (j % 4))) 0
      else 0 := by
  have column : y * (target.width.toNat * 4) + j =
      byteIndex target.width.toNat (j / 4) y (j % 4) := by
    rw [byteIndex_eq]
    omega
  rw [column, placedByte_byteIndex (by omega) (by omega), byteIndex_eq]

/-- A row of the right bytes is a row that is placed. -/
theorem overwrite_eq_rowsPlaced {bytes : Array UInt8}
    (whole : bytes.size = target.width.toNat * 4)
    (right : ∀ j < target.width.toNat * 4, bytes.getD j 0 =
      placedByte picture size target (y * (target.width.toNat * 4) + j)) :
    overwrite (y * (target.width.toNat * 4)) bytes dst =
      rowsPlaced target picture size y (y + 1) dst := by
  refine Array.ext_getElem? fun i => ?_
  simp only [overwrite, rowsPlaced, Array.getElem?_mapIdx, whole, Nat.succ_mul]
  refine congrArg (Option.map · dst[i]?) (funext fun b => ?_)
  split
  · rename_i inside
    have place : y * (target.width.toNat * 4) + (i - y * (target.width.toNat * 4)) = i := by
      omega
    rw [right _ (by omega), place]
  · rfl

theorem getD_exchange {part line : Array UInt8} {j : ℕ} (same : line.size = part.size)
    (whole : part.size % 4 = 0) (hj : j < part.size) :
    (exchange part line).getD j 0 = line.getD (j / 4 * 4 + swapChannel (j % 4)) 0 := by
  have inside : j / 4 * 4 + 4 ≤ min part.size line.size := by omega
  rw [Array.getD_eq_getD_getElem?, exchange, Array.getElem?_mapIdx,
    Array.getElem?_eq_getElem hj, Option.map_some, if_pos inside, Option.getD_some]

theorem toNat_shorter (a b : UInt64) : (shorter a b).toNat = min a.toNat b.toNat := by
  unfold shorter
  split
  · rename_i le
    rw [UInt64.le_iff_toNat_le] at le
    omega
  · rename_i gt
    rw [UInt64.le_iff_toNat_le] at gt
    omega

/-- What is copied of a row of the picture, and zeros in the rest of the row, are a row that is
placed. -/
theorem getD_shownRow {visible shown : Array UInt8} {rest copied j : ℕ}
    (common : copied = min (target.width.toNat * 4) (size.width.toNat * 4))
    (cut : shown = picture.extract (y * (size.width.toNat * 4))
      (y * (size.width.toNat * 4) + copied))
    (full : y * (size.width.toNat * 4) + copied ≤ picture.size)
    (early : visible.size = copied) (late : copied + rest = target.width.toNat * 4)
    (below : y < size.height.toNat) (hj : j < target.width.toNat * 4) :
    (exchange visible shown ++ Array.replicate rest 0).getD j 0 =
      placedByte picture size target (y * (target.width.toNat * 4) + j) := by
  have same : shown.size = visible.size := by
    rw [cut, Array.size_extract]
    omega
  have width : (exchange visible shown).size = copied := by
    rw [exchange, Array.size_mapIdx, early]
  rw [placedByte_row hj, Array.getD_eq_getD_getElem?, Array.getElem?_append, width]
  split
  · rename_i copied_byte
    have swapped : swapChannel (j % 4) < 4 := swapChannel_lt (Nat.mod_lt _ (by omega))
    rw [← Array.getD_eq_getD_getElem?, getD_exchange same (by omega) (by omega),
      if_pos (by omega), cut, Array.getD_eq_getD_getElem?, Array.getElem?_extract,
      if_pos (by omega), Array.getD_eq_getD_getElem?]
  · rename_i blank_byte
    rw [Array.getElem?_replicate, if_pos (by omega), Option.getD_some, if_neg (by omega)]

/-! ### One row -/

section Row

variable {row stride : UInt64}

theorem size_line (across : row.toNat = target.width.toNat * 4)
    (room : (y + 1) * (target.width.toNat * 4) ≤ dst.size) :
    (dst.extract (y * row.toNat) (y * row.toNat + row.toNat)).size = target.width.toNat * 4 := by
  rw [Nat.succ_mul] at room
  rw [Array.size_extract, across]
  omega

theorem run_writeRow_blank (across : row.toNat = target.width.toNat * 4)
    (past : size.height.toNat ≤ y) (room : (y + 1) * (target.width.toNat * 4) ≤ dst.size) :
    (writeRow picture size row stride y).run dst =
      .ok () (rowsPlaced target picture size y (y + 1) dst) := by
  rw [writeRow, run_get_bind, if_pos past, size_line across room, across]
  refine congrArg (EStateM.Result.ok ()) (overwrite_eq_rowsPlaced Array.size_replicate ?_)
  intro j hj
  rw [placedByte_row hj, if_neg (by omega), Array.getD_eq_getD_getElem?, Array.getElem?_replicate,
    if_pos hj, Option.getD_some]

/-- A row of the picture begins and ends within the picture, and the picture within a word. -/
theorem run_stretch (along : stride.toNat = size.width.toNat * 4)
    (full : size.byteCount ≤ picture.size) (fits : size.byteCount < UInt64.size)
    (below : y < size.height.toNat) {n : UInt64} (short : n.toNat ≤ size.width.toNat * 4)
    (f : Array UInt8 → Writing Unit) (dst : Array UInt8) :
    (do let first ← times y.toUInt64 stride
        let shown ← slice picture first (← plus first n)
        f shown : Writing Unit).run dst =
      (f (picture.extract (y * (size.width.toNat * 4))
        (y * (size.width.toNat * 4) + n.toNat))).run dst := by
  have reach := row_le below
  have word : y.toUInt64.toNat = y := by
    have high := size.height.toNat_lt
    exact Nat.mod_eq_of_lt (by omega)
  have first : y.toUInt64.toNat * stride.toNat = y * (size.width.toNat * 4) := by
    rw [word, along]
  have first_fits : y.toUInt64.toNat * stride.toNat < UInt64.size := by omega
  have start : (y.toUInt64 * stride).toNat = y * (size.width.toNat * 4) := by
    rw [toNat_times first_fits, first]
  have last_fits : (y.toUInt64 * stride).toNat + n.toNat < UInt64.size := by omega
  have last : (y.toUInt64 * stride + n).toNat = y * (size.width.toNat * 4) + n.toNat := by
    rw [toNat_plus last_fits, start]
  rw [run_bind (run_times first_fits dst), run_bind (run_plus last_fits dst),
    run_bind (run_slice (by omega) (by omega) dst), start, last]

theorem run_writeRow_shown (across : row.toNat = target.width.toNat * 4)
    (along : stride.toNat = size.width.toNat * 4) (full : size.byteCount ≤ picture.size)
    (fits : size.byteCount < UInt64.size) (below : y < size.height.toNat)
    (room : (y + 1) * (target.width.toNat * 4) ≤ dst.size) :
    (writeRow picture size row stride y).run dst =
      .ok () (rowsPlaced target picture size y (y + 1) dst) := by
  have reach := row_le below
  have copied : (shorter row stride).toNat =
      min (target.width.toNat * 4) (size.width.toNat * 4) := by
    rw [toNat_shorter, across, along]
  have line := size_line across room
  rw [writeRow, run_get_bind, across]
  rw [across] at line
  generalize dst.extract _ _ = old at line ⊢
  have early : (old.extract 0 (shorter row stride).toNat).size = (shorter row stride).toNat := by
    rw [Array.size_extract]
    omega
  have late : (old.extract (shorter row stride).toNat old.size).size =
      target.width.toNat * 4 - (shorter row stride).toNat := by
    rw [Array.size_extract]
    omega
  rw [if_neg (by omega), run_stretch along full fits below (by omega),
    run_bind (run_splitAt (by omega) dst)]
  simp only [late]
  refine congrArg (EStateM.Result.ok ()) (overwrite_eq_rowsPlaced ?_ ?_)
  · rw [Array.size_append, exchange, Array.size_mapIdx, early, Array.size_replicate]
    omega
  · intro j hj
    exact getD_shownRow copied rfl (by omega) early (by omega) below hj

theorem run_writeRow (across : row.toNat = target.width.toNat * 4)
    (along : stride.toNat = size.width.toNat * 4) (full : size.byteCount ≤ picture.size)
    (fits : size.byteCount < UInt64.size)
    (room : (y + 1) * (target.width.toNat * 4) ≤ dst.size) :
    (writeRow picture size row stride y).run dst =
      .ok () (rowsPlaced target picture size y (y + 1) dst) := by
  rcases Nat.lt_or_ge y size.height.toNat with below | past
  · exact run_writeRow_shown across along full fits below room
  · exact run_writeRow_blank across past room

/-- By induction on the rows that are left. -/
theorem run_writeRows (across : row.toNat = target.width.toNat * 4)
    (along : stride.toNat = size.width.toNat * 4) (full : size.byteCount ≤ picture.size)
    (fits : size.byteCount < UInt64.size) (left : ℕ)
    (room : (y + left) * (target.width.toNat * 4) ≤ dst.size) :
    (writeRows picture size row stride left y).run dst =
      .ok () (rowsPlaced target picture size y (y + left) dst) := by
  induction left generalizing y dst with
  | zero =>
    rw [Nat.add_zero, rowsPlaced_self]
    rfl
  | succ left ih =>
    have here : (y + 1) * (target.width.toNat * 4) ≤ dst.size :=
      Nat.le_trans (Nat.mul_le_mul_right _ (by omega)) room
    have later : (y + 1 + left) * (target.width.toNat * 4) ≤
        (rowsPlaced target picture size y (y + 1) dst).size := by
      rw [size_rowsPlaced, Nat.add_right_comm]
      exact room
    rw [writeRows, run_bind (run_writeRow across along full fits here), ih later,
      rowsPlaced_trans (by omega) (by omega), Nat.add_right_comm]
    rfl

end Row

theorem run_place (wide : target.width ≠ 0) (full : size.byteCount ≤ picture.size)
    (fits : size.byteCount < UInt64.size) (dst : Array UInt8) :
    (place target picture size).run dst = .ok () (Cover.place dst target picture size) := by
  have across := toNat_rowLength target.width
  have some_row : target.width.toUInt64 * 4 ≠ 0 := by
    intro zero
    rw [zero] at across
    exact wide (UInt32.toNat_inj.mp (by simpa using across.symm))
  have counted : (rowCount target (target.width.toUInt64 * 4)).run dst =
      .ok (min target.height.toNat (dst.size / (target.width.toNat * 4))) dst := by
    rw [rowCount, if_neg some_row, ← across]
    rfl
  have room : (0 + min target.height.toNat (dst.size / (target.width.toNat * 4))) *
      (target.width.toNat * 4) ≤ dst.size := by
    rw [Nat.zero_add]
    exact Nat.le_trans (Nat.mul_le_mul_right _ (Nat.min_le_right _ _)) (Nat.div_mul_le_self _ _)
  rw [place, run_bind (run_rowLength _ dst), run_bind (run_rowLength _ dst), run_bind counted,
    run_writeRows across (toNat_rowLength size.width) full fits _ room, Nat.zero_add,
    rowsPlaced_eq_place]

end Rows

end Checked

/-! ## The whole screen -/

section Screen

variable {R : Resampler} {filter : Filter} {dst src : Array UInt8} {source target : Extent}

/-- The window has exact sides, fits the target and spans it on one axis. -/
theorem window_within (some_source : source.isEmpty = false)
    (some_target : target.isEmpty = false) : ExactSides source target ∧
      ((window source target).width ≤ target.width ∧
        (window source target).height ≤ target.height) ∧
      ((window source target).width = target.width ∨
        (window source target).height = target.height) := by
  obtain ⟨wide, high⟩ := Extent.isEmpty_eq_false_iff.mp some_source
  obtain ⟨across, down⟩ := Extent.isEmpty_eq_false_iff.mp some_target
  replace wide := side_pos wide
  replace high := side_pos high
  replace across := side_pos across
  replace down := side_pos down
  rcases Nat.lt_or_ge (source.width.toNat * target.height.toNat)
    (source.height.toNat * target.width.toNat) with cross | cross
  · obtain ⟨span, sides⟩ := window_of_lt wide high across down cross
    refine ⟨sides, ⟨?_, UInt32.le_of_eq span⟩, .inr span⟩
    rw [UInt32.le_iff_toNat_le, sides.width_eq]
    exact (ceil_div_mem wide across (le_max_left _ _)).2
  · obtain ⟨span, sides⟩ := window_of_le wide high across down cross
    refine ⟨sides, ⟨UInt32.le_of_eq span, ?_⟩, .inl span⟩
    rw [UInt32.le_iff_toNat_le, sides.height_eq]
    exact (ceil_div_mem high down (le_max_right _ _)).2

theorem byteCount_window_le (some_source : source.isEmpty = false)
    (some_target : target.isEmpty = false) :
    (window source target).byteCount ≤ target.byteCount := by
  obtain ⟨_, ⟨narrow, low⟩, _⟩ := window_within some_source some_target
  rw [UInt32.le_iff_toNat_le] at narrow low
  exact Nat.mul_le_mul_right 4 (Nat.mul_le_mul narrow low)

namespace Checked

theorem run_present (some_source : source.isEmpty = false) (some_target : target.isEmpty = false)
    (source_fits : source.byteCount < UInt64.size) (target_fits : target.byteCount < UInt64.size)
    (long : source.byteCount ≤ src.size) (dst : Array UInt8) :
    (present R filter (src.extract 0 source.byteCount) source target).run dst =
      .ok (factor source target) (Cover.place dst target (pictureBy R filter src source target)
        (Cover.window source target)) := by
  have wide : target.width ≠ 0 := (Extent.isEmpty_eq_false_iff.mp some_target).1
  have within := byteCount_window_le some_source some_target
  have full : (Cover.window source target).byteCount ≤
      (pictureBy R filter src source target).size :=
    Nat.le_of_eq (size_pictureBy long).symm
  have placed := run_place wide full (by omega) dst
  have enough : ¬ (src.extract 0 source.byteCount).size < source.byteCount := by
    rw [Array.size_extract]
    omega
  rw [present, run_bind (run_window some_source some_target dst)]
  by_cases same : Cover.window source target = source
  · simp only [pictureBy, same, if_true] at placed ⊢
    rw [run_bind placed]
    rfl
  · simp only [pictureBy, if_neg same] at placed ⊢
    rw [run_bind (run_byteLength source_fits dst), if_neg enough, run_bind placed]
    rfl

theorem run_cover_short (some_pixels : (source.isEmpty || target.isEmpty) = false)
    (fits : source.byteCount < UInt64.size) (short : src.size < source.byteCount)
    (dst : Array UInt8) :
    (cover R filter src source target).run dst =
      .error (.refused (.lengthMismatch .source source.byteCount src.size)) dst := by
  rw [cover, if_neg (ne_true_of_eq_false some_pixels)]
  exact run_bind_stop (run_checkLength_short fits short .source dst)

theorem run_cover_narrow (some_pixels : (source.isEmpty || target.isEmpty) = false)
    (source_fits : source.byteCount < UInt64.size) (target_fits : target.byteCount < UInt64.size)
    (long : source.byteCount ≤ src.size) (short : dst.size < target.byteCount) :
    (cover R filter src source target).run dst =
      .error (.refused (.lengthMismatch .destination target.byteCount dst.size)) dst := by
  rw [cover, if_neg (ne_true_of_eq_false some_pixels),
    run_bind (run_checkLength source_fits long .source dst), run_get_bind]
  exact run_bind_stop (run_checkLength_short target_fits short .destination dst)

theorem run_cover_ok (some_pixels : (source.isEmpty || target.isEmpty) = false)
    (source_fits : source.byteCount < UInt64.size) (target_fits : target.byteCount < UInt64.size)
    (long : source.byteCount ≤ src.size) (room : target.byteCount ≤ dst.size) :
    (cover R filter src source target).run dst =
      .ok (factor source target) (Cover.place dst target (pictureBy R filter src source target)
        (Cover.window source target)) := by
  obtain ⟨some_source, some_target⟩ := Bool.or_eq_false_iff.mp some_pixels
  have prefix_fits : source.byteCount.toUInt64.toNat ≤ src.size := by
    rw [toNat_byteCount source_fits]
    exact long
  rw [cover, if_neg (ne_true_of_eq_false some_pixels),
    run_bind (run_checkLength source_fits long .source dst), run_get_bind,
    run_bind (run_checkLength target_fits room .destination dst),
    run_bind (run_byteLength source_fits dst), run_bind (run_slice (Nat.zero_le _) prefix_fits dst),
    toNat_byteCount source_fits]
  exact run_present some_source some_target source_fits target_fits long dst

theorem run_cover_overflow (wide : Overflows target src source) (dst : Array UInt8) :
    (cover R filter src source target).run dst = .error (.crashed .overflow) dst := by
  obtain ⟨some_pixels, wide⟩ := wide
  rw [cover, if_neg (ne_true_of_eq_false some_pixels)]
  rcases Nat.lt_or_ge source.byteCount UInt64.size with fits | wide_source
  · obtain ⟨long, wide_target⟩ := wide.resolve_left (Nat.not_le.mpr fits)
    rw [run_bind (run_checkLength fits long .source dst), run_get_bind]
    exact run_bind_stop (run_checkLength_overflow wide_target .destination dst dst)
  · exact run_bind_stop (run_checkLength_overflow wide_source .source src dst)

end Checked

/-! ## The judgement -/

theorem coverBy_short (some_pixels : (source.isEmpty || target.isEmpty) = false)
    (fits : source.byteCount < UInt64.size) (short : src.size < source.byteCount) :
    coverBy R dst target src source filter =
      .error (.refused (.lengthMismatch .source source.byteCount src.size)) := by
  rw [coverBy, if_neg (ne_true_of_eq_false some_pixels), checkLength_short fits short]

theorem coverBy_narrow (some_pixels : (source.isEmpty || target.isEmpty) = false)
    (fits : target.byteCount < UInt64.size) (long : source.byteCount ≤ src.size)
    (short : dst.size < target.byteCount) :
    coverBy R dst target src source filter =
      .error (.refused (.lengthMismatch .destination target.byteCount dst.size)) := by
  rw [coverBy, if_neg (ne_true_of_eq_false some_pixels), checkLength_ok long,
    checkLength_short fits short]

/-- Buffers whose lengths are words are shorter than what does not fit into one. -/
theorem coverBy_overflow (wide : Overflows target src source) (src_word : src.size < UInt64.size)
    (dst_word : dst.size < UInt64.size) :
    coverBy R dst target src source filter = .error (.crashed .overflow) := by
  obtain ⟨some_pixels, wide_source | ⟨long, wide_target⟩⟩ := wide
  · have short : src.size < source.byteCount := Nat.lt_of_lt_of_le src_word wide_source
    rw [coverBy, if_neg (ne_true_of_eq_false some_pixels), checkLength_overflow wide_source short]
  · have short : dst.size < target.byteCount := Nat.lt_of_lt_of_le dst_word wide_target
    rw [coverBy, if_neg (ne_true_of_eq_false some_pixels), checkLength_ok long,
      checkLength_overflow wide_target short]

theorem refusal?_eq_none_iff : refusal? dst target src source = none ↔
    (source.isEmpty || target.isEmpty) = false ∧ source.byteCount ≤ src.size ∧
      target.byteCount ≤ dst.size := by
  unfold refusal?
  cases (source.isEmpty || target.isEmpty) with
  | true => simp
  | false =>
    rw [if_neg Bool.false_ne_true]
    split
    · rename_i short
      simp [Nat.not_le.mpr short]
    rename_i long
    split
    · rename_i narrow
      simp [Nat.not_le.mpr narrow]
    · rename_i room
      simp [Nat.not_lt.mp long, Nat.not_lt.mp room]

/-- Each refusal with its cause. Causes are looked for in this order. -/
theorem refusal?_eq_some {e : ScaleError} (h : refusal? dst target src source = some e) :
    (source.isEmpty || target.isEmpty) = true ∧ e = .zeroExtent source target ∨
      (source.isEmpty || target.isEmpty) = false ∧ src.size < source.byteCount ∧
        e = .lengthMismatch .source source.byteCount src.size ∨
      (source.isEmpty || target.isEmpty) = false ∧ source.byteCount ≤ src.size ∧
        dst.size < target.byteCount ∧
          e = .lengthMismatch .destination target.byteCount dst.size := by
  unfold refusal? at h
  cases pixels : source.isEmpty || target.isEmpty with
  | true =>
    rw [pixels, if_pos rfl] at h
    exact .inl ⟨rfl, (Option.some.inj h).symm⟩
  | false =>
    rw [pixels, if_neg Bool.false_ne_true] at h
    split at h
    · rename_i short
      exact .inr (.inl ⟨rfl, short, (Option.some.inj h).symm⟩)
    rename_i long
    split at h
    · rename_i narrow
      exact .inr (.inr ⟨rfl, Nat.le_of_not_lt long, narrow, (Option.some.inj h).symm⟩)
    · cases h

/-- How covering a screen is judged, and what a refusal or a crash leaves behind. The plain function
and the one that checks every step agree. -/
structure Judged (R : Resampler) (filter : Filter) (dst : Array UInt8) (target : Extent)
    (src : Array UInt8) (source : Extent) : Prop where
  refused : ¬ Overflows target src source → ∀ e, refusal? dst target src source = some e →
    (Checked.cover R filter src source target).run dst = .error (.refused e) dst ∧
      coverBy R dst target src source filter = .error (.refused e)
  done : ¬ Overflows target src source → refusal? dst target src source = none → ∃ filled,
    (Checked.cover R filter src source target).run dst = .ok (factor source target) filled ∧
      coverBy R dst target src source filter = .ok (filled, factor source target)
  /-- Lengths of buffers are words. -/
  overflow : Overflows target src source →
    (Checked.cover R filter src source target).run dst = .error (.crashed .overflow) dst ∧
      (src.size < UInt64.size → dst.size < UInt64.size →
        coverBy R dst target src source filter = .error (.crashed .overflow))

section Fits

variable (fits : ¬ Overflows target src source)
  (some_pixels : (source.isEmpty || target.isEmpty) = false)
include fits some_pixels

theorem source_fits : source.byteCount < UInt64.size :=
  Nat.lt_of_not_le fun wide => fits ⟨some_pixels, .inl wide⟩

theorem target_fits (long : source.byteCount ≤ src.size) : target.byteCount < UInt64.size :=
  Nat.lt_of_not_le fun wide => fits ⟨some_pixels, .inr ⟨long, wide⟩⟩

end Fits

theorem judged_exactly (R : Resampler) (filter : Filter) (dst : Array UInt8) (target : Extent)
    (src : Array UInt8) (source : Extent) : Judged R filter dst target src source := by
  refine ⟨fun fits e refusal => ?refused, fun fits free => ?done, fun wide => ?overflow⟩
  case refused =>
    rcases refusal?_eq_some refusal with ⟨empty, rfl⟩ | ⟨some_pixels, short, rfl⟩ |
      ⟨some_pixels, long, narrow, rfl⟩
    · refine ⟨?_, ?_⟩
      · rw [Checked.cover, if_pos empty]
        rfl
      · rw [coverBy, if_pos empty]
    · have known := source_fits fits some_pixels
      exact ⟨Checked.run_cover_short some_pixels known short dst,
        coverBy_short some_pixels known short⟩
    · have known := target_fits fits some_pixels long
      exact ⟨Checked.run_cover_narrow some_pixels (source_fits fits some_pixels) known long narrow,
        coverBy_narrow some_pixels known long narrow⟩
  case done =>
    obtain ⟨some_pixels, long, room⟩ := refusal?_eq_none_iff.mp free
    have known := source_fits fits some_pixels
    exact ⟨_, Checked.run_cover_ok some_pixels known (target_fits fits some_pixels long) long room,
      coverBy_ok some_pixels long room⟩
  case overflow => exact ⟨Checked.run_cover_overflow wide dst, coverBy_overflow wide⟩

/-- Sides so long that the length of the picture is the first that does not fit into a word. -/
def vast : Extent := ⟨2147483648, 2147483648⟩

/-- Buffers without a byte are too short for a picture of 2 ^ 64 bytes, but no refusal says so. -/
theorem vast_overflows :
    refusal? #[] vast #[] vast = some (.lengthMismatch .source 18446744073709551616 0) ∧
      cover #[] vast #[] vast .nearest = .error (.crashed .overflow) ∧
      (Checked.cover .separable .nearest #[] vast vast).run #[] = .error (.crashed .overflow) #[] :=
  ⟨by decide, rfl, rfl⟩

end Screen
end Cover
end Backdrop

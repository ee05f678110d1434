import Backdrop.Proofs.Pixel.Written

/-!
# Backdrop.Proofs.Pixel.Verbatim

Pictures that are copied and not resampled.

* `partner` is the place with which a byte is exchanged when red and blue are.
* `Verbatim shown target src source`: the rows of the source are in the top left corner of what is
  shown, and all else is zero.
* `copied_exactly`: a picture is copied if, and only if, the factor is exactly one. Then the screen shows
  it without loss, once red and blue are exchanged back.
-/

namespace Backdrop
namespace Cover

/-- Where a byte goes when red and blue are exchanged in its pixel. -/
def partner (i : ℕ) : ℕ := i / 4 * 4 + swapChannel (i % 4)

/-- What is shown has the rows of the source in its top left corner, and zeros beside and below. -/
structure Verbatim (shown : Array UInt8) (target : Extent) (src : Array UInt8) (source : Extent) :
    Prop where
  size_eq : shown.size = target.byteCount
  rows : ∀ y < source.height.toNat,
    shown.extract (y * (target.width.toNat * 4))
        (y * (target.width.toNat * 4) + source.width.toNat * 4) =
      src.extract (y * (source.width.toNat * 4))
        (y * (source.width.toNat * 4) + source.width.toNat * 4)
  beside : ∀ y < source.height.toNat,
    shown.extract (y * (target.width.toNat * 4) + source.width.toNat * 4)
        (y * (target.width.toNat * 4) + target.width.toNat * 4) =
      .replicate (target.width.toNat * 4 - source.width.toNat * 4) 0
  below : shown.extract (source.height.toNat * (target.width.toNat * 4)) shown.size =
    .replicate (target.byteCount - source.height.toNat * (target.width.toNat * 4)) 0

/-- When pictures are copied, and what comes of them. -/
structure Copied (source target : Extent) : Prop where
  window_iff : window source target = source ↔ ratio source target = 1
  ratio_iff : ratio source target = 1 ↔
    (source.width ≤ target.width ∧ source.height ≤ target.height) ∧
      (source.width = target.width ∨ source.height = target.height)
  verbatim : ratio source target = 1 → ∀ dst src : Array UInt8,
    source.byteCount ≤ src.size → target.byteCount ≤ dst.size → ∃ filled,
      (∀ R filter, coverBy R dst target src source filter =
        .ok (filled, factor source target)) ∧
      Verbatim (swapRedBlue (filled.extract 0 target.byteCount)) target src source ∧
      (source = target →
        swapRedBlue (filled.extract 0 target.byteCount) = src.extract 0 source.byteCount)
  involutive : ∀ bytes, swapRedBlue (swapRedBlue bytes) = bytes
  trailing : ∀ bytes i, bytes.size / 4 * 4 ≤ i → (swapRedBlue bytes)[i]? = bytes[i]?

/-! ## Exchanging red and blue -/

section Partner

variable (i : ℕ)

theorem partner_div : partner i / 4 = i / 4 := by
  have := swapChannel_lt (Nat.mod_lt i (by omega : 0 < 4))
  unfold partner
  omega

theorem swapChannel_swapChannel (c : ℕ) : swapChannel (swapChannel c) = c := by
  unfold swapChannel
  grind

theorem partner_partner : partner (partner i) = i := by
  have small := swapChannel_lt (Nat.mod_lt i (by omega : 0 < 4))
  have channel : partner i % 4 = swapChannel (i % 4) := by
    unfold partner
    omega
  rw [partner, partner_div, channel, swapChannel_swapChannel]
  omega

theorem partner_add {n : ℕ} (whole : n % 4 = 0) : partner (n + i) = n + partner i := by
  have column : (n + i) % 4 = i % 4 := by omega
  unfold partner
  rw [column]
  omega

theorem partner_lt {n : ℕ} (whole : n % 4 = 0) (hi : i < n) : partner i < n := by
  have small := swapChannel_lt (Nat.mod_lt i (by omega : 0 < 4))
  unfold partner
  omega

end Partner

section Swap

variable {bytes : Array UInt8} {i : ℕ}

theorem size_swapRedBlue : (swapRedBlue bytes).size = bytes.size := by
  rw [swapRedBlue, Array.size_mapIdx]

theorem getElem?_swapRedBlue : (swapRedBlue bytes)[i]? =
    if i / 4 * 4 + 4 ≤ bytes.size then bytes[partner i]? else bytes[i]? := by
  rw [swapRedBlue, Array.getElem?_mapIdx]
  split
  · rename_i whole
    have small := swapChannel_lt (Nat.mod_lt i (by omega : 0 < 4))
    have there : partner i < bytes.size := by
      unfold partner
      omega
    rw [Array.getElem?_eq_getElem (by omega : i < bytes.size), Option.map_some, partner,
      Array.getD_eq_getD_getElem?, ← partner, Array.getElem?_eq_getElem there, Option.getD_some]
  · rw [Option.map_id']

theorem swapRedBlue_swapRedBlue (bytes : Array UInt8) : swapRedBlue (swapRedBlue bytes) = bytes := by
  refine Array.ext_getElem? fun i => ?_
  rw [getElem?_swapRedBlue, size_swapRedBlue, getElem?_swapRedBlue, getElem?_swapRedBlue,
    partner_div, partner_partner]
  split
  · rfl
  · rfl

/-- A pixel that is cut off stays as it is. -/
theorem getElem?_swapRedBlue_trailing (h : bytes.size / 4 * 4 ≤ i) :
    (swapRedBlue bytes)[i]? = bytes[i]? := by
  rw [getElem?_swapRedBlue, if_neg (by omega)]

end Swap

/-! ## The factor one -/

section Ratio

variable {source target : Extent}

theorem div_le_one_iff_le {s d : ℕ} (hd : 0 < d) : (s : ℚ) / d ≤ 1 ↔ s ≤ d := by
  have span : (0 : ℚ) < d := by exact_mod_cast hd
  rw [div_le_one span]
  exact_mod_cast Iff.rfl

theorem div_eq_one_iff_same {s d : ℕ} (hd : 0 < d) : (s : ℚ) / d = 1 ↔ s = d := by
  have span : (d : ℚ) ≠ 0 := by exact_mod_cast hd.ne'
  rw [div_eq_one_iff_eq span]
  exact_mod_cast Iff.rfl

/-- The larger of two ratios is one if both sides fit and one of them exactly. -/
theorem ratio_eq_one_iff (some_target : target.isEmpty = false) : ratio source target = 1 ↔
    (source.width ≤ target.width ∧ source.height ≤ target.height) ∧
      (source.width = target.width ∨ source.height = target.height) := by
  obtain ⟨across, down⟩ := Extent.isEmpty_eq_false_iff.mp some_target
  replace across := side_pos across
  replace down := side_pos down
  rw [ratio, UInt32.le_iff_toNat_le, UInt32.le_iff_toNat_le, ← UInt32.toNat_inj,
    ← UInt32.toNat_inj, ← div_le_one_iff_le across, ← div_le_one_iff_le down,
    ← div_eq_one_iff_same across, ← div_eq_one_iff_same down]
  constructor
  · intro one
    refine ⟨max_le_iff.mp one.le, ?_⟩
    rcases max_choice ((source.width.toNat : ℚ) / target.width.toNat)
      ((source.height.toNat : ℚ) / target.height.toNat) with wider | taller
    · exact .inl (wider.symm.trans one)
    · exact .inr (taller.symm.trans one)
  · rintro ⟨⟨narrow, low⟩, same | same⟩
    · rw [same, max_eq_left low]
    · rw [same, max_eq_right narrow]

/-- The window is the source exactly where the factor is one. -/
theorem window_eq_source_iff (some_source : source.isEmpty = false)
    (some_target : target.isEmpty = false) :
    window source target = source ↔ ratio source target = 1 := by
  obtain ⟨sides, fits, spans⟩ := window_within some_source some_target
  constructor
  · intro same
    rw [same] at fits spans
    exact (ratio_eq_one_iff some_target).mpr ⟨fits, spans⟩
  · intro one
    have width := sides.width_eq
    have height := sides.height_eq
    rw [one, div_one, Nat.ceil_natCast, UInt32.toNat_inj] at width height
    have both : window source target =
      ⟨(window source target).width, (window source target).height⟩ := rfl
    rw [both, width, height]

end Ratio

/-! ## The copy -/

section Shown

variable {dst picture : Array UInt8} {target source : Extent}

theorem size_extract_place (room : target.byteCount ≤ dst.size) :
    ((place dst target picture source).extract 0 target.byteCount).size = target.byteCount := by
  rw [Array.size_extract, size_place, Nat.min_eq_left room, Nat.sub_zero]

/-- Exchanging red and blue once more shows the picture as it is. -/
theorem getElem?_shown (room : target.byteCount ≤ dst.size) {y j : ℕ}
    (hj : j < target.width.toNat * 4) (hy : y < target.height.toNat) :
    (swapRedBlue ((place dst target picture source).extract 0 target.byteCount))[
        y * (target.width.toNat * 4) + j]? =
      some (if j / 4 < source.width.toNat ∧ y < source.height.toNat then
        picture.getD (y * (source.width.toNat * 4) + j) 0
      else 0) := by
  have row := row_le hy
  have pixels : y * (target.width.toNat * 4) % 4 = 0 := by
    rw [← Nat.mul_assoc, Nat.mul_mod_left]
  have size_eq : ((place dst target picture source).extract 0 target.byteCount).size =
      target.byteCount := size_extract_place room
  have partner_row := partner_lt j (n := target.width.toNat * 4) (by omega) hj
  have exchanged : partner j / 4 * 4 + swapChannel (partner j % 4) = j := partner_partner j
  rw [getElem?_swapRedBlue, size_eq, if_pos (by omega), partner_add j pixels,
    Array.getElem?_extract, size_place, Nat.min_eq_left room, if_pos (by omega), Nat.zero_add,
    getElem?_place_of_room room, if_pos (by omega), Checked.placedByte_row partner_row,
    exchanged, partner_div]

theorem size_shown (room : target.byteCount ≤ dst.size) :
    (swapRedBlue ((place dst target picture source).extract 0 target.byteCount)).size =
      target.byteCount := by
  rw [size_swapRedBlue, size_extract_place room]

/-- Each byte of a screen is in one of its rows. -/
theorem row_of_index {i : ℕ} (early : i < target.byteCount) :
    0 < target.width.toNat * 4 ∧ i / (target.width.toNat * 4) < target.height.toNat := by
  rw [byteCount_rows] at early
  have wide : 0 < target.width.toNat * 4 := by
    refine Nat.pos_of_ne_zero fun none => ?_
    rw [none] at early
    omega
  exact ⟨wide, (Nat.div_lt_iff_lt_mul wide).mpr early⟩

theorem getElem?_shown_below (room : target.byteCount ≤ dst.size) {i : ℕ}
    (late : source.height.toNat * (target.width.toNat * 4) ≤ i) (early : i < target.byteCount) :
    (swapRedBlue ((place dst target picture source).extract 0 target.byteCount))[i]? =
      some 0 := by
  obtain ⟨wide, low⟩ := row_of_index early
  have past : source.height.toNat ≤ i / (target.width.toNat * 4) :=
    (Nat.le_div_iff_mul_le wide).mpr late
  rw [← Nat.div_add_mod' i (target.width.toNat * 4), getElem?_shown room (Nat.mod_lt _ wide) low,
    if_neg (by omega)]

/-- A picture that is not larger than the screen is shown as it is. -/
theorem verbatim_place (room : target.byteCount ≤ dst.size)
    (full : source.byteCount ≤ picture.size) (narrow : source.width.toNat ≤ target.width.toNat)
    (low : source.height.toNat ≤ target.height.toNat) :
    Verbatim (swapRedBlue ((place dst target picture source).extract 0 target.byteCount))
      target picture source := by
  have size_eq : (swapRedBlue ((place dst target picture source).extract 0
      target.byteCount)).size = target.byteCount := size_shown room
  refine ⟨size_eq, fun y hy => ?rows, fun y hy => ?beside, ?below⟩
  case rows =>
    have here := row_le (Nat.lt_of_lt_of_le hy low)
    have there := row_le hy
    refine Array.ext_getElem? fun j => ?_
    rw [Array.getElem?_extract, Array.getElem?_extract, size_eq]
    split
    · rename_i early
      rw [getElem?_shown room (by omega) (by omega), if_pos (by omega), if_pos (by omega),
        Array.getD_eq_getD_getElem?, Array.getElem?_eq_getElem (by omega), Option.getD_some]
    · rw [if_neg (by omega)]
  case beside =>
    have here := row_le (Nat.lt_of_lt_of_le hy low)
    refine Array.ext_getElem? fun j => ?_
    rw [Array.getElem?_extract, Array.getElem?_replicate, size_eq]
    split
    · rename_i early
      rw [Nat.add_assoc, getElem?_shown room (by omega) (by omega), if_neg (by omega),
        if_pos (by omega)]
    · rw [if_neg (by omega)]
  case below =>
    refine Array.ext_getElem? fun j => ?_
    rw [Array.getElem?_extract, Array.getElem?_replicate, size_eq, Nat.min_self]
    split
    · rename_i early
      rw [getElem?_shown_below room (by omega) (by omega)]
    · rfl

/-- On a screen of its own size a picture is shown whole. -/
theorem shown_self (room : target.byteCount ≤ dst.size) (full : picture.size = target.byteCount) :
    swapRedBlue ((place dst target picture target).extract 0 target.byteCount) = picture := by
  refine Array.ext_getElem? fun i => ?_
  rcases Nat.lt_or_ge i target.byteCount with early | late
  · obtain ⟨wide, low⟩ := row_of_index early
    have column := Nat.mod_lt i wide
    rw [← Nat.div_add_mod' i (target.width.toNat * 4), getElem?_shown room column low,
      if_pos ⟨by omega, low⟩, Nat.div_add_mod', Array.getD_eq_getD_getElem?,
      Array.getElem?_eq_getElem (full ▸ early), Option.getD_some]
  · rw [Array.getElem?_eq_none (by rw [size_shown room]; exact late),
      Array.getElem?_eq_none (by omega)]

end Shown

theorem copied_exactly {source target : Extent} (some_source : source.isEmpty = false)
    (some_target : target.isEmpty = false) : Copied source target := by
  have some_pixels : (source.isEmpty || target.isEmpty) = false := by
    rw [some_source, some_target, Bool.or_self]
  refine ⟨window_eq_source_iff some_source some_target, ratio_eq_one_iff some_target,
    fun one dst src long room => ?verbatim, fun bytes => swapRedBlue_swapRedBlue bytes,
    fun bytes i late => getElem?_swapRedBlue_trailing late⟩
  have same : window source target = source :=
    (window_eq_source_iff some_source some_target).mpr one
  obtain ⟨⟨narrow, low⟩, -⟩ := (ratio_eq_one_iff some_target).mp one
  rw [UInt32.le_iff_toNat_le] at narrow low
  have full : source.byteCount ≤ (src.extract 0 source.byteCount).size := by
    rw [Array.size_extract]
    omega
  have shown := verbatim_place room full narrow low
  refine ⟨place dst target (src.extract 0 source.byteCount) source, fun R filter => ?_, ?_, ?_⟩
  · rw [coverBy_ok some_pixels long room, same]
    simp only [pictureBy, same, if_true]
  · refine ⟨shown.size_eq, fun y hy => ?_, shown.beside, shown.below⟩
    have row := row_le hy
    rw [shown.rows y hy, Array.extract_extract, Nat.zero_add, Nat.zero_add,
      Nat.min_eq_left row]
  · rintro rfl
    exact shown_self room (by rw [Array.size_extract]; omega)

/-- The factor of two by two on three by two is one. -/
theorem copied_narrow : (⟨2, 2⟩ : Extent).isEmpty = false ∧ (⟨3, 2⟩ : Extent).isEmpty = false ∧
    ratio ⟨2, 2⟩ ⟨3, 2⟩ = 1 ∧ Copied ⟨2, 2⟩ ⟨3, 2⟩ :=
  ⟨by decide, by decide, (ratio_eq_one_iff (by decide)).mpr (by decide),
    copied_exactly (by decide) (by decide)⟩

end Cover
end Backdrop

import Backdrop.Proofs.Pixel.Checked

/-!
# Backdrop.Proofs.Pixel.Written

What is in the buffer of a screen after a picture was put onto it.

* `bytesAt` has the four bytes of a pixel.
* `Written`: each pixel of the screen has the bytes of the picture with the outer colours exchanged,
  or zeros beside the window; bytes after the screen are as they were; and of all that was in the
  buffers before, nothing matters but the picture.
* `written_of_covered` is about every covering that succeeds, with any resampler.
-/

namespace Backdrop
namespace Cover

/-- The four bytes of the pixel (x, y), fewer if the buffer ends before. -/
def bytesAt (bytes : Array UInt8) (width x y : ℕ) : List UInt8 :=
  (bytes.extract (byteIndex width x y 0) (byteIndex width x y 4)).toList

/-- What covering a screen has written when it answers the factor `f`. -/
structure Written (R : Resampler) (filter : Filter) (dst : Array UInt8) (target : Extent)
    (src : Array UInt8) (source : Extent) (filled : Array UInt8) (f : Float) : Prop where
  size_eq : filled.size = dst.size
  inside : ∀ x y, x < target.width.toNat → y < target.height.toNat →
    x < (window source target).width.toNat → y < (window source target).height.toNat →
      ∃ r₀ r₁ r₂ r₃,
        bytesAt (pictureBy R filter src source target) (window source target).width.toNat x y =
            [r₀, r₁, r₂, r₃] ∧
          bytesAt filled target.width.toNat x y = [r₂, r₁, r₀, r₃]
  outside : ∀ x y, x < target.width.toNat → y < target.height.toNat →
    ¬ (x < (window source target).width.toNat ∧ y < (window source target).height.toNat) →
      bytesAt filled target.width.toNat x y = [0, 0, 0, 0]
  beyond : ∀ i, target.byteCount ≤ i → filled[i]? = dst[i]?
  /-- Every slice on the way lies in its buffer, and every number in its word. Lengths of buffers
  are words. -/
  checked : dst.size < UInt64.size → src.size < UInt64.size →
    (Checked.cover R filter src source target).run dst = .ok f filled
  determined : ∀ dst' src', target.byteCount ≤ dst'.size → source.byteCount ≤ src'.size →
    src'.extract 0 source.byteCount = src.extract 0 source.byteCount → ∃ filled',
      coverBy R dst' target src' source filter = .ok (filled', f) ∧
        filled'.extract 0 target.byteCount = filled.extract 0 target.byteCount

section Bytes

variable {bytes : Array UInt8} {width x y : ℕ}

theorem getElem?_bytesAt {c : ℕ} (hc : c < 4) :
    (bytesAt bytes width x y)[c]? = bytes[byteIndex width x y c]? := by
  have four : byteIndex width x y 4 = byteIndex width x y 0 + 4 := rfl
  have here : byteIndex width x y c = byteIndex width x y 0 + c := by
    simp only [byteIndex, Nat.add_zero]
  rw [bytesAt, Array.getElem?_toList, Array.getElem?_extract, here, four]
  split
  · rfl
  · exact (Array.getElem?_eq_none (by omega)).symm

theorem length_bytesAt_le : (bytesAt bytes width x y).length ≤ 4 := by
  have four : byteIndex width x y 4 = byteIndex width x y 0 + 4 := rfl
  rw [bytesAt, Array.length_toList, Array.size_extract, four]
  omega

/-- Four bytes at the right places are those of the pixel. -/
theorem bytesAt_eq {b : ℕ → UInt8} (h : ∀ c < 4, bytes[byteIndex width x y c]? = some (b c)) :
    bytesAt bytes width x y = [b 0, b 1, b 2, b 3] := by
  refine List.ext_getElem? fun c => ?_
  rcases Nat.lt_or_ge c 4 with hc | hc
  · rw [getElem?_bytesAt hc, h c hc]
    match c, hc with
    | 0, _ | 1, _ | 2, _ | 3, _ => rfl
  · rw [List.getElem?_eq_none (Nat.le_trans length_bytesAt_le hc),
      List.getElem?_eq_none (by simpa using hc)]

end Bytes

section Place

variable {dst dst' picture : Array UInt8} {target size : Extent} {x y : ℕ}

theorem bytesAt_place_inside (room : target.byteCount ≤ dst.size)
    (full : size.byteCount ≤ picture.size) (hx : x < target.width.toNat)
    (hy : y < target.height.toNat) (hx' : x < size.width.toNat) (hy' : y < size.height.toNat) :
    ∃ r₀ r₁ r₂ r₃, bytesAt picture size.width.toNat x y = [r₀, r₁, r₂, r₃] ∧
      bytesAt (place dst target picture size) target.width.toNat x y = [r₂, r₁, r₀, r₃] := by
  have there : ∀ c < 4, picture[byteIndex size.width.toNat x y c]? =
      some (picture.getD (byteIndex size.width.toNat x y c) 0) := by
    intro c hc
    have within : byteIndex size.width.toNat x y c < picture.size :=
      Nat.lt_of_lt_of_le (byteIndex_lt hx' hy' hc) full
    rw [Array.getD_eq_getD_getElem?, Array.getElem?_eq_getElem within, Option.getD_some]
  have here : ∀ c < 4, (place dst target picture size)[byteIndex target.width.toNat x y c]? =
      some (picture.getD (byteIndex size.width.toNat x y (swapChannel c)) 0) := by
    intro c hc
    rw [getElem?_place room hx hy hc, placedByte_byteIndex hx hc, if_pos ⟨hx', hy'⟩]
  exact ⟨_, _, _, _, bytesAt_eq there, bytesAt_eq here⟩

theorem bytesAt_place_outside (room : target.byteCount ≤ dst.size) (hx : x < target.width.toNat)
    (hy : y < target.height.toNat) (out : ¬ (x < size.width.toNat ∧ y < size.height.toNat)) :
    bytesAt (place dst target picture size) target.width.toNat x y = [0, 0, 0, 0] :=
  bytesAt_eq (b := fun _ => 0) fun c hc => by
    rw [getElem?_place room hx hy hc, placedByte_byteIndex hx hc, if_neg out]

/-- A buffer that is long enough has room for all rows. -/
theorem rows_of_room (room : target.byteCount ≤ dst.size) :
    min target.height.toNat (dst.size / (target.width.toNat * 4)) * (target.width.toNat * 4) =
      target.byteCount := by
  rw [byteCount_rows] at room ⊢
  rcases Nat.eq_zero_or_pos (target.width.toNat * 4) with narrow | wide
  · rw [narrow, Nat.mul_zero, Nat.mul_zero]
  · rw [Nat.min_eq_left ((Nat.le_div_iff_mul_le wide).mpr room)]

/-- Bytes of the screen depend on the picture alone, and bytes after it on what was there. -/
theorem getElem?_place_of_room (room : target.byteCount ≤ dst.size) (i : ℕ) :
    (place dst target picture size)[i]? =
      if i < target.byteCount then some (placedByte picture size target i) else dst[i]? := by
  simp only [place, Array.getElem?_mapIdx, rows_of_room room]
  split
  · rename_i early
    rw [Array.getElem?_eq_getElem (Nat.lt_of_lt_of_le early room), Option.map_some]
  · rw [Option.map_id']

theorem extract_place (room : target.byteCount ≤ dst.size) (room' : target.byteCount ≤ dst'.size) :
    (place dst target picture size).extract 0 target.byteCount =
      (place dst' target picture size).extract 0 target.byteCount := by
  refine Array.ext_getElem? fun i => ?_
  simp only [Array.getElem?_extract, size_place, Nat.min_eq_left room, Nat.min_eq_left room',
    Nat.zero_add, Nat.sub_zero]
  split
  · rename_i early
    rw [getElem?_place_of_room room, getElem?_place_of_room room', if_pos early, if_pos early]
  · rfl

end Place

section Covered

variable {R : Resampler} {filter : Filter} {dst src filled : Array UInt8} {target source : Extent}
  {f : Float}

/-- A covering that succeeds is one for which nothing speaks against it. -/
theorem free_of_covered (done : coverBy R dst target src source filter = .ok (filled, f)) :
    refusal? dst target src source = none := by
  simp only [coverBy] at done
  split at done
  · cases done
  rename_i pixels
  split at done
  · cases done
  rename_i source_known
  split at done
  · cases done
  rename_i target_known
  exact refusal?_eq_none_iff.mpr ⟨Bool.eq_false_iff.mpr pixels,
    checkLength_ok_iff.mp source_known, checkLength_ok_iff.mp target_known⟩

theorem written_of_covered (done : coverBy R dst target src source filter = .ok (filled, f)) :
    Written R filter dst target src source filled f := by
  obtain ⟨some_pixels, long, room⟩ := refusal?_eq_none_iff.mp (free_of_covered done)
  have shown : coverBy R dst target src source filter = _ := coverBy_ok some_pixels long room
  obtain ⟨rfl, rfl⟩ : place dst target (pictureBy R filter src source target)
      (window source target) = filled ∧ factor source target = f := by
    rw [shown] at done
    simpa using done
  have full : (window source target).byteCount ≤ (pictureBy R filter src source target).size :=
    Nat.le_of_eq (size_pictureBy long).symm
  refine ⟨size_place, fun x y hx hy hx' hy' => ?inside, fun x y hx hy out => ?outside,
    fun i late => ?beyond, fun dst_word src_word => ?checked,
    fun dst' src' room' long' same => ?determined⟩
  case inside => exact bytesAt_place_inside room full hx hy hx' hy'
  case outside => exact bytesAt_place_outside room hx hy out
  case beyond => rw [getElem?_place_of_room room, if_neg (Nat.not_lt.mpr late)]
  case checked => exact Checked.run_cover_ok some_pixels (by omega) (by omega) long room
  case determined =>
    have alike : pictureBy R filter src' source target = pictureBy R filter src source target := by
      simp only [pictureBy, same]
    refine ⟨_, coverBy_ok some_pixels long' room', ?_⟩
    rw [alike]
    exact extract_place room' room

end Covered

/-- Repeats the first pixel, as every filter does with pictures of one pixel. -/
def Resampler.flood : Resampler where
  run _ picture _ win :=
    ((List.range win.byteCount).map fun i => picture.getD (i % 4) 0).toArray
  size_run _ _ _ _ := by rw [List.size_toArray, List.length_map, List.length_range]

/-- A pixel, and a byte too many, on a screen of two by three, in a buffer that is two bytes too
long. The factor is one half, and the window two by two. -/
theorem written_flood :
    let filled := #[3, 2, 1, 4, 3, 2, 1, 4, 3, 2, 1, 4, 3, 2, 1, 4, 0, 0, 0, 0, 0, 0, 0, 0, 205, 205]
    coverBy .flood (.replicate 26 205) ⟨2, 3⟩ #[1, 2, 3, 4, 9] ⟨1, 1⟩ .triangle =
        .ok (filled, factor ⟨1, 1⟩ ⟨2, 3⟩) ∧
      Written .flood .triangle (.replicate 26 205) ⟨2, 3⟩ #[1, 2, 3, 4, 9] ⟨1, 1⟩ filled
        (factor ⟨1, 1⟩ ⟨2, 3⟩) := by
  intro filled
  have done : coverBy .flood (.replicate 26 205) ⟨2, 3⟩ #[1, 2, 3, 4, 9] ⟨1, 1⟩ .triangle =
      .ok (filled, factor ⟨1, 1⟩ ⟨2, 3⟩) := rfl
  exact ⟨done, written_of_covered done⟩

end Cover
end Backdrop

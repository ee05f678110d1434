import Backdrop.Pixel.Cover

/-!
# Backdrop.Proofs.Pixel.Cover

What a screen shows after a picture was put onto it.

* `Cover.pictureBy` is the picture that is placed, the source itself or what it was resampled to,
  for any resampler. `Cover.picture` is the one of this library.
* `Cover.Shows pixels target picture size`: the pixels of a screen are those of the picture, and
  zero where the picture does not reach.
* `checkLength_ok`, `checkLength_short` and `checkLength_overflow` are the three ways in which the
  check of a length ends.
* `coverBy_ok` and `cover_shows`: with enough bytes on both sides, this is what covering a screen
  comes to.
-/

namespace Backdrop

/-! ## Rows and columns -/

/-- The number of a byte in rows of pixels of four bytes. -/
def byteIndex (width x y c : Nat) : Nat := (y * width + x) * 4 + c

section Index

variable {width height x y c : Nat}

theorem byteIndex_eq : byteIndex width x y c = y * (width * 4) + (x * 4 + c) := by
  unfold byteIndex
  rw [Nat.add_mul, Nat.mul_assoc, Nat.add_assoc]

theorem byteIndex_lt (hx : x < width) (hy : y < height) (hc : c < 4) :
    byteIndex width x y c < width * height * 4 := by
  have row : (y + 1) * (width * 4) ≤ height * (width * 4) := Nat.mul_le_mul_right _ hy
  have inner : x * 4 + c < width * 4 := by omega
  have whole : height * (width * 4) = width * height * 4 := by
    rw [← Nat.mul_assoc, Nat.mul_comm height]
  rw [Nat.succ_mul] at row
  rw [byteIndex_eq]
  omega

theorem byteIndex_div (hx : x < width) (hc : c < 4) :
    byteIndex width x y c / (width * 4) = y := by
  have inner : x * 4 + c < width * 4 := by omega
  rw [byteIndex_eq, Nat.mul_comm y, Nat.mul_add_div (by omega), Nat.div_eq_of_lt inner,
    Nat.add_zero]

theorem byteIndex_mod (hx : x < width) (hc : c < 4) :
    byteIndex width x y c % (width * 4) = x * 4 + c := by
  have inner : x * 4 + c < width * 4 := by omega
  rw [byteIndex_eq, Nat.mul_comm y, Nat.mul_add_mod, Nat.mod_eq_of_lt inner]

theorem byteIndex_mod_four (hc : c < 4) : byteIndex width x y c % 4 = c := by
  unfold byteIndex
  omega

end Index

namespace Cover

/-- The picture that is placed, for any resampler. -/
def pictureBy (R : Resampler) (filter : Filter) (src : Array UInt8) (source target : Extent) :
    Array UInt8 :=
  let first := src.extract 0 source.byteCount
  if window source target = source then first
  else R.run filter first source (window source target)

/-- The picture that is placed. -/
def picture (filter : Filter) (src : Array UInt8) (source target : Extent) : Array UInt8 :=
  pictureBy .separable filter src source target

/-- The pixels show the picture in their top left corner, and nothing beside it. Where the picture
has red, a screen has blue, and the other way round. -/
structure Shows (pixels : Array UInt8) (target : Extent) (picture : Array UInt8) (size : Extent) :
    Prop where
  size_eq : pixels.size = target.byteCount
  inside : ∀ x y c, x < target.width.toNat → y < target.height.toNat → c < 4 →
    x < size.width.toNat → y < size.height.toNat →
      ∃ byte, picture[byteIndex size.width.toNat x y (swapChannel c)]? = some byte ∧
        pixels[byteIndex target.width.toNat x y c]? = some byte
  outside : ∀ x y c, x < target.width.toNat → y < target.height.toNat → c < 4 →
    ¬ (x < size.width.toNat ∧ y < size.height.toNat) →
      pixels[byteIndex target.width.toNat x y c]? = some 0

theorem swapChannel_lt {c : Nat} (hc : c < 4) : swapChannel c < 4 := by
  unfold swapChannel
  split
  · omega
  · split <;> omega

section Place

variable {dst picture : Array UInt8} {target size : Extent} {x y c : Nat}

theorem placedByte_byteIndex (hx : x < target.width.toNat) (hc : c < 4) :
    placedByte picture size target (byteIndex target.width.toNat x y c) =
      if x < size.width.toNat ∧ y < size.height.toNat then
        picture.getD (byteIndex size.width.toNat x y (swapChannel c)) 0
      else 0 := by
  have column : (x * 4 + c) / 4 = x := by omega
  simp only [placedByte, byteIndex_mod hx hc, byteIndex_div hx hc, byteIndex_mod_four hc, column]
  rfl

theorem size_place : (place dst target picture size).size = dst.size := by
  simp [place]

/-- If the buffer is long enough, every pixel of the screen is placed. -/
theorem getElem?_place (long : target.byteCount ≤ dst.size) (hx : x < target.width.toNat)
    (hy : y < target.height.toNat) (hc : c < 4) :
    (place dst target picture size)[byteIndex target.width.toNat x y c]? =
      some (placedByte picture size target (byteIndex target.width.toNat x y c)) := by
  have within : byteIndex target.width.toNat x y c < target.byteCount := byteIndex_lt hx hy hc
  have whole : target.height.toNat * (target.width.toNat * 4) = target.byteCount := by
    unfold Extent.byteCount
    rw [← Nat.mul_assoc, Nat.mul_comm target.height.toNat]
  have rows : target.height.toNat ≤ dst.size / (target.width.toNat * 4) := by
    rw [Nat.le_div_iff_mul_le (by omega), whole]
    exact long
  have short : byteIndex target.width.toNat x y c < dst.size := Nat.lt_of_lt_of_le within long
  simp only [place, Array.getElem?_mapIdx, Nat.min_eq_left rows, whole]
  rw [Array.getElem?_eq_getElem short, Option.map_some, if_pos within]

theorem place_shows (long : dst.size = target.byteCount) (full : picture.size = size.byteCount) :
    Shows (place dst target picture size) target picture size := by
  refine ⟨size_place.trans long, ?_, ?_⟩
  · intro x y c hx hy hc hx' hy'
    have there : byteIndex size.width.toNat x y (swapChannel c) < picture.size := by
      rw [full]
      exact byteIndex_lt hx' hy' (swapChannel_lt hc)
    refine ⟨picture[byteIndex size.width.toNat x y (swapChannel c)],
      Array.getElem?_eq_getElem there, ?_⟩
    rw [getElem?_place (Nat.le_of_eq long.symm) hx hy hc, placedByte_byteIndex hx hc,
      if_pos ⟨hx', hy'⟩]
    simp [Array.getD, there]
  · intro x y c hx hy hc out
    rw [getElem?_place (Nat.le_of_eq long.symm) hx hy hc, placedByte_byteIndex hx hc, if_neg out]

end Place

/-! ## Lengths -/

section Lengths

variable {side : Side} {buffer : Array UInt8} {e : Extent}

theorem checkLength_ok (long : e.byteCount ≤ buffer.size) : checkLength side buffer e = .ok () :=
  if_pos long

theorem checkLength_short (fits : e.byteCount < UInt64.size) (short : buffer.size < e.byteCount) :
    checkLength side buffer e =
      .error (.refused (.lengthMismatch side e.byteCount buffer.size)) := by
  have length : e.byteLength? = some e.byteCount := Extent.byteLength?_eq_some_iff.mpr ⟨rfl, fits⟩
  rw [checkLength, if_neg (Nat.not_le.mpr short), length]

theorem checkLength_overflow (wide : UInt64.size ≤ e.byteCount)
    (short : buffer.size < e.byteCount) :
    checkLength side buffer e = .error (.crashed .overflow) := by
  rw [checkLength, if_neg (Nat.not_le.mpr short), Extent.byteLength?_eq_none_iff.mpr wide]

theorem checkLength_ok_iff : checkLength side buffer e = .ok () ↔ e.byteCount ≤ buffer.size := by
  refine ⟨fun checked => ?_, checkLength_ok⟩
  rw [← Nat.not_lt]
  intro short
  rw [checkLength, if_neg (Nat.not_le.mpr short)] at checked
  split at checked <;> cases checked

theorem side_of_checkLength {side' : Side} {expected actual : Nat}
    (checked : checkLength side buffer e =
      .error (.refused (.lengthMismatch side' expected actual))) : side' = side := by
  unfold checkLength at checked
  split at checked
  · cases checked
  · split at checked
    · cases checked
      rfl
    · cases checked

end Lengths

/-! ## The whole screen -/

section Screen

variable {R : Resampler} {filter : Filter} {dst src : Array UInt8} {target source : Extent}

theorem size_pictureBy (long : source.byteCount ≤ src.size) :
    (pictureBy R filter src source target).size = (window source target).byteCount := by
  simp only [pictureBy]
  split
  · rename_i same
    rw [same, Array.size_extract]
    omega
  · exact R.size_run _ _ _ _

theorem coverBy_ok (some_pixels : (source.isEmpty || target.isEmpty) = false)
    (long : source.byteCount ≤ src.size) (room : target.byteCount ≤ dst.size) :
    coverBy R dst target src source filter =
      .ok (place dst target (pictureBy R filter src source target) (window source target),
        factor source target) := by
  have enough : ¬ (src.extract 0 source.byteCount).size < source.byteCount := by
    rw [Array.size_extract]
    omega
  simp only [coverBy, some_pixels, Bool.false_eq_true, if_false, checkLength_ok long,
    checkLength_ok room, if_neg enough, pictureBy]
  split
  · rename_i same
    rw [same]
  · rfl

/-- With enough bytes on both sides, the screen shows the picture. -/
theorem cover_shows (filter : Filter) (some_source : source.isEmpty = false)
    (some_target : target.isEmpty = false) (long : source.byteCount ≤ src.size)
    (fits : dst.size = target.byteCount) :
    ∃ pixels, cover dst target src source filter = .ok (pixels, factor source target) ∧
      Shows pixels target (picture filter src source target) (window source target) := by
  have some_pixels : (source.isEmpty || target.isEmpty) = false := by
    rw [some_source, some_target, Bool.or_self]
  exact ⟨_, coverBy_ok some_pixels long (Nat.le_of_eq fits.symm),
    place_shows fits (size_pictureBy long)⟩

end Screen
end Cover
end Backdrop

import Mathlib.Data.Rat.Floor
import Backdrop.Pixel.Cover

/-!
# Backdrop.Proofs.Pixel.Window

The window is exact: machine words compute what the rational numbers say.

* `Cover.ratio` is the factor as a rational number, and `Cover.Inside` says that the sample of a
  target pixel lies inside the source.
* `Cover.Lossless a b c limit`: the side `a * b / c`, rounded up, is neither wrapped, clamped nor
  cut off.
* `window_exact`: for all extents that are not empty, the sides of the window are those of the
  source divided by the factor and rounded up, and the window holds just the pixels whose samples
  lie inside.
-/

namespace Backdrop
namespace Cover

/-- The exact factor: the larger of the two ratios from source to target. -/
def ratio (source target : Extent) : ℚ :=
  max ((source.width.toNat : ℚ) / target.width.toNat)
    ((source.height.toNat : ℚ) / target.height.toNat)

/-- The sample of the target pixel (x, y) lies strictly inside the source. -/
def Inside (source target : Extent) (x y : ℕ) : Prop :=
  (x : ℚ) * ratio source target < source.width.toNat ∧
    (y : ℚ) * ratio source target < source.height.toNat

/-- The side of the window that is rounded up, before it is clamped. -/
def roundedSide (a b c : UInt32) : UInt64 := divCeil (a.toUInt64 * b.toUInt64) c.toUInt64

/-- The side `a * b / c`, rounded up, gets through the machine arithmetic as it is. -/
structure Lossless (a b c limit : UInt32) : Prop where
  quotient : (roundedSide a b c).toNat = ⌈(a.toNat * b.toNat : ℚ) / c.toNat⌉₊
  clamped : clampWord (roundedSide a b c) 1 limit.toUInt64 = roundedSide a b c
  narrowed : (roundedSide a b c).toUInt32.toNat = (roundedSide a b c).toNat

/-- Both sides of the window are those of the source, divided by the factor and rounded up. -/
structure ExactSides (source target : Extent) : Prop where
  width_eq : (window source target).width.toNat =
    ⌈(source.width.toNat : ℚ) / ratio source target⌉₊
  height_eq : (window source target).height.toNat =
    ⌈(source.height.toNat : ℚ) / ratio source target⌉₊

/-- The window is the exact one, and nothing is lost on the way to it. -/
structure ExactWindow (source target : Extent) : Prop extends ExactSides source target where
  pixel : ∀ x y : ℕ,
    (x < (window source target).width.toNat ∧ y < (window source target).height.toNat) ↔
      Inside source target x y
  width_mem : 1 ≤ (window source target).width.toNat ∧
    (window source target).width.toNat ≤ target.width.toNat
  height_mem : 1 ≤ (window source target).height.toNat ∧
    (window source target).height.toNat ≤ target.height.toNat
  spans : (window source target).width = target.width ∨
    (window source target).height = target.height
  products :
    (source.width.toUInt64 * target.height.toUInt64).toNat =
      source.width.toNat * target.height.toNat ∧
    (source.height.toUInt64 * target.width.toUInt64).toNat =
      source.height.toNat * target.width.toNat
  wider : source.height.toUInt64 * target.width.toUInt64 ≤
      source.width.toUInt64 * target.height.toUInt64 →
    Lossless source.height target.width source.width target.height
  taller : source.width.toUInt64 * target.height.toUInt64 <
      source.height.toUInt64 * target.width.toUInt64 →
    Lossless source.width target.height source.height target.width

/-! ## Division rounded up -/

theorem lt_ceil_div_iff {s f : ℚ} (hf : 0 < f) {x : ℕ} : x < ⌈s / f⌉₊ ↔ x * f < s := by
  rw [Nat.lt_ceil, lt_div_iff₀ hf]

theorem lt_ceil_natCast_div_iff {a b x : ℕ} (hb : 0 < b) : x < ⌈(a : ℚ) / b⌉₊ ↔ x * b < a := by
  have positive : (0 : ℚ) < b := by exact_mod_cast hb
  rw [lt_ceil_div_iff positive]
  exact_mod_cast Iff.rfl

theorem ceil_div_le_iff {a b n : ℕ} (hb : 0 < b) : ⌈(a : ℚ) / b⌉₊ ≤ n ↔ a ≤ n * b := by
  rw [← not_lt, lt_ceil_natCast_div_iff hb, not_lt]

theorem ceil_div_eq {a b : ℕ} (hb : 0 < b) :
    ⌈(a : ℚ) / b⌉₊ = if 0 < a % b then a / b + 1 else a / b := by
  have whole : b * (a / b) + a % b = a := Nat.div_add_mod a b
  have rest : a % b < b := Nat.mod_lt a hb
  refine eq_of_forall_lt_iff fun x => ?_
  rw [lt_ceil_natCast_div_iff hb]
  split
  · rename_i some_rest
    rw [Nat.lt_succ_iff, Nat.le_div_iff_mul_le hb]
    constructor
    · exact Nat.le_of_lt
    · intro le
      refine Nat.lt_of_le_of_ne le fun same => ?_
      rw [← same, Nat.mul_mod_left] at some_rest
      exact Nat.lt_irrefl 0 some_rest
  · rename_i no_rest
    have exact_quotient : a = a / b * b := by
      rw [Nat.mul_comm]
      omega
    rw [exact_quotient, Nat.mul_div_cancel _ hb]
    exact Nat.mul_lt_mul_right hb

/-- The quotient cannot wrap around: with a remainder the divisor is at least two. -/
theorem toNat_divCeil {a b : UInt64} (hb : 0 < b.toNat) :
    (divCeil a b).toNat = ⌈(a.toNat : ℚ) / b.toNat⌉₊ := by
  have positive_iff : a % b > 0 ↔ 0 < a.toNat % b.toNat := by
    rw [gt_iff_lt, UInt64.lt_iff_toNat_lt, UInt64.toNat_mod]
    rfl
  rw [ceil_div_eq hb, divCeil]
  simp only [positive_iff]
  split
  · rename_i some_rest
    have rest : a.toNat % b.toNat < b.toNat := Nat.mod_lt _ hb
    have small : a.toNat / b.toNat ≤ a.toNat / 2 := Nat.div_le_div_left (by omega) (by omega)
    have word : a.toNat < 2 ^ 64 := a.toNat_lt
    rw [UInt64.toNat_add, UInt64.toNat_div, UInt64.toNat_one]
    exact Nat.mod_eq_of_lt (by omega)
  · exact UInt64.toNat_div a b

/-! ## One side in machine words -/

theorem toNat_product (a b : UInt32) :
    (a.toUInt64 * b.toUInt64).toNat = a.toNat * b.toNat := by
  have small : a.toNat * b.toNat < 2 ^ 32 * 2 ^ 32 := Nat.mul_lt_mul'' a.toNat_lt b.toNat_lt
  rw [UInt64.toNat_mul, UInt32.toNat_toUInt64, UInt32.toNat_toUInt64]
  exact Nat.mod_eq_of_lt small

section Side

variable {a b c limit : UInt32}

theorem toNat_roundedSide (hc : 0 < c.toNat) :
    (roundedSide a b c).toNat = ⌈((a.toNat * b.toNat : ℕ) : ℚ) / c.toNat⌉₊ := by
  have divisor : 0 < c.toUInt64.toNat := by
    rw [UInt32.toNat_toUInt64]
    exact hc
  rw [roundedSide, toNat_divCeil divisor, toNat_product, UInt32.toNat_toUInt64]

theorem clampWord_eq {x low high : UInt64} (hl : low.toNat ≤ x.toNat) (hh : x.toNat ≤ high.toNat) :
    clampWord x low high = x := by
  rw [clampWord, if_neg, if_neg]
  · rw [UInt64.lt_iff_toNat_lt]
    omega
  · rw [UInt64.lt_iff_toNat_lt]
    omega

theorem roundedSide_pos (ha : 0 < a.toNat) (hb : 0 < b.toNat) (hc : 0 < c.toNat) :
    1 ≤ (roundedSide a b c).toNat := by
  rw [toNat_roundedSide hc, Nat.one_le_iff_ne_zero, ← Nat.pos_iff_ne_zero,
    lt_ceil_natCast_div_iff hc, Nat.zero_mul]
  exact Nat.mul_pos ha hb

theorem roundedSide_le (hc : 0 < c.toNat) (cross : a.toNat * b.toNat ≤ c.toNat * limit.toNat) :
    (roundedSide a b c).toNat ≤ limit.toNat := by
  rw [toNat_roundedSide hc, ceil_div_le_iff hc, Nat.mul_comm limit.toNat]
  exact cross

/-- The side with the smaller ratio is between one and the target's, so the clamp finds nothing to
do and the result has room in 32 bits. -/
theorem lossless (ha : 0 < a.toNat) (hb : 0 < b.toNat) (hc : 0 < c.toNat)
    (cross : a.toNat * b.toNat ≤ c.toNat * limit.toNat) : Lossless a b c limit where
  quotient := by
    rw [toNat_roundedSide hc, Nat.cast_mul]
  clamped := by
    apply clampWord_eq
    · exact roundedSide_pos ha hb hc
    · rw [UInt32.toNat_toUInt64]
      exact roundedSide_le hc cross
  narrowed := by
    have room : (roundedSide a b c).toNat < 2 ^ 32 :=
      Nat.lt_of_le_of_lt (roundedSide_le hc cross) limit.toNat_lt
    rw [UInt64.toNat_toUInt32]
    exact Nat.mod_eq_of_lt room

/-- What a window has on the side that is rounded up. -/
theorem Lossless.toNat_eq (side : Lossless a b c limit) :
    (clampWord (roundedSide a b c) 1 limit.toUInt64).toUInt32.toNat =
      ⌈(a.toNat * b.toNat : ℚ) / c.toNat⌉₊ := by
  rw [side.clamped, side.narrowed, side.quotient]

end Side

/-! ## The factor -/

section Factor

variable {sw sh dw dh : ℕ}

/-- Ratios compare as their cross products do. -/
theorem div_le_div_iff_cross (hdw : 0 < dw) (hdh : 0 < dh) :
    (sh : ℚ) / dh ≤ (sw : ℚ) / dw ↔ sh * dw ≤ sw * dh := by
  have wide : (0 : ℚ) < dw := by exact_mod_cast hdw
  have high : (0 : ℚ) < dh := by exact_mod_cast hdh
  rw [div_le_div_iff₀ high wide]
  exact_mod_cast Iff.rfl

theorem div_div_self (hsw : 0 < sw) : (sw : ℚ) / ((sw : ℚ) / dw) = dw := by
  have nonzero : (sw : ℚ) ≠ 0 := by exact_mod_cast hsw.ne'
  rw [div_div_eq_mul_div, mul_div_cancel_left₀ _ nonzero]

/-- A side divided by a factor that is at least the ratio of its axis. -/
theorem ceil_div_mem {s d : ℕ} {f : ℚ} (hs : 0 < s) (hd : 0 < d) (hf : (s : ℚ) / d ≤ f) :
    1 ≤ ⌈(s : ℚ) / f⌉₊ ∧ ⌈(s : ℚ) / f⌉₊ ≤ d := by
  have side : (0 : ℚ) < s := by exact_mod_cast hs
  have span : (0 : ℚ) < d := by exact_mod_cast hd
  have positive : 0 < f := lt_of_lt_of_le (div_pos side span) hf
  constructor
  · rw [Nat.one_le_ceil_iff]
    exact div_pos side positive
  · rw [Nat.ceil_le, div_le_comm₀ positive span]
    exact hf

end Factor

section Window

variable {source target : Extent}

theorem ratio_pos (hw : 0 < source.width.toNat) (tw : 0 < target.width.toNat) :
    0 < ratio source target := by
  have side : (0 : ℚ) < source.width.toNat := by exact_mod_cast hw
  have span : (0 : ℚ) < target.width.toNat := by exact_mod_cast tw
  exact lt_max_of_lt_left (div_pos side span)

theorem window_eq (source target : Extent) : window source target =
    if source.height.toUInt64 * target.width.toUInt64 ≤
        source.width.toUInt64 * target.height.toUInt64 then
      ⟨target.width, (clampWord (roundedSide source.height target.width source.width) 1
        target.height.toUInt64).toUInt32⟩
    else
      ⟨(clampWord (roundedSide source.width target.height source.height) 1
        target.width.toUInt64).toUInt32, target.height⟩ := rfl

theorem products_le_iff :
    source.height.toUInt64 * target.width.toUInt64 ≤
        source.width.toUInt64 * target.height.toUInt64 ↔
      source.height.toNat * target.width.toNat ≤ source.width.toNat * target.height.toNat := by
  rw [UInt64.le_iff_toNat_le, toNat_product, toNat_product]

/-- The width has the larger ratio: it spans the target, and the height is rounded up. -/
theorem window_of_le (hw : 0 < source.width.toNat) (hh : 0 < source.height.toNat)
    (tw : 0 < target.width.toNat) (th : 0 < target.height.toNat)
    (cross : source.height.toNat * target.width.toNat ≤
      source.width.toNat * target.height.toNat) :
    (window source target).width = target.width ∧ ExactSides source target := by
  have factor : ratio source target = source.width.toNat / target.width.toNat :=
    max_eq_left ((div_le_div_iff_cross tw th).mpr cross)
  have shape := window_eq source target
  rw [if_pos (products_le_iff.mpr cross)] at shape
  refine ⟨by rw [shape], ?_, ?_⟩
  · rw [shape, factor, div_div_self hw, Nat.ceil_natCast]
  · rw [shape, factor, div_div_eq_mul_div]
    exact (lossless hh tw hw cross).toNat_eq

/-- The height has the larger ratio: it spans the target, and the width is rounded up. -/
theorem window_of_lt (hw : 0 < source.width.toNat) (hh : 0 < source.height.toNat)
    (tw : 0 < target.width.toNat) (th : 0 < target.height.toNat)
    (cross : source.width.toNat * target.height.toNat <
      source.height.toNat * target.width.toNat) :
    (window source target).height = target.height ∧ ExactSides source target := by
  have factor : ratio source target = source.height.toNat / target.height.toNat :=
    max_eq_right ((div_le_div_iff_cross th tw).mpr cross.le)
  have taller := mt products_le_iff.mp (not_le.mpr cross)
  have shape := window_eq source target
  rw [if_neg taller] at shape
  refine ⟨by rw [shape], ?_, ?_⟩
  · rw [shape, factor, div_div_eq_mul_div]
    exact (lossless hw th hh cross.le).toNat_eq
  · rw [shape, factor, div_div_self hh, Nat.ceil_natCast]

theorem side_pos {n : UInt32} (h : n ≠ 0) : 0 < n.toNat :=
  Nat.pos_of_ne_zero fun zero => h (UInt32.toNat_inj.mp zero)

/-- The window of extents that are not empty is exact. -/
theorem window_exact (some_source : source.isEmpty = false) (some_target : target.isEmpty = false) :
    ExactWindow source target := by
  obtain ⟨wide, high⟩ := Extent.isEmpty_eq_false_iff.mp some_source
  obtain ⟨across, down⟩ := Extent.isEmpty_eq_false_iff.mp some_target
  replace wide := side_pos wide
  replace high := side_pos high
  replace across := side_pos across
  replace down := side_pos down
  obtain ⟨spans, sides⟩ : ((window source target).width = target.width ∨
      (window source target).height = target.height) ∧ ExactSides source target := by
    rcases Nat.lt_or_ge (source.width.toNat * target.height.toNat)
      (source.height.toNat * target.width.toNat) with cross | cross
    · obtain ⟨span, sides⟩ := window_of_lt wide high across down cross
      exact ⟨.inr span, sides⟩
    · obtain ⟨span, sides⟩ := window_of_le wide high across down cross
      exact ⟨.inl span, sides⟩
  have positive : 0 < ratio source target := ratio_pos wide across
  refine ⟨sides, ?pixel, ?width_mem, ?height_mem, spans,
    ⟨toNat_product _ _, toNat_product _ _⟩, ?wider, ?taller⟩
  case pixel =>
    intro x y
    rw [sides.width_eq, sides.height_eq, lt_ceil_div_iff positive, lt_ceil_div_iff positive]
    rfl
  case width_mem =>
    rw [sides.width_eq]
    exact ceil_div_mem wide across (le_max_left _ _)
  case height_mem =>
    rw [sides.height_eq]
    exact ceil_div_mem high down (le_max_right _ _)
  case wider =>
    intro le
    exact lossless high across wide (products_le_iff.mp le)
  case taller =>
    intro lt
    rw [UInt64.lt_iff_toNat_lt, toNat_product, toNat_product] at lt
    exact lossless wide down high lt.le

/-- Both sides at their largest on one axis and at their smallest on the other. -/
theorem window_exact_extremes :
    (⟨1, 4294967295⟩ : Extent).isEmpty = false ∧ (⟨4294967295, 1⟩ : Extent).isEmpty = false ∧
      ExactWindow ⟨1, 4294967295⟩ ⟨4294967295, 1⟩ ∧
      window ⟨1, 4294967295⟩ ⟨4294967295, 1⟩ = ⟨1, 1⟩ ∧
      window ⟨4294967295, 4294967294⟩ ⟨4294967295, 4294967295⟩ = ⟨4294967295, 4294967294⟩ :=
  ⟨by decide, by decide, window_exact (by decide) (by decide), by decide, by decide⟩

end Window
end Cover
end Backdrop

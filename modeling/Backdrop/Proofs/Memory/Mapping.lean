import Backdrop.Proofs.Pixel.Checked
import Backdrop.Wall.Request

/-!
# Backdrop.Proofs.Memory.Mapping

A file from a client is mapped if, and only if, it can hold the picture.

* `Extent.checkedLength` and `Source.weigh` work in machine words, with every product checked.
  `Source.required_eq_weigh` says that they come to what the exact numbers say.
* `Admission content e` has, for a file and a size, what comes of mapping it, and what comes of a
  request to draw it.
* `admission`: it holds of every file and of every size that a header can have.
-/

namespace Backdrop

open Wall (Display Stage)

/-! ## Lengths in machine words -/

/-- A product of words, unless it overflows. -/
def timesChecked (a b : UInt64) : Option UInt64 :=
  if a.toNat * b.toNat < UInt64.size then some (a * b) else none

/-- The length of a picture, as a word. -/
def Extent.checkedLength (e : Extent) : Except MemoryError UInt64 :=
  match (timesChecked e.width.toUInt64 e.height.toUInt64).bind (timesChecked · 4) with
  | some n => .ok n
  | none => .error (.sizeOverflow e)

/-- The length of a picture in a file of `held` bytes, as a word. -/
def Source.weigh (held : UInt64) (e : Extent) : Except MemoryError UInt64 :=
  match e.checkedLength with
  | .error err => .error err
  | .ok n =>
    if n = 0 then .error .zeroSize
    else if held < n then .error (.tooSmall n.toNat held.toNat)
    else .ok n

section Words

variable {a b : UInt64} {e : Extent}

theorem timesChecked_of_fits (fits : a.toNat * b.toNat < UInt64.size) :
    timesChecked a b = some (a * b) := if_pos fits

theorem timesChecked_of_overflow (wide : UInt64.size ≤ a.toNat * b.toNat) :
    timesChecked a b = none := if_neg (Nat.not_lt.mpr wide)

/-- The number of pixels always fits; it is the number of bytes that may not. -/
theorem Extent.checkedLength_eq (e : Extent) :
    e.checkedLength =
      (timesChecked (e.width.toUInt64 * e.height.toUInt64) 4).elim
        (.error (.sizeOverflow e)) .ok := by
  rw [Extent.checkedLength, timesChecked_of_fits (Cover.Checked.product_fits _ _), Option.bind_some]
  cases timesChecked (e.width.toUInt64 * e.height.toUInt64) 4 <;> rfl

theorem Extent.checkedLength_of_fits (fits : e.byteCount < UInt64.size) :
    e.checkedLength = .ok e.byteCount.toUInt64 := by
  rw [Extent.checkedLength_eq, timesChecked_of_fits]
  · rw [Cover.Checked.product_eq fits]
    rfl
  · rw [Cover.Checked.toNat_pixels]
    exact fits

theorem Extent.checkedLength_of_overflow (wide : UInt64.size ≤ e.byteCount) :
    e.checkedLength = .error (.sizeOverflow e) := by
  rw [Extent.checkedLength_eq, timesChecked_of_overflow]
  · rfl
  · rw [Cover.Checked.toNat_pixels]
    exact wide

end Words

/-! ## What a file must hold -/

namespace Source

section Required

variable {available : Nat} {content : Array UInt8} {e : Extent}

theorem required_overflow (wide : UInt64.size ≤ e.byteCount) :
    required available e = .error (.sizeOverflow e) := by
  have none : e.byteLength? = none := Extent.byteLength?_eq_none_iff.mpr wide
  simp only [required, Extent.length, none]

theorem length_of_fits (fits : e.byteCount < UInt64.size) : e.length = .ok e.byteCount :=
  Extent.length_eq_ok_iff.mpr ⟨rfl, fits⟩

theorem required_empty (empty : e.byteCount = 0) : required available e = .error .zeroSize := by
  have fits : e.byteCount < UInt64.size := by
    rw [empty]
    decide
  simp only [required, length_of_fits fits, empty, if_true]

theorem required_short (pos : 0 < e.byteCount) (fits : e.byteCount < UInt64.size)
    (short : available < e.byteCount) :
    required available e = .error (.tooSmall e.byteCount available) := by
  have some : e.byteCount ≠ 0 := Nat.ne_of_gt pos
  simp only [required, length_of_fits fits, if_neg some, if_pos short]

theorem required_held (pos : 0 < e.byteCount) (fits : e.byteCount < UInt64.size)
    (held : e.byteCount ≤ available) : required available e = .ok e.byteCount :=
  required_eq_ok_iff.mpr ⟨rfl, fits, pos, held⟩

theorem required_eq_weigh (held : UInt64) (e : Extent) :
    required held.toNat e = (weigh held e).map UInt64.toNat := by
  rcases Nat.lt_or_ge e.byteCount UInt64.size with fits | wide
  · have exact := Cover.Checked.toNat_byteCount fits
    have empty : e.byteCount.toUInt64 = 0 ↔ e.byteCount = 0 := by
      rw [← UInt64.toNat_inj, exact]
      rfl
    have short : held < e.byteCount.toUInt64 ↔ held.toNat < e.byteCount := by
      rw [UInt64.lt_iff_toNat_lt, exact]
    simp only [required, weigh, length_of_fits fits, Extent.checkedLength_of_fits fits, empty,
      short, exact]
    split
    · rfl
    · split
      · rfl
      · rw [Except.map, exact]
  · simp only [required_overflow wide, weigh, Extent.checkedLength_of_overflow wide]
    rfl

/-- What may come of mapping a file, and when. -/
inductive Outcome (content : Array UInt8) (e : Extent) : Except MemoryError Source → Prop where
  | overflow : UInt64.size ≤ e.byteCount → Outcome content e (.error (.sizeOverflow e))
  | empty : e.byteCount = 0 → Outcome content e (.error .zeroSize)
  | short : 0 < e.byteCount → e.byteCount < UInt64.size → content.size < e.byteCount →
      Outcome content e (.error (.tooSmall e.byteCount content.size))
  | held : 0 < e.byteCount → e.byteCount < UInt64.size → e.byteCount ≤ content.size →
      Outcome content e (.ok ⟨e, content.extract 0 e.byteCount⟩)

/-- Of these, the one whose condition holds. -/
theorem map_outcome (content : Array UInt8) (e : Extent) : Outcome content e (map content e) := by
  unfold map
  rcases Nat.lt_or_ge e.byteCount UInt64.size with fits | wide
  · rcases Nat.eq_zero_or_pos e.byteCount with empty | pos
    · rw [required_empty empty]
      exact .empty empty
    · rcases Nat.lt_or_ge content.size e.byteCount with short | held
      · rw [required_short pos fits short]
        exact .short pos fits short
      · rw [required_held pos fits held]
        exact .held pos fits held
  · rw [required_overflow wide]
    exact .overflow wide

theorem map_eq_sizeOverflow_iff {e' : Extent} :
    map content e = .error (.sizeOverflow e') ↔ e' = e ∧ UInt64.size ≤ e.byteCount := by
  constructor
  · intro h
    have outcome := map_outcome content e
    rw [h] at outcome
    cases outcome with
    | overflow wide => exact ⟨rfl, wide⟩
  · rintro ⟨rfl, wide⟩
    rw [map, required_overflow wide]

theorem map_eq_zeroSize_iff : map content e = .error .zeroSize ↔ e.byteCount = 0 := by
  constructor
  · intro h
    have outcome := map_outcome content e
    rw [h] at outcome
    cases outcome with
    | empty empty => exact empty
  · intro empty
    rw [map, required_empty empty]

theorem map_eq_tooSmall_iff {expected actual : Nat} :
    map content e = .error (.tooSmall expected actual) ↔
      (0 < e.byteCount ∧ e.byteCount < UInt64.size ∧ content.size < e.byteCount) ∧
        expected = e.byteCount ∧ actual = content.size := by
  constructor
  · intro h
    have outcome := map_outcome content e
    rw [h] at outcome
    cases outcome with
    | short pos fits short => exact ⟨⟨pos, fits, short⟩, rfl, rfl⟩
  · rintro ⟨⟨pos, fits, short⟩, rfl, rfl⟩
    rw [map, required_short pos fits short]

theorem map_eq_ok_iff {source : Source} :
    map content e = .ok source ↔
      (0 < e.byteCount ∧ e.byteCount < UInt64.size ∧ e.byteCount ≤ content.size) ∧
        source = ⟨e, content.extract 0 e.byteCount⟩ := by
  constructor
  · intro h
    have outcome := map_outcome content e
    rw [h] at outcome
    cases outcome with
    | held pos fits held => exact ⟨⟨pos, fits, held⟩, rfl⟩
  · rintro ⟨⟨pos, fits, held⟩, rfl⟩
    rw [map, required_held pos fits held]

end Required
end Source

/-! ## Requests to draw -/

/-- A file of so many bytes can hold a picture of this size. -/
def Extent.FitsIn (e : Extent) (held : Nat) : Prop :=
  0 < e.byteCount ∧ e.byteCount < 2 ^ 64 ∧ e.byteCount ≤ held

/-- What comes of a file that should hold a picture, and of a request to draw it. -/
structure Admission (content : Array UInt8) (e : Extent) : Prop where
  overflow : ∀ e', Source.map content e = .error (.sizeOverflow e') ↔
    e' = e ∧ 2 ^ 64 ≤ e.width.toNat * e.height.toNat * 4
  empty : Source.map content e = .error .zeroSize ↔ e.width.toNat * e.height.toNat = 0
  short : ∀ expected actual, Source.map content e = .error (.tooSmall expected actual) ↔
    (0 < e.byteCount ∧ e.byteCount < 2 ^ 64 ∧ content.size < e.byteCount) ∧
      expected = e.byteCount ∧ actual = content.size
  mapped : ∀ source, Source.map content e = .ok source ↔
    e.FitsIn content.size ∧ source.extent = e ∧
      source.pixels.toList = content.toList.take e.byteCount
  /-- Machine words come to the same. -/
  words : ∀ held : UInt64, held.toNat = content.size →
    Source.required content.size e = (Source.weigh held e).map UInt64.toNat
  refused : ∀ cause, Source.map content e = .error cause →
    ∀ (d : Display) target filter (s : Stage),
      s.handle d ⟨target, .draw e ⟨content⟩⟩ filter = (.error (.region cause), s)
  /-- Nothing is changed, called for or noted unless the file can hold the picture. -/
  touched : ∀ (d : Display) target filter (s : Stage),
    (s.handle d ⟨target, .draw e ⟨content⟩⟩ filter).2 ≠ s → e.FitsIn content.size
  /-- The size is the one in the header. -/
  headed : ∀ (h : Wire.Header) name request, h.extent = e →
    Wire.Request.assemble h name (some ⟨content⟩) = .ok request →
      request.action = .clear ∨ request.action = .draw e ⟨content⟩
  /-- What is drawn is what was mapped. -/
  drawn : ∀ source, Source.map content e = .ok source →
    ∀ (d : Display) target filter (s : Stage),
      s.handle d ⟨target, .draw e ⟨content⟩⟩ filter =
        (.ok (s.apply d target (.image source.pixels source.extent) filter).1,
          (s.apply d target (.image source.pixels source.extent) filter).2)
  /-- It is as long as its size asks for, and scaling never finds it too short. -/
  long : ∀ source, Source.map content e = .ok source →
    source.pixels.size = source.extent.byteCount ∧
      ∀ dst target filter side expected actual,
        Cover.cover dst target source.pixels source.extent filter =
          .error (.refused (.lengthMismatch side expected actual)) → side = .destination

section Requests

variable {content : Array UInt8} {e : Extent}

theorem action_of_assemble {h : Wire.Header} {name : List UInt8} {region : Descriptor}
    {request : Wire.Request}
    (assembled : Wire.Request.assemble h name (some region) = .ok request) :
    request.action = .clear ∨ request.action = .draw h.extent region := by
  unfold Wire.Request.assemble at assembled
  split at assembled
  · cases assembled
  split at assembled
  · cases assembled
  simp only [Wire.Request.actionOf] at assembled
  cases clear : h.isClear with
  | true =>
    simp only [clear, if_true] at assembled
    cases assembled
    exact .inl rfl
  | false =>
    simp only [clear, Bool.false_eq_true, if_false] at assembled
    cases assembled
    exact .inr rfl

theorem handle_refused {cause : MemoryError} (refused : Source.map content e = .error cause)
    (d : Display) (target : Option String) (filter : Filter) (s : Stage) :
    s.handle d ⟨target, .draw e ⟨content⟩⟩ filter = (.error (.region cause), s) := by
  simp only [Stage.handle, Wall.Content.ofAction, refused]

theorem handle_drawn {source : Source} (mapped : Source.map content e = .ok source)
    (d : Display) (target : Option String) (filter : Filter) (s : Stage) :
    s.handle d ⟨target, .draw e ⟨content⟩⟩ filter =
      (.ok (s.apply d target (.image source.pixels source.extent) filter).1,
        (s.apply d target (.image source.pixels source.extent) filter).2) := by
  simp only [Stage.handle, Wall.Content.ofAction, mapped]

/-- Of a picture with all its bytes and a screen, it is the screen that is too short. -/
theorem side_of_mismatch {src dst : Array UInt8} {source target : Extent} {filter : Filter}
    {side : Cover.Side} {expected actual : Nat} (full : src.size = source.byteCount)
    (mismatch : Cover.cover dst target src source filter =
      .error (.refused (.lengthMismatch side expected actual))) : side = .destination := by
  have long : source.byteCount ≤ src.size := Nat.le_of_eq full.symm
  have whole : ¬ (src.extract 0 source.byteCount).size < source.byteCount := by
    rw [Array.size_extract]
    omega
  unfold Cover.cover Cover.coverBy at mismatch
  split at mismatch
  · cases mismatch
  simp only [Cover.checkLength_ok long] at mismatch
  cases checked : Cover.checkLength .destination dst target with
  | error stop =>
    simp only [checked] at mismatch
    cases mismatch
    exact Cover.side_of_checkLength checked
  | ok _ =>
    simp only [checked, if_neg whole] at mismatch
    split at mismatch <;> cases mismatch

end Requests

theorem admission (content : Array UInt8) (e : Extent) : Admission content e where
  overflow _ := Source.map_eq_sizeOverflow_iff
  empty := by
    rw [Source.map_eq_zeroSize_iff, Extent.byteCount]
    omega
  short _ _ := Source.map_eq_tooSmall_iff
  mapped source := by
    obtain ⟨extent, pixels⟩ := source
    rw [Source.map_eq_ok_iff]
    refine and_congr_right fun _ => ?_
    rw [Source.mk.injEq, ← Array.toList_inj, Array.toList_extract, List.extract_eq_take_drop]
    rfl
  words held same := by
    rw [← same]
    exact Source.required_eq_weigh held e
  refused _ refused d target filter s := handle_refused refused d target filter s
  touched d target filter s changed := by
    cases outcome : Source.map content e with
    | error cause =>
      rw [handle_refused outcome d target filter s] at changed
      exact absurd rfl changed
    | ok source => exact (Source.map_eq_ok_iff.mp outcome).1
  headed _ _ _ same assembled := by
    rw [← same]
    exact action_of_assemble assembled
  drawn _ mapped d target filter s := handle_drawn mapped d target filter s
  long source mapped := by
    obtain ⟨⟨_, _, held⟩, rfl⟩ := Source.map_eq_ok_iff.mp mapped
    have full : (content.extract 0 e.byteCount).size = e.byteCount := by
      rw [Array.size_extract]
      omega
    exact ⟨full, fun _ _ _ _ _ _ mismatch => side_of_mismatch full mismatch⟩

end Backdrop

import Backdrop.Memory.Sealed
import Backdrop.Proofs.Memory.Mapping

/-!
# Backdrop.Proofs.Memory.Steady

A sealed region keeps its length, and everybody who looks at it sees the same bytes.

* `Step` is what the owner of a region and those who hold its file can do, in any order; `act` does
  one step and `run` any number of them.
* `painted n steps` are the bytes that there should be: zeros, overwritten one after another by the
  writes that lie within the region.
* `Shows content r` is the invariant. `Shows.act` keeps it with every step, `Shows.run` with all.
* `Steady n content r` says what each step does to a region of `n` bytes that shows `content`, and
  `steady_run` that regions are steady after any steps.
-/

namespace Backdrop
namespace Sealed

/-- What can be done with a region, and with the file behind it. -/
inductive Step where
  | write (at_ : Nat) (bytes : Array UInt8)
  | read
  | readFile
  | truncate (length : Nat)
  | addSeals (seals : Seals)
  | map (extent : Extent)
  deriving Repr, DecidableEq, Inhabited

inductive Answer where
  | done
  | outOfRange
  | refused (cause : Errno)
  | bytes (content : Array UInt8)
  | mapped (outcome : Except MemoryError Source)
  deriving Repr, DecidableEq, Inhabited

/-- Does one step. What fails leaves the region as it was. -/
def act (r : Sealed) : Step → Answer × Sealed
  | .write at_ bytes =>
    match r.write at_ bytes with
    | some r' => (.done, r')
    | none => (.outOfRange, r)
  | .read => (.bytes r.bytes, r)
  | .readFile => (.bytes r.file.content, r)
  | .truncate n =>
    match r.truncate n with
    | .ok r' => (.done, r')
    | .error e => (.refused e, r)
  | .addSeals seals =>
    match r.file.addSeals seals with
    | .ok file => (.done, { r with file := file })
    | .error e => (.refused e, r)
  | .map e => (.mapped (r.map e), r)

def run (r : Sealed) (steps : List Step) : Sealed := steps.foldl (fun r step => (r.act step).2) r

/-- Overwrites a part of some bytes, unless it reaches beyond them. -/
def overlay (content : List UInt8) (at_ : Nat) (bytes : List UInt8) : List UInt8 :=
  if at_ + bytes.length ≤ content.length then
    content.take at_ ++ bytes ++ content.drop (at_ + bytes.length)
  else content

def Step.paint (content : List UInt8) : Step → List UInt8
  | .write at_ bytes => overlay content at_ bytes.toList
  | _ => content

/-- Zeros, overwritten by the writes in their order. -/
def painted (n : Nat) (steps : List Step) : List UInt8 :=
  steps.foldl Step.paint (List.replicate n 0)

/-- A region that was asked for with this length, or for a picture of this length. -/
inductive Requested : Nat → Sealed → Prop where
  | length {n : Nat} {r : Sealed} : create n = .ok r → Requested n r
  | image {e : Extent} {r : Sealed} :
      forImage e = .ok r → Requested (e.width.toNat * e.height.toNat * 4) r

/-- A region of `n` bytes that shows `content`. -/
structure Steady (n : Nat) (content : List UInt8) (r : Sealed) : Prop where
  /-- The length of the mapping, and of the file. -/
  length : r.length = n ∧ r.file.length = n
  /-- The bytes of the mapping, and of the file. -/
  shown : r.bytes.toList = content ∧ r.file.content.toList = content
  read : r.act .read = (.bytes content.toArray, r)
  readFile : r.act .readFile = (.bytes content.toArray, r)
  written : ∀ at_ bytes, at_ + bytes.size ≤ n → (r.act (.write at_ bytes)).1 = .done
  outside : ∀ at_ bytes, n < at_ + bytes.size → r.act (.write at_ bytes) = (.outOfRange, r)
  resized : ∀ m, m ≠ n → ∃ cause, r.act (.truncate m) = (.refused cause, r)
  kept : (r.act (.truncate n)).1 = .done
  resealed : ∀ seals, ∃ cause, r.act (.addSeals seals) = (.refused cause, r)
  /-- A picture is mapped as it is from any file with these bytes. -/
  source : ∀ e, r.act (.map e) = (.mapped (Source.map content.toArray e), r)
  mapped : ∀ e : Extent, (∃ source, r.map e = .ok source) ↔
    1 ≤ e.width.toNat * e.height.toNat * 4 ∧ e.width.toNat * e.height.toNat * 4 ≤ n
  picture : ∀ (e : Extent) source, r.map e = .ok source → source.extent = e ∧
    source.pixels.toList = content.take (e.width.toNat * e.height.toNat * 4)

/-! ## Overwriting -/

section Overlay

variable {content bytes : List UInt8} {at_ : Nat}

@[simp] theorem length_overlay (content : List UInt8) (at_ : Nat) (bytes : List UInt8) :
    (overlay content at_ bytes).length = content.length := by
  unfold overlay
  split
  · simp only [List.length_append, List.length_take, List.length_drop]
    omega
  · rfl

theorem getElem?_overlay (fits : at_ + bytes.length ≤ content.length) (i : Nat) :
    (overlay content at_ bytes)[i]? =
      if at_ ≤ i ∧ i < at_ + bytes.length then bytes[i - at_]? else content[i]? := by
  have before : (content.take at_).length = at_ := by
    rw [List.length_take]
    omega
  rw [overlay, if_pos fits, List.append_assoc, List.getElem?_append, before]
  rcases Nat.lt_or_ge i at_ with left | right
  · rw [if_pos left, if_neg (by omega), List.getElem?_take_of_lt left]
  · rw [if_neg (by omega), List.getElem?_append]
    rcases Nat.lt_or_ge i (at_ + bytes.length) with inside | behind
    · rw [if_pos (by omega), if_pos ⟨right, inside⟩]
    · rw [if_neg (by omega), if_neg (by omega), List.getElem?_drop]
      congr 1
      omega

@[simp] theorem length_paint (content : List UInt8) (step : Step) :
    (step.paint content).length = content.length := by
  cases step <;> simp [Step.paint]

theorem length_foldl_paint (content : List UInt8) (steps : List Step) :
    (steps.foldl Step.paint content).length = content.length := by
  induction steps generalizing content with
  | nil => rfl
  | cons step steps ih => rw [List.foldl_cons, ih, length_paint]

@[simp] theorem length_painted (n : Nat) (steps : List Step) : (painted n steps).length = n := by
  rw [painted, length_foldl_paint, List.length_replicate]

theorem some_byteAt_store (f : SharedFile) (at_ : Nat) (bytes : Array UInt8) (i : Nat) :
    some ((f.store at_ bytes).byteAt i) =
      if at_ ≤ i ∧ i < at_ + bytes.size then bytes[i - at_]? else some (f.byteAt i) := by
  simp only [SharedFile.store]
  rcases Nat.lt_or_ge i at_ with left | right
  · rw [if_neg (by omega), if_neg (by omega)]
  rw [if_pos right, Array.getD_eq_getD_getElem?]
  rcases Nat.lt_or_ge i (at_ + bytes.size) with inside | behind
  · rw [if_pos ⟨right, inside⟩, Array.getElem?_eq_getElem (by omega)]
    rfl
  · rw [if_neg (by omega), Array.getElem?_eq_none (by omega)]
    rfl

end Overlay

/-! ## What a region shows -/

/-- The mapping and the file have the length of the content, the file has its bytes, and nothing
about the length can be changed any more. -/
structure Shows (content : List UInt8) (r : Sealed) : Prop where
  mapped : r.mapped = content.length
  length : r.file.length = content.length
  bytes : ∀ i < content.length, content[i]? = some (r.file.byteAt i)
  seals : r.file.seals = .all
  bounded : content.length < mappingLimit

namespace Shows

variable {content : List UInt8} {r r' : Sealed} {n at_ : Nat}

theorem read (shows_ : Shows content r) (fits : n ≤ content.length) :
    (r.file.read n).toList = content.take n := by
  refine List.ext_getElem? fun i => ?_
  rw [SharedFile.read, Array.toList_ofFn, List.getElem?_ofFn]
  split
  · rename_i inside
    rw [List.getElem?_take_of_lt inside, shows_.bytes i (by omega)]
  · rename_i outside
    rw [List.getElem?_eq_none (by rw [List.length_take]; omega)]

theorem readAll (shows_ : Shows content r) :
    r.bytes = content.toArray ∧ r.file.content = content.toArray := by
  have all : r.file.read content.length = content.toArray := by
    rw [← Array.toList_inj, shows_.read (Nat.le_refl _), List.take_length]
  rw [Sealed.bytes, SharedFile.content, shows_.mapped, shows_.length]
  exact ⟨all, all⟩

theorem write (shows_ : Shows content r) {bytes : Array UInt8}
    (written : r.write at_ bytes = some r') : Shows (overlay content at_ bytes.toList) r' := by
  unfold Sealed.write at written
  split at written
  · rename_i fits
    rw [shows_.mapped] at fits
    cases written
    refine ⟨?_, ?_, fun i inside => ?_, shows_.seals, ?_⟩
    · rw [length_overlay]
      exact shows_.mapped
    · rw [length_overlay]
      exact shows_.length
    · rw [length_overlay] at inside
      rw [getElem?_overlay (by simpa using fits), shows_.bytes i inside, some_byteAt_store,
        Array.length_toList, Array.getElem?_toList]
    · rw [length_overlay]
      exact shows_.bounded
  · cases written

theorem write_eq_none_iff (shows_ : Shows content r) {bytes : Array UInt8} :
    r.write at_ bytes = none ↔ content.length < at_ + bytes.size := by
  rw [Sealed.write, shows_.mapped]
  split
  · simp only [reduceCtorEq, false_iff]
    omega
  · simp only [true_iff]
    omega

/-- Both seals on the length at once: any other length is refused. -/
theorem truncate_ne (shows_ : Shows content r) (other : n ≠ content.length) :
    ∃ e, r.truncate n = .error e := by
  have closed : r.file.mayResize n = false := by
    have either : n < content.length ∨ content.length < n := Nat.lt_or_gt_of_ne other
    simp only [SharedFile.mayResize, shows_.length, shows_.seals, Seals.all]
    rcases either with less | more
    · simp [less]
    · simp [more]
  unfold Sealed.truncate SharedFile.truncate
  rw [closed]
  by_cases long : SharedFile.maxLength < n
  · rw [if_pos long]
    exact ⟨_, rfl⟩
  · rw [if_neg long]
    exact ⟨_, rfl⟩

/-- The same length is let through, and the bytes stay. -/
theorem truncate_eq (shows_ : Shows content r) :
    ∃ r', r.truncate content.length = .ok r' ∧ Shows content r' := by
  have short : ¬ SharedFile.maxLength < content.length := by
    have := shows_.bounded
    simp only [mappingLimit] at this
    simp only [SharedFile.maxLength]
    omega
  have same : r.file.mayResize content.length = true := by
    simp [SharedFile.mayResize, shows_.length]
  let file : SharedFile := ⟨content.length,
    fun i => if i < r.file.length then r.file.byteAt i else 0, r.file.seals⟩
  have resized : r.file.truncate content.length = .ok file := by
    rw [SharedFile.truncate, if_neg short, if_pos same]
  refine ⟨⟨file, r.mapped⟩, by simp only [Sealed.truncate, resized], shows_.mapped, rfl,
    fun i inside => ?_, shows_.seals, shows_.bounded⟩
  have within : i < r.file.length := by
    rw [shows_.length]
    exact inside
  simp only [file, if_pos within]
  exact shows_.bytes i inside

theorem addSeals (shows_ : Shows content r) (seals : Seals) :
    r.file.addSeals seals = .error .notPermitted := by
  have closed : r.file.seals.sealing = true := by
    rw [shows_.seals]
    rfl
  rw [SharedFile.addSeals, if_pos closed]

theorem map (shows_ : Shows content r) (e : Extent) : r.map e = Source.map content.toArray e := by
  have same : r.file.length = content.toArray.size := shows_.length
  unfold Sealed.map Source.map
  rw [same]
  cases required : Source.required content.toArray.size e with
  | error err => rfl
  | ok n =>
    obtain ⟨_, _, _, held⟩ := Source.required_eq_ok_iff.mp required
    have first : r.file.read n = content.toArray.extract 0 n := by
      rw [← Array.toList_inj, shows_.read held, Array.toList_extract, List.extract_eq_take_drop]
      rfl
    simp only [first]

/-- Whatever is done, the region shows what it should. -/
theorem act (shows_ : Shows content r) (step : Step) :
    Shows (step.paint content) (r.act step).2 := by
  cases step with
  | write at_ bytes =>
    cases written : r.write at_ bytes with
    | some r' =>
      simp only [Sealed.act, written]
      exact shows_.write written
    | none =>
      have outside := shows_.write_eq_none_iff.mp written
      simp only [Sealed.act, written]
      rw [Step.paint, overlay, if_neg (by simpa using outside)]
      exact shows_
  | read => exact shows_
  | readFile => exact shows_
  | truncate n =>
    by_cases same : n = content.length
    · obtain ⟨r', resized, still⟩ := shows_.truncate_eq
      rw [← same] at resized
      simp only [Sealed.act, resized]
      exact still
    · obtain ⟨e, refused⟩ := shows_.truncate_ne same
      simp only [Sealed.act, refused]
      exact shows_
  | addSeals seals =>
    simp only [Sealed.act, shows_.addSeals]
    exact shows_
  | map e => exact shows_

theorem run (shows_ : Shows content r) (steps : List Step) :
    Shows (steps.foldl Step.paint content) (r.run steps) := by
  induction steps generalizing content r with
  | nil => exact shows_
  | cons step steps ih => exact ih (shows_.act step)

theorem steady (shows_ : Shows content r) : Steady content.length content r where
  length := ⟨shows_.mapped, shows_.length⟩
  shown := by
    obtain ⟨mapping, file⟩ := shows_.readAll
    rw [mapping, file]
    exact ⟨rfl, rfl⟩
  read := by rw [Sealed.act, shows_.readAll.1]
  readFile := by rw [Sealed.act, shows_.readAll.2]
  written at_ bytes fits := by
    cases written : r.write at_ bytes with
    | some r' => simp only [Sealed.act, written]
    | none =>
      have outside := shows_.write_eq_none_iff.mp written
      omega
  outside at_ bytes outside := by
    have refused := shows_.write_eq_none_iff.mpr outside
    simp only [Sealed.act, refused]
  resized m other := by
    obtain ⟨e, refused⟩ := shows_.truncate_ne other
    exact ⟨e, by simp only [Sealed.act, refused]⟩
  kept := by
    obtain ⟨r', resized, _⟩ := shows_.truncate_eq
    simp only [Sealed.act, resized]
  resealed seals := ⟨_, by simp only [Sealed.act, shows_.addSeals]; rfl⟩
  source e := by rw [Sealed.act, shows_.map]
  mapped e := by
    have bounded := shows_.bounded
    rw [shows_.map]
    constructor
    · rintro ⟨source, mapped⟩
      obtain ⟨⟨pos, _, held⟩, _⟩ := Source.map_eq_ok_iff.mp mapped
      exact ⟨pos, held⟩
    · rintro ⟨pos, held⟩
      have fits : e.byteCount < UInt64.size := by
        simp only [mappingLimit] at bounded
        simp only [Extent.byteCount, UInt64.size]
        omega
      exact ⟨_, Source.map_eq_ok_iff.mpr ⟨⟨pos, fits, held⟩, rfl⟩⟩
  picture e source mapped := by
    rw [shows_.map] at mapped
    obtain ⟨_, rfl⟩ := Source.map_eq_ok_iff.mp mapped
    refine ⟨rfl, ?_⟩
    rw [Array.toList_extract, List.extract_eq_take_drop]
    rfl

end Shows

/-! ## New regions -/

theorem refusal?_eq_none_iff {n : Nat} : refusal? n = none ↔ 0 < n ∧ n < mappingLimit := by
  unfold refusal?
  split
  · simp only [reduceCtorEq, false_iff]
    omega
  · split
    · simp only [reduceCtorEq, false_iff, mappingLimit]
      simp only [SharedFile.maxLength] at *
      omega
    · split
      · simp only [reduceCtorEq, false_iff]
        omega
      · simp only [true_iff]
        omega

/-- A file of zeros. -/
theorem truncate_empty {n : Nat} (short : n ≤ SharedFile.maxLength) :
    SharedFile.empty.truncate n = .ok ⟨n, fun _ => 0, .none⟩ := by
  have free : SharedFile.empty.mayResize n = true := by
    simp [SharedFile.mayResize, SharedFile.empty, Seals.none]
  have zeros : (fun i => if i < SharedFile.empty.length then SharedFile.empty.byteAt i else 0) =
      fun _ => 0 := rfl
  rw [SharedFile.truncate, if_neg (Nat.not_lt.mpr short), if_pos free, zeros]
  rfl

/-- A region of zeros. -/
def blank (n : Nat) : Sealed := ⟨⟨n, fun _ => 0, .all⟩, n⟩

theorem blank_shows {n : Nat} (bounded : n < mappingLimit) :
    Shows (List.replicate n 0) (blank n) := by
  refine ⟨(List.length_replicate).symm, (List.length_replicate).symm, fun i inside => ?_, rfl, ?_⟩
  · rw [List.length_replicate] at inside
    simp [blank, inside]
  · rw [List.length_replicate]
    exact bounded

/-- A region that can be made is made, full of zeros. -/
theorem create_blank {n : Nat} (free : refusal? n = none) : create n = .ok (blank n) := by
  have bounded := (refusal?_eq_none_iff.mp free).2
  have short : n ≤ SharedFile.maxLength := by
    simp only [mappingLimit] at bounded
    simp only [SharedFile.maxLength]
    omega
  simp only [create, free, truncate_empty short]
  rfl

theorem Shows.created {n : Nat} {r : Sealed} (made : create n = .ok r) :
    Shows (List.replicate n 0) r := by
  cases free : refusal? n with
  | some e =>
    simp only [create, free] at made
    cases made
  | none =>
    rw [create_blank free] at made
    cases made
    exact blank_shows (refusal?_eq_none_iff.mp free).2

theorem Requested.shows {n : Nat} {r : Sealed} (requested : Requested n r) :
    Shows (List.replicate n 0) r := by
  cases requested with
  | length made => exact .created made
  | @image e _ made =>
    cases counted : e.length with
    | error err =>
      simp only [forImage, counted] at made
      cases made
    | ok n =>
      obtain ⟨rfl, _⟩ := Extent.length_eq_ok_iff.mp counted
      simp only [forImage, counted] at made
      exact .created made

theorem steady_run {n : Nat} {r : Sealed} (requested : Requested n r) (steps : List Step) :
    Steady n (painted n steps) (r.run steps) := by
  have shows_ : Shows (painted n steps) (r.run steps) := requested.shows.run steps
  have steady := shows_.steady
  rw [length_painted] at steady
  exact steady

/-- Writes of which the second reaches too far, among attempts at the length and the seals. -/
def attempts : List Step :=
  [.write 2 #[1, 2, 3], .truncate 16, .write 7 #[9, 9], .addSeals .none, .truncate 4,
    .write 4 #[4, 5], .truncate 8, .map ⟨1, 2⟩]

theorem steady_run_attempts : Requested 8 (blank 8) ∧
    Steady 8 [0, 0, 1, 2, 4, 5, 0, 0] ((blank 8).run attempts) := by
  have requested : Requested 8 (blank 8) := .image (e := ⟨2, 1⟩) rfl
  exact ⟨requested, steady_run requested attempts⟩

end Sealed
end Backdrop

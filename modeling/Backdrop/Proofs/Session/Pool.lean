import Backdrop.Proofs.Memory.Steady
import Backdrop.Proofs.Session.Opening

/-!
# Backdrop.Proofs.Session.Pool

The numbers that go out with the memory of a frame.

Four of them are narrowed to 32 bits with a sign, and only the length of the pool is compared with
what such a number can be. That is enough: a picture of at least one pixel is no shorter than four
times either of its sides.

* A `System` says which of the calls fail that a region is made with. `Sealed.createOn` makes a
  region call by call; on the system `System.plain` it is `Sealed.create`.
* `Buffer.allocateOn` is what is answered when memory for a frame is asked for, and what is sent.
  `Allocation` lists what may come of it.
* `Untruncated fails shm number size answer sent`: no number in `sent` was changed on its way out,
  and nothing is sent unless the answer is memory.
* `allocateOn_untruncated` has this for every system, and for a session however scarce memory is.
* `Faithful s`: so it is with all that the session `s` has sent or queued. This is kept by whatever
  is done to the wall, by every event and by the session's end.
-/

namespace Backdrop

open Wall (Call Display DisplayError FrameId Stage)

/-! ## Regions on a system that may fail -/

/-- How each call fails that a region is made with, if it does. -/
structure System where
  create : Option Errno
  resize : Nat → Option Errno
  map : Nat → Option IoError
  sealing : Option Errno

namespace System

/-- Nothing fails but mappings that are too long. -/
def plain : System where
  create := none
  resize := fun _ => none
  map := fun n => if Sealed.mappingLimit ≤ n then some (.os .noMemory) else none
  sealing := none

/-- The errors of the calls that fail for a region of `n` bytes. -/
inductive Fails (sys : System) (n : Nat) : MemoryError → Prop where
  | create {e : Errno} (failed : sys.create = some e) : Fails sys n (.create e)
  | resize {e : Errno} (failed : sys.resize n = some e) : Fails sys n (.resize n e)
  | tooLong (long : SharedFile.maxLength < n) : Fails sys n (.resize n .invalid)
  | map {e : IoError} (failed : sys.map n = some e) : Fails sys n (.map e)
  | sealing {e : Errno} (failed : sys.sealing = some e) : Fails sys n (.sealing e)

end System

namespace Sealed

/-- Stops with the error of a call that failed. -/
def attempt {ε : Type} (wording : ε → MemoryError) : Option ε → Except MemoryError Unit
  | none => .ok ()
  | some e => .error (wording e)

/-- Makes a region, one call after another. -/
def createOn (sys : System) (n : Nat) : Except MemoryError Sealed :=
  if n = 0 then .error .zeroSize
  else do
    attempt .create sys.create
    attempt (.resize n) (sys.resize n)
    let file ← (SharedFile.empty.truncate n).mapError (.resize n)
    attempt .map (sys.map n)
    attempt .sealing sys.sealing
    let file ← (file.addSeals .all).mapError .sealing
    .ok ⟨file, n⟩

/-- What may come of making a region of `n` bytes. -/
inductive Creation (sys : System) (n : Nat) : Except MemoryError Sealed → Prop where
  | empty (zero : n = 0) : Creation sys n (.error .zeroSize)
  | failed {e : MemoryError} (pos : 0 < n) (fails : sys.Fails n e) : Creation sys n (.error e)
  | made (pos : 0 < n) (works : ∀ e, ¬ sys.Fails n e) : Creation sys n (.ok (blank n))

theorem createOn_creation (sys : System) (n : Nat) : Creation sys n (createOn sys n) := by
  unfold createOn
  split
  · exact .empty ‹_›
  have pos : 0 < n := Nat.pos_of_ne_zero ‹_›
  cases created : sys.create with
  | some e => exact .failed pos (.create created)
  | none =>
    cases resized : sys.resize n with
    | some e => exact .failed pos (.resize resized)
    | none =>
      by_cases long : SharedFile.maxLength < n
      · rw [SharedFile.truncate, if_pos long]
        exact .failed pos (.tooLong long)
      rw [truncate_empty (Nat.not_lt.mp long)]
      cases mapped : sys.map n with
      | some e => exact .failed pos (.map mapped)
      | none =>
        cases closed : sys.sealing with
        | some e => exact .failed pos (.sealing closed)
        | none =>
          refine .made pos fun e fails => ?_
          cases fails <;> simp_all

/-- On a plain system a region is made as it is made at once. -/
theorem createOn_plain (n : Nat) : createOn .plain n = create n := by
  unfold createOn
  split
  · rename_i zero
    rw [zero]
    rfl
  rename_i pos
  simp only [create, refusal?, if_neg pos, System.plain]
  by_cases long : SharedFile.maxLength < n
  · rw [if_pos long, SharedFile.truncate, if_pos long]
    rfl
  rw [if_neg long, truncate_empty (Nat.not_lt.mp long)]
  by_cases wide : mappingLimit ≤ n
  · rw [if_pos wide, if_pos wide]
    rfl
  · rw [if_neg wide, if_neg wide]
    rfl

end Sealed

namespace Session
namespace Buffer

/-! ## Memory for a frame -/

/-- The region behind a frame. -/
def regionOn (sys : System) (size : Extent) : Except DisplayError Sealed :=
  match size.length with
  | .error e => .error (.memory e)
  | .ok n =>
    match Sealed.createOn sys n with
    | .error e => .error (.memory e)
    | .ok r => if maxPool < r.length then .error (.memory (.poolTooLarge r.length)) else .ok r

/-- What is answered when memory for a frame is asked for, and what is sent. -/
def allocateOn (sys : System) (shm : Option Nat) (number : Nat) (size : Extent) :
    Except DisplayError Sealed × List Request :=
  match shm with
  | none => (.error .surfaceNotReady, [])
  | some shm =>
    match regionOn sys size with
    | .error e => (.error e, [])
    | .ok r => (.ok r, requests shm number size r)

theorem regionOn_plain (size : Extent) : regionOn .plain size = region size := by
  unfold regionOn region Sealed.forImage
  cases size.length with
  | error e => rfl
  | ok n => cases made : Sealed.create n <;> simp only [Sealed.createOn_plain, made]

/-- Why there is no memory for a picture. -/
inductive Refusal (fails : MemoryError → Prop) (size : Extent) : MemoryError → Prop where
  | empty (zero : size.width.toNat * size.height.toNat * 4 = 0) : Refusal fails size .zeroSize
  | overflow (wide : 2 ^ 64 ≤ size.width.toNat * size.height.toNat * 4) :
      Refusal fails size (.sizeOverflow size)
  | tooLarge (long : 2 ^ 31 ≤ size.width.toNat * size.height.toNat * 4) :
      Refusal fails size (.poolTooLarge (size.width.toNat * size.height.toNat * 4))
  | failed {e : MemoryError} (failed : fails e) : Refusal fails size e

theorem Refusal.mono {fails fails' : MemoryError → Prop} {size : Extent} {e : MemoryError}
    (weaker : ∀ e, fails e → fails' e) (why : Refusal fails size e) : Refusal fails' size e := by
  cases why with
  | empty zero => exact .empty zero
  | overflow wide => exact .overflow wide
  | tooLarge long => exact .tooLarge long
  | failed failed => exact .failed (weaker e failed)

/-- What may come of asking for memory. -/
inductive Allocation (sys : System) (shm number : Nat) (size : Extent) :
    Except DisplayError Sealed × List Request → Prop where
  | refused {e : MemoryError} (why : Refusal (sys.Fails size.byteCount) size e) :
      Allocation sys shm number size (.error (.memory e), [])
  | sent (pos : 0 < size.byteCount) (short : size.byteCount ≤ maxPool) :
      Allocation sys shm number size (.ok (.blank size.byteCount),
        requests shm number size (.blank size.byteCount))

theorem allocateOn_allocation (sys : System) (shm number : Nat) (size : Extent) :
    Allocation sys shm number size (allocateOn sys (some shm) number size) := by
  unfold allocateOn regionOn
  rcases Nat.lt_or_ge size.byteCount UInt64.size with fits | wide
  · simp only [Source.length_of_fits fits]
    have creation := Sealed.createOn_creation sys size.byteCount
    generalize Sealed.createOn sys size.byteCount = outcome at creation
    cases creation with
    | empty zero => exact .refused (.empty zero)
    | failed pos fails => exact .refused (.failed fails)
    | made pos works =>
      have length : (Sealed.blank size.byteCount).length = size.byteCount := rfl
      simp only [length]
      by_cases long : maxPool < size.byteCount
      · simp only [if_pos long]
        exact .refused (.tooLarge long)
      · simp only [if_neg long]
        exact .sent pos (Nat.not_lt.mp long)
  · have none : size.byteLength? = none := Extent.byteLength?_eq_none_iff.mpr wide
    simp only [Extent.length, none]
    exact .refused (.overflow wide)

example : allocateOn .plain (some 0) 0 ⟨1, 536870912⟩ =
    (.error (.memory (.poolTooLarge 2147483648)), []) := rfl

/-! ## Numbers on their way out -/

theorem narrow_of_le {n : Nat} (short : n ≤ maxPool) : narrow n = n := by
  simp only [maxPool] at short
  exact Int32.toInt_ofNat_of_lt (by omega)

/-- No side of a picture is longer than a quarter of its bytes. -/
theorem sides_le {size : Extent} (pos : 0 < size.byteCount) :
    (0 < size.width.toNat ∧ size.width.toNat * 4 ≤ size.byteCount) ∧
      0 < size.height.toNat ∧ size.height.toNat * 4 ≤ size.byteCount := by
  unfold Extent.byteCount at pos ⊢
  have area : 0 < size.width.toNat * size.height.toNat := by omega
  have wide : 0 < size.width.toNat := Nat.pos_of_mul_pos_right area
  have high : 0 < size.height.toNat := Nat.pos_of_mul_pos_left area
  have rows := Nat.le_mul_of_pos_right size.width.toNat high
  have columns := Nat.le_mul_of_pos_left size.height.toNat wide
  omega

/-- One check of the length is enough for all four numbers. -/
theorem requests_blank {size : Extent} (shm number : Nat) (pos : 0 < size.byteCount)
    (short : size.byteCount ≤ maxPool) :
    requests shm number size (.blank size.byteCount) =
      [.createPool shm number size.byteCount .all size.byteCount,
        .createBuffer number number 0 size.width.toNat size.height.toNat
          (size.width.toNat * 4 : Nat) format,
        .destroyPool number] := by
  obtain ⟨⟨_, wide⟩, _, high⟩ := sides_le pos
  have width : narrow size.width.toNat = size.width.toNat := narrow_of_le (by omega)
  have height : narrow size.height.toNat = size.height.toNat := narrow_of_le (by omega)
  have stride : narrow (size.width.toNat * 4) = (size.width.toNat * 4 : Nat) :=
    narrow_of_le (by omega)
  have length : narrow (Sealed.blank size.byteCount).length = size.byteCount := narrow_of_le short
  rw [requests, width, height, stride, length]
  rfl

/-- Numbers go out as they are, and only when there is memory for the picture. -/
structure Untruncated {α : Type} (fails : MemoryError → Prop) (shm number : Nat) (size : Extent)
    (answer : Except DisplayError α) (sent : List Request) : Prop where
  within : sent ≠ [] → 1 ≤ size.width.toNat * size.height.toNat * 4 ∧
    size.width.toNat * size.height.toNat * 4 ≤ 2 ^ 31 - 1
  /-- The buffer begins with the pool and ends with it. -/
  exact : sent ≠ [] → ∃ length width height stride : Int,
    sent = [.createPool shm number (size.width.toNat * size.height.toNat * 4) .all length,
      .createBuffer number number 0 width height stride format, .destroyPool number] ∧
    (length = size.width.toNat * size.height.toNat * 4 ∧ width = size.width.toNat ∧
      height = size.height.toNat ∧ stride = size.width.toNat * 4) ∧
    (0 < length ∧ 0 < width ∧ 0 < height ∧ 0 < stride) ∧ 0 + stride * height = length
  answered : sent ≠ [] ↔ ∃ memory, answer = .ok memory
  refused : sent = [] → ∃ e, answer = .error (.memory e) ∧ Refusal fails size e

namespace Untruncated

variable {α : Type} {fails : MemoryError → Prop} {shm number : Nat} {size : Extent}

theorem nothing {e : MemoryError} (why : Refusal fails size e) :
    Untruncated (α := α) fails shm number size (.error (.memory e)) [] where
  within sent := absurd rfl sent
  exact sent := absurd rfl sent
  answered := by simp
  refused _ := ⟨e, rfl, why⟩

theorem something (memory : α) (pos : 0 < size.byteCount) (short : size.byteCount ≤ maxPool) :
    Untruncated fails shm number size (.ok memory)
      (requests shm number size (.blank size.byteCount)) where
  within _ := ⟨pos, short⟩
  exact _ := by
    obtain ⟨⟨wide, _⟩, high, _⟩ := sides_le pos
    refine ⟨_, _, _, _, requests_blank shm number pos short, ⟨?_, rfl, rfl, ?_⟩,
      ⟨?_, ?_, ?_, ?_⟩, ?_⟩
    · rw [Extent.byteCount]
      push_cast
      rfl
    · push_cast
      rfl
    · omega
    · omega
    · omega
    · omega
    · rw [Extent.byteCount]
      push_cast
      ring
  answered := ⟨fun _ => ⟨memory, rfl⟩, fun _ => by simp [requests]⟩
  refused none := by simp [requests] at none

end Untruncated

theorem allocateOn_sound (sys : System) (shm number : Nat) (size : Extent) :
    Untruncated (sys.Fails size.byteCount) shm number size
      (allocateOn sys (some shm) number size).1 (allocateOn sys (some shm) number size).2 := by
  have allocation := allocateOn_allocation sys shm number size
  generalize allocateOn sys (some shm) number size = outcome at allocation
  cases allocation with
  | refused why => exact .nothing why
  | sent pos short => exact .something _ pos short

end Buffer
end Session

/-! ## Memory for the wall -/

/-- The call that says how asking for memory ended. -/
def Wall.Call.asked {α : Type} (frame : FrameId) (size : Extent) : Except DisplayError α → Call
  | .ok _ => .allocate frame size
  | .error _ => .allocateFailed frame size

namespace Session

open Buffer

/-- Sessions ask a plain system. -/
theorem allocate_display (s : Session) (frame : FrameId) (size : Extent) :
    s.display.allocate frame size =
      (allocateOn .plain s.globals.shm s.nextBuffer size).1.map Sealed.bytes := by
  simp only [display, allocateOn, regionOn_plain]
  cases s.globals.shm with
  | none => rfl
  | some shm => cases region size <;> rfl

theorem requestsOf_allocate (s : Session) (frame : FrameId) (size : Extent) :
    s.requestsOf (.allocate frame size) =
      (allocateOn .plain s.globals.shm s.nextBuffer size).2 := by
  simp only [requestsOf, allocateOn, regionOn_plain]
  cases s.globals.shm with
  | none => rfl
  | some shm => cases region size <;> rfl

theorem allocateOn_untruncated (sys : System) {s : Session} {shm : Nat}
    (bound : s.globals.shm = some shm) (size : Extent) :
    Untruncated (sys.Fails size.byteCount) shm s.nextBuffer size
        (allocateOn sys s.globals.shm s.nextBuffer size).1
        (allocateOn sys s.globals.shm s.nextBuffer size).2 ∧
      ∀ (scarcity : Scarcity) (frame : FrameId),
        Untruncated (fun e => System.plain.Fails size.byteCount e ∨ scarcity frame = some e) shm
          s.nextBuffer size ((s.displayIn scarcity).allocate frame size)
          (s.requestsOf (.asked frame size ((s.displayIn scarcity).allocate frame size))) := by
  refine ⟨?_, fun scarcity frame => ?_⟩
  · rw [bound]
    exact allocateOn_sound sys shm s.nextBuffer size
  have answer := allocate_display s frame size
  have sent := requestsOf_allocate s frame size
  rw [bound] at answer sent
  have allocation := allocateOn_allocation .plain shm s.nextBuffer size
  generalize allocateOn .plain (some shm) s.nextBuffer size = outcome at answer sent allocation
  cases allocation with
  | @refused e why =>
    have refused : (s.displayIn scarcity).allocate frame size = .error (.memory e) := by
      simp only [displayIn, answer]
      cases scarcity frame <;> rfl
    rw [refused]
    exact .nothing (why.mono fun _ => .inl)
  | sent pos short =>
    cases scarce : scarcity frame with
    | none =>
      have given : (s.displayIn scarcity).allocate frame size =
          .ok (Sealed.blank size.byteCount).bytes := by
        simp only [displayIn, answer, scarce]
        rfl
      rw [given, Call.asked, sent]
      exact .something _ pos short
    | some e =>
      have refused : (s.displayIn scarcity).allocate frame size = .error (.memory e) := by
        simp only [displayIn, answer, scarce]
        rfl
      rw [refused]
      exact .nothing (.failed (.inr rfl))

/-- A session that has nothing but memory. -/
def frugal : Session := { fresh with globals := ⟨none, some 0, none⟩ }

/-- The longest row that fits into a pool. -/
theorem allocateOn_untruncated_row : frugal.globals.shm = some 0 ∧
    (allocateOn .plain frugal.globals.shm 0 ⟨536870911, 1⟩).2 =
      [.createPool 0 0 2147483644 .all 2147483644,
        .createBuffer 0 0 0 536870911 1 2147483644 format, .destroyPool 0] ∧
    Untruncated (System.plain.Fails 2147483644) 0 0 ⟨536870911, 1⟩
      (allocateOn .plain frugal.globals.shm 0 ⟨536870911, 1⟩).1
      (allocateOn .plain frugal.globals.shm 0 ⟨536870911, 1⟩).2 := by
  have bound : frugal.globals.shm = some 0 := rfl
  exact ⟨bound, by decide, (allocateOn_untruncated .plain bound ⟨536870911, 1⟩).1⟩

/-! ## All that a wall calls for -/

/-- The numbers of a pool or a buffer are those of some picture, all of which fits into a pool. -/
def Request.Exact : Request → Prop
  | .createPool _ _ held seals length => ∃ size : Extent,
      (0 < size.byteCount ∧ size.byteCount ≤ maxPool) ∧
        seals = .all ∧ held = size.byteCount ∧ length = size.byteCount
  | .createBuffer _ _ offset width height stride _ => ∃ size : Extent,
      (0 < size.byteCount ∧ size.byteCount ≤ maxPool) ∧
        offset = 0 ∧ width = size.width.toNat ∧ height = size.height.toNat ∧
          stride = (size.width.toNat * 4 : Nat)
  | _ => True

theorem requestsOf_exact (s : Session) (c : Call) : ∀ r ∈ s.requestsOf c, r.Exact := by
  cases c with
  | allocate frame size =>
    rw [requestsOf_allocate]
    cases s.globals.shm with
    | none => exact fun r mem => by cases mem
    | some shm =>
      have allocation := allocateOn_allocation .plain shm s.nextBuffer size
      generalize allocateOn .plain (some shm) s.nextBuffer size = outcome at allocation
      cases allocation with
      | refused _ => exact fun r mem => by cases mem
      | sent pos short =>
        simp only [requests_blank _ _ pos short, List.forall_mem_cons]
        exact ⟨⟨size, ⟨pos, short⟩, rfl, rfl, rfl⟩, ⟨size, ⟨pos, short⟩, rfl, rfl, rfl, rfl⟩,
          trivial, fun r mem => by cases mem⟩
  | createSurface monitor handle n | attach n frame scale size pixels | free frame =>
    simp only [requestsOf]
    split <;> simp [surfaceRequests, Request.Exact]
  | _ => simp [requestsOf, Request.Exact]

/-- All numbers of pools and buffers that were sent or will be are exact. -/
def Faithful (s : Session) : Prop := ∀ r ∈ s.sent ++ s.queued, r.Exact

namespace Faithful

variable {s : Session}

theorem congr {s' : Session} (faithful : s.Faithful) (sent : s'.sent = s.sent)
    (queued : s'.queued = s.queued) : s'.Faithful := by
  unfold Faithful
  rw [sent, queued]
  exact faithful

theorem append {s' : Session} {rs : List Request} (faithful : s.Faithful)
    (sent : s'.sent = s.sent) (queued : s'.queued = s.queued ++ rs)
    (exact : ∀ r ∈ rs, r.Exact) : s'.Faithful := by
  intro r mem
  rw [sent, queued, ← List.append_assoc, List.mem_append] at mem
  exact mem.elim (faithful r) (exact r)

theorem push (faithful : s.Faithful) {r : Request} (exact : r.Exact) : (s.push r).Faithful :=
  faithful.append rfl rfl (List.forall_mem_singleton.mpr exact)

theorem emit (faithful : s.Faithful) (c : Call) : (s.emit c).Faithful := by
  have remembered : (s.emit c).sent = s.sent ∧ (s.emit c).queued = s.queued ++ s.requestsOf c := by
    simp only [Session.emit, pushAll_eq]
    cases c <;> exact ⟨rfl, rfl⟩
  exact faithful.append remembered.1 remembered.2 (requestsOf_exact s c)

theorem foldl_emit (calls : List Call) (faithful : s.Faithful) :
    (calls.foldl Session.emit s).Faithful := by
  induction calls generalizing s with
  | nil => exact faithful
  | cons c calls ih => exact ih (faithful.emit c)

/-- Whatever is done to the wall. -/
theorem onWall {α : Type} (faithful : s.Faithful) (f : Stage → α × Stage) :
    (s.onWall f).2.Faithful :=
  foldl_emit _ (faithful.congr rfl rfl)

theorem changeWall (faithful : s.Faithful) (f : Stage → Stage) : (s.changeWall f).Faithful :=
  faithful.onWall _

theorem onLayer (faithful : s.Faithful) (layer : Nat) (f : Wall.MonitorId → Stage → Stage) :
    (s.onLayer layer f).Faithful := by
  unfold Session.onLayer
  split
  · exact faithful
  · exact faithful.changeWall _

theorem bind (faithful : s.Faithful) (i : Interface) (name : UInt32) :
    (s.bind i name).Faithful := by
  have bound : ∀ number, (s.push (.bind name i number)).Faithful := fun _ => faithful.push trivial
  cases i with
  | output =>
    refine changeWall ?_ _
    exact (bound s.counts.output).congr rfl rfl
  | compositor | shm | layerShell =>
    refine changeWall ?_ _
    exact (bound _).congr rfl rfl

theorem announce (faithful : s.Faithful) (name : UInt32) (interface : String)
    (version : UInt32) : (s.announce name interface version).Faithful := by
  unfold Session.announce
  split
  · exact faithful
  · split
    · exact faithful.congr rfl rfl
    · exact faithful.bind _ name

/-- Whatever the display server tells. -/
theorem dispatch (faithful : s.Faithful) (e : Event) : (s.dispatch e).Faithful := by
  cases e with
  | «global» name interface version => exact faithful.announce name interface version
  | mode n flags mode =>
    simp only [Session.dispatch]
    split
    · exact faithful.changeWall _
    · exact faithful
  | configure layer serial size => exact faithful.onLayer layer _
  | closed layer => exact faithful.onLayer layer _
  | release n =>
    simp only [Session.dispatch]
    split
    · exact faithful
    · exact faithful.changeWall _
  | other _ => exact faithful
  | globalRemove _ | scale _ _ | name _ _ | done _ => exact faithful.changeWall _

theorem dispatchAll (faithful : s.Faithful) (es : List Event) : (s.dispatchAll es).Faithful := by
  induction es generalizing s with
  | nil => exact faithful
  | cons e es ih => exact ih (faithful.dispatch e)

theorem sendAll (faithful : s.Faithful) :
    ({ s with sent := s.sent ++ s.queued, queued := [] } : Session).Faithful := by
  intro r mem
  rw [List.append_nil] at mem
  exact faithful r mem

theorem roundtrip (faithful : s.Faithful) (callback : Nat) (g : Greeting) :
    (s.roundtrip callback g).2.Faithful := by
  have asked := (faithful.push (r := .sync callback) trivial).sendAll
  unfold Session.roundtrip
  cases g with
  | hangup => exact asked.congr rfl rfl
  | messages ms =>
    simp only
    split
    · exact asked.congr rfl rfl
    · split <;> exact asked.dispatchAll _

theorem flush {s' : Session} (faithful : s.Faithful) (flushed : s.flush = .ok s') :
    s'.Faithful := by
  unfold Session.flush at flushed
  split at flushed
  · cases flushed
  · cases flushed
    exact faithful.sendAll

theorem shutdown (faithful : s.Faithful) : s.shutdown.Faithful := by
  have torn : ({ s.changeWall Stage.shutdown with globals := .none } : Session).Faithful :=
    (faithful.changeWall Stage.shutdown).congr rfl rfl
  simp only [Session.shutdown]
  split
  · exact torn.flush ‹_›
  · exact torn.congr rfl rfl

end Faithful

/-- However the display server greets. -/
theorem faithful_handshake (first second : Greeting) : (handshake first second).2.Faithful := by
  have greeted : (fresh.push .getRegistry).Faithful :=
    Faithful.push (fun r mem => by cases mem) trivial
  have first_ := greeted.roundtrip 0 first
  unfold handshake
  generalize roundtrip 0 first (fresh.push .getRegistry) = outcome at first_
  obtain ⟨answer, s⟩ := outcome
  cases answer with
  | error e => exact first_
  | ok _ =>
    simp only
    split
    · exact first_
    have second_ := first_.roundtrip 1 second
    generalize roundtrip 1 second s = outcome at second_
    obtain ⟨answer, s⟩ := outcome
    cases answer with
    | error e => exact second_
    | ok _ => exact (second_.changeWall _).congr rfl rfl

end Session
end Backdrop

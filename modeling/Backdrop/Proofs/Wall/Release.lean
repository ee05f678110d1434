import Mathlib.Data.List.Count
import Backdrop.Proofs.Table
import Backdrop.Proofs.Wall.Backend
import Backdrop.Proofs.Wall.Lifetime

/-!
# Backdrop.Proofs.Wall.Release

It does not matter whether a frame is released before or after something else happens.

* `Frame.retire` and `Frame.release` are what becomes of a slot; none means that its memory goes
  back. `Settles` is a stage on which this was done to one slot.
* `Stage.tally b s` counts how often `b` was freed, and its slot. Retiring and releasing frames does
  not change it, so that a frame is freed once or has its slot.
* `Released b s t`: the stage `t` is `s` after a release of `b`. Every part of an operation takes
  two such stages to two such stages.
* `confluent_run` puts the release before and after any operation of a run.
-/

namespace Backdrop
namespace Wall

/-! ## Slots -/

namespace Frame

def retire (slot : Frame) : Option Frame :=
  if slot.busy then some { slot with retired := true } else none

def release (slot : Frame) : Option Frame :=
  if slot.retired then none else some { slot with busy := false }

theorem retire_release (slot : Frame) : slot.retire.bind release = slot.release.bind retire := by
  obtain ⟨owner, size, pixels, busy, retired⟩ := slot
  cases busy <;> cases retired <;> rfl

end Frame

def changeFrame (w : Wall) (k : FrameId) (change : Frame → Option Frame) : Wall :=
  { w with frames := w.frames.change k change }

/-- The memory that goes back when a slot is changed. -/
def spent (w : Wall) (k : FrameId) (change : Frame → Option Frame) : List Call :=
  if (w.frame? k).any fun slot => (change slot).isNone then [.free k] else []

structure Settles (k : FrameId) (change : Frame → Option Frame) (s s' : Stage) : Prop where
  wall : s'.wall = s.wall.changeFrame k change
  calls : s'.calls = s.calls ++ s.wall.spent k change

theorem settles_none {k : FrameId} {change : Frame → Option Frame} {s : Stage}
    (gone : s.wall.frame? k = none) : Settles k change s s := by
  have same : s.wall.frames.change k change = s.wall.frames := by
    have : s.wall.frames.find? k = none := gone
    simp only [Table.change, this]
  exact ⟨by rw [changeFrame, same], by simp [spent, gone]⟩

theorem settles_free {k : FrameId} {change : Frame → Option Frame} {s : Stage} {slot : Frame}
    (found : s.wall.frame? k = some slot) (given : change slot = none) :
    Settles k change s (s.freeFrame k) := by
  have erased : s.wall.frames.change k change = s.wall.frames.erase k := by
    have : s.wall.frames.find? k = some slot := found
    simp only [Table.change, this, given]
  refine ⟨?_, by simp [spent, found, given, Stage.freeFrame, Stage.call]⟩
  rw [changeFrame, erased]
  rfl

theorem settles_put {k : FrameId} {change : Frame → Option Frame} {s : Stage} {slot slot' : Frame}
    (found : s.wall.frame? k = some slot) (kept : change slot = some slot') :
    Settles k change s (s.putFrame k slot') := by
  have put : s.wall.frames.change k change = s.wall.frames.insert k slot' := by
    have : s.wall.frames.find? k = some slot := found
    simp only [Table.change, this, kept]
  exact ⟨by rw [changeFrame, put]; rfl, by simp [spent, found, kept, Stage.putFrame]⟩

theorem settles_retire (k : FrameId) (s : Stage) : Settles k Frame.retire s (s.retire k) := by
  unfold Stage.retire
  split
  · exact settles_none ‹_›
  · rename_i slot found
    split
    · exact settles_put found (by simp [Frame.retire, *])
    · exact settles_free found (by simp [Frame.retire, *])

theorem settles_released (k : FrameId) (s : Stage) : Settles k Frame.release s (s.released k) := by
  unfold Stage.released
  split
  · exact settles_none ‹_›
  · rename_i slot found
    split
    · have freed : Settles k Frame.release s (s.freeFrame k) :=
        settles_free found (by simp [Frame.release, *])
      exact ⟨freed.wall, freed.calls⟩
    · exact settles_put found (by simp [Frame.release, *])

/-! ## The tally of a frame -/

/-- How often a frame was freed, and once more if it has a slot. -/
def Stage.tally (b : FrameId) (s : Stage) : Nat :=
  s.calls.count (.free b) + s.wall.frames.keys.count b

section Tally

variable {b k : FrameId} {s s' : Stage}

theorem tally_call (c : Call) : (s.call c).tally b = s.tally b + [c].count (.free b) := by
  simp only [Stage.tally, Stage.call, List.count_append]
  omega

theorem count_spent_other {w : Wall} {change : Frame → Option Frame} (other : k ≠ b) :
    (w.spent k change).count (.free b) = 0 := by
  rw [spent, List.count_eq_zero]
  split
  · simpa using other.symm
  · simp

theorem tally_settles {change : Frame → Option Frame} (settles : Settles k change s s') :
    s'.tally b = s.tally b := by
  have slots : s'.wall.frames.keys.count b + (s.wall.spent k change).count (.free b) =
      s.wall.frames.keys.count b := by
    rw [settles.wall, changeFrame, Table.count_keys, Table.count_keys, Table.find?_change]
    by_cases hk : k = b
    · subst hk
      have looked : s.wall.frame? k = s.wall.frames.find? k := rfl
      rw [spent, looked]
      cases s.wall.frames.find? k with
      | none => simp
      | some slot => cases h : change slot <;> simp [h]
    · rw [if_neg hk, count_spent_other hk, Nat.add_zero]
  simp only [Stage.tally, settles.calls, List.count_append]
  omega

theorem tally_shutdown (b : FrameId) (s : Stage) :
    s.shutdown.tally b =
      (s.wall.monitors.values.foldl Stage.tearDownMonitor s).tally b := by
  have injective : Function.Injective Call.free := fun _ _ h => Call.free.inj h
  simp only [Stage.tally, Stage.calls_shutdown, Stage.wall_shutdown,
    Stage.wall_foldl_tearDownMonitor, List.count_append, List.count_map_of_injective _ _ injective]
  simp [Table.keys, Table.empty]

end Tally

/-! ## Stages that differ by a release -/

/-- The second stage is the first after a release of `b`; only when `b` is freed may differ. -/
structure Released (b : FrameId) (s t : Stage) : Prop where
  wall : t.wall = s.wall.changeFrame b Frame.release
  others : t.calls.filter (· ≠ .free b) = s.calls.filter (· ≠ .free b)
  tally : t.tally b = s.tally b

theorem filter_spent_self (w : Wall) (b : FrameId) (change : Frame → Option Frame) :
    (w.spent b change).filter (· ≠ .free b) = [] := by
  unfold spent
  split <;> simp

theorem Settles.released {b : FrameId} {s t : Stage} (settles : Settles b Frame.release s t) :
    Released b s t := by
  refine ⟨settles.wall, ?_, tally_settles settles⟩
  rw [settles.calls, List.filter_append, filter_spent_self, List.append_nil]

namespace Released

variable {b k : FrameId} {s s' t t' : Stage}

theorem monitors (rel : Released b s t) : t.wall.monitors = s.wall.monitors := by
  rw [rel.wall]
  rfl

theorem monitor? (rel : Released b s t) (id : MonitorId) : t.monitor? id = s.monitor? id := by
  rw [Stage.monitor?, rel.monitors]
  rfl

theorem nextFrame (rel : Released b s t) : t.wall.nextFrame = s.wall.nextFrame := by
  rw [rel.wall]
  rfl

theorem nextSurface (rel : Released b s t) : t.wall.nextSurface = s.wall.nextSurface := by
  rw [rel.wall]
  rfl

/-! ### Steps -/

theorem note (rel : Released b s t) (l l' : Log.Line) : Released b (s.note l) (t.note l') :=
  ⟨rel.wall, rel.others, rel.tally⟩

theorem call (rel : Released b s t) (c : Call) : Released b (s.call c) (t.call c) := by
  refine ⟨rel.wall, ?_, ?_⟩
  · simp only [Stage.call, List.filter_append, rel.others]
  · rw [tally_call, tally_call, rel.tally]

/-- A change of the wall that has nothing to do with slots. -/
theorem onWall (rel : Released b s t) (change : Wall → Wall)
    (frames : ∀ w, (change w).frames = w.frames)
    (comm : ∀ w, change (w.changeFrame b Frame.release) =
      (change w).changeFrame b Frame.release) :
    Released b { s with wall := change s.wall } { t with wall := change t.wall } := by
  have tally := rel.tally
  refine ⟨?_, rel.others, ?_⟩
  · rw [rel.wall, comm]
  · simp only [Stage.tally, frames] at tally ⊢
    exact tally

theorem putMonitor (rel : Released b s t) (id : MonitorId) (m : Monitor) :
    Released b (s.putMonitor id m) (t.putMonitor id m) :=
  rel.onWall (·.putMonitor id m) (fun _ => rfl) fun _ => rfl

theorem dropMonitor (rel : Released b s t) (id : MonitorId) :
    Released b (s.dropMonitor id) (t.dropMonitor id) :=
  rel.onWall (·.dropMonitor id) (fun _ => rfl) fun _ => rfl

theorem modifyMonitor (rel : Released b s t) (id : MonitorId) (f : Monitor → Monitor) :
    Released b (s.modifyMonitor id f) (t.modifyMonitor id f) :=
  rel.onWall (·.modifyMonitor id f) (fun _ => rfl) fun _ => rfl

theorem putFrame (rel : Released b s t) (other : k ≠ b) (slot : Frame) :
    Released b (s.putFrame k slot) (t.putFrame k slot) := by
  have tally := rel.tally
  refine ⟨?_, rel.others, ?_⟩
  · simp only [Stage.putFrame, rel.wall, changeFrame, Table.insert_change_comm _ other]
  · simp only [Stage.tally, Stage.putFrame, Table.count_keys, Table.find?_insert,
      if_neg other] at tally ⊢
    exact tally

theorem settles {change : Frame → Option Frame} (rel : Released b s t)
    (comm : ∀ slot, (change slot).bind Frame.release = slot.release.bind change)
    (early : Settles k change t t') (late : Settles k change s s') : Released b s' t' := by
  refine ⟨?_, ?_, by rw [tally_settles early, tally_settles late, rel.tally]⟩
  · rw [early.wall, late.wall, rel.wall]
    simp only [changeFrame, Table.change_comm s.wall.frames (k := k) (j := b) fun _ => comm]
  · rw [early.calls, late.calls, List.filter_append, List.filter_append, rel.others]
    by_cases hk : k = b
    · rw [hk, filter_spent_self, filter_spent_self]
    · have : t.wall.frame? k = s.wall.frame? k := by
        rw [rel.wall]
        simp [changeFrame, Wall.frame?, Table.find?_change, Ne.symm hk]
      simp only [spent, this]

theorem retire (rel : Released b s t) (k : FrameId) : Released b (s.retire k) (t.retire k) :=
  rel.settles Frame.retire_release (settles_retire k t) (settles_retire k s)

theorem retireOption (rel : Released b s t) (o : Option FrameId) :
    Released b (s.retireOption o) (t.retireOption o) := by
  cases o with
  | none => exact rel
  | some k => exact rel.retire k

theorem released (rel : Released b s t) (k : FrameId) :
    Released b (s.released k) (t.released k) :=
  rel.settles (fun _ => rfl) (settles_released k t) (settles_released k s)

theorem destroySurface (rel : Released b s t) (o : Option SurfaceId) :
    Released b (s.destroySurface o) (t.destroySurface o) := by
  cases o with
  | none => exact rel
  | some surface => exact rel.call _

/-! ### Parts of operations -/

theorem configure (rel : Released b s t) (id : MonitorId) (serial : UInt32) (size : Extent) :
    (t.configure id serial size).1 = (s.configure id serial size).1 ∧
      Released b (s.configure id serial size).2 (t.configure id serial size).2 := by
  rw [Stage.configure, Stage.configure, rel.monitor?]
  split
  · exact ⟨rfl, rel⟩
  · rename_i m _
    split
    · exact ⟨rfl, rel⟩
    · refine ⟨rfl, ?_⟩
      cases m.phase.onConfigure m.size size with
      | recommit => exact ((rel.call _).note _ _).call _
      | resize size => exact ((rel.call _).note _ _).putMonitor _ _
      | ignore => exact (rel.call _).note _ _

theorem closed (rel : Released b s t) (id : MonitorId) :
    Released b (s.closed id) (t.closed id) := by
  rw [Stage.closed, Stage.closed, rel.monitor?]
  cases s.monitor? id with
  | none => exact rel
  | some m => exact (((rel.note _ _).destroySurface _).putMonitor _ _).retireOption _

theorem removeMonitor (rel : Released b s t) (id : MonitorId) (m : Monitor) :
    Released b (s.removeMonitor id m) (t.removeMonitor id m) :=
  ((((rel.dropMonitor id).note _ _).destroySurface _).retireOption _).call _

theorem removeGlobal (rel : Released b s t) (globalName : UInt32) :
    (t.removeGlobal globalName).1 = (s.removeGlobal globalName).1 ∧
      Released b (s.removeGlobal globalName).2 (t.removeGlobal globalName).2 := by
  have same : t.wall.findGlobal globalName = s.wall.findGlobal globalName := by
    rw [findGlobal, rel.monitors]
    rfl
  rw [Stage.removeGlobal, Stage.removeGlobal, same]
  split
  · exact ⟨rfl, rel⟩
  · rename_i id _
    rw [rel.monitor?]
    split
    · exact ⟨rfl, rel⟩
    · exact ⟨rfl, rel.removeMonitor id _⟩

theorem clearOn (rel : Released b s t) (id : MonitorId) :
    (t.clearOn id).1 = (s.clearOn id).1 ∧ Released b (s.clearOn id).2 (t.clearOn id).2 := by
  rw [Stage.clearOn, Stage.clearOn, rel.monitor?]
  split
  · exact ⟨rfl, rel⟩
  · split
    · exact ⟨rfl, rel⟩
    · split
      · exact ⟨rfl, rel.note _ _⟩
      · refine ⟨rfl, ?_⟩
        rw [Stage.clearFrame, Stage.clearFrame]
        split
        · exact ((((rel.call _).call _).putMonitor _ _).note _ _).retire _
        · exact (rel.putMonitor _ _).retire _

theorem foldl_tearDownMonitor (rel : Released b s t) (ms : List Monitor) :
    Released b (ms.foldl Stage.tearDownMonitor s) (ms.foldl Stage.tearDownMonitor t) := by
  induction ms generalizing s t with
  | nil => exact rel
  | cons m ms ih => exact ih ((rel.destroySurface _).call _)

theorem shutdown (rel : Released b s t) : Released b s.shutdown t.shutdown := by
  have torn := rel.foldl_tearDownMonitor s.wall.monitors.values
  refine ⟨?_, ?_, ?_⟩
  · rw [Stage.wall_shutdown, Stage.wall_shutdown, rel.wall]
    rfl
  · have keys : (t.wall.frames.keys.map Call.free).filter (· ≠ .free b) =
        (s.wall.frames.keys.map Call.free).filter (· ≠ .free b) := by
      have kept : ∀ ks : List FrameId, (ks.map Call.free).filter (· ≠ .free b) =
          (ks.filter (· ≠ b)).map Call.free := fun ks => by
        rw [List.filter_map]
        exact congrArg _ (List.filter_congr fun k _ => by simp)
      rw [kept, kept, rel.wall, changeFrame, Table.filter_keys_change]
    rw [Stage.calls_shutdown, Stage.calls_shutdown, List.filter_append, List.filter_append, keys,
      rel.monitors, torn.others]
  · rw [tally_shutdown, tally_shutdown, rel.monitors, torn.tally]

end Released

/-! ## What is asked of the display server -/

def Call.isFree : Call → Bool
  | .free _ => true
  | _ => false

/-- The answers do not depend on what was freed before. -/
def Backend.Careless (B : Backend) : Prop :=
  ∀ past past', past.filter (!·.isFree) = past'.filter (!·.isFree) → B past = B past'

/-- Two stretches of calls: `d` answers from `t` to `t'` and `d'` from `s` to `s'` as the display
server does, and no memory is given for `b`. -/
structure Answered (B : Backend) (b : FrameId) (d d' : Display) (s s' t t' : Stage) : Prop where
  early : B.Answers d t t'
  late : B.Answers d' s s'
  spare : Between (fun _ c => ∀ size, c ≠ .allocate b size) s s'

namespace Answered

variable {B : Backend} {b : FrameId} {d d' : Display} {s s₁ s' t t₁ t' : Stage}

theorem left (answered : Answered B b d d' s s' t t')
    (late : ∃ cs, s'.calls = s₁.calls ++ cs) (early : ∃ cs, t'.calls = t₁.calls ++ cs) :
    Answered B b d d' s s₁ t t₁ := by
  obtain ⟨_, late⟩ := late
  obtain ⟨_, early⟩ := early
  exact ⟨answered.early.left early, answered.late.left late, answered.spare.left late⟩

theorem right (answered : Answered B b d d' s s' t t')
    (late : ∃ cs, s₁.calls = s.calls ++ cs) (early : ∃ cs, t₁.calls = t.calls ++ cs) :
    Answered B b d d' s₁ s' t₁ t' := by
  obtain ⟨_, late⟩ := late
  obtain ⟨_, early⟩ := early
  exact ⟨answered.early.right early, answered.late.right late, answered.spare.right late⟩

end Answered

namespace Released

variable {B : Backend} {b : FrameId} {d d' : Display} {s t : Stage}

/-- A careless display server gives the same answers on both sides. -/
theorem same (rel : Released b s t) (careless : B.Careless) : B t.calls = B s.calls := by
  have others : ∀ cs : List Call, (cs.filter (· ≠ .free b)).filter (!·.isFree) =
      cs.filter (!·.isFree) := by
    intro cs
    rw [List.filter_filter]
    refine List.filter_congr fun c _ => ?_
    cases c <;> simp [Call.isFree]
  refine careless _ _ ?_
  rw [← others, rel.others, others]

theorem ensureSurface (rel : Released b s t) (careless : B.Careless) {id : MonitorId}
    (ready : d.ready = d'.ready)
    (answered : Answered B b d d' s (s.ensureSurface d' id) t (t.ensureSurface d id)) :
    Released b (s.ensureSurface d' id) (t.ensureSurface d id) := by
  have refusal : ∀ {m}, d'.ready id = true → s.monitor? id = some m → m.phase = .uncreated →
      d.surfaceRefusal id = d'.surfaceRefusal id := by
    intro m hr found bare
    rw [answered.early.refusal (ready ▸ hr) ((rel.monitor? id).trans found) bare,
      answered.late.refusal hr found bare, rel.same careless]
  rw [Stage.ensureSurface, Stage.ensureSurface, rel.monitor?, ready]
  split
  · rename_i hr
    split
    · exact rel
    · rename_i m found
      split
      · rename_i bare
        rw [refusal hr found bare]
        split
        · simp only [Stage.createSurface, rel.nextSurface]
          have claimed := rel.onWall (fun w => { w with nextSurface := s.wall.nextSurface + 1 })
            (fun _ => rfl) fun _ => rfl
          exact ((claimed.call _).putMonitor _ _).note _ _
        · exact (rel.call _).note _ _
      · exact rel
  · exact rel.note _ _

theorem foldl_ensureSurface (careless : B.Careless) (ready : d.ready = d'.ready)
    (ids : List MonitorId) {s t : Stage} (rel : Released b s t)
    (answered : Answered B b d d' s (ids.foldl (fun s id => s.ensureSurface d' id) s)
      t (ids.foldl (fun s id => s.ensureSurface d id) t)) :
    Released b (ids.foldl (fun s id => s.ensureSurface d' id) s)
      (ids.foldl (fun s id => s.ensureSurface d id) t) := by
  induction ids generalizing s t with
  | nil => exact rel
  | cons id ids ih =>
    have one := rel.ensureSurface careless ready
      (answered.left (Stage.calls_foldl_ensureSurface d' ids _)
        (Stage.calls_foldl_ensureSurface d ids _))
    exact ih one (answered.right (Stage.calls_ensureSurface d' id s)
      (Stage.calls_ensureSurface d id t))

theorem fillFrame (rel : Released b s t) {k : FrameId} (other : k ≠ b) (id : MonitorId)
    (m : Monitor) (size : Extent) (memory pixels : Array UInt8) (extent : Extent)
    (filter : Filter) :
    (t.fillFrame id m k size memory pixels extent filter).1 =
        (s.fillFrame id m k size memory pixels extent filter).1 ∧
      Released b (s.fillFrame id m k size memory pixels extent filter).2
        (t.fillFrame id m k size memory pixels extent filter).2 := by
  rw [Stage.fillFrame, Stage.fillFrame]
  split
  · exact ⟨rfl, rel.call _⟩
  · split
    · exact ⟨rfl, rel.call _⟩
    · refine ⟨rfl, ?_⟩
      exact ((((rel.call _).putMonitor _ _).note _ _).putFrame other _).retireOption _

theorem drawFrame (rel : Released b s t) (careless : B.Careless) {id : MonitorId} {m : Monitor}
    {pixels : Array UInt8} {extent : Extent} {filter : Filter}
    (answered : Answered B b d d' s (s.drawFrame d' id m pixels extent filter).2
      t (t.drawFrame d id m pixels extent filter).2) :
    (t.drawFrame d id m pixels extent filter).1 = (s.drawFrame d' id m pixels extent filter).1 ∧
      Released b (s.drawFrame d' id m pixels extent filter).2
        (t.drawFrame d id m pixels extent filter).2 := by
  have allocation : d.allocate s.wall.nextFrame m.frameSize =
      d'.allocate s.wall.nextFrame m.frameSize := by
    rw [answered.late.allocation, ← rel.same careless, ← rel.nextFrame, answered.early.allocation]
  have claimed := rel.onWall (fun w => { w with nextFrame := s.wall.nextFrame + 1 })
    (fun _ => rfl) fun _ => rfl
  cases allocated : d'.allocate s.wall.nextFrame m.frameSize with
  | error e =>
    simp only [Stage.drawFrame, rel.nextFrame, allocation, allocated]
    exact ⟨trivial, claimed.call _⟩
  | ok memory =>
    obtain ⟨cs, calls⟩ := Stage.calls_drawFrame id pixels extent filter allocated
    have other : s.wall.nextFrame ≠ b := by
      rintro rfl
      exact answered.spare.first calls m.frameSize rfl
    simp only [Stage.drawFrame, rel.nextFrame, allocation, allocated]
    exact (claimed.call _).fillFrame other id m m.frameSize memory pixels extent filter

theorem drawOn (rel : Released b s t) (careless : B.Careless) {id : MonitorId}
    {pixels : Array UInt8} {extent : Extent} {filter : Filter}
    (answered : Answered B b d d' s (s.drawOn d' id pixels extent filter).2
      t (t.drawOn d id pixels extent filter).2) :
    (t.drawOn d id pixels extent filter).1 = (s.drawOn d' id pixels extent filter).1 ∧
      Released b (s.drawOn d' id pixels extent filter).2
        (t.drawOn d id pixels extent filter).2 := by
  cases found : s.monitor? id with
  | none =>
    simp only [Stage.drawOn, rel.monitor?, found]
    exact ⟨trivial, rel⟩
  | some m =>
    cases ready : m.phase.isDrawable with
    | false =>
      simp only [Stage.drawOn, rel.monitor?, found, ready, Bool.false_eq_true, if_false]
      exact ⟨trivial, rel.note _ _⟩
    | true =>
      obtain ⟨verdict, drawn⟩ := rel.drawFrame careless
        ⟨answered.early.drawFrame ((rel.monitor? id).trans found) ready,
          answered.late.drawFrame found ready, answered.spare.drawFrame found ready⟩
      simp only [Stage.drawOn, rel.monitor?, found, ready, if_true]
      generalize s.drawFrame d' id m pixels extent filter = late at verdict drawn ⊢
      generalize t.drawFrame d id m pixels extent filter = early at verdict drawn ⊢
      obtain ⟨v, s'⟩ := late
      obtain ⟨_, t'⟩ := early
      cases verdict
      cases v with
      | ok v => exact ⟨rfl, drawn⟩
      | error e => exact ⟨rfl, drawn.note _ _⟩

theorem applyOn (rel : Released b s t) (careless : B.Careless) {content : Content}
    {filter : Filter} {id : MonitorId}
    (answered : Answered B b d d' s (s.applyOn d' content filter id).2
      t (t.applyOn d content filter id).2) :
    (t.applyOn d content filter id).1 = (s.applyOn d' content filter id).1 ∧
      Released b (s.applyOn d' content filter id).2 (t.applyOn d content filter id).2 := by
  cases content with
  | clear => exact rel.clearOn id
  | image pixels extent => exact rel.drawOn careless answered

theorem applyAll (careless : B.Careless) (content : Content) (filter : Filter)
    (ids : List MonitorId) (r : Report) {s t : Stage} (rel : Released b s t)
    (answered : Answered B b d d' s (Stage.applyAll d' content filter ids r s).2
      t (Stage.applyAll d content filter ids r t).2) :
    (Stage.applyAll d content filter ids r t).1 = (Stage.applyAll d' content filter ids r s).1 ∧
      Released b (Stage.applyAll d' content filter ids r s).2
        (Stage.applyAll d content filter ids r t).2 := by
  induction ids generalizing r s t with
  | nil => exact ⟨rfl, rel⟩
  | cons id ids ih =>
    obtain ⟨verdict, one⟩ := rel.applyOn careless
      (answered.left (Stage.calls_applyAll d' content filter ids _ _)
        (Stage.calls_applyAll d content filter ids _ _))
    have rest := answered.right (Stage.calls_applyOn d' content filter id s)
      (Stage.calls_applyOn d content filter id t)
    simp only [Stage.applyAll, verdict] at rest ⊢
    exact ih _ one rest

theorem noteUnmatched (rel : Released b s t) (target : Option String) (matched : Nat) :
    Released b (s.noteUnmatched target matched) (t.noteUnmatched target matched) := by
  unfold Stage.noteUnmatched
  split
  · exact rel.note _ _
  · exact rel

theorem perform (rel : Released b s t) (careless : B.Careless) {op : Operation}
    (early : B.Gives d op t) (late : B.Gives d' op s) (spare : b ∉ given (s.turn d' op)) :
    (t.perform d op).1 = (s.perform d' op).1 ∧
      Released b (s.perform d' op).2 (t.perform d op).2 := by
  have ready : d.ready = d'.ready := by rw [early.ready, late.ready, rel.same careless]
  have answered : Answered B b d d' s (s.perform d' op).2 t (t.perform d op).2 :=
    ⟨early.answers, late.answers, .ofTurn fun c hc size h => spare (mem_given.mpr ⟨size, h ▸ hc⟩)⟩
  cases op with
  | reserve =>
    refine ⟨?_, rel.onWall (·.claimMonitor) (fun _ => rfl) fun _ => rfl⟩
    exact congrArg (Outcome.reserved ·.nextMonitor) rel.wall
  | insert id globalName handle =>
    exact ⟨rfl, ((rel.note _ _).putMonitor _ _).ensureSurface careless ready
      ⟨answered.early, answered.late, answered.spare⟩⟩
  | createMissing =>
    refine ⟨rfl, ?_⟩
    simp only [Stage.perform, Stage.createMissing, rel.monitors] at answered ⊢
    exact foldl_ensureSurface careless ready _ rel answered
  | setMode id mode => exact ⟨rfl, rel.modifyMonitor _ _⟩
  | setScale id scale => exact ⟨rfl, rel.modifyMonitor _ _⟩
  | setLabel id label => exact ⟨rfl, rel.modifyMonitor _ _⟩
  | done id =>
    refine ⟨rfl, ?_⟩
    simp only [Stage.perform, Stage.done, rel.monitor?] at answered ⊢
    split at answered
    · exact rel.ensureSurface careless ready answered
    · exact (rel.note _ _).ensureSurface careless ready
        ⟨answered.early, answered.late, answered.spare⟩
  | configure id serial size =>
    obtain ⟨action, configured⟩ := rel.configure id serial size
    exact ⟨congrArg Outcome.configured action, configured⟩
  | closed id => exact ⟨rfl, rel.closed id⟩
  | released k => exact ⟨rfl, rel.released k⟩
  | removeGlobal globalName =>
    obtain ⟨found, removed⟩ := rel.removeGlobal globalName
    exact ⟨congrArg Outcome.removed found, removed⟩
  | apply target content filter =>
    have meant : t.wall.targets target = s.wall.targets target := by
      rw [targets, rel.monitors]
      rfl
    simp only [Stage.perform, Stage.apply, meant] at answered ⊢
    have unnoted : ∀ s' : Stage, ∃ cs,
        (s'.noteUnmatched target (s.wall.targets target).length).calls = s'.calls ++ cs :=
      fun _ => ⟨[], by simp⟩
    obtain ⟨report, served⟩ := applyAll careless content filter (s.wall.targets target) _ rel
      (answered.left (unnoted _) (unnoted _))
    exact ⟨congrArg Outcome.applied report, served.noteUnmatched _ _⟩
  | shutdown => exact ⟨rfl, rel.shutdown⟩

end Released

/-! ## Runs -/

/-- Two ends that differ in nothing but the place of one call, which is made at most once. -/
structure Confluent (b : FrameId) (early late : Outcome × Stage) : Prop where
  outcome : early.1 = late.1
  wall : early.2.wall = late.2.wall
  others : early.2.calls.filter (· ≠ .free b) = late.2.calls.filter (· ≠ .free b)
  frees : early.2.calls.count (.free b) = late.2.calls.count (.free b)
  once : early.2.calls.count (.free b) ≤ 1
  /-- What was given is freed or has its slot. -/
  kept : ∀ size, .allocate b size ∈ early.2.calls →
    (.free b ∈ early.2.calls ↔ early.2.wall.frame? b = none)

/-- After a release on both sides nothing but the place of one call is different. -/
theorem Released.settled {b : FrameId} {s t : Stage} (rel : Released b s t) :
    t.wall = (s.released b).wall ∧
      t.calls.filter (· ≠ .free b) = (s.released b).calls.filter (· ≠ .free b) ∧
      t.calls.count (.free b) = (s.released b).calls.count (.free b) := by
  have settles := settles_released b s
  have wall : t.wall = (s.released b).wall := by rw [rel.wall, settles.wall]
  have tally := rel.tally.trans (tally_settles (b := b) settles).symm
  refine ⟨wall, ?_, ?_⟩
  · rw [rel.others, settles.calls, List.filter_append, filter_spent_self, List.append_nil]
  · simp only [Stage.tally, wall] at tally
    omega

theorem Stage.Orderly.insertRelease {d d' : Display} {op : Operation} {b : FrameId}
    {unused : List MonitorId} {s : Stage} {ops : List (Display × Operation)}
    (orderly : s.Orderly unused (ops ++ [(d', op)])) :
    s.Orderly unused (ops ++ [(d, .released b), (d, op)]) := by
  induction ops generalizing unused s with
  | nil => exact ⟨fun _ h => (nomatch h), orderly.1, trivial⟩
  | cons p ops ih => exact ⟨orderly.1, ih orderly.2⟩

theorem count_free_callsOf (h : List Event) (b : FrameId) :
    (callsOf h).count (.free b) = (freed h).count b := by
  induction h with
  | nil => rfl
  | cons e h ih =>
    unfold freed at ih ⊢
    cases e with
    | operation op => exact ih
    | call c => cases c <;> simp [List.filterMap_cons, List.count_cons, ih]

/-- A run frees a frame once or not at all; what was given and not freed has its slot. -/
theorem freed_run {ops : List (Display × Operation)} (orderly : Stage.empty.Orderly [] ops)
    (b : FrameId) :
    (Stage.empty.run ops).calls.count (.free b) ≤ 1 ∧
      ∀ size, .allocate b size ∈ (Stage.empty.run ops).calls →
        (.free b ∈ (Stage.empty.run ops).calls ↔ (Stage.empty.run ops).wall.frame? b = none) := by
  have ledger := ledger_run orderly
  have calls : (Stage.empty.run ops).calls = callsOf (Stage.empty.timeline ops) := by
    rw [Stage.calls_run]
    rfl
  rw [calls, count_free_callsOf]
  refine ⟨List.nodup_iff_count_le_one.mp (nodup_freed ledger.rule) b, fun size asked => ?_⟩
  have live := ledger.live_iff b
  rw [mem_callsOf] at asked ⊢
  rw [← mem_freed, ← Option.not_isSome_iff_eq_none, Option.isSome_iff_exists, live]
  simp [mem_given.mpr ⟨size, asked⟩]

/-- Releasing a frame before or after an operation is the same, whatever the operation is, unless it
is the operation that the memory of the frame is given in. -/
theorem confluent_run {ops : List (Display × Operation)} {X : Operation} {b : FrameId}
    {B : Backend} {d d' : Display} (orderly : Stage.empty.Orderly [] (ops ++ [(d', X)]))
    (careless : B.Careless) (early : B.Gives d X ((Stage.empty.run ops).released b))
    (late : B.Gives d' X (Stage.empty.run ops))
    (spare : b ∉ given ((Stage.empty.run ops).turn d' X)) :
    Confluent b (((Stage.empty.run ops).released b).perform d X)
      (((Stage.empty.run ops).perform d' X).1,
        ((Stage.empty.run ops).perform d' X).2.released b) := by
  obtain ⟨outcome, rel⟩ :=
    (settles_released b (Stage.empty.run ops)).released.perform careless early late spare
  obtain ⟨wall, others, frees⟩ := rel.settled
  have run : (((Stage.empty.run ops).released b).perform d X).2 =
      Stage.empty.run (ops ++ [(d, .released b), (d, X)]) := by
    rw [Stage.run_append]
    rfl
  obtain ⟨once, kept⟩ := freed_run (orderly.insertRelease (d := d) (b := b)) b
  rw [← run] at once kept
  exact ⟨outcome, wall, others, frees, once, kept⟩

/-- A picture is replaced, and the frame of the old one released. -/
theorem confluent_run_rehearsed :
    let d := (⟨true, false, false, []⟩ : Rehearsal).display
    let s := Stage.empty.run (rehearsed.take 5)
    let X := Operation.apply none (.image #[1, 2, 3, 4] ⟨1, 1⟩) .nearest
    Stage.empty.Orderly [] (rehearsed.take 5 ++ [(d, X)]) ∧ 0 ∉ given (s.turn d X) ∧
      Confluent 0 ((s.released 0).perform d X) ((s.perform d X).1, (s.perform d X).2.released 0) ∧
      .free 0 ∈ ((s.released 0).perform d X).2.calls := by
  refine ⟨by decide, by decide, ?_, by decide⟩
  exact confluent_run (B := fun _ => (⟨true, false, false, []⟩ : Rehearsal).display) (by decide)
    (fun _ _ _ => rfl) (Backend.gives_const _ _ _) (Backend.gives_const _ _ _) (by decide)

end Wall
end Backdrop

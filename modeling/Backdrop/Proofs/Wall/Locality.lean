import Backdrop.Proofs.Wall.Broadcast
import Backdrop.Proofs.Wall.Handshake

/-!
# Backdrop.Proofs.Wall.Locality

What an operation leaves alone.

* `Operation.Addresses` says which monitors an operation is about.
* `Reach` is what an operation may touch: monitors, surfaces, frames and handles. `Operation.reach`
  has what belongs to the monitors that are addressed, and what does not belong to any.
* `Within R s s'`: between the stages `s` and `s'` nothing outside `R` was touched or named. There
  is one lemma for each part of an operation.
* `local_run` is about all operations of all runs. It adds which operations change what a monitor
  shows.
-/

namespace Backdrop
namespace Wall

/-- The monitors that an operation is about. -/
def Operation.Addresses (op : Operation) (w : Wall) (id : MonitorId) : Prop :=
  match op with
  | .reserve => False
  | .insert j _ _ => j = id
  | .createMissing => ∃ m, w.monitor? id = some m ∧ m.phase = .uncreated
  | .setMode j _ => j = id
  | .setScale j _ => j = id
  | .setLabel j _ => j = id
  | .done j => j = id
  | .configure j _ _ => j = id
  | .closed j => j = id
  | .released f => w.shown? id = some f
  | .removeGlobal globalName => ∃ m, w.monitor? id = some m ∧ m.globalName = globalName
  | .apply target _ _ => ∃ m, w.monitor? id = some m ∧ m.matchesTarget target = true
  | .shutdown => True

namespace Event

/-- The frame that an event names. -/
@[simp] def frame? : Event → Option FrameId
  | .call (.allocate f _) => some f
  | .call (.allocateFailed f _) => some f
  | .call (.attach _ f _ _ _) => some f
  | .call (.free f) => some f
  | _ => none

/-- The handle that an event names. -/
@[simp] def handle? : Event → Option Nat
  | .call (.createSurface _ handle _) => some handle
  | .call (.createSurfaceFailed _ handle) => some handle
  | .call (.releaseOutput handle) => some handle
  | _ => none

end Event

/-! ## Reach -/

structure Reach where
  monitor : MonitorId → Prop
  surface : SurfaceId → Prop
  frame : FrameId → Prop
  handle : Nat → Prop

namespace Reach

structure Has (R : Reach) (m : Monitor) : Prop where
  surface : ∀ k ∈ m.surface, R.surface k
  frame : ∀ f ∈ m.frame, R.frame f
  handle : R.handle m.handle

def Allows (R : Reach) (c : Call) : Prop :=
  (∀ k ∈ (Event.call c).surface?, R.surface k) ∧ (∀ f ∈ (Event.call c).frame?, R.frame f) ∧
    ∀ handle ∈ (Event.call c).handle?, R.handle handle

end Reach

/-- What belongs to no other monitors than those that are addressed. -/
def Operation.reach (op : Operation) (w : Wall) : Reach where
  monitor := op.Addresses w
  surface k := ∀ id m, w.monitor? id = some m → m.surface = some k → op.Addresses w id
  frame f := op = .released f ∨ ∀ slot, w.frame? f = some slot → op.Addresses w slot.owner
  handle handle := op.inserted? = none →
    ∃ id m, op.Addresses w id ∧ w.monitor? id = some m ∧ m.handle = handle

structure Within (R : Reach) (s s' : Stage) : Prop where
  others : ∀ {id}, ¬ R.monitor id → s'.wall.monitor? id = s.wall.monitor? id
  has : ∀ {id m}, R.monitor id → s'.wall.monitor? id = some m → R.Has m
  slots : ∀ {f}, ¬ R.frame f → s'.wall.frame? f = s.wall.frame? f
  /-- Slots are made for monitors that may be touched, and keep their owners. -/
  owners : ∀ {f slot}, s'.wall.frame? f = some slot →
    R.monitor slot.owner ∨ ∃ slot', s.wall.frame? f = some slot' ∧ slot'.owner = slot.owner
  surfaces : ∀ {k}, s'.wall.nextSurface ≤ k → R.surface k
  frames : ∀ {f}, s'.wall.nextFrame ≤ f → R.frame f
  calls : ∃ cs, s'.calls = s.calls ++ cs ∧ ∀ c ∈ cs, R.Allows c

theorem globalName_of_findGlobal {w : Wall} {globalName : UInt32} {id : MonitorId} {m : Monitor}
    (named : w.findGlobal globalName = some id) (found : w.monitor? id = some m) :
    m.globalName = globalName := by
  obtain ⟨m', found', this⟩ := Table.exists_of_findKey named
  cases found.symm.trans found'
  simpa using this

namespace Within

variable {R : Reach} {s s' : Stage} {id : MonitorId} {m : Monitor} {f : FrameId} {slot : Frame}

theorem congr {s'' : Stage} (within : Within R s s') (wall : s''.wall = s'.wall)
    (calls : s''.calls = s'.calls) : Within R s s'' := by
  obtain ⟨w, cs, notes⟩ := s''
  cases wall
  cases calls
  exact { within with }

theorem note (within : Within R s s') (l : Log.Line) : Within R s (s'.note l) :=
  within.congr rfl rfl

theorem call (within : Within R s s') {c : Call} (allowed : R.Allows c) :
    Within R s (s'.call c) := by
  obtain ⟨cs, calls, all⟩ := within.calls
  refine { within with calls := ⟨cs ++ [c], ?_, ?_⟩ }
  · simp [Stage.call, calls]
  · simpa [or_imp, forall_and] using ⟨all, allowed⟩

theorem putMonitor (within : Within R s s') (mine : R.monitor id) (has : R.Has m) :
    Within R s (s'.putMonitor id m) := by
  refine { within with others := fun {j} other => ?_, has := fun {j m'} hj hm' => ?_ }
  · have : id ≠ j := fun e => other (e ▸ mine)
    exact (monitor?_putMonitor _ _ _ _).trans ((if_neg this).trans (within.others other))
  · rcases monitor?_of_putMonitor (w := s'.wall) hm' with ⟨_, rfl⟩ | ⟨_, hm'⟩
    · exact has
    · exact within.has hj hm'

theorem dropMonitor (within : Within R s s') (mine : R.monitor id) :
    Within R s (s'.dropMonitor id) := by
  refine { within with others := fun {j} other => ?_, has := fun {j m'} hj hm' => ?_ }
  · have : id ≠ j := fun e => other (e ▸ mine)
    exact (monitor?_dropMonitor _ _ _).trans ((if_neg this).trans (within.others other))
  · exact within.has hj (monitor?_of_dropMonitor (w := s'.wall) hm').2

theorem putFrame (within : Within R s s') (mine : R.frame f)
    (owner : R.monitor slot.owner ∨
      ∃ slot', s.wall.frame? f = some slot' ∧ slot'.owner = slot.owner) :
    Within R s (s'.putFrame f slot) := by
  refine { within with slots := fun {k} other => ?_, owners := fun {k slot'} hk => ?_ }
  · have : f ≠ k := fun e => other (e ▸ mine)
    exact (frame?_putFrame _ _ _ _).trans ((if_neg this).trans (within.slots other))
  · rcases frame?_of_putFrame (w := s'.wall) hk with ⟨rfl, rfl⟩ | ⟨_, hk⟩
    · exact owner
    · exact within.owners hk

theorem freeFrame (within : Within R s s') (mine : R.frame f) : Within R s (s'.freeFrame f) := by
  have erased : Within R s { s' with wall := s'.wall.dropFrame f } := by
    refine { within with slots := fun {k} other => ?_, owners := fun {k slot'} hk => ?_ }
    · have : f ≠ k := fun e => other (e ▸ mine)
      exact (frame?_dropFrame _ _ _).trans ((if_neg this).trans (within.slots other))
    · exact within.owners (frame?_of_dropFrame (w := s'.wall) hk).2
  exact erased.call (by simp [Reach.Allows, mine])

theorem claimSurface (within : Within R s s') :
    Within R s { s' with wall := s'.wall.claimSurface } :=
  { within with surfaces := fun h => within.surfaces (Nat.le_of_succ_le h) }

theorem claimFrame (within : Within R s s') : Within R s { s' with wall := s'.wall.claimFrame } :=
  { within with frames := fun h => within.frames (Nat.le_of_succ_le h) }

/-! ### Parts of operations -/

theorem retireOption (within : Within R s s') {o : Option FrameId} (mine : ∀ f ∈ o, R.frame f) :
    Within R s (s'.retireOption o) := by
  cases o with
  | none => exact within
  | some f =>
    have mine := mine f rfl
    simp only [Stage.retireOption, Stage.retire]
    split
    · exact within
    · rename_i slot found
      have owner := within.owners found
      split
      · exact within.putFrame mine owner
      · exact within.freeFrame mine

theorem destroySurface (within : Within R s s') {o : Option SurfaceId}
    (mine : ∀ k ∈ o, R.surface k) : Within R s (s'.destroySurface o) := by
  cases o with
  | none => exact within
  | some k => exact within.call (by simp [Reach.Allows, mine k rfl])

theorem ensureSurface (within : Within R s s') (d : Display) (mine : R.monitor id) :
    Within R s (s'.ensureSurface d id) := by
  unfold Stage.ensureSurface
  split
  · split
    · exact within
    · rename_i m found
      have has := within.has mine found
      have fresh := within.surfaces (Nat.le_refl _)
      split
      · split
        · refine ((within.claimSurface.call ?_).putMonitor mine ?_).note _
          · simp [Reach.Allows, has.handle, fresh]
          · exact ⟨by simpa using fresh, has.frame, has.handle⟩
        · exact (within.call (by simp [Reach.Allows, has.handle])).note _
      · exact within
  · exact within.note _

theorem foldl_ensureSurface (d : Display) (ids : List MonitorId) (within : Within R s s')
    (mine : ∀ id ∈ ids, R.monitor id) :
    Within R s (ids.foldl (fun s id => s.ensureSurface d id) s') := by
  induction ids generalizing s' with
  | nil => exact within
  | cons id ids ih =>
    exact ih (within.ensureSurface d (mine id List.mem_cons_self))
      fun j hj => mine j (List.mem_cons_of_mem _ hj)

theorem modifyMonitor (within : Within R s s') (mine : R.monitor id) (change : Monitor → Monitor)
    (has : ∀ m, R.Has m → R.Has (change m)) : Within R s (s'.modifyMonitor id change) := by
  refine { within with others := fun {j} other => ?_, has := fun {j m'} hj hm' => ?_ }
  · have : j ≠ id := fun e => other (e ▸ mine)
    refine (monitor?_modifyMonitor _ _ _ _).trans ?_
    simp [this, within.others other]
  · have hm' := (monitor?_modifyMonitor _ _ _ _).symm.trans hm'
    obtain ⟨m, found, rfl⟩ := Option.map_eq_some_iff.mp hm'
    have old := within.has hj found
    split
    · exact has m old
    · exact old

theorem configure (within : Within R s s') (mine : R.monitor id) (serial : UInt32)
    (size : Extent) : Within R s (s'.configure id serial size).2 := by
  unfold Stage.configure
  split
  · exact within
  · rename_i m found
    have has := within.has mine found
    split
    · exact within
    · rename_i k held
      have acknowledged : Within R s (s'.call (.acknowledge k serial)) :=
        within.call (by simp [Reach.Allows, has.surface k held])
      show Within R s (Stage.configureBy id m k (m.phase.onConfigure m.size size) _)
      cases m.phase.onConfigure m.size size with
      | recommit =>
        exact (acknowledged.note _).call (by simp [Reach.Allows, has.surface k held])
      | resize size => exact (acknowledged.note _).putMonitor mine { has with }
      | ignore => exact acknowledged.note _

theorem closed (within : Within R s s') (mine : R.monitor id) : Within R s (s'.closed id) := by
  unfold Stage.closed
  split
  · exact within
  · rename_i m found
    have has := within.has mine found
    refine (((within.note _).destroySurface has.surface).putMonitor mine ?_).retireOption has.frame
    exact ⟨by simp, by simp, has.handle⟩

theorem released (within : Within R s s') (mine : R.frame f) : Within R s (s'.released f) := by
  unfold Stage.released
  split
  · exact within
  · rename_i slot found
    have owner := within.owners found
    split
    · exact (within.note _).freeFrame mine
    · exact within.putFrame mine owner

theorem removeMonitor (within : Within R s s') (mine : R.monitor id) (has : R.Has m) :
    Within R s (s'.removeMonitor id m) :=
  ((((within.dropMonitor mine).note _).destroySurface has.surface).retireOption has.frame).call
    (by simp [Reach.Allows, has.handle])

theorem clearOn (within : Within R s s') (mine : R.monitor id) :
    Within R s (s'.clearOn id).2 := by
  rcases s'.clearOn_cases id with ⟨wall, calls⟩ | ⟨m, k, f, found, held, shown, cleared⟩
  · exact within.congr wall calls
  · have has := within.has mine found
    have surface := has.surface k held
    have frame : ∀ f' ∈ some f, R.frame f' := by simpa using has.frame f shown
    rw [cleared, Stage.clearFrame]
    split
    · refine Within.retireOption (((within.call ?_).call ?_).putMonitor mine ?_ |>.note _) frame
      · simp [Reach.Allows, surface]
      · simp [Reach.Allows, surface]
      · exact ⟨has.surface, by simp, has.handle⟩
    · refine Within.retireOption (within.putMonitor mine ?_) frame
      exact ⟨has.surface, by simp, has.handle⟩

theorem drawFrame (within : Within R s s') (mine : R.monitor id) (has : R.Has m) (d : Display)
    (pixels : Array UInt8) (extent : Extent) (filter : Filter) :
    Within R s (s'.drawFrame d id m pixels extent filter).2 := by
  have fresh := within.frames (Nat.le_refl _)
  simp only [Stage.drawFrame]
  split
  · exact within.claimFrame.call (by simp [Reach.Allows, fresh])
  · have allocated : Within R s (Stage.call (.allocate s'.wall.nextFrame m.frameSize)
        { s' with wall := s'.wall.claimFrame }) :=
      within.claimFrame.call (by simp [Reach.Allows, fresh])
    simp only [Stage.fillFrame]
    split
    · exact allocated.call (by simp [Reach.Allows, fresh])
    · split
      · exact allocated.call (by simp [Reach.Allows, fresh])
      · rename_i k held
        refine ((((allocated.call ?_).putMonitor mine ?_).note _).putFrame fresh
          (.inl mine)).retireOption has.frame
        · simp [Reach.Allows, has.surface k held, fresh]
        · exact ⟨has.surface, by simpa using fresh, has.handle⟩

theorem drawOn (within : Within R s s') (mine : R.monitor id) (d : Display)
    (pixels : Array UInt8) (extent : Extent) (filter : Filter) :
    Within R s (s'.drawOn d id pixels extent filter).2 := by
  rcases s'.drawOn_cases d id pixels extent filter with ⟨wall, calls⟩ | ⟨m, found, wall, calls⟩
  · exact within.congr wall calls
  · have drawn := within.drawFrame mine (within.has mine found) d pixels extent filter
    exact drawn.congr wall calls

theorem applyAll (d : Display) (content : Content) (filter : Filter) (ids : List MonitorId)
    (r : Report) (within : Within R s s') (mine : ∀ id ∈ ids, R.monitor id) :
    Within R s (Stage.applyAll d content filter ids r s').2 := by
  induction ids generalizing r s' with
  | nil => exact within
  | cons id ids ih =>
    have one : Within R s (s'.applyOn d content filter id).2 := by
      cases content with
      | clear => exact within.clearOn (mine id List.mem_cons_self)
      | image pixels extent =>
        exact within.drawOn (mine id List.mem_cons_self) d pixels extent filter
    exact ih _ one fun j hj => mine j (List.mem_cons_of_mem _ hj)

theorem apply (within : Within R s s') (d : Display) (target : Option String) (content : Content)
    (filter : Filter) (mine : ∀ id ∈ s'.wall.targets target, R.monitor id) :
    Within R s (s'.apply d target content filter).2 := by
  have all := applyAll d content filter (s'.wall.targets target)
    { Report.empty with matched := (s'.wall.targets target).length } within mine
  simp only [Stage.apply, Stage.noteUnmatched]
  split
  · exact all.note _
  · exact all

theorem foldl_tearDownMonitor (ms : List Monitor) (within : Within R s s')
    (has : ∀ m ∈ ms, R.Has m) : Within R s (ms.foldl Stage.tearDownMonitor s') := by
  induction ms generalizing s' with
  | nil => exact within
  | cons m ms ih =>
    have first := has m List.mem_cons_self
    refine ih ?_ fun m' hm' => has m' (List.mem_cons_of_mem _ hm')
    exact (within.destroySurface first.surface).call (by simp [Reach.Allows, first.handle])

/-- Everything may be touched, and is taken down. -/
theorem shutdown (within : Within R s s') (monitor : ∀ id, R.monitor id)
    (frame : ∀ f, R.frame f) : Within R s s'.shutdown := by
  have has : ∀ m ∈ s'.wall.monitors.values, R.Has m := by
    intro m hm
    obtain ⟨⟨id, _⟩, he, rfl⟩ := List.mem_map.mp hm
    exact within.has (monitor id) (Table.find?_eq_some_iff.mpr he)
  obtain ⟨cs, calls, all⟩ := (foldl_tearDownMonitor _ within has).calls
  have wall := Stage.wall_shutdown s'
  refine ⟨fun other => absurd (monitor _) other, fun _ hm => ?_,
    fun other => absurd (frame _) other, fun hslot => ?_, fun h => ?_, fun h => ?_,
    cs ++ s'.wall.frames.keys.map .free, ?_, fun c hc => ?_⟩
  · rw [wall] at hm
    cases hm
  · rw [wall] at hslot
    cases hslot
  · rw [wall] at h
    exact within.surfaces h
  · rw [wall] at h
    exact within.frames h
  · rw [Stage.calls_shutdown, calls, List.append_assoc]
  · rcases List.mem_append.mp hc with hc | hc
    · exact all c hc
    · obtain ⟨f, _, rfl⟩ := List.mem_map.mp hc
      simp [Reach.Allows, frame f]

/-- At the beginning what belongs to the monitors that are addressed belongs to no others. -/
theorem start (op : Operation) (sound : SoundAt (.still s.wall)) :
    Within (op.reach s.wall) s s := by
  refine ⟨fun _ => rfl, fun {id m} mine found => ⟨fun k hk j m' found' hk' => ?_,
    fun f hf => .inr fun slot hslot => ?_, fun _ => ⟨id, m, mine, found, rfl⟩⟩, fun _ => rfl,
    fun {f slot} hslot => .inr ⟨slot, hslot, rfl⟩, fun {k} hk id m found held => ?_,
    fun {f} hf => .inr fun slot hslot => ?_, [], (List.append_nil _).symm,
    fun c hc => (nomatch hc)⟩
  · rw [← sound.monitors.surfaces_apart found found' hk hk']
    exact mine
  · obtain ⟨slot', hslot', rfl, _⟩ := sound.frames.owned (shown?_eq_some_iff.mpr ⟨m, found, hf⟩)
    cases hslot.symm.trans hslot'
    exact mine
  · exact absurd hk (Nat.not_le.mpr (sound.monitors.surface_below found held))
  · exact absurd hf (Nat.not_le.mpr (sound.frames.below hslot))

theorem perform (d : Display) (op : Operation) (sound : SoundAt (.still s.wall)) :
    Within (op.reach s.wall) s (s.perform d op).2 := by
  have start := start op sound
  cases op with
  | reserve => exact { start with }
  | insert id globalName handle =>
    exact ((start.note _).putMonitor rfl ⟨by simp [Monitor.announced], by simp [Monitor.announced],
      fun h => (nomatch h)⟩).ensureSurface d rfl
  | createMissing =>
    refine foldl_ensureSurface d _ start fun id hid => ?_
    obtain ⟨⟨_, m⟩, he, rfl⟩ := List.mem_map.mp hid
    obtain ⟨listed, bare⟩ := List.mem_filter.mp he
    exact ⟨m, Table.find?_eq_some_iff.mpr listed, by simpa using bare⟩
  | setMode id mode => exact start.modifyMonitor rfl _ fun _ has => { has with }
  | setScale id scale => exact start.modifyMonitor rfl _ fun _ has => { has with }
  | setLabel id label => exact start.modifyMonitor rfl _ fun _ has => { has with }
  | done id =>
    simp only [Stage.perform, Stage.done]
    split
    · exact start.ensureSurface d rfl
    · exact (start.note _).ensureSurface d rfl
  | configure id serial size => exact start.configure rfl serial size
  | closed id => exact start.closed rfl
  | released f => exact start.released (.inl rfl)
  | removeGlobal globalName =>
    simp only [Stage.perform, Stage.removeGlobal]
    split
    · exact start
    · rename_i id named
      split
      · exact start
      · rename_i m found
        have mine : (Operation.removeGlobal globalName).Addresses s.wall id :=
          ⟨m, found, globalName_of_findGlobal named found⟩
        exact start.removeMonitor mine (start.has mine found)
  | apply target content filter =>
    exact start.apply d target content filter fun id hid => mem_targets.mp hid
  | shutdown => exact start.shutdown (fun _ => trivial) fun _ => .inr fun _ _ => trivial

end Within

/-! ## What monitors show -/

/-- What a monitor shows after an operation that changed it. -/
def Operation.Reframes (op : Operation) (d : Display) (s : Stage) (id : MonitorId) : Prop :=
  match op with
  | .apply _ (.image _ _) _ =>
    ∃ m surface frame scale size pixels, s.wall.monitor? id = some m ∧ m.surface = some surface ∧
      (s.perform d op).2.wall.shown? id = some frame ∧
      .call (.attach surface frame scale size pixels) ∈ s.turn d op
  | .apply _ .clear _ => (s.perform d op).2.wall.shown? id = none
  | .closed _ => (s.perform d op).2.wall.shown? id = none
  | .removeGlobal _ => (s.perform d op).2.wall.shown? id = none
  | .shutdown => (s.perform d op).2.wall.shown? id = none
  | _ => False

/-- A monitor shows what it showed, or a frame that was attached to its surface meanwhile. -/
def KeptOrDrawn (s s' : Stage) (cs : List Call) (id : MonitorId) : Prop :=
  s'.wall.shown? id = s.wall.shown? id ∨
    ∃ m surface frame scale size pixels, s.wall.monitor? id = some m ∧ m.surface = some surface ∧
      s'.wall.shown? id = some frame ∧ .attach surface frame scale size pixels ∈ cs

section Shown

variable {s : Stage} {id j : MonitorId} {m : Monitor}

theorem perform_adjust {op : Operation} {change : Monitor → Monitor}
    (what : op.adjustment? = some (id, change)) (d : Display) (s : Stage) :
    (s.perform d op).2 = s.modifyMonitor id change := by
  cases op <;> cases what <;> rfl

theorem shown?_adjusted {op : Operation} (d : Display) (told : op.adjustment?.isSome = true)
    (s : Stage) : (s.perform d op).2.wall.shown? = s.wall.shown? := by
  obtain ⟨_, what⟩ := Option.isSome_iff_exists.mp told
  rw [perform_adjust what]
  exact shown?_adjust what

theorem shown?_retireFrame (o : Option FrameId) (w : Wall) :
    (w.retireFrame o).shown? = w.shown? := by
  funext j
  simp only [shown?, monitor?_retireFrame]

theorem shown?_released (f : FrameId) (s : Stage) :
    (s.released f).wall.shown? = s.wall.shown? := by
  unfold Stage.released
  split
  · rfl
  · split <;> rfl

theorem shown?_ensureSurface (d : Display) (id : MonitorId) (s : Stage) :
    (s.ensureSurface d id).wall.shown? = s.wall.shown? := by
  unfold Stage.ensureSurface
  split
  · split
    · rfl
    · rename_i m found
      split
      · split
        · exact shown?_put_same (w := s.wall) found rfl
        · rfl
      · rfl
  · rfl

theorem shown?_foldl_ensureSurface (d : Display) (ids : List MonitorId) (s : Stage) :
    (ids.foldl (fun s id => s.ensureSurface d id) s).wall.shown? = s.wall.shown? := by
  induction ids generalizing s with
  | nil => rfl
  | cons id ids ih => exact (ih _).trans (shown?_ensureSurface d id s)

theorem shown?_configure (id : MonitorId) (serial : UInt32) (size : Extent) (s : Stage) :
    (s.configure id serial size).2.wall.shown? = s.wall.shown? := by
  unfold Stage.configure
  split
  · rfl
  · rename_i m found
    split
    · rfl
    · rename_i surface _
      show (Stage.configureBy id m surface (m.phase.onConfigure m.size size) _).wall.shown? = _
      cases m.phase.onConfigure m.size size with
      | recommit => rfl
      | resize size => exact shown?_put_same (w := s.wall) found rfl
      | ignore => rfl

theorem shown?_closed (id j : MonitorId) (s : Stage) :
    (s.closed id).wall.shown? j = if id = j then none else s.wall.shown? j := by
  unfold Stage.closed
  split
  · rename_i gone
    split
    · rename_i e
      subst e
      have : s.wall.monitor? id = none := gone
      simp [shown?, this]
    · rfl
  · rw [wall_retireOption, shown?_retireFrame]
    refine (shown?_putMonitor _ _ _ _).trans ?_
    rw [Stage.wall_destroySurface]
    rfl

theorem shown?_removeMonitor (id j : MonitorId) (m : Monitor) (s : Stage) :
    (s.removeMonitor id m).wall.shown? j = if id = j then none else s.wall.shown? j := by
  refine Eq.trans ?_ (shown?_dropMonitor s.wall id j)
  show (Stage.retireOption _ _).wall.shown? j = _
  rw [wall_retireOption, shown?_retireFrame, Stage.wall_destroySurface]
  rfl

theorem shown?_removeGlobal (globalName : UInt32) (j : MonitorId) (s : Stage) :
    (s.removeGlobal globalName).2.wall.shown? j = s.wall.shown? j ∨
      (s.removeGlobal globalName).2.wall.shown? j = none := by
  unfold Stage.removeGlobal
  split
  · exact .inl rfl
  · rename_i id _
    split
    · exact .inl rfl
    · rename_i m _
      rw [shown?_removeMonitor]
      split
      · exact .inr rfl
      · exact .inl rfl

theorem shown?_clearOn (id j : MonitorId) (s : Stage) :
    (s.clearOn id).2.wall.shown? j = s.wall.shown? j ∨ (s.clearOn id).2.wall.shown? j = none := by
  rcases s.clearOn_cases id with ⟨wall, _⟩ | ⟨m, surface, f, _, _, _, cleared⟩
  · exact .inl (by rw [wall])
  · obtain ⟨phase, wall⟩ := wall_clearFrame id m surface f s
    rw [cleared, wall, shown?_retireFrame, shown?_putMonitor]
    split
    · exact .inr rfl
    · exact .inl rfl

theorem shown?_applyAll_clear (d : Display) (filter : Filter) (ids : List MonitorId) (r : Report)
    (s : Stage) (j : MonitorId) :
    (Stage.applyAll d .clear filter ids r s).2.wall.shown? j = s.wall.shown? j ∨
      (Stage.applyAll d .clear filter ids r s).2.wall.shown? j = none := by
  induction ids generalizing r s with
  | nil => exact .inl rfl
  | cons id ids ih =>
    rcases ih (r.count (s.clearOn id).1) (s.clearOn id).2 with rest | rest
    · rcases shown?_clearOn id j s with first | first
      · exact .inl (rest.trans first)
      · exact .inr (rest.trans first)
    · exact .inr rest

end Shown

namespace KeptOrDrawn

variable {s s₁ s' : Stage} {cs cs' : List Call} {id : MonitorId} {m : Monitor}

theorem kept (same : s'.wall.monitor? = s.wall.monitor?) : KeptOrDrawn s s' cs id :=
  .inl (by simp only [shown?, same])

theorem trans (first : KeptOrDrawn s s₁ cs id) (second : KeptOrDrawn s₁ s' cs' id)
    (same : s₁.wall.plain? = s.wall.plain?) : KeptOrDrawn s s' (cs ++ cs') id := by
  rcases second with second | ⟨m₁, surface, frame, scale, size, pixels, found, held, rest⟩
  · rcases first with first | ⟨m, surface, frame, scale, size, pixels, found, held, shown, call⟩
    · exact .inl (second.trans first)
    · exact .inr ⟨m, surface, frame, scale, size, pixels, found, held, second.trans shown,
        List.mem_append_left _ call⟩
  · -- The surface was the same before.
    have plain := congrFun same id
    simp only [plain?, found, Option.map_some] at plain
    obtain ⟨m, found', alike⟩ := Option.map_eq_some_iff.mp plain.symm
    have held' : m.surface = some surface := (congrArg Monitor.surface alike).trans held
    exact .inr ⟨m, surface, frame, scale, size, pixels, found', held', rest.1,
      List.mem_append_right _ rest.2⟩

theorem fillFrame {s s₁ : Stage} (claimed : s₁.wall = s.wall.claimFrame)
    (calls : s₁.calls = s.calls ++ cs) (found : s.wall.monitor? id = some m)
    (memory pixels : Array UInt8) (extent : Extent) (filter : Filter) :
    ∃ cs', (s₁.fillFrame id m s.wall.nextFrame m.frameSize memory pixels extent filter).2.calls =
        s.calls ++ cs' ∧
      ∀ j, KeptOrDrawn s
        (s₁.fillFrame id m s.wall.nextFrame m.frameSize memory pixels extent filter).2 cs' j := by
  have freed : ∃ cs', (s₁.call (.free s.wall.nextFrame)).calls = s.calls ++ cs' ∧
      ∀ j, KeptOrDrawn s (s₁.call (.free s.wall.nextFrame)) cs' j :=
    ⟨cs ++ [.free s.wall.nextFrame], by simp [Stage.call, calls], fun _ => .inl (by
      simp only [Stage.call, claimed, shown?_claimFrame])⟩
  unfold Stage.fillFrame
  split
  · exact freed
  · rename_i filled _ _
    split
    · exact freed
    · rename_i surface held
      obtain ⟨cs', attached⟩ := Stage.calls_attachFrame id m surface s.wall.nextFrame m.frameSize
        filled s₁
      refine ⟨_, by rw [attached, calls, List.append_assoc], fun j => ?_⟩
      have painted := monitor?_paint s.wall id j m filled
      by_cases e : id = j
      · subst e
        refine .inr ⟨m, surface, s.wall.nextFrame, m.scale, m.frameSize, filled, found, held, ?_,
          by simp⟩
        rw [wall_attachFrame claimed]
        simp [shown?, painted]
      · refine .inl ?_
        rw [wall_attachFrame claimed]
        simp [shown?, painted, e]

theorem drawFrame (d : Display) (pixels : Array UInt8) (extent : Extent) (filter : Filter)
    (found : s.wall.monitor? id = some m) :
    ∃ cs, (s.drawFrame d id m pixels extent filter).2.calls = s.calls ++ cs ∧
      ∀ j, KeptOrDrawn s (s.drawFrame d id m pixels extent filter).2 cs j := by
  simp only [Stage.drawFrame]
  split
  · exact ⟨_, rfl, fun _ => .inl rfl⟩
  · have claimed : (Stage.call (.allocate s.wall.nextFrame m.frameSize)
        { s with wall := s.wall.claimFrame }).wall = s.wall.claimFrame := rfl
    exact fillFrame claimed rfl found _ pixels extent filter

theorem drawOn (d : Display) (id : MonitorId) (pixels : Array UInt8) (extent : Extent)
    (filter : Filter) (s : Stage) :
    ∃ cs, (s.drawOn d id pixels extent filter).2.calls = s.calls ++ cs ∧
      ∀ j, KeptOrDrawn s (s.drawOn d id pixels extent filter).2 cs j := by
  rcases s.drawOn_cases d id pixels extent filter with ⟨wall, calls⟩ | ⟨m, found, wall, calls⟩
  · exact ⟨[], by rw [calls, List.append_nil], fun _ => .inl (by rw [wall])⟩
  · obtain ⟨cs, drawn, all⟩ := drawFrame d pixels extent filter found
    refine ⟨cs, calls.trans drawn, fun j => ?_⟩
    simp only [KeptOrDrawn, wall]
    exact all j

theorem applyAll (d : Display) (pixels : Array UInt8) (extent : Extent) (filter : Filter)
    (ids : List MonitorId) (r : Report) (s : Stage) :
    ∃ cs, (Stage.applyAll d (.image pixels extent) filter ids r s).2.calls = s.calls ++ cs ∧
      ∀ j, KeptOrDrawn s (Stage.applyAll d (.image pixels extent) filter ids r s).2 cs j := by
  induction ids generalizing r s with
  | nil => exact ⟨[], (List.append_nil _).symm, fun _ => .inl rfl⟩
  | cons id ids ih =>
    obtain ⟨cs, calls, first⟩ := drawOn d id pixels extent filter s
    obtain ⟨cs', calls', rest⟩ := ih (r.count (s.drawOn d id pixels extent filter).1)
      (s.drawOn d id pixels extent filter).2
    refine ⟨cs ++ cs', ?_, fun j =>
      (first j).trans (rest j) (plain?_drawOn d id pixels extent filter s)⟩
    rw [← List.append_assoc, ← calls]
    exact calls'

end KeptOrDrawn

theorem reframes_perform {d : Display} {op : Operation} {s : Stage} {id : MonitorId}
    (welcome : op.Welcome s.wall)
    (changed : (s.perform d op).2.wall.shown? id ≠ s.wall.shown? id) : op.Reframes d s id := by
  cases op with
  | reserve => exact changed rfl
  | insert j globalName handle =>
    refine changed (Eq.trans (congrFun (shown?_ensureSurface d j _) id) ?_)
    refine (shown?_putMonitor s.wall j id _).trans ?_
    split
    · rename_i e
      subst e
      simp [shown?, welcome.1, Monitor.announced]
    · rfl
  | createMissing => exact changed (congrFun (shown?_foldl_ensureSurface d _ s) id)
  | setMode j mode => exact changed (congrFun (shown?_adjusted d rfl s) id)
  | setScale j scale => exact changed (congrFun (shown?_adjusted d rfl s) id)
  | setLabel j label => exact changed (congrFun (shown?_adjusted d rfl s) id)
  | done j =>
    refine changed ?_
    simp only [Stage.perform, Stage.done]
    split
    · exact congrFun (shown?_ensureSurface d j s) id
    · exact congrFun (shown?_ensureSurface d j _) id
  | configure j serial size => exact changed (congrFun (shown?_configure j serial size s) id)
  | closed j =>
    have closed : (s.closed j).wall.shown? id = _ := shown?_closed j id s
    split at closed
    · exact closed
    · exact absurd closed changed
  | released f => exact changed (congrFun (shown?_released f s) id)
  | removeGlobal globalName => exact (shown?_removeGlobal globalName id s).resolve_left changed
  | apply target content filter =>
    have wall : (s.perform d (.apply target content filter)).2.wall =
        (Stage.applyAll d content filter (s.wall.targets target)
          { Report.empty with matched := (s.wall.targets target).length } s).2.wall := by
      simp only [Stage.perform, Stage.apply, Stage.wall_noteUnmatched]
    rw [wall] at changed
    cases content with
    | clear =>
      refine (congrArg (Wall.shown? · id) wall).trans ?_
      exact (shown?_applyAll_clear d filter _ _ s id).resolve_left changed
    | image pixels extent =>
      obtain ⟨cs, calls, all⟩ := KeptOrDrawn.applyAll d pixels extent filter
        (s.wall.targets target)
        { Report.empty with matched := (s.wall.targets target).length } s
      obtain ⟨m, surface, frame, scale, size, filled, found, held, shown, call⟩ :=
        (all id).resolve_left changed
      have turn : s.turn d (.apply target (.image pixels extent) filter) = _ :=
        turn_eq (by simpa only [Stage.perform, Stage.apply, Stage.calls_noteUnmatched] using calls)
      refine ⟨m, surface, frame, scale, size, filled, found, held, by rw [wall]; exact shown, ?_⟩
      rw [turn]
      exact List.mem_cons_of_mem _ (List.mem_map_of_mem call)
  | shutdown =>
    show s.shutdown.wall.shown? id = none
    rw [Stage.wall_shutdown]
    rfl

/-! ## Whole operations -/

/-- What an operation leaves alone. -/
structure Local (d : Display) (op : Operation) (s : Stage) : Prop where
  record : ∀ id, ¬ op.Addresses s.wall id →
    (s.perform d op).2.wall.monitor? id = s.wall.monitor? id
  /-- Other monitors keep their slots and get no new ones. -/
  slots : ∀ f slot, ¬ op.Addresses s.wall slot.owner → op ≠ .released f →
    ((s.perform d op).2.wall.frame? f = some slot ↔ s.wall.frame? f = some slot)
  surfaces : ∀ id m surface, ¬ op.Addresses s.wall id → s.wall.monitor? id = some m →
    m.surface = some surface → ∀ e ∈ s.turn d op, e.surface? ≠ some surface
  frames : ∀ f slot, ¬ op.Addresses s.wall slot.owner → s.wall.frame? f = some slot →
    op ≠ .released f → ∀ e ∈ s.turn d op, e.frame? ≠ some f
  /-- A handle that is named is that of a monitor that is addressed. -/
  handles : op.inserted? = none → ∀ e ∈ s.turn d op, ∀ handle, e.handle? = some handle →
    ∃ id m, op.Addresses s.wall id ∧ s.wall.monitor? id = some m ∧ m.handle = handle
  quiet : op.adjustment?.isSome = true → s.turn d op = [.operation op]
  reframes : ∀ id, (s.perform d op).2.wall.shown? id ≠ s.wall.shown? id → op.Reframes d s id

theorem turn_silent {d : Display} {op : Operation} {s : Stage}
    (same : (s.perform d op).2.calls = s.calls) : s.turn d op = [.operation op] := by
  have calls : (s.perform d op).2.calls = s.calls ++ [] := by rw [same, List.append_nil]
  rw [turn_eq calls]
  rfl

theorem local_of_sound {op : Operation} {s : Stage} (d : Display) (sound : SoundAt (.still s.wall))
    (welcome : op.Welcome s.wall) : Local d op s := by
  have within := Within.perform d op sound
  obtain ⟨cs, calls, allowed⟩ := within.calls
  -- Every event but the first is a call within reach.
  have events : ∀ e ∈ s.turn d op, e = .operation op ∨ ∃ c ∈ cs, e = .call c := by
    intro e he
    rw [turn_eq calls] at he
    rcases List.mem_cons.mp he with rfl | he
    · exact .inl rfl
    · obtain ⟨c, hc, rfl⟩ := List.mem_map.mp he
      exact .inr ⟨c, hc, rfl⟩
  refine ⟨fun id other => within.others other, fun f slot other kept => ?_,
    fun id m surface other found held e he named => ?_,
    fun f slot other found kept e he named => ?_, fun old e he handle named => ?_, fun told => ?_,
    fun id changed => reframes_perform welcome changed⟩
  · have alone : ∀ slot', s.wall.frame? f = some slot' → slot'.owner = slot.owner →
        ¬ (op.reach s.wall).frame f := by
      rintro slot' found owner (release | mine)
      · exact kept release
      · exact other (owner ▸ mine slot' found)
    constructor
    · intro later
      obtain ⟨slot', found, owner⟩ := (within.owners later).resolve_left other
      rw [← within.slots (alone slot' found owner)]
      exact later
    · intro found
      rw [within.slots (alone slot found rfl)]
      exact found
  · rcases events e he with rfl | ⟨c, hc, rfl⟩
    · cases named
    · exact other ((allowed c hc).1 surface named id m found held)
  · rcases events e he with rfl | ⟨c, hc, rfl⟩
    · cases named
    · rcases (allowed c hc).2.1 f named with release | mine
      · exact kept release
      · exact other (mine slot found)
  · rcases events e he with rfl | ⟨c, hc, rfl⟩
    · cases named
    · exact (allowed c hc).2.2 handle named old
  · obtain ⟨_, what⟩ := Option.isSome_iff_exists.mp told
    exact turn_silent (by rw [perform_adjust what]; rfl)

/-- Every operation of every run leaves the monitors alone that it does not address. -/
theorem local_run {ops : List (Display × Operation)} {d : Display} {op : Operation}
    (orderly : Stage.empty.Orderly [] (ops ++ [(d, op)])) : Local d op (Stage.empty.run ops) :=
  local_of_sound d (soundAt_run orderly.left) (orderly.welcome .empty)

/-- A picture for one of two monitors. -/
theorem local_run_paired :
    let op := Operation.apply (some "DP-1") (.image #[1, 2, 3, 4] ⟨1, 1⟩) .nearest
    Stage.empty.Orderly [] (pairing ++ [(stingy, op)]) ∧ ¬ op.Addresses paired.wall 1 ∧
      Local stingy op paired := by
  refine ⟨by decide, ?_, local_run (by decide)⟩
  rintro ⟨m, found, wanted⟩
  have other : (paired.wall.monitor? 1).any (·.matchesTarget (some "DP-1")) = false := by decide
  simp [found, wanted] at other

end Wall
end Backdrop

import Backdrop.Proofs.Wall.Timeline

/-!
# Backdrop.Proofs.Wall.Sound

The invariant of the wall, between any two operations of any run.

* `Monitor.Fit` is what holds of each monitor for itself.
* `MonitorsSound` and `FramesSound` are the two halves of the invariant. They hold in the middle of
  operations, too, where a frame may be in hand.
* `Sound` is the invariant between operations, and `sound_run` says that every run keeps it.
-/

namespace Backdrop
namespace Wall

/-- The frame that a monitor shows. -/
def shown? (w : Wall) (id : MonitorId) : Option FrameId := (w.monitor? id).bind (·.frame)

structure Monitor.Fit (m : Monitor) : Prop where
  surface_iff : m.surface.isSome = true ↔ m.phase ≠ .uncreated
  shown_drawable : m.frame.isSome = true → m.phase = .drawable
  size_full : m.phase = .drawable → m.size.width ≠ 0 ∧ m.size.height ≠ 0
  scale_pos : 1 ≤ m.scale

/-- The invariant between two operations. -/
structure Sound (w : Wall) : Prop where
  fit : ∀ {id m}, w.monitor? id = some m → m.Fit
  /-- The frame on a monitor has a slot, is the monitor's own and is not retired. -/
  frame_owned : ∀ {id m f}, w.monitor? id = some m → m.frame = some f →
    ∃ slot, w.frame? f = some slot ∧ slot.owner = id ∧ slot.retired = false
  frames_apart : ∀ {id id' m m' f}, w.monitor? id = some m → w.monitor? id' = some m' →
    m.frame = some f → m'.frame = some f → id = id'
  /-- A slot is on the monitor that owns it, or waits for its release. -/
  slot_used : ∀ {f slot}, w.frame? f = some slot →
    (∃ m, w.monitor? slot.owner = some m ∧ m.frame = some f ∧ slot.retired = false) ∨
      slot.retired = true ∧ slot.busy = true
  surfaces_apart : ∀ {id id' m m' surface}, w.monitor? id = some m → w.monitor? id' = some m' →
    m.surface = some surface → m'.surface = some surface → id = id'
  monitor_below : ∀ {id m}, w.monitor? id = some m → id < w.nextMonitor
  frame_below : ∀ {f slot}, w.frame? f = some slot → f < w.nextFrame
  surface_below : ∀ {id m surface}, w.monitor? id = some m → m.surface = some surface →
    surface < w.nextSurface

structure MonitorsSound (w : Wall) : Prop where
  fit : ∀ {id m}, w.monitor? id = some m → m.Fit
  surfaces_apart : ∀ {id id' m m' surface}, w.monitor? id = some m → w.monitor? id' = some m' →
    m.surface = some surface → m'.surface = some surface → id = id'
  monitor_below : ∀ {id m}, w.monitor? id = some m → id < w.nextMonitor
  surface_below : ∀ {id m surface}, w.monitor? id = some m → m.surface = some surface →
    surface < w.nextSurface

structure FramesSound (M : Moment) : Prop where
  owned : ∀ {id f}, M.wall.shown? id = some f →
    ∃ slot, M.wall.frame? f = some slot ∧ slot.owner = id ∧ slot.retired = false
  used : ∀ {f slot}, M.wall.frame? f = some slot → M.ending = true ∨ M.loose = some f ∨
    M.wall.shown? slot.owner = some f ∨ slot.retired = true ∧ slot.busy = true
  hidden : ∀ {f}, M.loose = some f → ∀ id, M.wall.shown? id ≠ some f
  below : ∀ {f slot}, M.wall.frame? f = some slot → f < M.wall.nextFrame

/-! ## Monitors -/

namespace Monitor

variable {m : Monitor}

theorem fit_announced (globalName : UInt32) (handle : Nat) : (announced globalName handle).Fit :=
  ⟨by simp [announced], by simp [announced], by simp [announced], by simp [announced]⟩

theorem Fit.created (h : m.Fit) (bare : m.phase = .uncreated) (surface : SurfaceId) :
    Fit { m with surface := some surface, phase := .pendingConfigure } := by
  refine ⟨by simp, fun hf => ?_, by simp, h.scale_pos⟩
  have : m.phase = .drawable := h.shown_drawable hf
  rw [bare] at this
  cases this

theorem Fit.resized (h : m.Fit) {surface : SurfaceId} (held : m.surface = some surface)
    {size : Extent} (full : size.isEmpty = false) :
    Fit { m with size := size, phase := .drawable } :=
  ⟨by simp [held], by simp, fun _ => Extent.isEmpty_eq_false_iff.mp full, h.scale_pos⟩

theorem Fit.closed (h : m.Fit) :
    Fit { m with surface := none, phase := .uncreated, frame := none } :=
  ⟨by simp, by simp, by simp, h.scale_pos⟩

theorem Fit.cleared (h : m.Fit) {surface : SurfaceId} (held : m.surface = some surface) :
    Fit { m with frame := none, phase := .pendingConfigure } :=
  ⟨by simp [held], by simp, by simp, h.scale_pos⟩

theorem Fit.uncovered (h : m.Fit) : Fit { m with frame := none } :=
  ⟨h.surface_iff, by simp, h.size_full, h.scale_pos⟩

theorem Fit.drawn (h : m.Fit) (ready : m.phase = .drawable) (f : FrameId) :
    Fit { m with frame := some f } :=
  ⟨h.surface_iff, fun _ => ready, h.size_full, h.scale_pos⟩

theorem Fit.surface_of_drawable (h : m.Fit) (ready : m.phase = .drawable) :
    ∃ surface, m.surface = some surface :=
  Option.isSome_iff_exists.mp (h.surface_iff.mpr (by simp [ready]))

end Monitor

/-- What is only told about a monitor changes neither its surface nor its picture. -/
structure Monitor.Alike (m m' : Monitor) : Prop where
  surface : m'.surface = m.surface
  phase : m'.phase = m.phase
  size : m'.size = m.size
  frame : m'.frame = m.frame
  handle : m'.handle = m.handle
  scale : 1 ≤ m.scale → 1 ≤ m'.scale

section Adjust

variable {w : Wall} {op : Operation} {id j : MonitorId} {change : Monitor → Monitor}

theorem adjustment_alike (what : op.adjustment? = some (id, change)) (m : Monitor) :
    m.Alike (change m) := by
  cases op <;> simp only [Operation.adjustment?, Option.some.injEq, Prod.mk.injEq, reduceCtorEq]
    at what <;> obtain ⟨_, rfl⟩ := what
  · exact ⟨rfl, rfl, rfl, rfl, rfl, fun h => h⟩
  · exact ⟨rfl, rfl, rfl, rfl, rfl, fun _ => Int.le_max_right _ _⟩
  · exact ⟨rfl, rfl, rfl, rfl, rfl, fun h => h⟩

theorem monitor?_adjusted (what : op.adjustment? = some (id, change)) {m : Monitor}
    (hm : w.monitor? j = some m) :
    ∃ m', (w.modifyMonitor id change).monitor? j = some m' ∧ m.Alike m' := by
  rw [monitor?_modifyMonitor, hm]
  refine ⟨_, rfl, ?_⟩
  split
  · exact adjustment_alike what m
  · exact ⟨rfl, rfl, rfl, rfl, rfl, fun h => h⟩

theorem monitor?_of_adjusted (what : op.adjustment? = some (id, change)) {m' : Monitor}
    (hm' : (w.modifyMonitor id change).monitor? j = some m') :
    ∃ m, w.monitor? j = some m ∧ m.Alike m' := by
  cases hm : w.monitor? j with
  | none =>
    rw [monitor?_modifyMonitor, hm] at hm'
    cases hm'
  | some m =>
    obtain ⟨m'', hm'', alike⟩ := monitor?_adjusted what hm
    cases hm'.symm.trans hm''
    exact ⟨m, rfl, alike⟩

theorem Monitor.Fit.alike {m m' : Monitor} (h : m.Fit) (alike : m.Alike m') : m'.Fit := by
  refine ⟨?_, ?_, ?_, alike.scale h.scale_pos⟩
  · rw [alike.surface, alike.phase]
    exact h.surface_iff
  · rw [alike.frame, alike.phase]
    exact h.shown_drawable
  · rw [alike.phase, alike.size]
    exact h.size_full

end Adjust

namespace MonitorsSound

variable {w : Wall}

theorem empty : MonitorsSound .empty :=
  ⟨fun h => (nomatch h), fun h => (nomatch h), fun h => (nomatch h), fun h => (nomatch h)⟩

/-- A monitor is changed, and keeps its surface or gives it up. -/
theorem put (h : MonitorsSound w) {id : MonitorId} {m m₁ : Monitor}
    (found : w.monitor? id = some m) (fit : m₁.Fit)
    (kept : m₁.surface = m.surface ∨ m₁.surface = none) : MonitorsSound (w.putMonitor id m₁) := by
  -- Whatever has a surface now had it before.
  have old : ∀ {j m'}, (w.putMonitor id m₁).monitor? j = some m' →
      m'.Fit ∧ ∃ m, w.monitor? j = some m ∧ ∀ surface, m'.surface = some surface →
        m.surface = some surface := by
    intro j m' hm
    rcases monitor?_of_putMonitor hm with ⟨rfl, rfl⟩ | ⟨_, hm⟩
    · refine ⟨fit, m, found, fun surface hs => ?_⟩
      rcases kept with hk | hk
      · rw [← hk]; exact hs
      · rw [hk] at hs; cases hs
    · exact ⟨h.fit hm, m', hm, fun _ hs => hs⟩
  refine ⟨fun hm => (old hm).1, fun hm hm' hs hs' => ?_, fun hm => ?_, fun hm hs => ?_⟩
  · obtain ⟨_, m, hm, hk⟩ := old hm
    obtain ⟨_, m', hm', hk'⟩ := old hm'
    exact h.surfaces_apart hm hm' (hk _ hs) (hk' _ hs')
  · obtain ⟨_, m, hm, _⟩ := old hm
    exact h.monitor_below hm
  · obtain ⟨_, m, hm, hk⟩ := old hm
    exact h.surface_below hm (hk _ hs)

theorem announce (h : MonitorsSound w) {id : MonitorId} (globalName : UInt32) (handle : Nat)
    (given : id < w.nextMonitor) :
    MonitorsSound (w.putMonitor id (.announced globalName handle)) := by
  have old : ∀ {j m'}, (w.putMonitor id (.announced globalName handle)).monitor? j = some m' →
      m'.surface = none ∧ m'.Fit ∧ j = id ∨ w.monitor? j = some m' := by
    intro j m' hm
    rcases monitor?_of_putMonitor hm with ⟨rfl, rfl⟩ | ⟨_, hm⟩
    · exact .inl ⟨rfl, Monitor.fit_announced _ _, rfl⟩
    · exact .inr hm
  refine ⟨fun hm => ?_, fun hm hm' hs hs' => ?_, fun hm => ?_, fun hm hs => ?_⟩
  · rcases old hm with ⟨_, fit, _⟩ | hm
    · exact fit
    · exact h.fit hm
  · rcases old hm with ⟨none, _⟩ | hm
    · rw [none] at hs; cases hs
    · rcases old hm' with ⟨none, _⟩ | hm'
      · rw [none] at hs'; cases hs'
      · exact h.surfaces_apart hm hm' hs hs'
  · rcases old hm with ⟨_, _, rfl⟩ | hm
    · exact given
    · exact h.monitor_below hm
  · rcases old hm with ⟨none, _⟩ | hm
    · rw [none] at hs; cases hs
    · exact h.surface_below hm hs

theorem adjust (h : MonitorsSound w) {op : Operation} {id : MonitorId}
    {change : Monitor → Monitor} (what : op.adjustment? = some (id, change)) :
    MonitorsSound (w.modifyMonitor id change) := by
  refine ⟨fun hm => ?_, fun hm hm' hs hs' => ?_, fun hm => ?_, fun hm hs => ?_⟩
  · obtain ⟨m, was, alike⟩ := monitor?_of_adjusted what hm
    exact (h.fit was).alike alike
  · obtain ⟨m, was, alike⟩ := monitor?_of_adjusted what hm
    obtain ⟨m', was', alike'⟩ := monitor?_of_adjusted what hm'
    exact h.surfaces_apart was was' (alike.surface ▸ hs) (alike'.surface ▸ hs')
  · obtain ⟨m, was, _⟩ := monitor?_of_adjusted what hm
    exact h.monitor_below was
  · obtain ⟨m, was, alike⟩ := monitor?_of_adjusted what hm
    exact h.surface_below was (alike.surface ▸ hs)

theorem create (h : MonitorsSound w) {id : MonitorId} {m : Monitor}
    (found : w.monitor? id = some m) (bare : m.phase = .uncreated) :
    MonitorsSound (w.claimSurface.putMonitor id
      { m with surface := some w.nextSurface, phase := .pendingConfigure }) := by
  -- The new surface is one that no monitor has.
  have old : ∀ {j m'}, (w.claimSurface.putMonitor id
      { m with surface := some w.nextSurface, phase := .pendingConfigure }).monitor? j = some m' →
      (m'.Fit ∧ m'.surface = some w.nextSurface ∧ j = id) ∨ w.monitor? j = some m' := by
    intro j m' hm
    rcases monitor?_of_putMonitor hm with ⟨rfl, rfl⟩ | ⟨_, hm⟩
    · exact .inl ⟨(h.fit found).created bare _, rfl, rfl⟩
    · exact .inr hm
  refine ⟨fun hm => ?_, fun hm hm' hs hs' => ?_, fun hm => ?_, fun hm hs => ?_⟩
  · rcases old hm with ⟨fit, _⟩ | hm
    · exact fit
    · exact h.fit hm
  · rcases old hm with ⟨_, new, e⟩ | was
    · rcases old hm' with ⟨_, _, e'⟩ | was'
      · rw [e, e']
      · rw [new] at hs
        cases hs
        exact absurd (h.surface_below was' hs') (Nat.lt_irrefl _)
    · rcases old hm' with ⟨_, new, _⟩ | was'
      · rw [new] at hs'
        cases hs'
        exact absurd (h.surface_below was hs) (Nat.lt_irrefl _)
      · exact h.surfaces_apart was was' hs hs'
  · rcases old hm with ⟨_, _, rfl⟩ | hm
    · exact h.monitor_below found
    · exact h.monitor_below hm
  · rcases old hm with ⟨_, new, _⟩ | hm
    · rw [new] at hs
      cases hs
      exact Nat.lt_succ_self _
    · exact Nat.lt_succ_of_lt (h.surface_below hm hs)

theorem drop (h : MonitorsSound w) (id : MonitorId) : MonitorsSound (w.dropMonitor id) := by
  have old : ∀ {j m'}, (w.dropMonitor id).monitor? j = some m' → w.monitor? j = some m' :=
    fun hm => (monitor?_of_dropMonitor hm).2
  exact ⟨fun hm => h.fit (old hm), fun hm hm' => h.surfaces_apart (old hm) (old hm'),
    fun hm => h.monitor_below (old hm), fun hm => h.surface_below (old hm)⟩

/-- Frames are of no account here. -/
theorem congr {w' : Wall} (h : MonitorsSound w) (hm : w'.monitor? = w.monitor?)
    (hn : w.nextMonitor ≤ w'.nextMonitor) (hs : w'.nextSurface = w.nextSurface) :
    MonitorsSound w' := by
  refine ⟨?_, ?_, ?_, ?_⟩ <;> rw [hm]
  · exact h.fit
  · exact h.surfaces_apart
  · exact fun found => Nat.lt_of_lt_of_le (h.monitor_below found) hn
  · rw [hs]
    exact h.surface_below

theorem move {M M' : Moment} {es : List Event} (h : MonitorsSound M.wall) (move : Move M es M') :
    MonitorsSound M'.wall := by
  cases move with
  | reserve => exact h.congr rfl (Nat.le_succ _) rfl
  | announce globalName handle _ given => exact h.announce globalName handle given
  | adjust what => exact h.adjust what
  | create found bare => exact h.create found bare
  | resize _ found held full => exact h.put found ((h.fit found).resized held full) (.inl rfl)
  | close found => exact h.put found (h.fit found).closed (.inr rfl)
  | depart _ => exact h.drop _
  | clear found held _ _ => exact h.put found ((h.fit found).cleared held) (.inl rfl)
  | uncover found _ _ => exact h.put found (h.fit found).uncovered (.inl rfl)
  | draw _ found _ ready =>
    have claimed : MonitorsSound (claimFrame _) := h.congr rfl (Nat.le_refl _) rfl
    exact (claimed.put found ((h.fit found).drawn ready _) (.inl rfl)).congr rfl (Nat.le_refl _) rfl
  | leave _ => exact h.drop _
  | _ => exact h.congr rfl (Nat.le_refl _) rfl

end MonitorsSound

/-! ## Frames -/

section Shown

variable (w : Wall) (id j : MonitorId) (m : Monitor) (f : FrameId) (slot : Frame)

theorem shown?_putMonitor :
    (w.putMonitor id m).shown? j = if id = j then m.frame else w.shown? j := by
  simp only [shown?, monitor?_putMonitor]
  split <;> rfl

theorem shown?_dropMonitor :
    (w.dropMonitor id).shown? j = if id = j then none else w.shown? j := by
  simp only [shown?, monitor?_dropMonitor]
  split <;> rfl

@[simp] theorem shown?_putFrame : (w.putFrame f slot).shown? j = w.shown? j := rfl
@[simp] theorem shown?_claimFrame : w.claimFrame.shown? j = w.shown? j := rfl

end Shown

theorem shown?_of_monitor? {w : Wall} {id : MonitorId} {m : Monitor}
    (found : w.monitor? id = some m) : w.shown? id = m.frame := by
  simp [shown?, found]

theorem shown?_eq_some_iff {w : Wall} {id : MonitorId} {f : FrameId} :
    w.shown? id = some f ↔ ∃ m, w.monitor? id = some m ∧ m.frame = some f :=
  Option.bind_eq_some_iff

/-- Changing a monitor, but not its frame, changes no frame on any monitor. -/
theorem shown?_put_same {w : Wall} {id : MonitorId} {m m₁ : Monitor}
    (found : w.monitor? id = some m) (same : m₁.frame = m.frame) :
    (w.putMonitor id m₁).shown? = w.shown? := by
  funext j
  rw [shown?_putMonitor]
  split
  · rename_i e
    subst e
    rw [same, shown?_of_monitor? found]
  · rfl

theorem shown?_adjust {w : Wall} {op : Operation} {id : MonitorId} {change : Monitor → Monitor}
    (what : op.adjustment? = some (id, change)) :
    (w.modifyMonitor id change).shown? = w.shown? := by
  funext j
  cases hm : w.monitor? j with
  | none => simp [shown?, monitor?_modifyMonitor, hm]
  | some m =>
    obtain ⟨m', hm', alike⟩ := monitor?_adjusted what hm
    rw [shown?_of_monitor? hm, shown?_of_monitor? hm', alike.frame]

namespace FramesSound

theorem empty : FramesSound (.still .empty) :=
  ⟨fun h => (nomatch h), fun h => (nomatch h), fun h => (nomatch h), fun h => (nomatch h)⟩

/-- What is not about frames is of no account here. -/
theorem congr {M M' : Moment} (h : FramesSound M) (hs : M'.wall.shown? = M.wall.shown?)
    (hf : M'.wall.frame? = M.wall.frame?) (hn : M.wall.nextFrame ≤ M'.wall.nextFrame)
    (hl : M'.loose = M.loose) (he : M'.ending = M.ending) : FramesSound M' := by
  refine ⟨?_, ?_, ?_, ?_⟩
  · rw [hs, hf]
    exact h.owned
  · rw [hs, hf, hl, he]
    exact h.used
  · rw [hs, hl]
    exact h.hidden
  · rw [hf]
    exact fun found => Nat.lt_of_lt_of_le (h.below found) hn

/-- Two monitors never show the same frame. -/
theorem apart {M : Moment} (h : FramesSound M) {id j : MonitorId} {f : FrameId}
    (hi : M.wall.shown? id = some f) (hj : M.wall.shown? j = some f) : id = j := by
  obtain ⟨slot, hslot, rfl, _⟩ := h.owned hi
  obtain ⟨slot', hslot', rfl, _⟩ := h.owned hj
  rw [hslot] at hslot'
  cases hslot'
  rfl

/-- A monitor gives up its frame, which is then in hand. -/
theorem take {w w' : Wall} (h : FramesSound (.still w)) (id : MonitorId) (departing : Option Nat)
    (hs : ∀ j, w'.shown? j = if id = j then none else w.shown? j)
    (hf : w'.frame? = w.frame?) (hn : w'.nextFrame = w.nextFrame) :
    FramesSound ⟨w', w.shown? id, departing, false⟩ := by
  have old : ∀ {j f}, w'.shown? j = some f → id ≠ j ∧ w.shown? j = some f := by
    intro j f hj
    rw [hs] at hj
    split at hj
    · cases hj
    · exact ⟨‹_›, hj⟩
  refine ⟨fun hj => ?_, fun hslot => ?_, fun hi j hj => ?_, fun hslot => ?_⟩
  · rw [hf]
    exact h.owned (old hj).2
  · rw [hf] at hslot
    rename_i f slot
    rcases h.used hslot with e | e | e | e
    · cases e
    · cases e
    · by_cases hid : id = slot.owner
      · exact .inr (.inl (hid ▸ e))
      · exact .inr (.inr (.inl (by rw [hs, if_neg hid]; exact e)))
    · exact .inr (.inr (.inr e))
  · exact (old hj).1 (h.apart hi (old hj).2)
  · rw [hf] at hslot
    rw [hn]
    exact h.below hslot

theorem draw {w : Wall} (h : FramesSound (.still w)) {id : MonitorId} {m : Monitor}
    (found : w.monitor? id = some m) (size : Extent) (pixels : Array UInt8) :
    FramesSound ⟨(w.claimFrame.putMonitor id { m with frame := some w.nextFrame }).putFrame
      w.nextFrame ⟨id, size, pixels, true, false⟩, m.frame, none, false⟩ := by
  have shown : w.shown? id = m.frame := shown?_of_monitor? found
  -- No frame of the wall has the key of the new one.
  have fresh : ∀ {f slot}, w.frame? f = some slot → w.nextFrame ≠ f := by
    intro f slot hslot e
    exact Nat.ne_of_gt (h.below hslot) e
  have old : ∀ {j f}, w.shown? j = some f → w.nextFrame ≠ f := by
    intro j f hj
    obtain ⟨slot, hslot, _⟩ := h.owned hj
    exact fresh hslot
  refine ⟨fun {j f} hj => ?_, fun {f slot} hslot => ?_, fun {f} hi j hj => ?_,
    fun {f slot} hslot => ?_⟩
  · simp only [shown?_putFrame, shown?_putMonitor, shown?_claimFrame] at hj
    simp only [frame?_putFrame, frame?_putMonitor, frame?_claimFrame]
    split at hj
    · rename_i e
      cases hj
      exact ⟨_, if_pos rfl, e, rfl⟩
    · rw [if_neg (old hj)]
      exact h.owned hj
  · simp only [shown?_putFrame, shown?_putMonitor, shown?_claimFrame]
    rcases frame?_of_putFrame hslot with ⟨e, rfl⟩ | ⟨_, hslot⟩
    · exact .inr (.inr (.inl (by rw [if_pos rfl, e])))
    · rcases h.used hslot with e | e | e | e
      · cases e
      · cases e
      · by_cases hid : id = slot.owner
        · exact .inr (.inl (by rw [← shown, hid]; exact e))
        · exact .inr (.inr (.inl (by rw [if_neg hid]; exact e)))
      · exact .inr (.inr (.inr e))
  · simp only [shown?_putFrame, shown?_putMonitor, shown?_claimFrame] at hj
    have hi : w.shown? id = some f := shown.trans hi
    split at hj
    · cases hj
      exact old hi rfl
    · rename_i hne
      exact hne (h.apart hi hj)
  · rcases frame?_of_putFrame hslot with ⟨rfl, _⟩ | ⟨_, hslot⟩
    · exact Nat.lt_succ_self _
    · exact Nat.lt_succ_of_lt (h.below hslot)

theorem retireBusy {w : Wall} {f : FrameId} {slot : Frame} {departing : Option Nat}
    (h : FramesSound ⟨w, some f, departing, false⟩) (found : w.frame? f = some slot)
    (busy : slot.busy = true) :
    FramesSound ⟨w.putFrame f { slot with retired := true }, none, departing, false⟩ := by
  refine ⟨fun {j k} hj => ?_, fun {k slot'} hslot => ?_, fun hi => (nomatch hi),
    fun {k slot'} hslot => ?_⟩
  · have hne : f ≠ k := fun e => h.hidden rfl j (e ▸ hj)
    rw [frame?_putFrame, if_neg hne]
    exact h.owned hj
  · rcases frame?_of_putFrame hslot with ⟨_, rfl⟩ | ⟨hne, hslot⟩
    · exact .inr (.inr (.inr ⟨rfl, busy⟩))
    · rcases h.used hslot with e | e | e | e
      · cases e
      · cases e
        exact absurd rfl hne
      · exact .inr (.inr (.inl e))
      · exact .inr (.inr (.inr e))
  · rcases frame?_of_putFrame hslot with ⟨rfl, _⟩ | ⟨_, hslot⟩
    · exact h.below found
    · exact h.below hslot

/-- A frame that no monitor shows is forgotten. -/
theorem forget {w : Wall} {f : FrameId} {loose departing : Option _} {ending : Bool}
    (h : FramesSound ⟨w, loose, departing, ending⟩) (hl : loose = none ∨ loose = some f)
    (hidden : ∀ id, w.shown? id ≠ some f) :
    FramesSound ⟨w.dropFrame f, none, departing, ending⟩ := by
  refine ⟨fun {j k} hj => ?_, fun {k slot} hslot => ?_, fun hi => (nomatch hi),
    fun {k slot} hslot => h.below (frame?_of_dropFrame hslot).2⟩
  · have hne : f ≠ k := fun e => hidden j (e ▸ hj)
    rw [frame?_dropFrame, if_neg hne]
    exact h.owned hj
  · obtain ⟨hne, hslot⟩ := frame?_of_dropFrame hslot
    rcases h.used hslot with e | e | e | e
    · exact .inl e
    · rcases hl with none | some
      · rw [none] at e; cases e
      · rw [some] at e
        cases e
        exact absurd rfl hne
    · exact .inr (.inr (.inl e))
    · exact .inr (.inr (.inr e))

theorem rest {w : Wall} {f : FrameId} {slot : Frame} (h : FramesSound (.still w))
    (found : w.frame? f = some slot) (kept : slot.retired = false) :
    FramesSound (.still (w.putFrame f { slot with busy := false })) := by
  refine ⟨fun {j k} hj => ?_, fun {k slot'} hslot => ?_, fun hi => (nomatch hi),
    fun {k slot'} hslot => ?_⟩
  · obtain ⟨slot', hslot', howner, hret⟩ := h.owned hj
    simp only [Moment.still, frame?_putFrame]
    split
    · rename_i e
      subst e
      have : slot = slot' := Option.some.inj (found.symm.trans hslot')
      subst this
      exact ⟨_, rfl, howner, hret⟩
    · exact ⟨slot', hslot', howner, hret⟩
  · rcases frame?_of_putFrame hslot with ⟨rfl, rfl⟩ | ⟨_, hslot⟩
    · rcases h.used found with e | e | e | e
      · cases e
      · cases e
      · exact .inr (.inr (.inl e))
      · rw [kept] at e
        cases e.1
    · exact h.used hslot
  · rcases frame?_of_putFrame hslot with ⟨rfl, _⟩ | ⟨_, hslot⟩
    · exact h.below found
    · exact h.below hslot

/-- A retired frame is on no monitor. -/
theorem retired_hidden {M : Moment} (h : FramesSound M) {f : FrameId} {slot : Frame}
    (found : M.wall.frame? f = some slot) (retired : slot.retired = true) (id : MonitorId) :
    M.wall.shown? id ≠ some f := by
  intro hid
  obtain ⟨slot', hslot', _, hret⟩ := h.owned hid
  rw [found] at hslot'
  cases hslot'
  rw [retired] at hret
  cases hret

theorem move {M M' : Moment} {es : List Event} (h : FramesSound M) (move : Move M es M') :
    FramesSound M' := by
  cases move with
  | @announce w id globalName handle fresh _ =>
    refine h.congr ?_ rfl (Nat.le_refl _) rfl rfl
    funext j
    simp only [Moment.still, shown?_putMonitor]
    split
    · rename_i e
      subst e
      simp [shown?, fresh, Monitor.announced]
    · rfl
  | adjust what => exact h.congr (shown?_adjust what) rfl (Nat.le_refl _) rfl rfl
  | create found _ => exact h.congr (shown?_put_same found rfl) rfl (Nat.le_refl _) rfl rfl
  | resize _ found _ _ => exact h.congr (shown?_put_same found rfl) rfl (Nat.le_refl _) rfl rfl
  | close found =>
    rw [← shown?_of_monitor? found]
    exact h.take _ none (shown?_putMonitor _ _ · _) rfl rfl
  | depart found =>
    rw [← shown?_of_monitor? found]
    exact h.take _ _ (shown?_dropMonitor _ _) rfl rfl
  | clear found _ shown _ =>
    rw [← shown, ← shown?_of_monitor? found]
    exact h.take _ none (shown?_putMonitor _ _ · _) rfl rfl
  | uncover found shown _ =>
    rw [← shown, ← shown?_of_monitor? found]
    exact h.take _ none (shown?_putMonitor _ _ · _) rfl rfl
  | allocateFailed _ _ => exact h.congr rfl rfl (Nat.le_succ _) rfl rfl
  | spoil _ _ => exact h.congr rfl rfl (Nat.le_succ _) rfl rfl
  | draw pixels found _ _ => exact h.draw found _ pixels
  | retireBusy _ found busy => exact h.retireBusy found busy
  | retireIdle _ _ _ => exact h.forget (.inr rfl) (h.hidden rfl)
  | @retireGone w f departing gone =>
    refine ⟨h.owned, fun {k slot} hslot => ?_, fun hi => (by cases hi), h.below⟩
    rcases h.used hslot with e | e | e
    · exact .inl e
    · cases e
      cases gone.symm.trans hslot
    · exact .inr (.inr e)
  | rest found kept => exact h.rest found kept
  | collect found retired => exact h.forget (.inl rfl) (h.retired_hidden found retired)
  | strike w => exact ⟨h.owned, fun _ => .inl rfl, fun hi => (by cases hi), h.below⟩
  | leave found =>
    refine ⟨fun {j f} hj => ?_, fun _ => .inl rfl, fun hi => (by cases hi), h.below⟩
    rw [shown?_dropMonitor] at hj
    split at hj
    · cases hj
    · exact h.owned hj
  | discard bare _ => exact h.forget (.inl rfl) fun id => by simp [shown?, bare id]
  | finish bare gone =>
    refine ⟨fun {j f} hj => ?_, fun {f slot} hslot => ?_, fun hi => (by cases hi), h.below⟩
    · exact h.owned hj
    · cases (gone f).symm.trans hslot
  | _ => exact h.congr rfl rfl (Nat.le_refl _) rfl rfl

end FramesSound

/-! ## Runs -/

/-- The invariant in the middle of operations. -/
structure SoundAt (M : Moment) : Prop where
  monitors : MonitorsSound M.wall
  frames : FramesSound M

theorem SoundAt.empty : SoundAt (.still .empty) := ⟨.empty, .empty⟩

theorem SoundAt.move {M M' : Moment} {es : List Event} (h : SoundAt M) (move : Move M es M') :
    SoundAt M' :=
  ⟨h.monitors.move move, h.frames.move move⟩

theorem SoundAt.sound {w : Wall} (h : SoundAt (.still w)) : Sound w where
  fit := h.monitors.fit
  frame_owned := fun found shown => h.frames.owned (shown?_eq_some_iff.mpr ⟨_, found, shown⟩)
  frames_apart := fun found found' shown shown' =>
    h.frames.apart (shown?_eq_some_iff.mpr ⟨_, found, shown⟩)
      (shown?_eq_some_iff.mpr ⟨_, found', shown'⟩)
  slot_used := by
    intro f slot hslot
    rcases h.frames.used hslot with e | e | e | e
    · cases e
    · cases e
    · obtain ⟨slot', hslot', _, kept⟩ := h.frames.owned e
      obtain rfl : slot = slot' := Option.some.inj (hslot.symm.trans hslot')
      obtain ⟨m, hm, hf⟩ := shown?_eq_some_iff.mp e
      exact .inl ⟨m, hm, hf, kept⟩
    · exact .inr e
  surfaces_apart := h.monitors.surfaces_apart
  monitor_below := h.monitors.monitor_below
  frame_below := h.frames.below
  surface_below := h.monitors.surface_below

/-- Induction over runs, where each move may use the invariant. -/
theorem sound_induction {P : List Event → Moment → Prop} (start : P [] (.still .empty))
    (step : ∀ {h : List Event} {M M' : Moment} {es : List Event},
      SoundAt M → P h M → Move M es M' → P (h ++ es) M')
    {ops : List (Display × Operation)} (orderly : Stage.empty.Orderly [] ops) :
    SoundAt (.still (Stage.empty.run ops).wall) ∧
      P (Stage.empty.timeline ops) (.still (Stage.empty.run ops).wall) :=
  timeline_induction (P := fun h M => SoundAt M ∧ P h M) ⟨.empty, start⟩
    (fun hp move => ⟨hp.1.move move, step hp.1 hp.2 move⟩) orderly

theorem soundAt_run {ops : List (Display × Operation)} (orderly : Stage.empty.Orderly [] ops) :
    SoundAt (.still (Stage.empty.run ops).wall) :=
  (sound_induction (P := fun _ _ => True) trivial (fun _ _ _ => trivial) orderly).1

/-- Every run keeps the invariant, whatever the display server answers. -/
theorem sound_run {ops : List (Display × Operation)} (orderly : Stage.empty.Orderly [] ops) :
    Sound (Stage.empty.run ops).wall :=
  (soundAt_run orderly).sound

theorem sound_run_rehearsed :
    Stage.empty.Orderly [] rehearsed ∧ Sound (Stage.empty.run rehearsed).wall :=
  ⟨orderly_rehearsed, sound_run orderly_rehearsed⟩

end Wall
end Backdrop

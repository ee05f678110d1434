import Mathlib.Data.List.Induction
import Backdrop.Proofs.Wall.Sound

/-!
# Backdrop.Proofs.Wall.Handshake

The handshake over each surface, as the display server sees it.

* `TokenRule`: a surface is created for a monitor without one, and only surfaces that were created
  and not destroyed are named.
* `ContentRule`: a picture is attached to configured surfaces only, and what is committed is either
  the answer to a configuration or the removal of a picture.
* `HandleRule`: a monitor is released after its surfaces are destroyed.

As with frames, each rule is proved together with an invariant that ties the past to the wall.
-/

namespace Backdrop
namespace Wall

/-- The surface that an event names. -/
@[simp] def Event.surface? : Event → Option SurfaceId
  | .call (.createSurface _ _ surface) => some surface
  | .call (.destroySurface surface) => some surface
  | .call (.acknowledge surface _) => some surface
  | .call (.commit surface) => some surface
  | .call (.attach surface _ _ _ _) => some surface
  | .call (.detach surface _) => some surface
  | _ => none

/-- The surface was created and is not destroyed. -/
structure Live (h : List Event) (surface : SurfaceId) : Prop where
  created : ∃ id handle, .call (.createSurface id handle surface) ∈ h
  kept : .call (.destroySurface surface) ∉ h

/-- The surface was configured with a size, and has not been stripped of a picture since. -/
def Configured (h : List Event) (surface : SurfaceId) : Prop :=
  ∃ before id serial size after,
    h = before ++ .operation (.configure id serial size) ::
      .call (.acknowledge surface serial) :: after ∧
    (size.width ≠ 0 ∧ size.height ≠ 0) ∧ Live before surface ∧
    ∀ scale, .call (.detach surface scale) ∉ after

/-- How often a monitor with this handle was inserted. -/
def insertions (h : List Event) (handle : Nat) : Nat :=
  h.countP fun
    | .operation (.insert _ _ handle') => handle' == handle
    | _ => false

def TokenRule (past : List Event) : Event → Prop
  | .call (.createSurface id _ surface) =>
    (∀ e ∈ past, e.surface? ≠ some surface) ∧
      ∀ handle other, .call (.createSurface id handle other) ∈ past → ¬ Live past other
  | e => ∀ surface, e.surface? = some surface → Live past surface

def ContentRule (past : List Event) : Event → Prop
  | .call (.attach surface _ _ _ _) => Configured past surface
  | .call (.acknowledge surface serial) =>
    ∃ before id handle size, past = before ++ [.operation (.configure id serial size)] ∧
      .call (.createSurface id handle surface) ∈ before
  | .call (.commit surface) =>
    (∃ before id serial size, Configured before surface ∧
      past = before ++ [.operation (.configure id serial size),
        .call (.acknowledge surface serial)]) ∨
    ∃ before scale, past = before ++ [.call (.detach surface scale)]
  | _ => True

/-- A handle is given away when a monitor is inserted with it, so that each is inserted once. -/
def HandleRule (past : List Event) : Event → Prop
  | .call (.releaseOutput handle) => insertions past handle ≤ 1 →
    ∀ id surface, .call (.createSurface id handle surface) ∈ past → ¬ Live past surface
  | _ => True

/-! ## Tokens -/

/-- The monitor has the surface. -/
def Holds (w : Wall) (id : MonitorId) (handle : Nat) (surface : SurfaceId) : Prop :=
  ∃ m, w.monitor? id = some m ∧ m.handle = handle ∧ m.surface = some surface

/-- Some monitor has the surface. -/
def Held (w : Wall) (surface : SurfaceId) : Prop := ∃ id handle, w.Holds id handle surface

section Holds

variable {w : Wall} {id j : MonitorId} {m m₁ : Monitor} {handle : Nat} {surface : SurfaceId}

theorem holds_of_monitor? (found : w.monitor? id = some m) :
    w.Holds id handle surface ↔ m.handle = handle ∧ m.surface = some surface := by
  constructor
  · rintro ⟨m', hm', held⟩
    cases found.symm.trans hm'
    exact held
  · exact fun held => ⟨m, found, held⟩

theorem holds_congr {w' : Wall} (hm : w'.monitor? j = w.monitor? j) :
    w'.Holds j handle surface ↔ w.Holds j handle surface := by
  unfold Holds
  rw [hm]

theorem held_of_monitor? (found : w.monitor? id = some m) (held : m.surface = some surface) :
    w.Held surface :=
  ⟨id, m.handle, (holds_of_monitor? found).mpr ⟨rfl, held⟩⟩

theorem holds_putMonitor : (w.putMonitor id m₁).Holds j handle surface ↔
    if id = j then m₁.handle = handle ∧ m₁.surface = some surface
    else w.Holds j handle surface := by
  split
  · rename_i e
    subst e
    exact holds_of_monitor? (monitor?_putMonitor_self w id m₁)
  · rename_i hne
    exact holds_congr (by rw [monitor?_putMonitor, if_neg hne])

theorem holds_put_same (found : w.monitor? id = some m) (hh : m₁.handle = m.handle)
    (hs : m₁.surface = m.surface) :
    (w.putMonitor id m₁).Holds j handle surface ↔ w.Holds j handle surface := by
  rw [holds_putMonitor]
  split
  · rename_i e
    subst e
    rw [hh, hs, holds_of_monitor? found]
  · rfl

theorem holds_dropMonitor : (w.dropMonitor id).Holds j handle surface ↔
    id ≠ j ∧ w.Holds j handle surface := by
  by_cases e : id = j
  · subst e
    simp [Holds, monitor?_dropMonitor]
  · have same : (w.dropMonitor id).monitor? j = w.monitor? j := by
      rw [monitor?_dropMonitor, if_neg e]
    simp [holds_congr same, e]

theorem holds_adjusted {op : Operation} {change : Monitor → Monitor}
    (what : op.adjustment? = some (id, change)) :
    (w.modifyMonitor id change).Holds j handle surface ↔ w.Holds j handle surface := by
  constructor
  · rintro ⟨m', hm', hh, hs⟩
    obtain ⟨m, hm, alike⟩ := monitor?_of_adjusted what hm'
    exact ⟨m, hm, alike.handle.symm.trans hh, alike.surface.symm.trans hs⟩
  · rintro ⟨m, hm, hh, hs⟩
    obtain ⟨m', hm', alike⟩ := monitor?_adjusted what hm
    exact ⟨m', hm', alike.handle.trans hh, alike.surface.trans hs⟩

end Holds

/-- Neither creates nor destroys a surface. -/
structure Event.Steady (e : Event) : Prop where
  uncreated : ∀ id handle surface, e ≠ .call (.createSurface id handle surface)
  undestroyed : ∀ surface, e ≠ .call (.destroySurface surface)

theorem Event.Steady.iff {e : Event} : e.Steady ↔
    (∀ id handle surface, e ≠ .call (.createSurface id handle surface)) ∧
      ∀ surface, e ≠ .call (.destroySurface surface) :=
  ⟨fun h => ⟨h.1, h.2⟩, fun h => ⟨h.1, h.2⟩⟩

/-- What the monitors have is what was created for them and not destroyed. -/
structure Holdings (h : List Event) (w : Wall) : Prop where
  rule : Always TokenRule h
  below : ∀ e ∈ h, ∀ surface, e.surface? = some surface → surface < w.nextSurface
  holds_iff : ∀ {id handle surface}, w.Holds id handle surface ↔
    .call (.createSurface id handle surface) ∈ h ∧ .call (.destroySurface surface) ∉ h

namespace Holdings

variable {h es : List Event} {w w' : Wall}

theorem empty : Holdings [] .empty :=
  ⟨.nil, fun _ he => (nomatch he), by simp [Holds, monitor?, Wall.empty]⟩

theorem held_iff (hold : Holdings h w) {surface : SurfaceId} :
    w.Held surface ↔ Live h surface := by
  constructor
  · rintro ⟨id, handle, holds⟩
    have := hold.holds_iff.mp holds
    exact ⟨⟨id, handle, this.1⟩, this.2⟩
  · rintro ⟨⟨id, handle, created⟩, kept⟩
    exact ⟨id, handle, hold.holds_iff.mpr ⟨created, kept⟩⟩

theorem congr (hold : Holdings h w)
    (same : ∀ {id handle surface}, w'.Holds id handle surface ↔ w.Holds id handle surface)
    (hn : w'.nextSurface = w.nextSurface) : Holdings h w' := by
  refine ⟨hold.rule, ?_, same.trans hold.holds_iff⟩
  rw [hn]
  exact hold.below

theorem name_snoc (hold : Holdings h w) {e : Event} (steady : e.Steady)
    (names : ∀ surface, e.surface? = some surface → w.Held surface) : Holdings (h ++ [e]) w := by
  refine ⟨hold.rule.snoc ?_, fun e' he' surface hs => ?_, ?_⟩
  · unfold TokenRule
    split
    · exact absurd rfl (steady.uncreated _ _ _)
    · exact fun surface hs => hold.held_iff.mp (names surface hs)
  · rcases List.mem_append.mp he' with he' | he'
    · exact hold.below e' he' surface hs
    · cases List.mem_singleton.mp he'
      obtain ⟨id, handle, created⟩ := (hold.held_iff.mp (names surface hs)).created
      exact hold.below _ created surface rfl
  · intro id handle surface
    have uncreated := (steady.uncreated id handle surface).symm
    have undestroyed := (steady.undestroyed surface).symm
    simp [hold.holds_iff, uncreated, undestroyed]

/-- Events that name only surfaces that some monitor has. -/
theorem name (hold : Holdings h w) (steady : ∀ e ∈ es, e.Steady)
    (names : ∀ e ∈ es, ∀ surface, e.surface? = some surface → w.Held surface) :
    Holdings (h ++ es) w := by
  induction es generalizing h with
  | nil => rwa [List.append_nil]
  | cons e es ih =>
    rw [List.append_cons]
    have first := hold.name_snoc (steady e List.mem_cons_self) (names e List.mem_cons_self)
    exact ih first (fun e' he' => steady e' (List.mem_cons_of_mem _ he'))
      fun e' he' => names e' (List.mem_cons_of_mem _ he')

/-- Events that name only the surface of one monitor. -/
theorem address (hold : Holdings h w) {id : MonitorId} {m : Monitor} {surface : SurfaceId}
    (found : w.monitor? id = some m) (held : m.surface = some surface)
    (steady : ∀ e ∈ es, e.Steady) (names : ∀ e ∈ es, ∀ s, e.surface? = some s → s = surface)
    (same : ∀ {id handle surface}, w'.Holds id handle surface ↔ w.Holds id handle surface)
    (hn : w'.nextSurface = w.nextSurface) : Holdings (h ++ es) w' := by
  refine (hold.name steady fun e he s hs => ?_).congr same hn
  rw [names e he s hs]
  exact held_of_monitor? found held

/-- The next surface is new, and goes to a monitor without one. -/
theorem create (hold : Holdings h w) {id : MonitorId} {m : Monitor}
    (found : w.monitor? id = some m) (bare : m.surface = none) (phase : Phase) :
    Holdings (h ++ [.call (.createSurface id m.handle w.nextSurface)])
      (w.claimSurface.putMonitor id { m with surface := some w.nextSurface, phase := phase }) := by
  have unheld : ∀ handle surface, ¬ w.Holds id handle surface := by
    intro handle surface holds
    rw [holds_of_monitor? found, bare] at holds
    cases holds.2
  have fresh : ∀ e ∈ h, e.surface? ≠ some w.nextSurface := fun e he hs =>
    absurd (hold.below e he _ hs) (Nat.lt_irrefl _)
  refine ⟨hold.rule.snoc ⟨fresh, fun handle other created live => ?_⟩, ?_, ?_⟩
  · exact unheld handle other (hold.holds_iff.mpr ⟨created, live.kept⟩)
  · intro e he surface hs
    rcases List.mem_append.mp he with he | he
    · exact Nat.lt_succ_of_lt (hold.below e he surface hs)
    · cases List.mem_singleton.mp he
      cases hs
      exact Nat.lt_succ_self _
  · intro j handle surface
    have old : w.claimSurface.Holds j handle surface ↔ w.Holds j handle surface := holds_congr rfl
    have undestroyed : .call (.destroySurface w.nextSurface) ∉ h := fun he => fresh _ he rfl
    rw [holds_putMonitor, old, hold.holds_iff]
    split
    · rename_i e
      subst e
      have gone : .call (.createSurface id handle surface) ∈ h →
          .call (.destroySurface surface) ∈ h := fun created =>
        Decidable.byContradiction fun kept => unheld _ _ (hold.holds_iff.mpr ⟨created, kept⟩)
      constructor
      · rintro ⟨rfl, hs⟩
        cases hs
        simp [undestroyed]
      · simp only [List.mem_append, List.mem_singleton, Event.call.injEq, Call.createSurface.injEq,
          reduceCtorEq, or_false]
        rintro ⟨created | ⟨_, rfl, rfl⟩, kept⟩
        · exact absurd (gone created) kept
        · exact ⟨rfl, rfl⟩
    · rename_i hne
      simp [Ne.symm hne]

/-- A monitor gives up its surface, if it has one, and the surface is destroyed. -/
theorem destroy (hold : Holdings h w) {id : MonitorId} {m : Monitor}
    (found : w.monitor? id = some m)
    (same : ∀ {j handle surface}, w'.Holds j handle surface ↔
      w.Holds j handle surface ∧ m.surface ≠ some surface)
    (hn : w'.nextSurface = w.nextSurface) : Holdings (h ++ destruction m.surface) w' := by
  cases hs : m.surface with
  | none =>
    rw [destruction, List.append_nil]
    refine hold.congr (fun {j handle surface} => ?_) hn
    rw [same, hs]
    simp
  | some surface =>
    have live : Live h surface := hold.held_iff.mp (held_of_monitor? found hs)
    refine ⟨hold.rule.snoc fun _ named => ?_, ?_, ?_⟩
    · cases named
      exact live
    · intro e he surface' named
      rw [hn]
      rcases List.mem_append.mp he with he | he
      · exact hold.below e he surface' named
      · cases List.mem_singleton.mp he
        cases named
        obtain ⟨id, handle, created⟩ := live.created
        exact hold.below _ created _ rfl
    · intro j handle surface'
      rw [same, hs, hold.holds_iff]
      simp [destruction, and_assoc, eq_comm]

/-- Once a monitor has no surface, its surface is on no monitor. -/
theorem gone (sound : MonitorsSound w) {id : MonitorId} {m : Monitor}
    (found : w.monitor? id = some m) {j : MonitorId} {handle : Nat} {surface : SurfaceId} :
    id ≠ j ∧ w.Holds j handle surface ↔
      w.Holds j handle surface ∧ m.surface ≠ some surface := by
  constructor
  · rintro ⟨hne, holds⟩
    refine ⟨holds, fun hs => ?_⟩
    obtain ⟨m', hm', _, hs'⟩ := holds
    exact hne (sound.surfaces_apart found hm' hs hs')
  · rintro ⟨holds, hs⟩
    refine ⟨?_, holds⟩
    rintro rfl
    exact hs ((holds_of_monitor? found).mp holds).2

theorem move {M M' : Moment} (hold : Holdings h M.wall) (sound : SoundAt M)
    (move : Move M es M') : Holdings (h ++ es) M'.wall := by
  cases move with
  | @announce w id globalName handle fresh _ =>
    refine (hold.name (by simp [Event.Steady.iff]) (by simp)).congr ?_ rfl
    intro j handle' surface
    simp only [Moment.still, holds_putMonitor]
    split
    · rename_i e
      subst e
      simp [Holds, fresh, Monitor.announced]
    · rfl
  | adjust what =>
    exact (hold.name (by simp [Event.Steady.iff]) (by simp)).congr (holds_adjusted what) rfl
  | create found bare =>
    refine hold.create found ?_ .pendingConfigure
    cases hs : Monitor.surface _ with
    | none => rfl
    | some surface => exact absurd bare ((sound.monitors.fit found).surface_iff.mp (by simp [hs]))
  | ignore serial found held _ =>
    exact hold.address found held (by simp [Event.Steady.iff]) (by simp) .rfl rfl
  | recommit serial found held _ _ =>
    exact hold.address found held (by simp [Event.Steady.iff]) (by simp) .rfl rfl
  | resize serial found held _ =>
    exact hold.address found held (by simp [Event.Steady.iff]) (by simp)
      (holds_put_same found rfl rfl) rfl
  | close found =>
    refine hold.destroy found (fun {j handle surface} => ?_) rfl
    rw [← gone sound.monitors found, holds_putMonitor]
    split <;> simp [*]
  | depart found =>
    exact hold.destroy found (holds_dropMonitor.trans (gone sound.monitors found)) rfl
  | leave found =>
    exact hold.destroy found (holds_dropMonitor.trans (gone sound.monitors found)) rfl
  | clear found held _ _ =>
    exact hold.address found held (by simp [Event.Steady.iff]) (by simp)
      (holds_put_same found rfl rfl) rfl
  | uncover found _ _ =>
    rw [List.append_nil]
    exact hold.congr (holds_put_same found rfl rfl) rfl
  | draw pixels found held _ =>
    exact hold.address found held (by simp [Event.Steady.iff]) (by simp)
      (holds_put_same found rfl rfl) rfl
  | _ =>
    exact (hold.name (by simp [Event.Steady.iff]) (by simp)).congr .rfl rfl

end Holdings

/-! ## Contents -/

namespace Configured

variable {h es : List Event} {surface : SurfaceId}

theorem append (configured : Configured h surface)
    (hes : ∀ scale, .call (.detach surface scale) ∉ es) : Configured (h ++ es) surface := by
  obtain ⟨before, id, serial, size, after, rfl, full, live, kept⟩ := configured
  refine ⟨before, id, serial, size, after ++ es, by simp, full, live, fun scale he => ?_⟩
  rcases List.mem_append.mp he with he | he
  · exact kept scale he
  · exact hes scale he

theorem acknowledged (live : Live h surface) (id : MonitorId) (serial : UInt32) {size : Extent}
    (full : size.isEmpty = false) :
    Configured (h ++ [.operation (.configure id serial size),
      .call (.acknowledge surface serial)]) surface :=
  ⟨h, id, serial, size, [], rfl, Extent.isEmpty_eq_false_iff.mp full, live,
    fun _ he => (nomatch he)⟩

end Configured

/-- The surface of a drawable monitor is configured. -/
structure Prepared (h : List Event) (w : Wall) : Prop where
  rule : Always ContentRule h
  configured : ∀ {id m surface}, w.monitor? id = some m → m.phase = .drawable →
    m.surface = some surface → Configured h surface

namespace Prepared

variable {h es : List Event} {w w' : Wall}

theorem empty : Prepared [] .empty :=
  ⟨.nil, fun found => (nomatch found)⟩

/-- Whatever is drawable now was so before, on the same surface, and nothing is detached from it. -/
theorem keep (prepared : Prepared h w) (rule : Always ContentRule (h ++ es))
    (old : ∀ {id m surface}, w'.monitor? id = some m → m.phase = .drawable →
      m.surface = some surface → (∃ m', w.monitor? id = some m' ∧ m'.phase = .drawable ∧
        m'.surface = some surface) ∧ ∀ scale, .call (.detach surface scale) ∉ es) :
    Prepared (h ++ es) w' := by
  refine ⟨rule, fun found ready held => ?_⟩
  obtain ⟨⟨m', found', ready', held'⟩, kept⟩ := old found ready held
  exact (prepared.configured found' ready' held').append kept

theorem quiet (prepared : Prepared h w) (quiet : ∀ e ∈ es, ∀ past, ContentRule past e)
    (kept : ∀ surface scale, .call (.detach surface scale) ∉ es)
    (old : ∀ {id m surface}, w'.monitor? id = some m → m.phase = .drawable →
      m.surface = some surface → ∃ m', w.monitor? id = some m' ∧ m'.phase = .drawable ∧
        m'.surface = some surface) : Prepared (h ++ es) w' :=
  prepared.keep (prepared.rule.append quiet) fun found ready held =>
    ⟨old found ready held, kept _⟩

/-- A monitor is put in place of another that shows the same or that is not drawable. -/
theorem old_of_put {id j : MonitorId} {m m₁ m' : Monitor} {surface : SurfaceId}
    (found : w.monitor? id = some m) (found' : (w.putMonitor id m₁).monitor? j = some m')
    (ready : m'.phase = .drawable) (held : m'.surface = some surface)
    (same : m₁.phase = .drawable → m.phase = .drawable ∧ m₁.surface = m.surface) :
    ∃ m', w.monitor? j = some m' ∧ m'.phase = .drawable ∧ m'.surface = some surface := by
  rcases monitor?_of_putMonitor found' with ⟨rfl, rfl⟩ | ⟨_, found'⟩
  · exact ⟨m, found, (same ready).1, (same ready).2 ▸ held⟩
  · exact ⟨m', found', ready, held⟩

theorem quiet_destruction (o : Option SurfaceId) :
    ∀ e ∈ destruction o, ∀ past, ContentRule past e := by
  cases o <;> simp [destruction, ContentRule]

theorem detach_destruction (o : Option SurfaceId) (surface : SurfaceId) (scale : Int) :
    .call (.detach surface scale) ∉ destruction o := by
  cases o <;> simp [destruction]

/-- A configuration is acknowledged. -/
theorem acknowledge (prepared : Prepared h w) (hold : Holdings h w) {id : MonitorId} {m : Monitor}
    {surface : SurfaceId} (found : w.monitor? id = some m) (held : m.surface = some surface)
    (serial : UInt32) (size : Extent) :
    Always ContentRule
      (h ++ [.operation (.configure id serial size), .call (.acknowledge surface serial)]) := by
  have created := (hold.holds_iff.mp ((holds_of_monitor? found).mpr ⟨rfl, held⟩)).1
  exact prepared.rule.pair trivial ⟨h, id, m.handle, size, rfl, created⟩

theorem move {M M' : Moment} (prepared : Prepared h M.wall) (hold : Holdings h M.wall)
    (sound : SoundAt M) (move : Move M es M') : Prepared (h ++ es) M'.wall := by
  have same : ∀ {w : Wall} {id m surface}, w.monitor? id = some m → m.phase = .drawable →
      m.surface = some surface →
      ∃ m', w.monitor? id = some m' ∧ m'.phase = .drawable ∧ m'.surface = some surface :=
    fun found ready held => ⟨_, found, ready, held⟩
  have dropped : ∀ {w : Wall} {id j m surface}, (w.dropMonitor id).monitor? j = some m →
      m.phase = .drawable → m.surface = some surface →
      ∃ m', w.monitor? j = some m' ∧ m'.phase = .drawable ∧ m'.surface = some surface :=
    fun found ready held => ⟨_, (monitor?_of_dropMonitor found).2, ready, held⟩
  cases move with
  | @announce w id globalName handle fresh _ =>
    refine prepared.quiet (by simp [ContentRule]) (by simp) fun {j m surface} found ready held => ?_
    rcases monitor?_of_putMonitor found with ⟨_, rfl⟩ | ⟨_, found⟩
    · cases held
    · exact ⟨m, found, ready, held⟩
  | adjust what =>
    refine prepared.quiet (by simp [ContentRule]) (by simp)
      fun {j m' surface} found ready held => ?_
    obtain ⟨m, hm, alike⟩ := monitor?_of_adjusted what found
    exact ⟨m, hm, alike.phase.symm.trans ready, alike.surface.symm.trans held⟩
  | create found _ =>
    exact prepared.quiet (by simp [ContentRule]) (by simp) fun found' ready held =>
      old_of_put (w := claimSurface _) found found' ready held fun bare => (nomatch bare)
  | ignore serial found held _ =>
    exact prepared.keep (prepared.acknowledge hold found held serial _) fun found ready held =>
      ⟨same found ready held, by simp⟩
  | @recommit w id m surface size serial found held full ready =>
    refine prepared.keep ?_ fun found ready held => ⟨same found ready held, by simp⟩
    have acknowledged := prepared.acknowledge hold found held serial size
    have := acknowledged.snoc (e := .call (.commit surface))
      (.inl ⟨h, id, serial, size, prepared.configured found ready held, rfl⟩)
    rwa [List.append_assoc] at this
  | @resize w id m surface size serial found held full =>
    refine ⟨prepared.acknowledge hold found held serial size,
      fun {j m' surface'} found' ready' held' => ?_⟩
    rcases monitor?_of_putMonitor found' with ⟨_, rfl⟩ | ⟨_, found'⟩
    · cases held.symm.trans held'
      exact .acknowledged (hold.held_iff.mp (held_of_monitor? found held)) id serial full
    · exact (prepared.configured found' ready' held').append (by simp)
  | close found =>
    exact prepared.quiet (quiet_destruction _) (detach_destruction _) fun found' ready held =>
      old_of_put found found' ready held fun bare => (nomatch bare)
  | depart _ => exact prepared.quiet (quiet_destruction _) (detach_destruction _) dropped
  | leave _ => exact prepared.quiet (quiet_destruction _) (detach_destruction _) dropped
  | @clear w id m surface f found held shown ready =>
    refine prepared.keep ?_ fun {j m' surface'} found' ready' held' => ?_
    · exact prepared.rule.pair trivial (.inr ⟨h, m.scale, rfl⟩)
    · -- The monitor that is cleared is not drawable any more, and the others have other surfaces.
      rcases monitor?_of_putMonitor found' with ⟨_, rfl⟩ | ⟨hne, found'⟩
      · cases ready'
      · refine ⟨same found' ready' held', fun scale he => ?_⟩
        have same : surface' = surface ∧ scale = m.scale := by simpa using he
        exact hne (sound.monitors.surfaces_apart found found' held (same.1 ▸ held'))
  | uncover found _ _ =>
    exact prepared.quiet (by simp) (by simp) fun found' ready held =>
      old_of_put found found' ready held fun ready => ⟨ready, rfl⟩
  | @draw w id m surface pixels found held ready =>
    refine prepared.keep (prepared.rule.pair trivial ?_) fun {j m' surface'} found' ready' held' =>
      ⟨old_of_put (w := w) found found' ready' held' fun ready => ⟨ready, rfl⟩, by simp⟩
    exact (prepared.configured found ready held).append (by simp)
  | _ => exact prepared.quiet (by simp [ContentRule]) (by simp) same

end Prepared

/-! ## Handles -/

/-- The handle of a monitor. -/
def handle? (w : Wall) (id : MonitorId) : Option Nat := (w.monitor? id).map (·.handle)

section Handle

variable {w : Wall} {id j : MonitorId} {m m₁ : Monitor} {handle : Nat}

theorem handle?_of_monitor? (found : w.monitor? id = some m) : w.handle? id = some m.handle := by
  simp [handle?, found]

theorem handle?_putMonitor :
    (w.putMonitor id m₁).handle? j = if id = j then some m₁.handle else w.handle? j := by
  simp only [handle?, monitor?_putMonitor]
  split <;> rfl

theorem handle?_dropMonitor :
    (w.dropMonitor id).handle? j = if id = j then none else w.handle? j := by
  simp only [handle?, monitor?_dropMonitor]
  split <;> rfl

theorem handle?_put_same (found : w.monitor? id = some m) (same : m₁.handle = m.handle) :
    (w.putMonitor id m₁).handle? = w.handle? := by
  funext j
  rw [handle?_putMonitor]
  split
  · rename_i e
    subst e
    rw [same, handle?_of_monitor? found]
  · rfl

theorem handle?_adjusted {op : Operation} {change : Monitor → Monitor}
    (what : op.adjustment? = some (id, change)) :
    (w.modifyMonitor id change).handle? = w.handle? := by
  funext j
  cases hm : w.monitor? j with
  | none => simp [handle?, monitor?_modifyMonitor, hm]
  | some m =>
    obtain ⟨m', hm', alike⟩ := monitor?_adjusted what hm
    rw [handle?_of_monitor? hm, handle?_of_monitor? hm', alike.handle]

theorem insertions_append (h es : List Event) (handle : Nat) :
    insertions (h ++ es) handle = insertions h handle + insertions es handle :=
  List.countP_append

end Handle

/-- A handle that was inserted once is on one monitor at most, and on none once it goes. -/
structure Handles (h : List Event) (M : Moment) : Prop where
  inserted : ∀ {id handle}, M.wall.handle? id = some handle → 0 < insertions h handle
  alone : ∀ {handle}, insertions h handle ≤ 1 → ∀ {id j}, M.wall.handle? id = some handle →
    M.wall.handle? j = some handle → id = j
  gone : ∀ {handle}, insertions h handle ≤ 1 → M.departing = some handle →
    ∀ id, M.wall.handle? id ≠ some handle

namespace Handles

variable {h es : List Event} {M M' : Moment}

theorem empty : Handles [] (.still .empty) :=
  ⟨fun hid => (nomatch hid), fun _ _ _ hid => (nomatch hid), fun _ departing => (nomatch departing)⟩

theorem congr (handles : Handles h M) (hh : M'.wall.handle? = M.wall.handle?)
    (hd : M'.departing = none ∨ M'.departing = M.departing) : Handles (h ++ es) M' := by
  have fewer : ∀ {handle}, insertions (h ++ es) handle ≤ 1 → insertions h handle ≤ 1 := by
    intro handle few
    rw [insertions_append] at few
    omega
  refine ⟨fun hid => ?_, fun few => ?_, fun few departing => ?_⟩
  · rw [hh] at hid
    have := handles.inserted hid
    rw [insertions_append]
    omega
  · rw [hh]
    exact handles.alone (fewer few)
  · rw [hh]
    rcases hd with hd | hd
    · rw [hd] at departing
      cases departing
    · exact handles.gone (fewer few) (hd ▸ departing)

/-- The monitor goes, and takes its handle along. -/
theorem drop {w : Wall} {loose : Option FrameId} {ending ending' : Bool} {id : MonitorId}
    {m : Monitor} (handles : Handles h ⟨w, none, none, ending⟩) (found : w.monitor? id = some m) :
    Handles (h ++ es) ⟨w.dropMonitor id, loose, some m.handle, ending'⟩ := by
  have old : ∀ {j handle}, (w.dropMonitor id).handle? j = some handle →
      id ≠ j ∧ w.handle? j = some handle := by
    intro j handle hj
    rw [handle?_dropMonitor] at hj
    split at hj
    · cases hj
    · exact ⟨‹_›, hj⟩
  have grown : Handles (h ++ es) ⟨w, none, none, ending⟩ := handles.congr rfl (.inl rfl)
  refine ⟨fun hj => grown.inserted (old hj).2, fun few j k hj hk => ?_,
    fun few departing j hj => ?_⟩
  · exact grown.alone few (old hj).2 (old hk).2
  · cases departing
    exact (old hj).1 (grown.alone few (handle?_of_monitor? found) (old hj).2)

theorem announce {w : Wall} {id : MonitorId} (handles : Handles h (.still w)) (globalName : UInt32)
    (handle : Nat) :
    Handles (h ++ [.operation (.insert id globalName handle)])
      (.still (w.putMonitor id (.announced globalName handle))) := by
  have count : ∀ handle', insertions (h ++ [.operation (.insert id globalName handle)]) handle' =
      insertions h handle' + if handle = handle' then 1 else 0 := by
    intro handle'
    rw [insertions_append]
    simp [insertions]
  have old : ∀ {j handle'},
      (w.putMonitor id (.announced globalName handle)).handle? j = some handle' →
      (id = j ∧ handle = handle') ∨ w.handle? j = some handle' := by
    intro j handle' hj
    rw [handle?_putMonitor] at hj
    split at hj
    · exact .inl ⟨‹_›, Option.some.inj hj⟩
    · exact .inr hj
  -- Where the new handle was inserted before, it is now inserted twice.
  have new : ∀ {j}, w.handle? j = some handle →
      ¬ insertions (h ++ [.operation (.insert id globalName handle)]) handle ≤ 1 := by
    intro j hj few
    have := handles.inserted hj
    rw [count, if_pos rfl] at few
    omega
  refine ⟨fun {j handle'} hj => ?_, fun {handle'} few j k hj hk => ?_, fun _ departing => ?_⟩
  · rw [count]
    rcases old hj with ⟨_, rfl⟩ | hj
    · rw [if_pos rfl]
      omega
    · have := handles.inserted hj
      omega
  · rcases old hj with ⟨rfl, rfl⟩ | hj
    · rcases old hk with ⟨rfl, _⟩ | hk
      · rfl
      · exact absurd few (new hk)
    · rcases old hk with ⟨rfl, rfl⟩ | hk
      · exact absurd few (new hj)
      · refine handles.alone ?_ hj hk
        rw [count] at few
        omega
  · cases departing

theorem move (handles : Handles h M) (move : Move M es M') : Handles (h ++ es) M' := by
  cases move with
  | announce globalName handle _ _ => exact handles.announce globalName handle
  | adjust what => exact handles.congr (handle?_adjusted what) (.inr rfl)
  | create found _ => exact handles.congr (handle?_put_same found rfl) (.inr rfl)
  | resize _ found _ _ => exact handles.congr (handle?_put_same found rfl) (.inr rfl)
  | close found => exact handles.congr (handle?_put_same found rfl) (.inr rfl)
  | clear found _ _ _ => exact handles.congr (handle?_put_same found rfl) (.inr rfl)
  | uncover found _ _ => exact handles.congr (handle?_put_same found rfl) (.inr rfl)
  | draw _ found _ _ => exact handles.congr (handle?_put_same found rfl) (.inr rfl)
  | depart found => exact handles.drop found
  | leave found => exact handles.drop found
  | releaseOutput w handle ending => exact handles.congr rfl (.inl rfl)
  | _ => exact handles.congr rfl (.inr rfl)

end Handles

theorem handleRule_of_not_release {e : Event} (he : ∀ handle, e ≠ .call (.releaseOutput handle))
    (past : List Event) : HandleRule past e := by
  unfold HandleRule
  split
  · exact absurd rfl (he _)
  · trivial

/-- Of all moves only one releases a handle, when the monitor is gone and its surfaces with it. -/
theorem Move.handleRule {h es : List Event} {M M' : Moment} (move : Move M es M')
    (rule : Always HandleRule h) (hold : Holdings h M.wall) (handles : Handles h M) :
    Always HandleRule (h ++ es) := by
  have others : (∀ e ∈ es, ∀ handle, e ≠ .call (.releaseOutput handle)) →
      Always HandleRule (h ++ es) := fun hes =>
    rule.append fun e he => handleRule_of_not_release (hes e he)
  have destructions : ∀ (o : Option SurfaceId), ∀ e ∈ destruction o, ∀ handle,
      e ≠ .call (.releaseOutput handle) := by
    intro o
    cases o <;> simp [destruction]
  cases move with
  | releaseOutput w handle ending =>
    refine rule.snoc fun few id surface created live => ?_
    obtain ⟨m, hm, hh, _⟩ := hold.holds_iff.mpr ⟨created, live.kept⟩
    refine handles.gone few rfl id ?_
    rw [handle?_of_monitor? hm, hh]
  | close _ => exact others (destructions _)
  | depart _ => exact others (destructions _)
  | leave _ => exact others (destructions _)
  | _ => exact others (by simp)

/-! ## Runs -/

/-- A surface is destroyed once at most. -/
theorem count_destroySurface_le {h : List Event} (rule : Always TokenRule h) (surface : SurfaceId) :
    h.count (.call (.destroySurface surface)) ≤ 1 := by
  induction h using List.reverseRecOn with
  | nil => exact Nat.zero_le _
  | append_singleton h e ih =>
    rw [List.count_append]
    by_cases he : e = .call (.destroySurface surface)
    · subst he
      have live : Live h surface := rule h _ [] rfl surface rfl
      rw [List.count_eq_zero_of_not_mem live.kept]
      simp
    · have := ih rule.left
      have : List.count (.call (.destroySurface surface)) [e] = 0 :=
        List.count_eq_zero_of_not_mem (by simpa using Ne.symm he)
      omega

/-- A monitor with a surface answers a configuration first of all, and only once. -/
theorem turn_configure {d : Display} {id : MonitorId} {m : Monitor} {surface : SurfaceId}
    {s : Stage} (serial : UInt32) (size : Extent) (found : s.wall.monitor? id = some m)
    (held : m.surface = some surface) :
    ∃ rest, s.turn d (.configure id serial size) = .operation (.configure id serial size) ::
        .call (.acknowledge surface serial) :: rest ∧
      ∀ other serial', .call (.acknowledge other serial') ∉ rest := by
  have performed : (s.perform d (.configure id serial size)).2 =
      (s.call (.acknowledge surface serial)).configureBy id m surface
        (m.phase.onConfigure m.size size) := by
    simp only [Stage.perform, configure_of_some serial size found held]
  cases action : m.phase.onConfigure m.size size with
  | recommit =>
    refine ⟨[.call (.commit surface)], ?_, by simp⟩
    refine turn_eq (show _ = _ ++ [.acknowledge surface serial, .commit surface] from ?_)
    rw [performed, action]
    simp [Stage.configureBy, Stage.call, Stage.note]
  | resize size' =>
    refine ⟨[], turn_eq (show _ = _ ++ [.acknowledge surface serial] from ?_), by simp⟩
    rw [performed, action]
    rfl
  | ignore =>
    refine ⟨[], turn_eq (show _ = _ ++ [.acknowledge surface serial] from ?_), by simp⟩
    rw [performed, action]
    rfl

/-- What the display server sees of each surface of a run. -/
structure Handshakes (ops : List (Display × Operation)) : Prop where
  tokens : Always TokenRule (Stage.empty.timeline ops)
  contents : Always ContentRule (Stage.empty.timeline ops)
  handles : Always HandleRule (Stage.empty.timeline ops)
  /-- As long as there is a surface, its monitor acknowledges every configuration, once and before
  anything else. -/
  answered : ∀ before d id serial size after,
    ops = before ++ (d, .configure id serial size) :: after → ∀ handle surface,
    .call (.createSurface id handle surface) ∈ Stage.empty.timeline before →
    Live (Stage.empty.timeline before) surface →
    ∃ rest, (Stage.empty.run before).turn d (.configure id serial size) =
        .operation (.configure id serial size) :: .call (.acknowledge surface serial) :: rest ∧
      ∀ other serial', .call (.acknowledge other serial') ∉ rest
  destroyed_le : ∀ surface,
    (Stage.empty.timeline ops).count (.call (.destroySurface surface)) ≤ 1
  destroyed_eq : ∀ before d, ops = before ++ [(d, .shutdown)] → ∀ id handle surface,
    .call (.createSurface id handle surface) ∈ Stage.empty.timeline ops →
    (Stage.empty.timeline ops).count (.call (.destroySurface surface)) = 1

theorem holdings_run {ops : List (Display × Operation)} (orderly : Stage.empty.Orderly [] ops) :
    Holdings (Stage.empty.timeline ops) (Stage.empty.run ops).wall :=
  (sound_induction (P := fun h M => Holdings h M.wall) .empty
    (fun sound hold move => hold.move sound move) orderly).2

theorem prepared_run {ops : List (Display × Operation)} (orderly : Stage.empty.Orderly [] ops) :
    Prepared (Stage.empty.timeline ops) (Stage.empty.run ops).wall :=
  (sound_induction (P := fun h M => Holdings h M.wall ∧ Prepared h M.wall) ⟨.empty, .empty⟩
    (fun sound hp move => ⟨hp.1.move sound move, hp.2.move hp.1 sound move⟩) orderly).2.2

theorem handleRule_run {ops : List (Display × Operation)} (orderly : Stage.empty.Orderly [] ops) :
    Always HandleRule (Stage.empty.timeline ops) :=
  (sound_induction (P := fun h M => Holdings h M.wall ∧ Handles h M ∧ Always HandleRule h)
    ⟨.empty, .empty, .nil⟩
    (fun sound hp move =>
      ⟨hp.1.move sound move, hp.2.1.move move, move.handleRule hp.2.2 hp.1 hp.2.1⟩)
    orderly).2.2.2

/-- After a shutdown no monitor is left to have a surface. -/
theorem destroyed_shutdown {before : List (Display × Operation)} {d : Display}
    (orderly : Stage.empty.Orderly [] (before ++ [(d, .shutdown)])) {id : MonitorId} {handle : Nat}
    {surface : SurfaceId} (created : .call (.createSurface id handle surface) ∈
      Stage.empty.timeline (before ++ [(d, .shutdown)])) :
    .call (.destroySurface surface) ∈ Stage.empty.timeline (before ++ [(d, .shutdown)]) := by
  refine Decidable.byContradiction fun kept => ?_
  obtain ⟨m, hm, _⟩ := (holdings_run orderly).holds_iff.mpr ⟨created, kept⟩
  rw [Stage.wall_run_shutdown] at hm
  cases hm

theorem handshakes_run {ops : List (Display × Operation)} (orderly : Stage.empty.Orderly [] ops) :
    Handshakes ops := by
  have rule := (holdings_run orderly).rule
  refine ⟨rule, (prepared_run orderly).rule, handleRule_run orderly, ?_,
    count_destroySurface_le rule, ?_⟩
  · rintro before d id serial size after rfl handle surface created live
    obtain ⟨m, hm, _, held⟩ :=
      (holdings_run orderly.left).holds_iff.mpr ⟨created, live.kept⟩
    exact turn_configure serial size hm held
  · rintro before d rfl id handle surface created
    have pos := List.count_pos_iff.mpr (destroyed_shutdown orderly created)
    have := count_destroySurface_le rule surface
    omega

theorem handshakes_run_rehearsed :
    Stage.empty.Orderly [] rehearsed ∧ Handshakes rehearsed :=
  ⟨orderly_rehearsed, handshakes_run orderly_rehearsed⟩

end Wall
end Backdrop

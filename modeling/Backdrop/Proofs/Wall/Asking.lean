import Backdrop.Proofs.Wall.Geometry
import Backdrop.Proofs.Wall.Sweep

/-!
# Backdrop.Proofs.Wall.Asking

The display server asks for one size after another.

* `Ask` is one request for a size, and `Stage.asked` the stage after some of them that reach one
  monitor with nothing in between. `lastSize` is the last size among them that is one.
* `Unseats id m op`: the operation closes the surface of the monitor or takes its picture away.
* `Stage.Unasked id` says of a run that no size was asked for while the monitor had a surface.
* `heeded_run`: each request is acknowledged, and committed exactly if it asks for the size that
  the monitor has; the monitor has the last size, and nothing else is different. A monitor that was
  unseated counts no size as its own until it was asked again.
-/

namespace Backdrop
namespace Wall

/-- A request for a size, and how the display server answers at that time. -/
structure Ask where
  display : Display
  serial : UInt32
  size : Extent

def Ask.operation (id : MonitorId) (a : Ask) : Display × Operation :=
  (a.display, .configure id a.serial a.size)

def lastSize (asks : List Ask) : Option Extent :=
  ((asks.map (·.size)).filter fun size => !size.isEmpty).getLast?

/-- A monitor after a size was asked for, if one was. -/
def Monitor.sized (m : Monitor) : Option Extent → Monitor
  | none => m
  | some size => { m with size := size, phase := .drawable }

/-- The operation takes its size away from the surface of a monitor. -/
inductive Unseats (id : MonitorId) (m : Monitor) : Operation → Prop where
  | closed : Unseats id m (.closed id)
  | cleared {target : Option String} (filter : Filter) (meant : m.matchesTarget target = true)
      (shown : m.frame.isSome = true) : Unseats id m (.apply target .clear filter)

namespace Stage

def asked (s : Stage) (id : MonitorId) (asks : List Ask) : Stage :=
  s.run (asks.map (Ask.operation id))

def Unasked (id : MonitorId) (s : Stage) : List (Display × Operation) → Prop
  | [] => True
  | (d, op) :: ops =>
    (∀ serial size, op = .configure id serial size →
      size.isEmpty = true ∨ s.wall.surface? id = none) ∧
      Unasked id (s.perform d op).2 ops

end Stage

/-- How a size is answered that is no news. -/
structure Renews (id : MonitorId) (m : Monitor) (surface : SurfaceId) (s : Stage)
    (serial : UInt32) (size : Extent) : Prop where
  action : (s.configure id serial size).1 = some (.resize size)
  calls : (s.configure id serial size).2.calls = s.calls ++ [.acknowledge surface serial]
  wall : (s.configure id serial size).2.wall = s.wall.putMonitor id (m.sized (some size))

/-- The requests for sizes that reach the monitor `m` with this surface. -/
structure Heeded (s : Stage) (id : MonitorId) (m : Monitor) (surface : SurfaceId) : Prop where
  /-- Only the size and the phase of the monitor change. -/
  wall : ∀ asks, (s.asked id asks).wall = s.wall.putMonitor id (m.sized (lastSize asks))
  calls : ∀ past a, ∃ now, (s.asked id past).wall.monitor? id = some now ∧
    (s.asked id (past ++ [a])).calls = (s.asked id past).calls ++
      .acknowledge surface a.serial ::
        if a.size.isEmpty = false ∧ now.phase = .drawable ∧ now.size = a.size then
          [.commit surface]
        else []
  kinds : ∀ asks, Made [.acknowledge, .commit] s (s.asked id asks)
  repeated : ∀ asks a a', a'.size = a.size →
    (s.asked id (asks ++ [a, a'])).wall = (s.asked id (asks ++ [a])).wall
  /-- This also holds of the size that the monitor had, and still remembers. -/
  renewed : ∀ d op later, Unseats id m op → (s.perform d op).2.Unasked id later →
    ∀ m' surface', ((s.perform d op).2.run later).wall.monitor? id = some m' →
      m'.surface = some surface' → ∀ serial size, size.isEmpty = false →
        Renews id m' surface' ((s.perform d op).2.run later) serial size

/-! ## One request -/

theorem putMonitor_self {w : Wall} {id : MonitorId} {m : Monitor}
    (found : w.monitor? id = some m) : w.putMonitor id m = w := by
  rw [putMonitor, Table.insert_of_find? found]

theorem putMonitor_putMonitor (w : Wall) (id : MonitorId) (m m' : Monitor) :
    (w.putMonitor id m).putMonitor id m' = w.putMonitor id m' := by
  simp only [putMonitor, Table.insert_insert]

namespace Monitor

variable (m : Monitor)

theorem surface_sized (o : Option Extent) : (m.sized o).surface = m.surface := by
  cases o <;> rfl

theorem sized_sized (o o' : Option Extent) : (m.sized o).sized o' = m.sized (o'.or o) := by
  cases o' with
  | none => rfl
  | some size => cases o <;> rfl

end Monitor

theorem lastSize_snoc (asks : List Ask) (a : Ask) :
    lastSize (asks ++ [a]) =
      (if a.size.isEmpty then none else some a.size).or (lastSize asks) := by
  cases empty : a.size.isEmpty <;> simp [lastSize, empty]

section One

variable {s : Stage} {id : MonitorId} {m : Monitor} {surface : SurfaceId}

theorem configure_wall (serial : UInt32) (size : Extent) (found : s.wall.monitor? id = some m)
    (held : m.surface = some surface) :
    (s.configure id serial size).2.wall =
      s.wall.putMonitor id (m.sized (if size.isEmpty then none else some size)) := by
  rw [configure_of_some serial size found held]
  unfold Phase.onConfigure
  split
  · exact (putMonitor_self found).symm
  · split
    · rename_i same
      obtain ⟨ready, rfl⟩ := same
      have unchanged : m.sized (some m.size) = m := by
        rw [Monitor.sized, ← ready]
      rw [unchanged, putMonitor_self found]
      rfl
    · rfl

theorem configure_calls (serial : UInt32) (size : Extent) (found : s.wall.monitor? id = some m)
    (held : m.surface = some surface) :
    (s.configure id serial size).2.calls = s.calls ++ .acknowledge surface serial ::
      if size.isEmpty = false ∧ m.phase = .drawable ∧ m.size = size then [.commit surface]
      else [] := by
  rw [configure_of_some serial size found held]
  unfold Phase.onConfigure
  split
  · rename_i empty
    simp [empty, Stage.configureBy, Stage.call, Stage.note]
  · rename_i full
    split
    · rename_i same
      simp [full, same, Stage.configureBy, Stage.call, Stage.note]
    · rename_i other
      rw [if_neg fun same => other same.2]
      rfl

/-- A monitor that may not be drawn on has no size to compare with. -/
theorem renews_of_unready (found : s.wall.monitor? id = some m) (held : m.surface = some surface)
    (unready : m.phase ≠ .drawable) (serial : UInt32) {size : Extent}
    (full : size.isEmpty = false) : Renews id m surface s serial size := by
  refine ⟨?_, ?_, ?_⟩
  · rw [configure_of_some serial size found held]
    simp [Phase.onConfigure, full, unready]
  · rw [configure_calls serial size found held, if_neg fun same => unready same.2.1]
  · rw [configure_wall serial size found held, full]
    rfl

end One

/-! ## One request after another -/

section Asked

variable {s : Stage} {id : MonitorId} {m : Monitor} {surface : SurfaceId}

theorem asked_snoc (s : Stage) (id : MonitorId) (asks : List Ask) (a : Ask) :
    s.asked id (asks ++ [a]) = ((s.asked id asks).configure id a.serial a.size).2 := by
  rw [Stage.asked, List.map_append, Stage.run_append]
  rfl

theorem wall_asked (found : s.wall.monitor? id = some m) (held : m.surface = some surface)
    (asks : List Ask) :
    (s.asked id asks).wall = s.wall.putMonitor id (m.sized (lastSize asks)) := by
  induction asks using List.reverseRecOn with
  | nil => exact (putMonitor_self found).symm
  | append_singleton asks a ih =>
    have now : (s.asked id asks).wall.monitor? id = some (m.sized (lastSize asks)) := by
      rw [ih, monitor?_putMonitor_self]
    rw [asked_snoc, configure_wall a.serial a.size now ((m.surface_sized _).trans held), ih,
      putMonitor_putMonitor, Monitor.sized_sized, lastSize_snoc]

theorem monitor?_asked (found : s.wall.monitor? id = some m) (held : m.surface = some surface)
    (asks : List Ask) :
    (s.asked id asks).wall.monitor? id = some (m.sized (lastSize asks)) := by
  rw [wall_asked found held, monitor?_putMonitor_self]

theorem asked_made (s : Stage) (id : MonitorId) (asks : List Ask) :
    Made [.acknowledge, .commit] s (s.asked id asks) := by
  induction asks using List.reverseRecOn with
  | nil => exact .refl s
  | append_singleton asks a ih =>
    rw [asked_snoc]
    exact ih.configure id a.serial a.size (by simp) (by simp)

end Asked

/-! ## Monitors that have lost their size -/

/-- The monitor, if there is one, may not be drawn on. -/
def Unready (id : MonitorId) (w : Wall) : Prop :=
  ∀ m, w.monitor? id = some m → m.phase ≠ .drawable

section Unready

variable {w w' : Wall} {s : Stage} {id j : MonitorId} {m : Monitor} {op : Operation}

theorem Keeps.unready (keeps : Keeps w w') (unready : Unready id w) : Unready id w' := by
  intro m' found' ready
  obtain ⟨m, found, stems⟩ := keeps id m' found'
  exact unready m found (stems.ready ready).1

theorem Unready.put (unready : Unready id w) (own : id = j → m.phase ≠ .drawable) :
    Unready id (w.putMonitor j m) := by
  intro m' found'
  rcases monitor?_of_putMonitor found' with ⟨rfl, rfl⟩ | ⟨_, found⟩
  · exact own rfl
  · exact unready m' found

theorem Unready.configure (unready : Unready id s.wall) (serial : UInt32) (size : Extent)
    (idle : j = id → size.isEmpty = true ∨ s.wall.surface? id = none) :
    Unready id (s.configure j serial size).2.wall := by
  by_cases own : j = id
  · subst own
    rwa [wall_configure serial size (idle rfl)]
  · cases held : s.wall.surface? j with
    | none => rwa [wall_configure serial size (.inr held)]
    | some surface =>
      obtain ⟨m, found, held⟩ := surface?_eq_some_iff.mp held
      rw [configure_wall serial size found held]
      exact unready.put fun same => absurd same.symm own

/-- Only a size that is asked for makes a monitor drawable. -/
theorem Unready.perform (unready : Unready id s.wall) (d : Display)
    (unasked : ∀ serial size, op = .configure id serial size →
      size.isEmpty = true ∨ s.wall.surface? id = none) :
    Unready id (s.perform d op).2.wall := by
  cases op with
  | insert j globalName handle =>
    refine (insert_keeps d j globalName handle s).unready (unready.put fun _ => ?_)
    simp [Monitor.announced]
  | setScale j scale =>
    intro m' found'
    have looked : (s.wall.modifyMonitor j _).monitor? id = some m' := found'
    rw [monitor?_modifyMonitor, Option.map_eq_some_iff] at looked
    obtain ⟨m, found, rfl⟩ := looked
    have was := unready m found
    split
    · exact was
    · exact was
  | configure j serial size =>
    exact unready.configure serial size fun own => unasked serial size (own ▸ rfl)
  | _ => exact (perform_keeps d s (by simp [Operation.Measures])).1.unready unready

theorem Unready.run {later : List (Display × Operation)} (unready : Unready id s.wall)
    (unasked : s.Unasked id later) : Unready id (s.run later).wall := by
  induction later generalizing s with
  | nil => exact unready
  | cons p later ih => exact ih (unready.perform p.1 unasked.1) unasked.2

theorem Unseats.unready (unseats : Unseats id m op) (sound : SoundAt (.still s.wall))
    (found : s.wall.monitor? id = some m) (d : Display) :
    Unready id (s.perform d op).2.wall := by
  cases unseats with
  | closed =>
    have looked : s.monitor? id = some m := found
    intro m' found'
    simp only [Stage.perform, Stage.closed, looked, wall_retireOption, monitor?_retireFrame]
      at found'
    cases (monitor?_putMonitor_self _ _ _).symm.trans found'
    simp
  | @cleared target filter meant shown =>
    have swept := swept_of_sound sound d target filter
    intro m' found'
    have looked : (s.apply d target .clear filter).2.wall.monitors.find? id = some m' := found'
    have was : s.wall.monitors.find? id = some m := found
    rw [swept.monitors, Table.find?_mapWithKey, was, Option.map_some, if_pos meant] at looked
    cases looked
    obtain ⟨f, shown⟩ := Option.isSome_iff_exists.mp shown
    simp [Monitor.bared, shown]

end Unready

/-! ## Runs -/

/-- However often a monitor is asked for a size, it is asked for nothing else. -/
theorem heeded_run {ops : List (Display × Operation)} (orderly : Stage.empty.Orderly [] ops)
    {id : MonitorId} {m : Monitor} {surface : SurfaceId}
    (found : (Stage.empty.run ops).wall.monitor? id = some m) (held : m.surface = some surface) :
    Heeded (Stage.empty.run ops) id m surface := by
  refine ⟨wall_asked found held, fun past a => ?calls, asked_made _ id,
    fun asks a a' same => ?repeated, fun d op later unseats unasked m' surface' found' held' serial
      size full => ?renewed⟩
  case calls =>
    have now := monitor?_asked found held past
    refine ⟨_, now, ?_⟩
    rw [asked_snoc, configure_calls a.serial a.size now ((m.surface_sized _).trans held)]
  case repeated =>
    have twice : lastSize (asks ++ [a, a']) = lastSize (asks ++ [a]) := by
      have split : asks ++ [a, a'] = (asks ++ [a]) ++ [a'] := by simp
      rw [split, lastSize_snoc, lastSize_snoc, same]
      cases a.size.isEmpty <;> rfl
    rw [wall_asked found held, wall_asked found held, twice]
  case renewed =>
    have unready := (unseats.unready (soundAt_run orderly) found d).run unasked
    exact renews_of_unready found' held' (unready m' found') serial full

/-- A monitor with a picture is asked for the size that it has, for none and for another one. Its
surface is closed and created anew, and it is asked for the size that it had. -/
theorem heeded_run_pictured :
    Stage.empty.Orderly [] pictured ∧
      (∃ m, (Stage.empty.run pictured).wall.monitor? 1 = some m ∧ m.surface = some 1 ∧
        Heeded (Stage.empty.run pictured) 1 m 1) ∧
      ((Stage.empty.run pictured).asked 1
          [⟨stingy, 7, ⟨1, 1⟩⟩, ⟨stingy, 8, ⟨0, 2⟩⟩, ⟨stingy, 9, ⟨2, 1⟩⟩]).calls.drop
            (Stage.empty.run pictured).calls.length =
        [.acknowledge 1 7, .commit 1, .acknowledge 1 8, .acknowledge 1 9] ∧
      (((Stage.empty.run pictured).run [(stingy, .closed 1), (stingy, .done 1)]).configure 1 7
        ⟨1, 1⟩).1 = some (.resize ⟨1, 1⟩) := by
  have orderly : Stage.empty.Orderly [] pictured := by decide
  have found : (Stage.empty.run pictured).wall.monitor? 1 =
      some ⟨8, 4, some "DP-2", ⟨0, 0⟩, 1, some 1, .drawable, ⟨1, 1⟩, some 1⟩ := by decide
  exact ⟨orderly, ⟨_, found, rfl, heeded_run orderly found rfl⟩, by decide, by decide⟩

end Wall
end Backdrop

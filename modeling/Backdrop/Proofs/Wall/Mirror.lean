import Backdrop.Proofs.Wall.Sound

/-!
# Backdrop.Proofs.Wall.Mirror

What the display server has, according to the calls that it got, is what the wall takes it to have.

* `Screen` is the display server's side: surfaces with what is attached to each, and memory.
  `Screen.obey` says what a call does to it, and `replay` what a list of calls comes to.
* `Mirrors sc w`: the screen has the surfaces and the contents of the monitors, and the memory of
  the slots.
* `mirrored_run`: they mirror each other after every operation of a run, and between any two calls
  whatever is attached is in memory that was not freed.
-/

namespace Backdrop
namespace Wall

structure Screen where
  /-- What is attached to a surface, which may be nothing, if there is such a surface. -/
  shows : SurfaceId → Option (Option FrameId)
  keeps : FrameId → Bool

namespace Screen

def blank : Screen := ⟨fun _ => none, fun _ => false⟩

def setSurface (sc : Screen) (surface : SurfaceId) (content : Option (Option FrameId)) : Screen :=
  { sc with shows := fun s => if s = surface then content else sc.shows s }

def setMemory (sc : Screen) (frame : FrameId) (kept : Bool) : Screen :=
  { sc with keeps := fun f => if f = frame then kept else sc.keeps f }

/-- What one call does. Nothing can be attached to a surface that is not there. -/
def obey (sc : Screen) : Call → Screen
  | .createSurface _ _ surface => sc.setSurface surface (some none)
  | .destroySurface surface => sc.setSurface surface none
  | .attach surface frame _ _ _ =>
    sc.setSurface surface ((sc.shows surface).map fun _ => some frame)
  | .detach surface _ => sc.setSurface surface ((sc.shows surface).map fun _ => none)
  | .allocate frame _ => sc.setMemory frame true
  | .free frame => sc.setMemory frame false
  | .createSurfaceFailed .. | .acknowledge .. | .commit _ | .allocateFailed .. | .releaseOutput _ =>
    sc

/-- What is attached was not freed. -/
def Safe (sc : Screen) : Prop :=
  ∀ surface frame, sc.shows surface = some (some frame) → sc.keeps frame = true

section Views

variable (sc : Screen) (surface s : SurfaceId) (frame f : FrameId)
  (content : Option (Option FrameId)) (kept : Bool)

@[simp] theorem shows_setSurface :
    (sc.setSurface surface content).shows s = if s = surface then content else sc.shows s := rfl

@[simp] theorem keeps_setSurface : (sc.setSurface surface content).keeps = sc.keeps := rfl

@[simp] theorem keeps_setMemory :
    (sc.setMemory frame kept).keeps f = if f = frame then kept else sc.keeps f := rfl

@[simp] theorem shows_setMemory : (sc.setMemory frame kept).shows = sc.shows := rfl

end Views

end Screen

def replay (calls : List Call) : Screen := calls.foldl Screen.obey .blank

theorem replay_append (calls calls' : List Call) :
    replay (calls ++ calls') = calls'.foldl Screen.obey (replay calls) :=
  List.foldl_append

/-! ## Calls of a run -/

def Event.call? : Event → Option Call
  | .operation _ => none
  | .call c => some c

def callsOf (h : List Event) : List Call := h.filterMap Event.call?

theorem callsOf_append (h es : List Event) : callsOf (h ++ es) = callsOf h ++ callsOf es :=
  List.filterMap_append

@[simp] theorem callsOf_operation (op : Operation) (es : List Event) :
    callsOf (.operation op :: es) = callsOf es := rfl

@[simp] theorem callsOf_call (c : Call) (es : List Event) :
    callsOf (.call c :: es) = c :: callsOf es := rfl

@[simp] theorem callsOf_nil : callsOf [] = [] := rfl

theorem mem_callsOf {h : List Event} {c : Call} : c ∈ callsOf h ↔ .call c ∈ h := by
  rw [callsOf, List.mem_filterMap]
  constructor
  · rintro ⟨e, he, hc⟩
    cases e with
    | operation op => cases hc
    | call c' =>
      cases hc
      exact he
  · exact fun he => ⟨_, he, rfl⟩

theorem callsOf_map (cs : List Call) : callsOf (cs.map .call) = cs := by
  induction cs with
  | nil => rfl
  | cons c cs ih => exact congrArg (c :: ·) ih

namespace Stage

theorem calls_configure (id : MonitorId) (serial : UInt32) (size : Extent) (s : Stage) :
    ∃ cs, (s.configure id serial size).2.calls = s.calls ++ cs := by
  unfold configure
  split
  · exact ⟨[], (List.append_nil _).symm⟩
  · split
    · exact ⟨[], (List.append_nil _).symm⟩
    · rename_i m hm o surface held
      show ∃ cs, ((s.call (.acknowledge surface serial)).configureBy id m surface
        (m.phase.onConfigure m.size size)).calls = s.calls ++ cs
      cases m.phase.onConfigure m.size size with
      | recommit =>
        exact ⟨[.acknowledge surface serial, .commit surface], by simp [configureBy, call, note]⟩
      | resize size' => exact ⟨[.acknowledge surface serial], rfl⟩
      | ignore => exact ⟨[.acknowledge surface serial], rfl⟩

theorem calls_released (f : FrameId) (s : Stage) : ∃ cs, (s.released f).calls = s.calls ++ cs := by
  unfold released
  split
  · exact ⟨[], (List.append_nil _).symm⟩
  · split
    · exact ⟨[.free f], rfl⟩
    · exact ⟨[], (List.append_nil _).symm⟩

/-- An operation adds to the calls that were made before it. -/
theorem calls_perform (d : Display) (op : Operation) (s : Stage) :
    ∃ cs, (s.perform d op).2.calls = s.calls ++ cs := by
  have same : ∃ cs, s.calls = s.calls ++ cs := ⟨[], (List.append_nil _).symm⟩
  have led : ∀ {s' : Stage} {M M' : Moment}, Leads s s' M M' → ∃ cs, s'.calls = s.calls ++ cs :=
    fun ⟨cs, h, _⟩ => ⟨cs, h⟩
  cases op with
  | reserve => exact same
  | insert id globalName handle =>
    obtain ⟨cs, h, _⟩ := ensureSurface_leads d id ((s.note
      (Log.debug s!"New output {idText id} (global {globalName})")).putMonitor id
        (.announced globalName handle))
    exact ⟨cs, h⟩
  | createMissing => exact led (foldl_ensureSurface_leads d _ s)
  | setMode id mode => exact same
  | setScale id scale => exact same
  | setLabel id label => exact same
  | done id => exact led (done_leads d id s)
  | configure id serial size => exact calls_configure id serial size s
  | closed id => exact led (closed_leads id s)
  | released f => exact calls_released f s
  | removeGlobal globalName => exact led (removeGlobal_leads globalName s)
  | apply target content filter => exact led (apply_leads d target content filter s)
  | shutdown => exact led (shutdown_leads s)

theorem calls_turn (d : Display) (op : Operation) (s : Stage) :
    (s.perform d op).2.calls = s.calls ++ callsOf (s.turn d op) := by
  obtain ⟨cs, h⟩ := calls_perform d op s
  rw [turn_eq h, h]
  exact congrArg (s.calls ++ ·) (callsOf_map cs).symm

/-- The timeline of a run has the calls of the run, in their order. -/
theorem calls_run (s : Stage) (ops : List (Display × Operation)) :
    (s.run ops).calls = s.calls ++ callsOf (s.timeline ops) := by
  induction ops generalizing s with
  | nil => exact (List.append_nil _).symm
  | cons p ops ih =>
    obtain ⟨d, op⟩ := p
    have first := calls_turn d op s
    rw [timeline, callsOf_append, ← List.append_assoc, ← first]
    exact ih _

end Stage

/-! ## Agreement -/

/-- A monitor has this surface, and this is what it shows on it. -/
def Exhibits (w : Wall) (surface : SurfaceId) (content : Option FrameId) : Prop :=
  ∃ id m, w.monitor? id = some m ∧ m.surface = some surface ∧ m.frame = content

section Exhibits

variable {w : Wall} {id : MonitorId} {m : Monitor} {s : SurfaceId} {content : Option FrameId}

/-- Of a surface that is a monitor's own, nothing but this monitor matters. -/
theorem exhibits_own (sound : MonitorsSound w) (found : w.monitor? id = some m)
    (held : m.surface = some s) : w.Exhibits s content ↔ m.frame = content := by
  constructor
  · rintro ⟨j, m', hm', hs, hf⟩
    obtain rfl : id = j := sound.surfaces_apart found hm' held hs
    obtain rfl : m = m' := Option.some.inj (found.symm.trans hm')
    exact hf
  · exact fun hf => ⟨id, m, found, held, hf⟩

theorem exhibits_dropMonitor (sound : MonitorsSound w) (found : w.monitor? id = some m) :
    (w.dropMonitor id).Exhibits s content ↔ m.surface ≠ some s ∧ w.Exhibits s content := by
  constructor
  · rintro ⟨j, m', hm', hs, hf⟩
    obtain ⟨hne, hm'⟩ := monitor?_of_dropMonitor hm'
    exact ⟨fun held => hne (sound.surfaces_apart found hm' held hs), j, m', hm', hs, hf⟩
  · rintro ⟨other, j, m', hm', hs, hf⟩
    have hne : id ≠ j := by
      rintro rfl
      obtain rfl : m = m' := Option.some.inj (found.symm.trans hm')
      exact other hs
    exact ⟨j, m', by rw [monitor?_dropMonitor, if_neg hne, hm'], hs, hf⟩

theorem exhibits_putMonitor (sound : MonitorsSound w) (found : w.monitor? id = some m)
    (m₁ : Monitor) :
    (w.putMonitor id m₁).Exhibits s content ↔
      (m₁.surface = some s ∧ m₁.frame = content) ∨ (m.surface ≠ some s ∧ w.Exhibits s content) := by
  rw [← exhibits_dropMonitor sound found]
  constructor
  · rintro ⟨j, m', hm', hs, hf⟩
    rcases monitor?_of_putMonitor hm' with ⟨rfl, rfl⟩ | ⟨hne, hm'⟩
    · exact .inl ⟨hs, hf⟩
    · exact .inr ⟨j, m', by rw [monitor?_dropMonitor, if_neg hne, hm'], hs, hf⟩
  · rintro (⟨hs, hf⟩ | ⟨j, m', hm', hs, hf⟩)
    · exact ⟨id, m₁, monitor?_putMonitor_self _ _ _, hs, hf⟩
    · obtain ⟨hne, hm'⟩ := monitor?_of_dropMonitor hm'
      exact ⟨j, m', by rw [monitor?_putMonitor, if_neg hne, hm'], hs, hf⟩

end Exhibits

structure Mirrors (sc : Screen) (w : Wall) : Prop where
  shows_iff : ∀ {surface content},
    sc.shows surface = some content ↔ w.Exhibits surface content
  keeps_iff : ∀ {frame}, sc.keeps frame = true ↔ ∃ slot, w.frame? frame = some slot

namespace Mirrors

variable {sc : Screen} {w : Wall}

theorem blank : Mirrors .blank .empty :=
  ⟨⟨fun h => (nomatch h), fun ⟨_, _, h, _⟩ => (nomatch h)⟩,
    ⟨fun h => (nomatch h), fun ⟨_, h⟩ => (nomatch h)⟩⟩

theorem congr {w' : Wall} (mirror : Mirrors sc w) (hm : w'.monitor? = w.monitor?)
    (hf : w'.frame? = w.frame?) : Mirrors sc w' := by
  refine ⟨?_, ?_⟩
  · simp only [Exhibits, hm]
    exact mirror.shows_iff
  · rw [hf]
    exact mirror.keeps_iff

/-- The frames on the monitors have slots, so that what is attached is in memory. -/
theorem safe {M : Moment} (mirror : Mirrors sc M.wall) (sound : FramesSound M) : sc.Safe := by
  intro surface frame hs
  obtain ⟨id, m, found, _, shown⟩ := mirror.shows_iff.mp hs
  obtain ⟨slot, hslot, _⟩ := sound.owned (shown?_eq_some_iff.mpr ⟨m, found, shown⟩)
  exact mirror.keeps_iff.mpr ⟨slot, hslot⟩

/-- A monitor that keeps its surface shows something else on it. -/
theorem put (mirror : Mirrors sc w) (sound : MonitorsSound w) {id : MonitorId} {m : Monitor}
    (found : w.monitor? id = some m) {surface : SurfaceId} (held : m.surface = some surface)
    (m₁ : Monitor) (kept : m₁.surface = m.surface) :
    Mirrors (sc.setSurface surface ((sc.shows surface).map fun _ => m₁.frame))
      (w.putMonitor id m₁) := by
  refine ⟨fun {s content} => ?_, mirror.keeps_iff⟩
  have live : sc.shows surface = some m.frame :=
    mirror.shows_iff.mpr ((exhibits_own sound found held).mpr rfl)
  rw [Screen.shows_setSurface, exhibits_putMonitor sound found, kept, held, live]
  by_cases e : s = surface
  · subst e
    simp
  · have : ¬ surface = s := fun h => e h.symm
    simp [e, this, mirror.shows_iff]

/-- Nothing that is seen of a monitor changes. -/
theorem put_same (mirror : Mirrors sc w) (sound : MonitorsSound w) {id : MonitorId}
    {m m₁ : Monitor} (found : w.monitor? id = some m) (surface : m₁.surface = m.surface)
    (frame : m₁.frame = m.frame) : Mirrors sc (w.putMonitor id m₁) := by
  refine ⟨fun {s content} => ?_, mirror.keeps_iff⟩
  rw [mirror.shows_iff, exhibits_putMonitor sound found, surface, frame]
  by_cases held : m.surface = some s
  · simp [held, exhibits_own sound found held]
  · simp [held]

theorem announce (mirror : Mirrors sc w) {id : MonitorId} (globalName : UInt32) (handle : Nat)
    (fresh : w.monitor? id = none) :
    Mirrors sc (w.putMonitor id (.announced globalName handle)) := by
  refine ⟨fun {s content} => ?_, mirror.keeps_iff⟩
  rw [mirror.shows_iff]
  constructor
  · rintro ⟨j, m, hm, hs, hf⟩
    have hne : id ≠ j := by
      rintro rfl
      rw [fresh] at hm
      cases hm
    exact ⟨j, m, by rw [monitor?_putMonitor, if_neg hne, hm], hs, hf⟩
  · rintro ⟨j, m, hm, hs, hf⟩
    rcases monitor?_of_putMonitor hm with ⟨_, rfl⟩ | ⟨_, hm⟩
    · cases hs
    · exact ⟨j, m, hm, hs, hf⟩

theorem adjust (mirror : Mirrors sc w) {op : Operation} {id : MonitorId}
    {change : Monitor → Monitor} (what : op.adjustment? = some (id, change)) :
    Mirrors sc (w.modifyMonitor id change) := by
  refine ⟨fun {s content} => ?_, mirror.keeps_iff⟩
  rw [mirror.shows_iff]
  constructor
  · rintro ⟨j, m, hm, hs, hf⟩
    obtain ⟨m', hm', alike⟩ := monitor?_adjusted what hm
    exact ⟨j, m', hm', alike.surface.trans hs, alike.frame.trans hf⟩
  · rintro ⟨j, m', hm', hs, hf⟩
    obtain ⟨m, hm, alike⟩ := monitor?_of_adjusted what hm'
    exact ⟨j, m, hm, alike.surface.symm.trans hs, alike.frame.symm.trans hf⟩

theorem create (mirror : Mirrors sc w) (sound : MonitorsSound w) {id : MonitorId} {m : Monitor}
    (found : w.monitor? id = some m) (bare : m.phase = .uncreated) :
    Mirrors (sc.setSurface w.nextSurface (some none))
      (w.claimSurface.putMonitor id
        { m with surface := some w.nextSurface, phase := .pendingConfigure }) := by
  refine ⟨fun {s content} => ?_, mirror.keeps_iff⟩
  have fit := sound.fit found
  have none_held : m.surface = none := by
    cases hs : m.surface with
    | none => rfl
    | some surface => exact absurd bare (fit.surface_iff.mp (by simp [hs]))
  have none_shown : m.frame = none := by
    cases hf : m.frame with
    | none => rfl
    | some f =>
      have := fit.shown_drawable (by simp [hf])
      rw [bare] at this
      cases this
  have unknown : ∀ content, ¬ w.Exhibits w.nextSurface content := fun content ⟨_, _, hm, hs, _⟩ =>
    Nat.lt_irrefl _ (sound.surface_below hm hs)
  have claimed : MonitorsSound w.claimSurface :=
    ⟨sound.fit, sound.surfaces_apart, sound.monitor_below,
      fun hm hs => Nat.lt_succ_of_lt (sound.surface_below hm hs)⟩
  rw [Screen.shows_setSurface, exhibits_putMonitor claimed found]
  change _ ↔ (some w.nextSurface = some s ∧ m.frame = content) ∨
    (m.surface ≠ some s ∧ w.Exhibits s content)
  by_cases e : s = w.nextSurface
  · subst e
    simp [none_shown, unknown]
  · have : ¬ w.nextSurface = s := fun h => e h.symm
    simp [e, this, none_held, mirror.shows_iff]

theorem shows_destruction (sc : Screen) (o : Option SurfaceId) (s : SurfaceId) :
    ((callsOf (destruction o)).foldl Screen.obey sc).shows s =
      if o = some s then none else sc.shows s := by
  cases o with
  | none => rfl
  | some surface =>
    change (sc.setSurface surface none).shows s = _
    simp only [Screen.shows_setSurface, Option.some.injEq, eq_comm]

theorem keeps_destruction (sc : Screen) (o : Option SurfaceId) :
    ((callsOf (destruction o)).foldl Screen.obey sc).keeps = sc.keeps := by
  cases o <;> rfl

theorem close (mirror : Mirrors sc w) (sound : MonitorsSound w) {id : MonitorId} {m m₁ : Monitor}
    (found : w.monitor? id = some m) (bare : m₁.surface = none) :
    Mirrors ((callsOf (destruction m.surface)).foldl Screen.obey sc) (w.putMonitor id m₁) := by
  refine ⟨fun {s content} => ?_, ?_⟩
  · rw [shows_destruction, exhibits_putMonitor sound found, bare]
    by_cases held : m.surface = some s
    · simp [held]
    · simp [held, mirror.shows_iff]
  · rw [keeps_destruction]
    exact mirror.keeps_iff

theorem drop (mirror : Mirrors sc w) (sound : MonitorsSound w) {id : MonitorId} {m : Monitor}
    (found : w.monitor? id = some m) :
    Mirrors ((callsOf (destruction m.surface)).foldl Screen.obey sc) (w.dropMonitor id) := by
  refine ⟨fun {s content} => ?_, ?_⟩
  · rw [shows_destruction, exhibits_dropMonitor sound found]
    by_cases held : m.surface = some s
    · simp [held]
    · simp [held, mirror.shows_iff]
  · rw [keeps_destruction]
    exact mirror.keeps_iff

theorem putFrame (mirror : Mirrors sc w) (f : FrameId) (slot : Frame) :
    Mirrors (sc.setMemory f true) (w.putFrame f slot) := by
  refine ⟨mirror.shows_iff, fun {k} => ?_⟩
  rw [Screen.keeps_setMemory, frame?_putFrame]
  by_cases e : k = f
  · subst e
    simp
  · have : ¬ f = k := fun h => e h.symm
    simp [e, this, mirror.keeps_iff]

/-- The slot of a frame changes, but not whether it has one. -/
theorem changeFrame (mirror : Mirrors sc w) {f : FrameId} {slot : Frame}
    (found : w.frame? f = some slot) (slot' : Frame) : Mirrors sc (w.putFrame f slot') := by
  refine ⟨mirror.shows_iff, fun {k} => ?_⟩
  rw [mirror.keeps_iff, frame?_putFrame]
  by_cases e : f = k
  · subst e
    simp [found]
  · simp [e]

theorem dropFrame (mirror : Mirrors sc w) (f : FrameId) :
    Mirrors (sc.setMemory f false) (w.dropFrame f) := by
  refine ⟨mirror.shows_iff, fun {k} => ?_⟩
  rw [Screen.keeps_setMemory, frame?_dropFrame]
  by_cases e : k = f
  · subst e
    simp
  · have : ¬ f = k := fun h => e h.symm
    simp [e, this, mirror.keeps_iff]

/-- Memory under a key that has no slot comes and goes. -/
theorem spoil (mirror : Mirrors sc w) {f : FrameId} (fresh : w.frame? f = none) :
    Mirrors ((sc.setMemory f true).setMemory f false) w := by
  refine ⟨mirror.shows_iff, fun {k} => ?_⟩
  rw [Screen.keeps_setMemory, Screen.keeps_setMemory]
  by_cases e : k = f
  · subst e
    simp [fresh]
  · simp [e, mirror.keeps_iff]

theorem move {M M' : Moment} {es : List Event} (mirror : Mirrors sc M.wall) (sound : SoundAt M)
    (move : Move M es M') : Mirrors ((callsOf es).foldl Screen.obey sc) M'.wall := by
  have monitors := sound.monitors
  cases move with
  | reserve => exact mirror.congr rfl rfl
  | announce globalName handle fresh _ => exact mirror.announce globalName handle fresh
  | @adjust w op id change what =>
    exact mirror.adjust what
  | create found bare => exact mirror.create monitors found bare
  | resize _ found _ _ => exact mirror.put_same monitors found rfl rfl
  | close found => exact mirror.close monitors found rfl
  | depart found => exact mirror.drop monitors found
  | leave found => exact mirror.drop monitors found
  | @clear w id m surface f found held _ _ =>
    exact mirror.put monitors found held { m with frame := none, phase := .pendingConfigure } rfl
  | uncover found shown unready =>
    exact absurd ((monitors.fit found).shown_drawable (by simp [shown])) unready
  | allocateFailed _ _ => exact mirror.congr rfl rfl
  | @spoil w id m _ _ =>
    have fresh : w.frame? w.nextFrame = none := by
      cases hf : w.frame? w.nextFrame with
      | none => rfl
      | some slot => exact absurd (sound.frames.below hf) (Nat.lt_irrefl _)
    exact (mirror.spoil fresh).congr rfl rfl
  | @draw w id m surface pixels found held _ =>
    have claimed : Mirrors sc w.claimFrame := mirror.congr rfl rfl
    have sound' : MonitorsSound w.claimFrame := monitors.congr rfl (Nat.le_refl _) rfl
    have attached := claimed.put sound' found held { m with frame := some w.nextFrame } rfl
    exact attached.putFrame w.nextFrame ⟨id, m.frameSize, pixels, true, false⟩
  | retireBusy _ found _ => exact mirror.changeFrame found _
  | retireIdle _ _ _ => exact mirror.dropFrame _
  | rest found _ => exact mirror.changeFrame found _
  | collect _ _ => exact mirror.dropFrame _
  | discard _ _ => exact mirror.dropFrame _
  | _ => exact mirror

end Mirrors

/-! ## Between two calls -/

/-- Calls after which nothing new is attached and no less memory is there. -/
def Call.Gentle : Call → Prop
  | .attach .. => False
  | .free _ => False
  | _ => True

theorem Screen.Safe.gentle {sc : Screen} {c : Call} (safe : sc.Safe) (gentle : c.Gentle) :
    (sc.obey c).Safe := by
  intro surface frame hs
  cases c with
  | attach => cases gentle
  | free => cases gentle
  | createSurface _ _ created =>
    simp only [obey, shows_setSurface] at hs
    split at hs
    · cases hs
    · exact safe surface frame hs
  | destroySurface destroyed =>
    simp only [obey, shows_setSurface] at hs
    split at hs
    · cases hs
    · exact safe surface frame hs
  | detach detached _ =>
    simp only [obey, shows_setSurface] at hs
    split at hs
    · simp at hs
    · exact safe surface frame hs
  | allocate allocated _ =>
    simp only [obey, keeps_setMemory]
    split
    · rfl
    · exact safe surface frame hs
  | _ => exact safe surface frame hs

theorem Screen.Safe.foldl {calls : List Call} {sc : Screen} (safe : sc.Safe)
    (gentle : ∀ c ∈ calls, c.Gentle) : (calls.foldl obey sc).Safe := by
  induction calls generalizing sc with
  | nil => exact safe
  | cons c calls ih =>
    exact ih (safe.gentle (gentle c List.mem_cons_self)) fun c' hc' =>
      gentle c' (List.mem_cons_of_mem _ hc')

/-- Within a move, only the last call attaches or frees. -/
theorem Move.gentle {M M' : Moment} {es : List Event} (move : Move M es M') :
    ∀ c ∈ (callsOf es).dropLast, c.Gentle := by
  have alone : ∀ o : Option SurfaceId, ∀ c ∈ (callsOf (destruction o)).dropLast, c.Gentle := by
    intro o c hc
    cases o <;> cases hc
  cases move with
  | close _ => exact alone _
  | depart _ => exact alone _
  | leave _ => exact alone _
  | _ => simp [Call.Gentle]

/-! ## Runs -/

/-- The screen mirrors the wall, and was safe after each call so far. -/
structure Watched (calls : List Call) (w : Wall) : Prop where
  mirrors : Mirrors (replay calls) w
  safe : ∀ past rest, calls = past ++ rest → (replay past).Safe

theorem Watched.empty : Watched [] .empty := by
  refine ⟨.blank, fun past rest split => ?_⟩
  obtain ⟨rfl, rfl⟩ := List.append_eq_nil_iff.mp split.symm
  exact fun _ _ h => (nomatch h)

theorem Watched.move {calls : List Call} {M M' : Moment} {es : List Event}
    (watched : Watched calls M.wall) (sound : SoundAt M) (move : Move M es M') :
    Watched (calls ++ callsOf es) M'.wall := by
  have mirrors : Mirrors (replay (calls ++ callsOf es)) M'.wall := by
    rw [replay_append]
    exact watched.mirrors.move sound move
  refine ⟨mirrors, fun past rest split => ?_⟩
  rcases List.append_eq_append_iff.mp split with ⟨part, rfl, hes⟩ | ⟨part, rfl, _⟩
  · cases rest with
    | nil =>
      rw [List.append_nil] at hes
      rw [← hes]
      exact mirrors.safe (sound.move move).frames
    | cons c rest =>
      -- Something of the move is still to come, so that the calls before it are gentle.
      rw [replay_append]
      refine (watched.mirrors.safe sound.frames).foldl fun c' hc' => move.gentle c' ?_
      rw [hes, List.dropLast_append_of_ne_nil (List.cons_ne_nil _ _)]
      exact List.mem_append_left _ hc'
  · exact watched.safe past part rfl

theorem watched_run {ops : List (Display × Operation)} (orderly : Stage.empty.Orderly [] ops) :
    Watched (Stage.empty.run ops).calls (Stage.empty.run ops).wall := by
  rw [Stage.calls_run]
  refine (sound_induction (P := fun h M => Watched (callsOf h) M.wall) .empty ?_ orderly).2
  intro h M M' es sound watched move
  rw [callsOf_append]
  exact watched.move sound move

/-- The two sides of a run: what the display server has and what the wall takes it to have. -/
structure Mirrored (ops : List (Display × Operation)) : Prop where
  live : ∀ before after, ops = before ++ after → ∀ surface,
    (∃ content, (replay (Stage.empty.run before).calls).shows surface = some content) ↔
      ∃ id m, (Stage.empty.run before).wall.monitor? id = some m ∧ m.surface = some surface
  attached : ∀ before after, ops = before ++ after → ∀ id m surface,
    (Stage.empty.run before).wall.monitor? id = some m → m.surface = some surface →
      (replay (Stage.empty.run before).calls).shows surface = some m.frame
  kept : ∀ before after, ops = before ++ after → ∀ frame,
    (replay (Stage.empty.run before).calls).keeps frame = true ↔
      ∃ slot, (Stage.empty.run before).wall.frame? frame = some slot
  /-- After each single call, what is attached to a surface is in memory. -/
  safe : ∀ past rest, (Stage.empty.run ops).calls = past ++ rest → (replay past).Safe

theorem mirrored_run {ops : List (Display × Operation)} (orderly : Stage.empty.Orderly [] ops) :
    Mirrored ops := by
  refine ⟨?_, ?_, ?_, (watched_run orderly).safe⟩
  · rintro before after rfl surface
    have mirrors := (watched_run orderly.left).mirrors
    constructor
    · rintro ⟨content, hs⟩
      obtain ⟨id, m, hm, held, _⟩ := mirrors.shows_iff.mp hs
      exact ⟨id, m, hm, held⟩
    · rintro ⟨id, m, hm, held⟩
      exact ⟨m.frame, mirrors.shows_iff.mpr ⟨id, m, hm, held, rfl⟩⟩
  · rintro before after rfl id m surface hm held
    exact (watched_run orderly.left).mirrors.shows_iff.mpr ⟨id, m, hm, held, rfl⟩
  · rintro before after rfl frame
    exact (watched_run orderly.left).mirrors.keeps_iff

theorem mirrored_run_rehearsed : Stage.empty.Orderly [] rehearsed ∧ Mirrored rehearsed :=
  ⟨orderly_rehearsed, mirrored_run orderly_rehearsed⟩

end Wall
end Backdrop

import Backdrop.Proofs.Wall.Painting
import Backdrop.Proofs.Wall.Repertoire
import Backdrop.Proofs.Wall.Surfaces

/-!
# Backdrop.Proofs.Wall.Geometry

What is put on a surface has the scale and the size that the display server asked for.

* `toldScale id ops` is the scale that was told last for a monitor.
* `LastAsked ops id surface size`: the last request for a size that is one and that came while the
  monitor had a surface asked for this size, on this surface.
* `Geometry ops`: whatever is attached in the run was allocated in the same operation, for the
  monitor that holds the surface, with the scale told last and the size asked for last; and a
  surface that is bared is committed at once.
* `geometry_run` holds of every run, also of those that insert monitors under keys in use.
-/

namespace Backdrop
namespace Wall

/-! ## What was told and asked -/

def hearScale (id : MonitorId) (told : Option Int) (p : Display × Operation) : Option Int :=
  match p.2 with
  | .insert j _ _ => if j = id then none else told
  | .setScale j scale => if j = id then some scale else told
  | _ => told

/-- The scale told last since the monitor was announced. -/
def toldScale (id : MonitorId) (ops : List (Display × Operation)) : Option Int :=
  ops.foldl (hearScale id) none

theorem toldScale_snoc (id : MonitorId) (ops : List (Display × Operation))
    (p : Display × Operation) : toldScale id (ops ++ [p]) = hearScale id (toldScale id ops) p := by
  simp [toldScale]

def LastAsked (ops : List (Display × Operation)) (id : MonitorId) (surface : SurfaceId)
    (size : Extent) : Prop :=
  ∃ before d serial after, ops = before ++ (d, .configure id serial size) :: after ∧
    size.isEmpty = false ∧ (Stage.empty.run before).wall.surface? id = some surface ∧
    ∀ between d' serial' size' rest, after = between ++ (d', .configure id serial' size') :: rest →
      size'.isEmpty = false →
      (Stage.empty.run (before ++ (d, .configure id serial size) :: between)).wall.surface? id = none

namespace LastAsked

variable {ops : List (Display × Operation)} {id : MonitorId} {surface : SurfaceId} {size : Extent}

theorem now (d : Display) (serial : UInt32) (full : size.isEmpty = false)
    (held : (Stage.empty.run ops).wall.surface? id = some surface) :
    LastAsked (ops ++ [(d, .configure id serial size)]) id surface size := by
  refine ⟨ops, d, serial, [], rfl, full, held, ?_⟩
  intro between d' serial' size' rest nothing
  simp at nothing

/-- It stays the last one until the monitor is asked again. -/
theorem snoc (last : LastAsked ops id surface size) (p : Display × Operation)
    (other : ∀ serial' size', p.2 = .configure id serial' size' → size'.isEmpty = false →
      (Stage.empty.run ops).wall.surface? id = none) :
    LastAsked (ops ++ [p]) id surface size := by
  obtain ⟨before, d, serial, after, rfl, full, held, later⟩ := last
  refine ⟨before, d, serial, after ++ [p], by simp, full, held, ?_⟩
  intro between d' serial' size' rest split full'
  rcases snoc_eq_append_cons.mp split with ⟨rfl, rfl, _⟩ | ⟨rest', _, rfl⟩
  · exact other serial' size' rfl full'
  · exact later between d' serial' size' rest' rfl full'

end LastAsked

/-! ## What operations keep -/

/-- The operations that say how large a picture must be. -/
def Operation.Measures : Operation → Prop
  | .insert .. | .setScale .. | .configure .. => True
  | _ => False

/-- A monitor has the scale of the one before, and if it may be drawn on, its surface and size. -/
structure Monitor.Stems (m m' : Monitor) : Prop where
  scale : m'.scale = m.scale
  ready : m'.phase = .drawable → m.phase = .drawable ∧ m'.surface = m.surface ∧ m'.size = m.size

namespace Monitor.Stems

variable {m m' m'' : Monitor}

theorem refl (m : Monitor) : m.Stems m := ⟨rfl, fun ready => ⟨ready, rfl, rfl⟩⟩

theorem trans (first : m.Stems m') (second : m'.Stems m'') : m.Stems m'' := by
  refine ⟨second.scale.trans first.scale, ?_⟩
  intro ready
  obtain ⟨ready', surface', size'⟩ := second.ready ready
  obtain ⟨ready, surface, size⟩ := first.ready ready'
  exact ⟨ready, surface'.trans surface, size'.trans size⟩

/-- A monitor that may not be drawn on any more. -/
theorem unready (scale : m'.scale = m.scale) (phase : m'.phase ≠ .drawable) : m.Stems m' :=
  ⟨scale, fun ready => absurd ready phase⟩

theorem frameSize (stems : m.Stems m') (ready : m'.phase = .drawable) :
    m'.frameSize = m.frameSize := by
  simp only [Monitor.frameSize, Monitor.factor, stems.scale, (stems.ready ready).2.2]

end Monitor.Stems

theorem adjustment_stems {op : Operation} {id : MonitorId} {change : Monitor → Monitor}
    (what : op.adjustment? = some (id, change)) (unmeasured : ¬ op.Measures) (m : Monitor) :
    m.Stems (change m) := by
  cases op with
  | setMode j mode =>
    cases what
    exact ⟨rfl, fun ready => ⟨ready, rfl, rfl⟩⟩
  | setLabel j label =>
    cases what
    exact ⟨rfl, fun ready => ⟨ready, rfl, rfl⟩⟩
  | setScale j scale => exact absurd trivial unmeasured
  | _ => cases what

/-- Every monitor stems from one that was there before. -/
def Keeps (w w' : Wall) : Prop :=
  ∀ j m', w'.monitor? j = some m' → ∃ m, w.monitor? j = some m ∧ m.Stems m'

namespace Keeps

variable {w w' w'' : Wall} {id : MonitorId} {m m₁ : Monitor}

theorem same (h : w'.monitor? = w.monitor?) : Keeps w w' := by
  intro j m' found
  rw [h] at found
  exact ⟨m', found, .refl m'⟩

theorem trans (first : Keeps w w') (second : Keeps w' w'') : Keeps w w'' := by
  intro j m'' found''
  obtain ⟨m', found', stems'⟩ := second j m'' found''
  obtain ⟨m, found, stems⟩ := first j m' found'
  exact ⟨m, found, stems.trans stems'⟩

theorem put (found : w.monitor? id = some m) (stems : m.Stems m₁) :
    Keeps w (w.putMonitor id m₁) := by
  intro j m' found'
  rcases monitor?_of_putMonitor found' with ⟨rfl, rfl⟩ | ⟨_, found'⟩
  · exact ⟨m, found, stems⟩
  · exact ⟨m', found', .refl m'⟩

theorem drop (w : Wall) (id : MonitorId) : Keeps w (w.dropMonitor id) := by
  intro j m' found'
  exact ⟨m', (monitor?_of_dropMonitor found').2, .refl m'⟩

end Keeps

theorem Move.keeps {M M' : Moment} {es : List Event} (move : Move M es M')
    (unmeasured : ∀ op, .operation op ∈ es → ¬ op.Measures) : Keeps M.wall M'.wall := by
  cases move with
  | announce globalName handle _ _ =>
    exact absurd trivial (unmeasured _ (List.mem_singleton_self _))
  | @adjust w op id change what =>
    intro j m' found'
    rw [Moment.wall_still, monitor?_modifyMonitor] at found'
    obtain ⟨m, found, rfl⟩ := Option.map_eq_some_iff.mp found'
    refine ⟨m, found, ?_⟩
    split
    · exact adjustment_stems what (unmeasured op (List.mem_singleton_self _)) m
    · exact .refl m
  | create found _ => exact .put (w := Wall.claimSurface _) found (.unready rfl (by simp))
  | resize serial _ _ _ => exact absurd trivial (unmeasured _ List.mem_cons_self)
  | close found => exact .put found (.unready rfl (by simp))
  | clear found _ _ _ => exact .put found (.unready rfl (by simp))
  | uncover found _ unready => exact .put found (.unready rfl unready)
  | draw _ found _ _ =>
    exact .put (w := Wall.claimFrame _) found ⟨rfl, fun ready => ⟨ready, rfl, rfl⟩⟩
  | depart _ => exact .drop _ _
  | leave _ => exact .drop _ _
  | _ => exact .same rfl

/-! ## What is attached during an operation -/

/-- What is attached was allocated in these events, for a monitor as it was at their beginning. -/
def AttachRule (w : Wall) (past : List Event) : Event → Prop
  | .call (.attach surface frame scale size _) =>
    .call (.allocate frame size) ∈ past ∧ ∃ id m, w.monitor? id = some m ∧
      m.phase = .drawable ∧ m.surface = some surface ∧ m.scale = scale ∧ m.frameSize = size
  | _ => True

theorem mem_destruction {o : Option SurfaceId} {e : Event} (he : e ∈ destruction o) :
    ∃ surface, e = .call (.destroySurface surface) := by
  cases o with
  | none => cases he
  | some surface => exact ⟨surface, List.mem_singleton.mp he⟩

theorem Move.attachRule {w : Wall} {h es : List Event} {M M' : Moment} (move : Move M es M')
    (kept : Keeps w M.wall) (rule : Always (AttachRule w) h) : Always (AttachRule w) (h ++ es) := by
  have destroyed : ∀ o, Always (AttachRule w) (h ++ destruction o) := by
    intro o
    refine rule.append fun e he past => ?_
    obtain ⟨surface, rfl⟩ := mem_destruction he
    trivial
  cases move with
  | @draw w' id m surface pixels found held ready =>
    refine rule.pair trivial ⟨List.mem_append_right _ (List.mem_singleton_self _), ?_⟩
    obtain ⟨m₀, found₀, stems⟩ := kept id m found
    obtain ⟨ready₀, surface₀, _⟩ := stems.ready ready
    exact ⟨id, m₀, found₀, ready₀, surface₀ ▸ held, stems.scale.symm,
      (stems.frameSize ready).symm⟩
  | close _ => exact destroyed _
  | depart _ => exact destroyed _
  | leave _ => exact destroyed _
  | _ => exact rule.append (by simp [AttachRule])

theorem Moves.keeps {w : Wall} {M M' : Moment} {es : List Event} (moves : Moves M es M')
    (unmeasured : ∀ op, .operation op ∈ es → ¬ op.Measures) {h : List Event}
    (kept : Keeps w M.wall) (rule : Always (AttachRule w) h) :
    Keeps w M'.wall ∧ Always (AttachRule w) (h ++ es) := by
  induction moves generalizing h with
  | refl M =>
    rw [List.append_nil]
    exact ⟨kept, rule⟩
  | cons first _ ih =>
    rw [← List.append_assoc]
    have now := first.keeps fun op hop => unmeasured op (List.mem_append_left _ hop)
    exact ih (fun op hop => unmeasured op (List.mem_append_right _ hop)) (kept.trans now)
      (first.attachRule kept rule)

theorem perform_keeps (d : Display) {op : Operation} (s : Stage) (unmeasured : ¬ op.Measures) :
    Keeps s.wall (s.perform d op).2.wall ∧ Always (AttachRule s.wall) (s.turn d op) := by
  have welcome : op.Welcome s.wall := by
    cases op with
    | insert id globalName handle => exact absurd trivial unmeasured
    | _ => trivial
  refine (perform_moves (d := d) welcome).keeps ?_ (h := []) (.same rfl) .nil
  intro op' began
  cases mem_turn_operation began
  exact unmeasured

/-- An insertion keeps everything from the time at which the monitor was put there. -/
theorem insert_keeps (d : Display) (id : MonitorId) (globalName : UInt32) (handle : Nat)
    (s : Stage) : Keeps (s.wall.putMonitor id (.announced globalName handle))
      (s.insert d id globalName handle).wall := by
  obtain ⟨cs, _, moves⟩ := insert_leads d id globalName handle s
  refine (moves.keeps ?_ (h := []) (.same rfl) .nil).1
  intro op began
  simp at began

/-! ## What a surface shows no more -/

/-- Whenever a surface is bared, it is committed at once. -/
def Stripped (h : List Event) : Prop :=
  ∀ before surface scale after, h = before ++ .call (.detach surface scale) :: after →
    ∃ rest, after = .call (.commit surface) :: rest

namespace Stripped

theorem of_notMem {es : List Event} (none : ∀ surface scale, .call (.detach surface scale) ∉ es) :
    Stripped es := by
  rintro before surface scale after rfl
  exact absurd (List.mem_append_right _ List.mem_cons_self) (none surface scale)

theorem append {h es : List Event} (old : Stripped h) (new : Stripped es) : Stripped (h ++ es) := by
  intro before surface scale after split
  rcases List.append_eq_append_iff.mp split with ⟨more, rfl, later⟩ | ⟨more, earlier, later⟩
  · exact new more surface scale after later
  · cases more with
    | nil => exact new [] surface scale after (by simpa using later.symm)
    | cons e more =>
      cases later
      obtain ⟨rest, rfl⟩ := old before surface scale more earlier
      exact ⟨rest ++ es, rfl⟩

end Stripped

theorem Move.stripped {M M' : Moment} {es : List Event} (move : Move M es M') : Stripped es := by
  have destroyed : ∀ o, Stripped (destruction o) := by
    intro o
    refine .of_notMem fun surface scale hin => ?_
    obtain ⟨_, detached⟩ := mem_destruction hin
    cases detached
  cases move with
  | @clear w id m surface f found held shown ready =>
    intro before surface' scale after split
    cases before with
    | nil =>
      cases split
      exact ⟨[], rfl⟩
    | cons e before =>
      have second : .call (.detach surface' scale) ∈ [Event.call (.commit surface)] := by
        rw [(List.cons.inj split).2]
        exact List.mem_append_right _ List.mem_cons_self
      simp at second
  | close _ => exact destroyed _
  | depart _ => exact destroyed _
  | leave _ => exact destroyed _
  | _ => exact .of_notMem (by simp)

theorem Moves.stripped {M M' : Moment} {es : List Event} (moves : Moves M es M') :
    Stripped es := by
  induction moves with
  | refl M => exact .of_notMem fun surface scale => List.not_mem_nil
  | cons first _ ih => exact first.stripped.append ih

theorem stripped_timeline (s : Stage) (ops : List (Display × Operation)) :
    Stripped (s.timeline ops) := by
  induction ops generalizing s with
  | nil => exact .of_notMem fun surface scale => List.not_mem_nil
  | cons p ops ih => exact (perform_moves_entering p.1 p.2 s).stripped.append (ih _)

/-! ## The scale and the size that a monitor has -/

structure Tracked (ops : List (Display × Operation)) (w : Wall) : Prop where
  scale : ∀ {id m}, w.monitor? id = some m → m.scale = max 1 ((toldScale id ops).getD 1)
  asked : ∀ {id m}, w.monitor? id = some m → m.phase = .drawable →
    ∃ surface, m.surface = some surface ∧ LastAsked ops id surface m.size

theorem hearScale_of_ne {p : Display × Operation} {id : MonitorId} (told : Option Int)
    (insert : ∀ globalName handle, p.2 ≠ .insert id globalName handle)
    (setScale : ∀ scale, p.2 ≠ .setScale id scale) : hearScale id told p = told := by
  obtain ⟨d, op⟩ := p
  cases op with
  | insert j globalName handle =>
    have other : j ≠ id := by
      rintro rfl
      exact insert globalName handle rfl
    simp [hearScale, other]
  | setScale j scale =>
    have other : j ≠ id := by
      rintro rfl
      exact setScale scale rfl
    simp [hearScale, other]
  | _ => rfl

/-- What a size that is one makes of the monitor, whether it is new or not. -/
theorem monitor?_configure {id : MonitorId} {m : Monitor} {surface : SurfaceId} {s : Stage}
    {size : Extent} (serial : UInt32) (found : s.wall.monitor? id = some m)
    (held : m.surface = some surface) (full : size.isEmpty = false) (j : MonitorId) :
    (s.configure id serial size).2.wall.monitor? j =
      if id = j then some { m with size := size, phase := .drawable } else s.wall.monitor? j := by
  rw [configure_of_some serial size found held]
  by_cases same : m.phase = .drawable ∧ m.size = size
  · have action : m.phase.onConfigure m.size size = .recommit := by
      simp [Phase.onConfigure, full, same]
    rw [action]
    obtain ⟨ready, rfl⟩ := same
    by_cases own : id = j
    · subst own
      rw [if_pos rfl, ← ready]
      exact found
    · rw [if_neg own]
      rfl
  · have action : m.phase.onConfigure m.size size = .resize size := by
      simp [Phase.onConfigure, full, same]
    rw [action]
    exact monitor?_putMonitor _ _ _ _

/-- A request that cannot be met changes no monitor. -/
theorem wall_configure {id : MonitorId} {s : Stage} (serial : UInt32) (size : Extent)
    (idle : size.isEmpty = true ∨ s.wall.surface? id = none) :
    (s.configure id serial size).2.wall = s.wall := by
  cases held : s.wall.surface? id with
  | none =>
    have bare : ∀ m, s.wall.monitor? id = some m → m.surface = none := by
      intro m found
      rw [← surface?_of_monitor? found, held]
    rw [configure_of_none serial size bare]
  | some surface =>
    obtain ⟨m, found, own⟩ := surface?_eq_some_iff.mp held
    have empty : size.isEmpty = true := by simpa [held] using idle
    rw [configure_of_some serial size found own]
    simp only [Phase.onConfigure, empty]
    rfl

namespace Tracked

variable {ops : List (Display × Operation)} {w w' : Wall}

theorem empty : Tracked [] .empty where
  scale := fun h => by cases h
  asked := fun h => by cases h

/-- Operations that tell nothing about this monitor. -/
theorem keep (tracked : Tracked ops w) (keeps : Keeps w w') (d : Display) {op : Operation}
    (unmeasured : ¬ op.Measures) : Tracked (ops ++ [(d, op)]) w' := by
  refine ⟨?_, ?_⟩
  · intro id m' found'
    obtain ⟨m, found, stems⟩ := keeps id m' found'
    have untold : hearScale id (toldScale id ops) (d, op) = toldScale id ops := by
      refine hearScale_of_ne _ ?_ ?_
      · rintro globalName handle rfl
        exact unmeasured trivial
      · rintro scale rfl
        exact unmeasured trivial
    rw [toldScale_snoc, untold, stems.scale]
    exact tracked.scale found
  · intro id m' found' ready
    obtain ⟨m, found, stems⟩ := keeps id m' found'
    obtain ⟨ready', own, size⟩ := stems.ready ready
    obtain ⟨surface, held, last⟩ := tracked.asked found ready'
    refine ⟨surface, own.trans held, ?_⟩
    rw [size]
    refine last.snoc (d, op) ?_
    rintro serial' size' rfl _
    exact absurd trivial unmeasured

theorem insert (tracked : Tracked ops w) (d : Display) {id : MonitorId} {globalName : UInt32}
    {handle : Nat} (keeps : Keeps (w.putMonitor id (.announced globalName handle)) w') :
    Tracked (ops ++ [(d, .insert id globalName handle)]) w' := by
  refine ⟨?_, ?_⟩
  · intro j m' found'
    obtain ⟨m, found, stems⟩ := keeps j m' found'
    rw [toldScale_snoc, stems.scale]
    rcases monitor?_of_putMonitor found with ⟨rfl, rfl⟩ | ⟨other, found⟩
    · simp [hearScale, Monitor.announced]
    · rw [hearScale_of_ne _ (by simp [other]) (by simp)]
      exact tracked.scale found
  · intro j m' found' ready
    obtain ⟨m, found, stems⟩ := keeps j m' found'
    obtain ⟨ready', own, size⟩ := stems.ready ready
    rcases monitor?_of_putMonitor found with ⟨rfl, rfl⟩ | ⟨_, found⟩
    · cases ready'
    · obtain ⟨surface, held, last⟩ := tracked.asked found ready'
      refine ⟨surface, own.trans held, ?_⟩
      rw [size]
      exact last.snoc _ (by simp)

theorem setScale (tracked : Tracked ops w) (d : Display) (id : MonitorId) (scale : Int) :
    Tracked (ops ++ [(d, .setScale id scale)])
      (w.modifyMonitor id fun m => { m with scale := max scale 1 }) := by
  refine ⟨?_, ?_⟩
  · intro j m' found'
    rw [monitor?_modifyMonitor] at found'
    obtain ⟨m, found, rfl⟩ := Option.map_eq_some_iff.mp found'
    rw [toldScale_snoc]
    by_cases same : id = j
    · simp [hearScale, same, Int.max_comm]
    · rw [hearScale_of_ne _ (by simp) (by simp [same]), if_neg (Ne.symm same)]
      exact tracked.scale found
  · intro j m' found' ready
    rw [monitor?_modifyMonitor] at found'
    obtain ⟨m, found, rfl⟩ := Option.map_eq_some_iff.mp found'
    have same : ∀ (p : Prop) [Decidable p], (if p then { m with scale := max scale 1 } else m) =
        { m with scale := if p then max scale 1 else m.scale } := by
      intro p _
      split <;> rfl
    rw [same] at ready ⊢
    obtain ⟨surface, held, last⟩ := tracked.asked found ready
    exact ⟨surface, held, last.snoc _ (by simp)⟩

theorem configure {s : Stage} (tracked : Tracked ops s.wall) (run : s = Stage.empty.run ops)
    (d : Display) (id : MonitorId) (serial : UInt32) (size : Extent) :
    Tracked (ops ++ [(d, .configure id serial size)]) (s.configure id serial size).2.wall := by
  by_cases idle : size.isEmpty = true ∨ s.wall.surface? id = none
  · rw [wall_configure serial size idle]
    refine ⟨?_, ?_⟩
    · intro j m found
      rw [toldScale_snoc, hearScale_of_ne _ (by simp) (by simp)]
      exact tracked.scale found
    · intro j m found ready
      obtain ⟨surface, held, last⟩ := tracked.asked found ready
      refine ⟨surface, held, last.snoc _ ?_⟩
      rintro serial' size' same full
      cases same
      rw [← run]
      exact idle.resolve_left (by simp [full])
  · obtain ⟨nonempty, surfaced⟩ := not_or.mp idle
    have full : size.isEmpty = false := by simpa using nonempty
    obtain ⟨surface, has⟩ := Option.ne_none_iff_exists'.mp surfaced
    obtain ⟨m, found, held⟩ := surface?_eq_some_iff.mp has
    have after := monitor?_configure serial found held full
    refine ⟨?_, ?_⟩
    · intro j m' found'
      rw [toldScale_snoc, hearScale_of_ne _ (by simp) (by simp)]
      rw [after j] at found'
      split at found'
      · rename_i same
        cases found'
        subst same
        have scale := tracked.scale found
        exact scale
      · exact tracked.scale found'
    · intro j m' found' ready
      rw [after j] at found'
      split at found'
      · rename_i same
        subst same
        cases found'
        refine ⟨surface, held, .now d serial full ?_⟩
        rw [← run]
        exact has
      · rename_i other
        obtain ⟨surface', held', last⟩ := tracked.asked found' ready
        refine ⟨surface', held', last.snoc _ ?_⟩
        rintro serial' size' same _
        cases same
        exact absurd rfl other

end Tracked

theorem tracked_run (ops : List (Display × Operation)) :
    Tracked ops (Stage.empty.run ops).wall := by
  induction ops using List.reverseRecOn with
  | nil => exact .empty
  | append_singleton ops p ih =>
    obtain ⟨d, op⟩ := p
    rw [Stage.run_append]
    show Tracked _ ((Stage.empty.run ops).perform d op).2.wall
    cases op with
    | insert id globalName handle =>
      exact ih.insert d (insert_keeps d id globalName handle _)
    | setScale id scale => exact ih.setScale d id scale
    | configure id serial size => exact ih.configure rfl d id serial size
    | _ =>
      refine ih.keep (perform_keeps d _ ?_).1 d ?_ <;> simp [Operation.Measures]

/-! ## Runs -/

/-- What was told and asked before something is attached to a surface. -/
structure AsAsked (before : List (Display × Operation)) (surface : SurfaceId) (scale : Int)
    (size : Extent) (id : MonitorId) (asked : Extent) : Prop where
  holder : ∀ j, (Stage.empty.run before).wall.surface? j = some surface ↔ j = id
  told : scale = max 1 ((toldScale id before).getD 1)
  requested : LastAsked before id surface asked
  fits : asked.width.toNat * scale.toNat < UInt32.size →
    asked.height.toNat * scale.toNat < UInt32.size →
      size.width.toNat = asked.width.toNat * scale.toNat ∧
        size.height.toNat = asked.height.toNat * scale.toNat ∧ size.isEmpty = false

structure Geometry (ops : List (Display × Operation)) : Prop where
  attached : ∀ {before d op after}, ops = before ++ (d, op) :: after →
    ∀ {past surface frame scale size pixels rest},
      (Stage.empty.run before).turn d op =
          past ++ .call (.attach surface frame scale size pixels) :: rest →
        (∃ target content filter, op = .apply target content filter) ∧
          .call (.allocate frame size) ∈ past ∧
            ∃ id asked, AsAsked before surface scale size id asked
  stripped : ∀ {before surface scale after},
    Stage.empty.timeline ops = before ++ .call (.detach surface scale) :: after →
      ∃ rest, after = .call (.commit surface) :: rest

/-- Of all operations only a request attaches anything. -/
theorem apply_of_attach {op : Operation} (attaches : .attach ∈ op.repertoire) :
    ∃ target content filter, op = .apply target content filter := by
  cases op with
  | apply target content filter => exact ⟨target, content, filter, rfl⟩
  | _ => simp at attaches

theorem geometry_run (ops : List (Display × Operation)) : Geometry ops := by
  refine ⟨?_, fun split => stripped_timeline _ ops _ _ _ _ split⟩
  intro before d op after _ past surface frame scale size pixels rest split
  have attaches : .call (.attach surface frame scale size pixels) ∈
      (Stage.empty.run before).turn d op := by
    rw [split]
    exact List.mem_append_right _ List.mem_cons_self
  obtain ⟨target, content, filter, rfl⟩ := apply_of_attach (kind_of_turn attaches)
  have unmeasured : ¬ (Operation.apply target content filter).Measures := by
    simp [Operation.Measures]
  have rule := (perform_keeps d (Stage.empty.run before) unmeasured).2
  obtain ⟨allocated, id, m, found, ready, held, rfl, rfl⟩ := rule past _ rest split
  refine ⟨⟨target, content, filter, rfl⟩, allocated, id, m.size, ?_⟩
  have tracked := tracked_run before
  have has : (Stage.empty.run before).wall.surface? id = some surface := by
    rw [surface?_of_monitor? found, held]
  obtain ⟨surface', held', last⟩ := tracked.asked found ready
  cases held.symm.trans held'
  refine ⟨?_, tracked.scale found, last, ?_⟩
  · intro j
    constructor
    · intro other
      exact (apart_run before).apart other has
    · rintro rfl
      exact has
  · intro width height
    have pos : 1 ≤ m.scale := by
      rw [tracked.scale found]
      exact Int.le_max_left _ _
    obtain ⟨_, _, _, _, _, full, _, _⟩ := last
    obtain ⟨wide, high⟩ := Extent.isEmpty_eq_false_iff.mp full
    have fitting : m.Fitting := ⟨width, height⟩
    obtain ⟨widthEq, heightEq⟩ := fitting.frameSize wide pos
    have scaled : ∀ {x y : UInt32}, x ≠ 0 → y.toNat = x.toNat * m.scale.toNat → y ≠ 0 := by
      rintro x y nonzero product rfl
      have left : 0 < x.toNat := Nat.pos_of_ne_zero fun h => nonzero (UInt32.toNat_inj.mp h)
      have right : 0 < m.scale.toNat := by omega
      have := Nat.mul_pos left right
      rw [← product] at this
      exact Nat.lt_irrefl 0 this
    exact ⟨widthEq, heightEq,
      Extent.isEmpty_eq_false_iff.mpr ⟨scaled wide widthEq, scaled high heightEq⟩⟩

/-- The scale is told after the size was asked for, and both go into the frame. -/
example :
    let d := (⟨true, false, false, []⟩ : Rehearsal).display
    let ops := [(d, .reserve), (d, .insert 0 7 3), (d, .configure 0 1 ⟨1, 2⟩), (d, .setScale 0 2),
      (d, .apply none (.image #[1, 2, 3, 4] ⟨1, 1⟩) .nearest)]
    (Stage.empty.run ops).calls.any fun
      | .attach surface frame scale size _ => (surface, frame, scale, size) = (0, 0, 2, ⟨2, 4⟩)
      | _ => false := by
  decide

end Wall
end Backdrop

import Backdrop.Proofs.Session.Opening
import Backdrop.Proofs.Wall.Geometry

/-!
# Backdrop.Proofs.Session.Greeting

The handshake, whatever the order of the announcements.

* `Event.calm`: the event neither announces nor withdraws anything, and closes nothing.
* `Manned t s`: the session `s` has the monitors and the layers of `t`, each with its surface. Calm
  events keep this.
* `Greeted as es`: what must come of a handshake in which the display server announces `as` and then
  sends `es`. It holds of all announcements and all calm events.
-/

namespace Backdrop
namespace Wall

/-! ## Operations that neither bring nor take a surface -/

/-- What stays of a monitor: where it comes from, its surface, and whether it waits for one. -/
def Monitor.card (m : Monitor) : UInt32 × Nat × Option SurfaceId × Bool :=
  (m.globalName, m.handle, m.surface, m.phase == .uncreated)

def card? (w : Wall) (id : MonitorId) : Option (UInt32 × Nat × Option SurfaceId × Bool) :=
  (w.monitor? id).map Monitor.card

/-- No monitor waits for its surface. -/
def Raised (w : Wall) : Prop := ∀ id m, w.monitor? id = some m → m.phase ≠ .uncreated

theorem Raised.congr {w w' : Wall} (raised : Raised w) (same : w'.card? = w.card?) : Raised w' := by
  intro id m found bare
  have card : w.card? id = some m.card := by
    rw [← same, card?, found]
    rfl
  obtain ⟨m', found', cards⟩ := Option.map_eq_some_iff.mp card
  have waits : (m'.phase == .uncreated) = (m.phase == .uncreated) :=
    congrArg (fun card => card.2.2.2) cards
  rw [bare] at waits
  exact raised id m' found' (by simpa using waits)

/-- The operations of a session in which nothing comes and goes. -/
def Operation.Calm : Operation → Prop
  | .setMode .. | .setScale .. | .setLabel .. | .done _ | .configure .. | .released _ => True
  | _ => False

theorem card?_modifyMonitor (w : Wall) (id : MonitorId) {change : Monitor → Monitor}
    (same : ∀ m, (change m).card = m.card) : (w.modifyMonitor id change).card? = w.card? := by
  funext j
  rw [card?, monitor?_modifyMonitor, Option.map_map, card?]
  congr 1
  funext m
  by_cases own : j = id <;> simp [own, same]

theorem ensureSurface_raised {st : Stage} (raised : Raised st.wall) (d : Display)
    (id : MonitorId) :
    (st.ensureSurface d id).wall = st.wall ∧ (st.ensureSurface d id).calls = st.calls := by
  unfold Stage.ensureSurface
  split
  · split
    · exact ⟨rfl, rfl⟩
    · rename_i m found
      rw [if_neg (raised id m found)]
      exact ⟨rfl, rfl⟩
  · exact ⟨rfl, rfl⟩

theorem done_raised {st : Stage} (raised : Raised st.wall) (d : Display) (id : MonitorId) :
    (st.done d id).wall = st.wall ∧ (st.done d id).calls = st.calls := by
  unfold Stage.done
  split
  · exact ensureSurface_raised raised d id
  · rename_i m _
    have noted : Raised (st.note (Log.debug
        s!"Output {m.describe id}: {m.mode.width}x{m.mode.height} scale {m.scale}")).wall := raised
    exact ensureSurface_raised noted d id

theorem card?_configure {st : Stage} (raised : Raised st.wall) (id : MonitorId) (serial : UInt32)
    (size : Extent) : (st.configure id serial size).2.wall.card? = st.wall.card? := by
  by_cases idle : size.isEmpty = true ∨ st.wall.surface? id = none
  · rw [wall_configure serial size idle]
  · obtain ⟨nonempty, surfaced⟩ := not_or.mp idle
    have full : size.isEmpty = false := by simpa using nonempty
    obtain ⟨surface, has⟩ := Option.ne_none_iff_exists'.mp surfaced
    obtain ⟨m, found, held⟩ := surface?_eq_some_iff.mp has
    funext j
    rw [card?, monitor?_configure serial found held full j, card?]
    by_cases own : id = j
    · subst own
      have waits := raised id m found
      simp [found, Monitor.card, waits]
    · rw [if_neg own]

theorem perform_calm (d : Display) {op : Operation} {st : Stage} (calm : op.Calm)
    (raised : Raised st.wall) :
    (st.perform d op).2.wall.card? = st.wall.card? ∧
      ∃ cs, (st.perform d op).2.calls = st.calls ++ cs ∧ ∀ c ∈ cs, c.kind ≠ .createSurface := by
  obtain ⟨cs, calls, kinds⟩ := perform_made d op st
  have without : .createSurface ∉ op.repertoire → ∀ c ∈ cs, c.kind ≠ .createSurface :=
    fun none c hc same => none (same ▸ kinds c hc)
  cases op with
  | setMode | setScale | setLabel =>
    exact ⟨card?_modifyMonitor _ _ fun m => rfl, cs, calls, without (by simp)⟩
  | done id =>
    -- It may create a surface, but none is missing.
    obtain ⟨wall, silent⟩ := done_raised raised d id
    exact ⟨congrArg card? wall, [], silent.trans (List.append_nil _).symm, fun _ hc => nomatch hc⟩
  | configure id serial size =>
    exact ⟨card?_configure raised id serial size, cs, calls, without (by simp)⟩
  | released f =>
    have same : (st.released f).wall.monitors = st.wall.monitors := by
      unfold Stage.released
      split
      · rfl
      · split <;> rfl
    refine ⟨?_, cs, calls, without (by simp)⟩
    funext j
    exact congrArg (fun t : Table Monitor => (t.find? j).map Monitor.card) same
  | _ => exact absurd calm id

end Wall

namespace Session

/-! ## Calm events -/

def Event.calm : Event → Bool
  | .global .. | .globalRemove _ | .closed _ => false
  | _ => true

theorem layered_emit {s : Session} {c : Wall.Call} (kind : c.kind ≠ .createSurface) :
    (s.emit c).layered = s.layered := by
  have plain : (s.requestsOf c).filterMap Request.layered? = [] := by
    cases c with
    | createSurface => exact absurd rfl kind
    | allocate | attach | free =>
      simp only [requestsOf]
      split <;> rfl
    | _ => rfl
  have emitted : (s.emit c).sent ++ (s.emit c).queued =
      (s.sent ++ s.queued) ++ s.requestsOf c := by
    simp only [emit, pushAll_eq]
    cases c <;> simp [remember]
  simp only [layered, emitted, List.filterMap_append, plain, List.append_nil]

theorem layered_changeWall {s : Session} {f : Wall.Stage → Wall.Stage}
    (plain : ∀ c ∈ (f ⟨s.wall, [], []⟩).calls, c.kind ≠ .createSurface) :
    (s.changeWall f).layered = s.layered := by
  have emitted : ∀ (cs : List Wall.Call), (∀ c ∈ cs, c.kind ≠ .createSurface) →
      ∀ s : Session, (cs.foldl emit s).layered = s.layered := by
    intro cs
    induction cs with
    | nil => exact fun _ _ => rfl
    | cons c cs ih =>
      intro plain s
      have rest := ih (fun c hc => plain c (List.mem_cons_of_mem _ hc)) (s.emit c)
      exact rest.trans (layered_emit (plain c List.mem_cons_self))
  exact emitted _ plain _

theorem fatal_changeWall (s : Session) (f : Wall.Stage → Wall.Stage) :
    (s.changeWall f).fatal = s.fatal :=
  (Steady.changeWall s f).fatal

/-- A calm event is left alone, or it is one operation on the wall. -/
theorem dispatch_calm {e : Event} (calm : e.calm = true) (s : Session) :
    s.dispatch e = s ∨ ∃ op : Wall.Operation, op.Calm ∧
      s.dispatch e = s.changeWall fun st => (st.perform s.display op).2 := by
  cases e with
  | mode n flags mode =>
    simp only [dispatch]
    split
    · exact .inr ⟨.setMode n mode, trivial, rfl⟩
    · exact .inl rfl
  | scale n factor => exact .inr ⟨.setScale n factor, trivial, rfl⟩
  | name n text => exact .inr ⟨.setLabel n text, trivial, rfl⟩
  | done n => exact .inr ⟨.done n, trivial, rfl⟩
  | configure n serial size =>
    simp only [dispatch, onLayer]
    split
    · exact .inl rfl
    · rename_i id _
      exact .inr ⟨.configure id serial size, trivial, rfl⟩
  | release n =>
    simp only [dispatch]
    split
    · exact .inl rfl
    · rename_i frame _
      exact .inr ⟨.released frame, trivial, rfl⟩
  | other o => exact .inl rfl
  | _ => cases calm

structure Manned (t s : Session) : Prop where
  cards : s.wall.card? = t.wall.card?
  made : s.layered = t.layered
  fatal : s.fatal = t.fatal

theorem Manned.dispatch {s t : Session} (manned : Manned t s) (raised : t.wall.Raised) {e : Event}
    (calm : e.calm = true) : Manned t (s.dispatch e) := by
  rcases dispatch_calm calm s with same | ⟨op, quiet, performed⟩
  · rw [same]
    exact manned
  · rw [performed]
    have up : (⟨s.wall, [], []⟩ : Wall.Stage).wall.Raised := raised.congr manned.cards
    obtain ⟨cards, cs, calls, kinds⟩ := Wall.perform_calm s.display quiet up
    refine ⟨?_, ?_, ?_⟩
    · rw [wall_changeWall]
      exact cards.trans manned.cards
    · rw [layered_changeWall]
      · exact manned.made
      · intro c hc
        rw [calls, List.nil_append] at hc
        exact kinds c hc
    · rw [fatal_changeWall]
      exact manned.fatal

theorem Manned.dispatchAll {s t : Session} (manned : Manned t s) (raised : t.wall.Raised)
    {es : List Event} (calm : ∀ e ∈ es, e.calm = true) : Manned t (s.dispatchAll es) := by
  induction es generalizing s with
  | nil => exact manned
  | cons e es ih =>
    have first := manned.dispatch raised (calm e List.mem_cons_self)
    exact ih first fun e' he' => calm e' (List.mem_cons_of_mem _ he')

theorem Manned.createMissing {s t : Session} (manned : Manned t s) (raised : t.wall.Raised) :
    Manned t s.createMissing := by
  have up : s.wall.Raised := raised.congr manned.cards
  have nobody : s.wall.monitors.entries.filter (fun e => e.2.phase == .uncreated) = [] := by
    refine List.filter_eq_nil_iff.mpr fun e he waits => ?_
    exact up e.1 e.2 (Table.find?_eq_some_iff.mpr he) (by simpa using waits)
  have same : ∀ l, (⟨s.wall, [], l⟩ : Wall.Stage).createMissing s.display = ⟨s.wall, [], l⟩ := by
    intro l
    simp only [Wall.Stage.createMissing, nobody, List.map_nil, List.foldl_nil]
  refine ⟨?_, ?_, ?_⟩
  · rw [Session.createMissing, wall_changeWall, same]
    exact manned.cards
  · rw [Session.createMissing, layered_changeWall]
    · exact manned.made
    · intro c hc
      rw [same] at hc
      cases hc
  · rw [Session.createMissing, fatal_changeWall]
    exact manned.fatal

/-! ## One wait for an answer -/

/-- The session when it has asked for an answer. -/
def asked (callback : Nat) (s : Session) : Session :=
  { s.push (.sync callback) with sent := s.sent ++ (s.queued ++ [.sync callback]), queued := [] }

theorem readAll_events (es : List Event) : readAll (es.map .event) = .ok es := by
  induction es with
  | nil => rfl
  | cons e es ih => rw [List.map_cons, readAll, ih]

theorem roundtrip_events (callback : Nat) (es : List Event) (s : Session) :
    roundtrip callback (.messages (es.map .event)) s =
      (((s.asked callback).dispatchAll
          (es.filter fun e => (s.asked callback).hears (.event e))).fatal.elim (.ok ()) .error,
       (s.asked callback).dispatchAll (es.filter fun e => (s.asked callback).hears (.event e))) := by
  have heard : (es.map Message.event).filter (s.asked callback).hears =
      (es.filter fun e => (s.asked callback).hears (.event e)).map .event := List.filter_map
  have read := readAll_events (es.filter fun e => (s.asked callback).hears (.event e))
  rw [← heard] at read
  have begun : ({ s.push (.sync callback) with
      sent := (s.push (.sync callback)).sent ++ (s.push (.sync callback)).queued
      queued := [] } : Session) = s.asked callback := rfl
  simp only [roundtrip, begun, read]
  split
  · rename_i e failed
    rw [failed, Option.elim]
  · rename_i fine
    rw [fine, Option.elim]

/-! ## The handshake -/

/-- The display server announces all of this, and sends these events before its second answer. -/
def greet (as : List Announcement) (es : List Event) : Except DaemonError Unit × Session :=
  handshake (.messages ((as.map Announcement.event).map .event)) (.messages (es.map .event))

def introducedTo (as : List Announcement) : Session :=
  ((fresh.push .getRegistry).asked 0).dispatchAll (as.map Announcement.event)

def settledWith (as : List Announcement) (es : List Event) : Session :=
  ((introducedTo as).asked 1).dispatchAll
    (es.filter fun e => ((introducedTo as).asked 1).hears (.event e))

theorem roundtrip_announced (as : List Announcement) :
    roundtrip 0 (.messages ((as.map Announcement.event).map .event)) (fresh.push .getRegistry) =
      ((as.findSome? Announcement.fault?).elim (.ok ()) .error, introducedTo as) := by
  have heard : (as.map Announcement.event).filter
      (fun e => ((fresh.push .getRegistry).asked 0).hears (.event e)) =
        as.map Announcement.event := by
    refine List.filter_eq_self.mpr fun e he => ?_
    obtain ⟨a, _, rfl⟩ := List.mem_map.mp he
    rfl
  have fatal : (introducedTo as).fatal = as.findSome? Announcement.fault? :=
    fatal_announcedAll as _
  rw [roundtrip_events, heard]
  show ((introducedTo as).fatal.elim (Except.ok ()) Except.error, introducedTo as) = _
  rw [fatal]

theorem portrait_asked : Portrait [] (tally []) ((fresh.push .getRegistry).asked 0) where
  count := rfl
  opened := ⟨fun _ => rfl, rfl, rfl, rfl, rfl⟩
  furnished := by
    refine ⟨rfl, rfl, fun _ => rfl, rfl, rfl, rfl, rfl, rfl, ?_, rfl⟩
    intro o
    have live : ((fresh.push .getRegistry).asked 0).live = [.display, .registry, .callback 0] := rfl
    rw [live]
    cases o <;> simp [Known, tally, Counts.furnished, Counts.Able]

theorem portrait_introducedTo {as : List Announcement}
    (fine : as.findSome? Announcement.fault? = none) :
    Portrait (outputs as) (tally as) (introducedTo as) :=
  portrait_asked.announceAll (List.findSome?_eq_none_iff.mp fine)

theorem verdict_eq_ok_iff {as : List Announcement} : verdict as = .ok () ↔
    as.findSome? Announcement.fault? = none ∧ missing? as = none := by
  unfold verdict
  cases as.findSome? Announcement.fault? with
  | some e => simp
  | none => cases missing? as <;> simp

theorem greet_of_fault {as : List Announcement} {e : DaemonError}
    (fault : as.findSome? Announcement.fault? = some e) (es : List Event) :
    (greet as es).1 = .error e := by
  have first := roundtrip_announced as
  rw [fault, Option.elim] at first
  simp only [greet, handshake, first]

theorem greet_of_missing {as : List Announcement} {i : Interface}
    (fine : as.findSome? Announcement.fault? = none) (missing : missing? as = some i)
    (es : List Event) : (greet as es).1 = .error (.missingGlobal i.name) := by
  have first := roundtrip_announced as
  have globals := require_globals as
  rw [fine, Option.elim] at first
  rw [missing, ← (portrait_introducedTo fine).furnished.globals] at globals
  simp only [greet, handshake, first, globals]

section Fine

variable {as : List Announcement} {es : List Event}

theorem furnished_of_verdict (ok : verdict as = .ok ()) :
    (tally as).furnished = (outputs as).length := by
  obtain ⟨compositor, _, layerShell⟩ := missing?_eq_none_iff.mp (verdict_eq_ok_iff.mp ok).2
  rw [Counts.furnished, if_pos ⟨compositor, layerShell⟩, length_outputs]

theorem opened_introducedTo (ok : verdict as = .ok ()) :
    Opened (outputs as) (outputs as).length (introducedTo as).wall := by
  have portrait := portrait_introducedTo (verdict_eq_ok_iff.mp ok).1
  rw [← furnished_of_verdict ok]
  exact portrait.opened

theorem card?_of_opened {names : List UInt32} {w : Wall} (opened : Opened names names.length w)
    (i : Nat) : w.card? i = (names.mapIdx fun i name => (name, i, some i, false))[i]? := by
  rw [Wall.card?, opened.monitors i, Option.map_map, List.getElem?_mapIdx]
  cases named : names[i]? with
  | none => rfl
  | some name =>
    obtain ⟨room, _⟩ := List.getElem?_eq_some_iff.mp named
    simp [seat, room, Wall.Monitor.card, Wall.Monitor.announced]

theorem raised_of_opened {names : List UInt32} {w : Wall}
    (opened : Opened names names.length w) : w.Raised := by
  intro i m found
  rw [opened.monitors i] at found
  obtain ⟨name, named, rfl⟩ := Option.map_eq_some_iff.mp found
  obtain ⟨room, _⟩ := List.getElem?_eq_some_iff.mp named
  simp [seat, room]

theorem layered_asked (callback : Nat) (s : Session) : (s.asked callback).layered = s.layered := by
  simp [layered, asked, Request.layered?, ← List.append_assoc]

theorem manned_settledWith (ok : verdict as = .ok ()) (calm : ∀ e ∈ es, e.calm = true) :
    Manned (introducedTo as) (settledWith as es) := by
  have start : Manned (introducedTo as) ((introducedTo as).asked 1) :=
    ⟨rfl, layered_asked 1 _, rfl⟩
  refine start.dispatchAll (raised_of_opened (opened_introducedTo ok)) fun e he => ?_
  exact calm e (List.mem_of_mem_filter he)

theorem greet_of_verdict (ok : verdict as = .ok ()) (calm : ∀ e ∈ es, e.calm = true) :
    greet as es = (.ok (), (settledWith as es).createMissing.noteReady) := by
  obtain ⟨fine, nothing⟩ := verdict_eq_ok_iff.mp ok
  have portrait := portrait_introducedTo fine
  have first := roundtrip_announced as
  have globals := require_globals as
  have fatal : (settledWith as es).fatal = none :=
    (manned_settledWith ok calm).fatal.trans portrait.furnished.fatal
  have second : roundtrip 1 (.messages (es.map .event)) (introducedTo as) =
      (.ok (), settledWith as es) := by
    rw [roundtrip_events]
    show ((settledWith as es).fatal.elim (Except.ok ()) Except.error, settledWith as es) = _
    rw [fatal, Option.elim]
  rw [fine, Option.elim] at first
  rw [nothing, ← portrait.furnished.globals] at globals
  simp only [greet, handshake, first, globals, second]

theorem manned_greet (ok : verdict as = .ok ()) (calm : ∀ e ∈ es, e.calm = true) :
    Manned (introducedTo as) (greet as es).2 := by
  have raised := raised_of_opened (opened_introducedTo ok)
  have manned := (manned_settledWith ok calm).createMissing raised
  rw [greet_of_verdict ok calm]
  exact { manned with }

end Fine

/-! ## Other orders -/

theorem verdict_perm {as as' : List Announcement} (perm : as'.Perm as)
    (ok : verdict as = .ok ()) : verdict as' = .ok () := by
  obtain ⟨fine, nothing⟩ := verdict_eq_ok_iff.mp ok
  refine verdict_eq_ok_iff.mpr ⟨?_, ?_⟩
  · rw [List.findSome?_eq_none_iff] at fine ⊢
    exact fun a ha => fine a (perm.mem_iff.mp ha)
  · rw [missing?_eq_none_iff] at nothing ⊢
    simpa only [tally, perm.countP_eq] using nothing

theorem tally_perm {as as' : List Announcement} (perm : as'.Perm as) : tally as' = tally as := by
  simp only [tally, perm.countP_eq]

theorem Portrait.alike {names : List UInt32} {c : Counts} {s t : Session}
    (one : Portrait names c s) (other : Portrait names c t) : Alike s t where
  wall := one.opened.unique other.opened
  globals := one.furnished.globals.trans other.furnished.globals.symm
  counts := one.furnished.counts.trans other.furnished.counts.symm
  layers := Table.ext_find? fun n =>
    (one.furnished.layers n).trans (other.furnished.layers n).symm
  buffers := one.furnished.buffers.trans other.furnished.buffers.symm
  nextBuffer := one.furnished.nextBuffer.trans other.furnished.nextBuffer.symm
  link := one.furnished.link.trans other.furnished.link.symm
  pending := one.furnished.pending.trans other.furnished.pending.symm
  fatal := one.furnished.fatal.trans other.furnished.fatal.symm
  live := fun o => (one.furnished.live o).trans (other.furnished.live o).symm

theorem Alike.asked {s t : Session} (alike : Alike s t) (callback : Nat) :
    Alike (s.asked callback) (t.asked callback) :=
  { alike.push (.sync callback) with }

theorem alike_greet {as as' : List Announcement} {es : List Event} (ok : verdict as = .ok ())
    (perm : as'.Perm as) (order : outputs as' = outputs as) (calm : ∀ e ∈ es, e.calm = true) :
    Alike (greet as' es).2 (greet as es).2 := by
  have ok' := verdict_perm perm ok
  have here := portrait_introducedTo (verdict_eq_ok_iff.mp ok).1
  have there := portrait_introducedTo (verdict_eq_ok_iff.mp ok').1
  rw [order, tally_perm perm] at there
  have waiting := (there.alike here).asked 1
  have settled : Alike (settledWith as' es) (settledWith as es) := by
    unfold settledWith
    rw [waiting.hears]
    exact waiting.dispatchAll _
  rw [greet_of_verdict ok calm, greet_of_verdict ok' calm]
  exact { settled.createMissing with }

/-! ## All greetings -/

structure Greeted (as : List Announcement) (es : List Event) : Prop where
  answer : (greet as es).1 = verdict as
  /-- One monitor for each announcement of one, in their order, with a surface. -/
  monitors : verdict as = .ok () →
    ((greet as es).2.wall.monitors.entries.map
        fun e => (e.1, e.2.globalName, e.2.handle, e.2.surface)) =
      (outputs as).mapIdx fun i name => (i, name, i, some i)
  /-- For each of them one layer was ever asked for. -/
  layers : verdict as = .ok () → (greet as es).2.layered = List.range (outputs as).length
  order : verdict as = .ok () → ∀ as', as'.Perm as → outputs as' = outputs as →
    verdict as' = .ok () ∧ ∀ later,
      ((greet as' es).2.dispatchAll later).wall = ((greet as es).2.dispatchAll later).wall

theorem greeted (as : List Announcement) {es : List Event} (calm : ∀ e ∈ es, e.calm = true) :
    Greeted as es := by
  refine ⟨?_, ?_, ?_, ?_⟩
  · cases fault : as.findSome? Announcement.fault? with
    | some e =>
      rw [greet_of_fault fault, verdict, fault]
    | none =>
      cases missing : missing? as with
      | some i => rw [greet_of_missing fault missing, verdict, fault, missing]
      | none =>
        have ok := verdict_eq_ok_iff.mpr ⟨fault, missing⟩
        rw [greet_of_verdict ok calm, ok]
  · intro ok
    have cards := (manned_greet ok calm).cards
    have places : ∀ i, ((greet as es).2.wall.monitors.mapWithKey fun _ m => m.card).find? i =
        ((outputs as).mapIdx fun i name => (name, i, some i, false))[i]? := by
      intro i
      rw [Table.find?_mapWithKey, ← card?_of_opened (opened_introducedTo ok) i, ← cards]
      rfl
    have entries := congrArg (List.map fun e => (e.1, e.2.1, e.2.2.1, e.2.2.2.1))
      (Table.entries_eq_mapIdx places)
    simp only [Table.mapWithKey, Wall.Monitor.card, List.map_map, Function.comp_def] at entries
    rw [entries]
    refine List.ext_getElem? fun i => ?_
    simp [Option.map_map, Function.comp_def]
  · intro ok
    have portrait := portrait_introducedTo (verdict_eq_ok_iff.mp ok).1
    rw [(manned_greet ok calm).made, portrait.furnished.made, furnished_of_verdict ok]
  · intro ok as' perm order
    refine ⟨verdict_perm perm ok, fun later => ?_⟩
    exact ((alike_greet ok perm order calm).dispatchAll later).wall

/-- Monitors are announced before, between and after what their surfaces need. -/
def scattered : List Announcement :=
  [⟨5, "wl_output", 4⟩, ⟨1, "wl_shm", 2⟩, ⟨2, "zwlr_layer_shell_v1", 4⟩, ⟨3, "wl_seat", 1⟩,
    ⟨9, "wl_output", 5⟩, ⟨4, "wl_compositor", 6⟩, ⟨6, "wl_output", 4⟩]

theorem greeted_scattered :
    let es := [Event.name 0 "DP-1", .scale 1 2, .done 0, .done 1, .configure 0 1 ⟨3, 2⟩]
    (∀ e ∈ es, e.calm = true) ∧ verdict scattered = .ok () ∧ outputs scattered = [5, 9, 6] ∧
      Greeted scattered es :=
  ⟨by decide, rfl, rfl, greeted scattered (by decide)⟩

end Session
end Backdrop

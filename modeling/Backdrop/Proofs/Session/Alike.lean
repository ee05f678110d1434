import Backdrop.Session.Dispatch

/-!
# Backdrop.Proofs.Session.Alike

Sessions that go on alike.

* `Alike s t`: the sessions differ at most in the order in which their objects were made, in what
  they have asked for so far, and in their logs.
* Whatever events come next, alike sessions stay alike, and so do their walls.
-/

namespace Backdrop
namespace Session

structure Alike (s t : Session) : Prop where
  wall : s.wall = t.wall
  globals : s.globals = t.globals
  counts : s.counts = t.counts
  layers : s.layers = t.layers
  buffers : s.buffers = t.buffers
  nextBuffer : s.nextBuffer = t.nextBuffer
  link : s.link = t.link
  pending : s.pending = t.pending
  fatal : s.fatal = t.fatal
  live : ∀ o, o ∈ s.live ↔ o ∈ t.live

namespace Alike

variable {s t : Session}

/-! ## Requests -/

theorem push (alike : Alike s t) (r : Request) : Alike (s.push r) (t.push r) := by
  refine { alike with live := ?_ }
  intro o
  simp only [Session.push, List.mem_filter, List.mem_append, alike.live]

theorem pushAll (alike : Alike s t) (rs : List Request) : Alike (s.pushAll rs) (t.pushAll rs) := by
  induction rs generalizing s t with
  | nil => exact alike
  | cons r rs ih => exact ih (alike.push r)

theorem requestsOf (alike : Alike s t) (c : Wall.Call) : s.requestsOf c = t.requestsOf c := by
  cases c with
  | createSurface monitor handle n => simp only [Session.requestsOf, alike.globals]
  | allocate frame size =>
    simp only [Session.requestsOf, alike.globals, alike.nextBuffer]
  | attach surface frame scale size pixels =>
    simp only [Session.requestsOf, bufferOf, alike.buffers]
  | free frame => simp only [Session.requestsOf, bufferOf, alike.buffers]
  | _ => rfl

theorem remember (alike : Alike s t) (c : Wall.Call) : Alike (s.remember c) (t.remember c) := by
  cases c with
  | createSurface monitor handle n =>
    exact { alike with layers := congrArg (·.insert n monitor) alike.layers }
  | allocate frame size =>
    have buffers : s.buffers.insert s.nextBuffer frame = t.buffers.insert t.nextBuffer frame := by
      rw [alike.buffers, alike.nextBuffer]
    exact { alike with buffers := buffers, nextBuffer := congrArg (· + 1) alike.nextBuffer }
  | _ => exact alike

theorem emit (alike : Alike s t) (c : Wall.Call) : Alike (s.emit c) (t.emit c) := by
  have asked := alike.pushAll (s.requestsOf c)
  simp only [Session.emit]
  rw [← alike.requestsOf c]
  exact asked.remember c

theorem foldl_emit (alike : Alike s t) (cs : List Wall.Call) :
    Alike (cs.foldl Session.emit s) (cs.foldl Session.emit t) := by
  induction cs generalizing s t with
  | nil => exact alike
  | cons c cs ih => exact ih (alike.emit c)

/-! ## The wall -/

theorem display (alike : Alike s t) : s.display = t.display := by
  have same := alike.globals
  cases s
  cases t
  cases same
  rfl

theorem changeWall (alike : Alike s t) (f : Wall.Stage → Wall.Stage) :
    Alike (s.changeWall f) (t.changeWall f) := by
  simp only [Session.changeWall, onWall, ← alike.wall]
  refine foldl_emit ?_ _
  exact { alike with wall := rfl }

theorem onLayer (alike : Alike s t) (layer : Nat)
    (f : Wall.MonitorId → Wall.Stage → Wall.Stage) :
    Alike (s.onLayer layer f) (t.onLayer layer f) := by
  simp only [Session.onLayer, ← alike.layers]
  cases s.layers.find? layer with
  | none => exact alike
  | some id => exact alike.changeWall (f id)

theorem createMissing (alike : Alike s t) : Alike s.createMissing t.createMissing := by
  simp only [Session.createMissing, ← alike.display]
  exact alike.changeWall _

/-! ## Events -/

theorem fail (alike : Alike s t) (e : DaemonError) : Alike (s.fail e) (t.fail e) :=
  { alike with fatal := congrArg (·.or (some e)) alike.fatal }

theorem bindGlobal (alike : Alike s t) (i : Interface) (name : UInt32) (number : Nat) (g : Globals)
    (c : Counts) : Alike (s.bindGlobal i name number g c) (t.bindGlobal i name number g c) := by
  refine createMissing ?_
  exact { alike.push (.bind name i number) with globals := rfl, counts := rfl }

theorem bindOutput (alike : Alike s t) (name : UInt32) :
    Alike (s.bindOutput name) (t.bindOutput name) := by
  have bound : Alike
      { s.push (.bind name .output s.counts.output) with
        counts := { s.counts with output := s.counts.output + 1 } }
      { t.push (.bind name .output s.counts.output) with
        counts := { s.counts with output := s.counts.output + 1 } } :=
    { alike.push (.bind name .output s.counts.output) with counts := rfl }
  simp only [Session.bindOutput, ← alike.counts, ← bound.display]
  exact bound.changeWall _

theorem announce (alike : Alike s t) (name : UInt32) (interface : String) (version : UInt32) :
    Alike (s.announce name interface version) (t.announce name interface version) := by
  unfold Session.announce
  cases Interface.ofName? interface with
  | none => exact alike
  | some i =>
    dsimp only
    cases checkVersion i.name i.required version with
    | error e => exact alike.fail e
    | ok _ =>
      simp only [bind, ← alike.counts, ← alike.globals]
      cases i with
      | output => exact alike.bindOutput name
      | _ => exact alike.bindGlobal _ _ _ _ _

theorem dispatch (alike : Alike s t) (e : Event) : Alike (s.dispatch e) (t.dispatch e) := by
  cases e with
  | global name interface version => exact alike.announce name interface version
  | globalRemove name => exact alike.changeWall _
  | mode n flags mode =>
    simp only [Session.dispatch]
    split
    · exact alike.changeWall _
    · exact alike
  | scale n factor => exact alike.changeWall _
  | name n text => exact alike.changeWall _
  | done n =>
    simp only [Session.dispatch, ← alike.display]
    exact alike.changeWall _
  | configure n serial size => exact alike.onLayer _ _
  | closed n => exact alike.onLayer _ _
  | release n =>
    simp only [Session.dispatch, ← alike.buffers]
    cases s.buffers.find? n with
    | none => exact alike
    | some frame => exact alike.changeWall _
  | other o => exact alike

theorem dispatchAll (alike : Alike s t) (es : List Event) :
    Alike (s.dispatchAll es) (t.dispatchAll es) := by
  induction es generalizing s t with
  | nil => exact alike
  | cons e es ih => exact ih (alike.dispatch e)

theorem hears (alike : Alike s t) : s.hears = t.hears := by
  funext m
  cases m with
  | event e =>
    rw [Session.hears, Session.hears, Bool.eq_iff_iff]
    simp only [List.contains_iff_mem, alike.live]
  | error code text => rfl

end Alike

end Session
end Backdrop

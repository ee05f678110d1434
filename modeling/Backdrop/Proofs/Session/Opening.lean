import Mathlib.Data.List.Induction
import Backdrop.Proofs.Session.Alike
import Backdrop.Proofs.Wall.Roll

/-!
# Backdrop.Proofs.Session.Opening

The first answers of the display server, in whatever order they come.

* `verdict as` is what must come of the announcements `as`: the first version that will not do, or
  the first object that nobody announced, or nothing.
* `Opened names k w`: the wall has a monitor for each name, in their order, and the first `k` of
  them have their surfaces.
* `Portrait names c s`: the session has a wall that is opened as far as possible with what is bound,
  and has asked for one layer for every surface.
-/

namespace Backdrop
namespace Session

/-! ## Announcements -/

structure Announcement where
  name : UInt32
  interface : String
  version : UInt32
  deriving Repr, DecidableEq, Inhabited

namespace Announcement

def event (a : Announcement) : Event := .global a.name a.interface a.version

def offers (i : Interface) (a : Announcement) : Bool := a.interface == i.name

/-- What is wrong with an announcement. -/
def fault? (a : Announcement) : Option DaemonError :=
  (Interface.ofName? a.interface).bind fun i =>
    if a.version < i.required then some (.unsupportedVersion i.name i.required a.version) else none

end Announcement

theorem Interface.ofName?_name (i : Interface) : Interface.ofName? i.name = some i := by
  cases i <;> decide

theorem Announcement.offers_eq {a : Announcement} {o : Option Interface}
    (what : Interface.ofName? a.interface = o) (i : Interface) :
    a.offers i = decide (o = some i) := by
  rw [Bool.eq_iff_iff, offers, beq_iff_eq, decide_eq_true_iff, ← what]
  constructor
  · intro named
    rw [named, Interface.ofName?_name]
  · intro found
    have same := List.find?_some found
    exact (beq_iff_eq.mp same).symm

/-- The first of the objects that surfaces are made with that nobody announced. -/
def missing? (as : List Announcement) : Option Interface :=
  [Interface.compositor, .shm, .layerShell].find? fun i => !as.any (·.offers i)

def verdict (as : List Announcement) : Except DaemonError Unit :=
  match as.findSome? Announcement.fault? with
  | some e => .error e
  | none =>
    match missing? as with
    | some i => .error (.missingGlobal i.name)
    | none => .ok ()

/-- The names under which monitors were announced. -/
def outputs (as : List Announcement) : List UInt32 := (as.filter (·.offers .output)).map (·.name)

/-- How often each interface was announced. -/
def tally (as : List Announcement) : Counts where
  compositor := as.countP (·.offers .compositor)
  shm := as.countP (·.offers .shm)
  layerShell := as.countP (·.offers .layerShell)
  output := as.countP (·.offers .output)

/-- How many objects of one kind are bound. -/
def Counts.count (c : Counts) : Interface → Nat
  | .compositor => c.compositor
  | .shm => c.shm
  | .layerShell => c.layerShell
  | .output => c.output

/-- One more object of this kind is bound. -/
def Counts.bound (c : Counts) : Interface → Counts
  | .compositor => { c with compositor := c.compositor + 1 }
  | .shm => { c with shm := c.shm + 1 }
  | .layerShell => { c with layerShell := c.layerShell + 1 }
  | .output => { c with output := c.output + 1 }

section Append

variable {a : Announcement} {o : Option Interface}

theorem tally_append (as : List Announcement) (what : Interface.ofName? a.interface = o) :
    tally (as ++ [a]) = o.elim (tally as) (tally as).bound := by
  have offers := Announcement.offers_eq what
  cases o with
  | none => simp [tally, offers]
  | some i => cases i <;> simp [tally, offers, Counts.bound]

theorem outputs_append (as : List Announcement) (what : Interface.ofName? a.interface = o) :
    outputs (as ++ [a]) = outputs as ++ if o = some .output then [a.name] else [] := by
  have offers := Announcement.offers_eq what
  by_cases output : o = some .output
  · simp [outputs, offers, output]
  · simp [outputs, offers, output]

end Append

theorem length_outputs (as : List Announcement) : (outputs as).length = (tally as).output := by
  simp [outputs, tally, List.countP_eq_length_filter]

/-- The number of the object that was bound last. -/
def last? : Nat → Option Nat
  | 0 => none
  | n + 1 => some n

theorem isSome_last? (n : Nat) : (last? n).isSome = true ↔ n ≠ 0 := by
  cases n <;> simp [last?]

def Counts.globals (c : Counts) : Globals :=
  ⟨last? c.compositor, last? c.shm, last? c.layerShell⟩

/-- Surfaces can be created with what is bound. -/
def Counts.Able (c : Counts) : Prop := c.compositor ≠ 0 ∧ c.layerShell ≠ 0

instance (c : Counts) : Decidable c.Able := inferInstanceAs (Decidable (_ ∧ _))

theorem Counts.Able.bound {c : Counts} (able : c.Able) (i : Interface) : (c.bound i).Able := by
  cases i with
  | compositor => exact ⟨Nat.succ_ne_zero _, able.2⟩
  | layerShell => exact ⟨able.1, Nat.succ_ne_zero _⟩
  | shm => exact able
  | output => exact able

theorem missing?_eq_none_iff {as : List Announcement} : missing? as = none ↔
    (tally as).compositor ≠ 0 ∧ (tally as).shm ≠ 0 ∧ (tally as).layerShell ≠ 0 := by
  simp only [missing?, List.find?_eq_none, tally]
  simp

theorem require_globals (as : List Announcement) :
    (tally as).globals.require = match missing? as with
      | some i => .error (.missingGlobal i.name)
      | none => .ok () := by
  have absent : ∀ i, (last? (as.countP (·.offers i))).isNone = !as.any (·.offers i) := by
    intro i
    cases heard : as.any (·.offers i) with
    | true =>
      have some : as.countP (·.offers i) ≠ 0 := by simpa using heard
      simpa [Option.isNone_iff_eq_none] using (isSome_last? _).mpr some
    | false =>
      have none : as.countP (·.offers i) = 0 := by simpa using heard
      rw [none]
      rfl
  simp only [Globals.require, Counts.globals, tally, absent, missing?, List.find?]
  cases as.any (·.offers .compositor) <;> cases as.any (·.offers .shm) <;>
    cases as.any (·.offers .layerShell) <;> rfl

/-! ## What the wall leaves alone -/

/-- The sessions differ only in what is asked for on behalf of the wall. -/
structure Steady (s t : Session) : Prop where
  globals : t.globals = s.globals
  counts : t.counts = s.counts
  link : t.link = s.link
  pending : t.pending = s.pending
  fatal : t.fatal = s.fatal
  sent : t.sent = s.sent

namespace Steady

theorem refl (s : Session) : Steady s s := ⟨rfl, rfl, rfl, rfl, rfl, rfl⟩

theorem trans {s t u : Session} (first : Steady s t) (second : Steady t u) : Steady s u where
  globals := second.globals.trans first.globals
  counts := second.counts.trans first.counts
  link := second.link.trans first.link
  pending := second.pending.trans first.pending
  fatal := second.fatal.trans first.fatal
  sent := second.sent.trans first.sent

theorem pushAll (s : Session) (rs : List Request) : Steady s (s.pushAll rs) := by
  induction rs generalizing s with
  | nil => exact refl s
  | cons r rs ih =>
    have pushed : Steady s (s.push r) := ⟨rfl, rfl, rfl, rfl, rfl, rfl⟩
    exact pushed.trans (ih (s.push r))

theorem emit (s : Session) (c : Wall.Call) : Steady s (s.emit c) := by
  have asked := pushAll s (s.requestsOf c)
  cases c <;> exact { asked with }

theorem foldl_emit (s : Session) (cs : List Wall.Call) : Steady s (cs.foldl Session.emit s) := by
  induction cs generalizing s with
  | nil => exact refl s
  | cons c cs ih => exact (emit s c).trans (ih (s.emit c))

theorem changeWall (s : Session) (f : Wall.Stage → Wall.Stage) : Steady s (s.changeWall f) := by
  have emitted := foldl_emit { s with
    wall := (f ⟨s.wall, [], []⟩).wall, log := s.log ++ (f ⟨s.wall, [], []⟩).log }
    (f ⟨s.wall, [], []⟩).calls
  exact { emitted with }

end Steady

theorem wall_pushAll (rs : List Request) (s : Session) : (s.pushAll rs).wall = s.wall := by
  unfold pushAll
  induction rs generalizing s with
  | nil => rfl
  | cons r rs ih => exact ih (s.push r)

theorem wall_changeWall (s : Session) (f : Wall.Stage → Wall.Stage) :
    (s.changeWall f).wall = (f ⟨s.wall, [], []⟩).wall := by
  have emitted : ∀ (cs : List Wall.Call) (s : Session), (cs.foldl emit s).wall = s.wall := by
    intro cs
    induction cs with
    | nil => exact fun _ => rfl
    | cons c cs ih =>
      intro s
      have first : (s.emit c).wall = s.wall := by
        cases c <;> exact wall_pushAll _ s
      exact (ih (s.emit c)).trans first
  exact emitted _ _

/-! ## The first error -/

theorem fatal_bind (i : Interface) (name : UInt32) (s : Session) :
    (s.bind i name).fatal = s.fatal := by
  cases i <;> exact (Steady.changeWall _ _).fatal

theorem fatal_announced (a : Announcement) (s : Session) :
    (s.dispatch a.event).fatal = s.fatal.or a.fault? := by
  simp only [Announcement.event, Announcement.fault?, dispatch, announce]
  cases Interface.ofName? a.interface with
  | none => simp
  | some i =>
    by_cases old : a.version < i.required
    · simp [checkVersion, old, fail]
    · simp [checkVersion, old, fatal_bind]

theorem fatal_announcedAll (as : List Announcement) (s : Session) :
    (s.dispatchAll (as.map Announcement.event)).fatal =
      s.fatal.or (as.findSome? Announcement.fault?) := by
  induction as generalizing s with
  | nil => simp [dispatchAll]
  | cons a as ih =>
    have first := ih (s.dispatch a.event)
    rw [fatal_announced, Option.or_assoc] at first
    rw [List.map_cons, List.findSome?_cons]
    refine first.trans (congrArg _ ?_)
    cases a.fault? <;> rfl

/-! ## Walls with surfaces for the first monitors -/

/-- The monitor of this number, which has its surface if it is one of the first `k`. -/
def seat (k i : Nat) (name : UInt32) : Wall.Monitor :=
  if i < k then
    { Wall.Monitor.announced name i with surface := some i, phase := .pendingConfigure }
  else .announced name i

structure Opened (names : List UInt32) (k : Nat) (w : Wall) : Prop where
  monitors : ∀ i, w.monitor? i = names[i]?.map (seat k i)
  frames : w.frames = .empty
  nextMonitor : w.nextMonitor = names.length
  nextFrame : w.nextFrame = 0
  nextSurface : w.nextSurface = k

namespace Opened

variable {names : List UInt32} {k : Nat} {w w' : Wall} {d : Wall.Display} {st : Wall.Stage}

theorem unique (one : Opened names k w) (other : Opened names k w') : w = w' := by
  have monitors : w.monitors = w'.monitors :=
    Table.ext_find? fun i => (one.monitors i).trans (other.monitors i).symm
  obtain ⟨m, f, a, b, c⟩ := w
  obtain ⟨m', f', a', b', c'⟩ := w'
  cases monitors
  cases one.frames.trans other.frames.symm
  cases one.nextMonitor.trans other.nextMonitor.symm
  cases one.nextFrame.trans other.nextFrame.symm
  cases one.nextSurface.trans other.nextSurface.symm
  rfl

theorem furnish (opened : Opened names k st.wall) (room : k < names.length)
    (ready : d.ready k = true) (given : d.surfaceRefusal k = none) :
    Opened names (k + 1) (st.ensureSurface d k).wall ∧
      (st.ensureSurface d k).calls = st.calls ++ [.createSurface k k k] := by
  have bare : st.monitor? k = some (.announced names[k] k) := by
    have here : st.wall.monitor? k = some (.announced names[k] k) := by
      rw [opened.monitors k]
      simp [seat, room]
    exact here
  have created : st.ensureSurface d k = st.createSurface k (.announced names[k] k) := by
    simp [Wall.Stage.ensureSurface, ready, bare, given, Wall.Monitor.announced]
  rw [created]
  refine ⟨⟨?_, opened.frames, opened.nextMonitor, opened.nextFrame, ?_⟩, ?_⟩
  · intro i
    have changed : (st.createSurface k (.announced names[k] k)).wall.monitor? i =
        if k = i then some { Wall.Monitor.announced names[k] k with
          surface := some st.wall.nextSurface, phase := .pendingConfigure }
        else st.wall.monitor? i := Wall.monitor?_putMonitor _ _ _ _
    rw [changed]
    by_cases own : k = i
    · subst own
      simp [seat, room, opened.nextSurface]
    · have later : i < k + 1 ↔ i < k :=
        ⟨fun h => (Nat.lt_succ_iff_lt_or_eq.mp h).resolve_right (Ne.symm own), Nat.lt_succ_of_lt⟩
      have same : seat (k + 1) i = seat k i := by
        funext name
        simp only [seat, later]
      rw [if_neg own, opened.monitors i, same]
  · exact congrArg (· + 1) opened.nextSurface
  · simp [Wall.Stage.createSurface, Wall.Stage.note, Wall.Stage.putMonitor, Wall.Stage.call,
      Wall.Monitor.announced, opened.nextSurface]

theorem furnishAll (ready : ∀ i, d.ready i = true) (given : ∀ i, d.surfaceRefusal i = none)
    {n : Nat} (opened : Opened names k st.wall) (room : k + n ≤ names.length) :
    Opened names (k + n) ((List.range' k n).foldl (fun st i => st.ensureSurface d i) st).wall ∧
      ((List.range' k n).foldl (fun st i => st.ensureSurface d i) st).calls =
        st.calls ++ (List.range' k n).map fun i => .createSurface i i i := by
  induction n generalizing k st with
  | zero => exact ⟨opened, (List.append_nil _).symm⟩
  | succ n ih =>
    obtain ⟨now, calls⟩ := opened.furnish (by omega) (ready k) (given k)
    obtain ⟨later, more⟩ := ih now (by omega)
    rw [List.range'_succ, List.foldl_cons, List.map_cons]
    have sum : k + 1 + n = k + (n + 1) := by omega
    rw [← sum]
    refine ⟨later, ?_⟩
    rw [more, calls, List.append_assoc]
    rfl

theorem waiting (opened : Opened names k w) (few : k ≤ names.length) :
    (w.monitors.entries.filter fun e => e.2.phase == .uncreated).map (·.1) =
      List.range' k (names.length - k) := by
  refine List.Pairwise.eq_of_mem_iff (r := (· < ·)) ?_ List.pairwise_lt_range' fun i => ?_
  · exact (w.monitors.ascending.filter _).map _ fun _ _ h => h
  have looked : ∀ m, (i, m) ∈ w.monitors.entries ↔ names[i]?.map (seat k i) = some m := by
    intro m
    rw [← opened.monitors i]
    exact Table.find?_eq_some_iff.symm
  rw [List.mem_range'_1]
  constructor
  · intro listed
    obtain ⟨⟨j, m⟩, he, same⟩ := List.mem_map.mp listed
    cases show j = i from same
    obtain ⟨here, bare⟩ := List.mem_filter.mp he
    obtain ⟨name, named, rfl⟩ := Option.map_eq_some_iff.mp ((looked m).mp here)
    obtain ⟨room, _⟩ := List.getElem?_eq_some_iff.mp named
    by_cases seated : i < k
    · simp [seat, seated] at bare
    · omega
  · rintro ⟨after, room⟩
    have inside : i < names.length := by omega
    have later : ¬ i < k := by omega
    refine List.mem_map.mpr ⟨(i, seat k i names[i]), List.mem_filter.mpr ⟨?_, ?_⟩, rfl⟩
    · rw [looked]
      simp [inside]
    · simp [seat, later, Wall.Monitor.announced]

/-- Every monitor gets its surface, if surfaces can be created. -/
theorem createMissing (opened : Opened names k st.wall) (few : k ≤ names.length)
    (ready : ∀ i, d.ready i = true) (given : ∀ i, d.surfaceRefusal i = none) :
    Opened names names.length (st.createMissing d).wall ∧
      (st.createMissing d).calls =
        st.calls ++ (List.range' k (names.length - k)).map fun i => .createSurface i i i := by
  have all := opened.furnishAll ready given (n := names.length - k) (by omega)
  have sum : k + (names.length - k) = names.length := by omega
  rw [sum, ← opened.waiting few] at all
  rw [← opened.waiting few]
  exact all

end Opened

/-- Nothing happens while surfaces cannot be created. -/
theorem foldl_ensureSurface_unready {d : Wall.Display} (unready : ∀ i, d.ready i = false)
    (is : List Wall.MonitorId) (st : Wall.Stage) :
    (is.foldl (fun st i => st.ensureSurface d i) st).wall = st.wall ∧
      (is.foldl (fun st i => st.ensureSurface d i) st).calls = st.calls := by
  induction is generalizing st with
  | nil => exact ⟨rfl, rfl⟩
  | cons i is ih =>
    have first : st.ensureSurface d i =
        st.note (Log.trace s!"Deferring surface for {Wall.idText i}: globals not bound yet") := by
      simp [Wall.Stage.ensureSurface, unready]
    rw [List.foldl_cons, first]
    exact ih _

theorem Opened.announced {names : List UInt32} {k : Nat} {w : Wall} (opened : Opened names k w)
    (few : k ≤ names.length) (name : UInt32) :
    Opened (names ++ [name]) k
      (w.claimMonitor.putMonitor names.length (.announced name names.length)) where
  monitors := by
    intro i
    rw [Wall.monitor?_putMonitor]
    have old : w.claimMonitor.monitor? i = names[i]?.map (seat k i) := opened.monitors i
    rw [old]
    by_cases own : names.length = i
    · subst own
      have later : ¬ names.length < k := by omega
      simp [seat, later]
    · rw [if_neg own, List.getElem?_append]
      by_cases inside : i < names.length
      · rw [if_pos inside]
      · have outside : [name][i - names.length]? = none := by
          rw [List.getElem?_eq_none_iff, List.length_singleton]
          have : names.length < i := Nat.lt_of_le_of_ne (Nat.le_of_not_lt inside) own
          omega
        rw [if_neg inside, outside, List.getElem?_eq_none (Nat.le_of_not_lt inside)]
  frames := opened.frames
  nextMonitor := by
    rw [List.length_append]
    exact congrArg (· + 1) opened.nextMonitor
  nextFrame := opened.nextFrame
  nextSurface := opened.nextSurface

/-! ## Sessions with layers for the first monitors -/

/-- The objects that are known after some requests. -/
def learn (live : List Object) (rs : List Request) : List Object :=
  rs.foldl (fun live r => (live ++ r.created).filter fun o => !r.destroyed.contains o) live

theorem pushAll_eq (s : Session) (rs : List Request) :
    s.pushAll rs = { s with queued := s.queued ++ rs, live := learn s.live rs } := by
  induction rs generalizing s with
  | nil => simp [pushAll, learn]
  | cons r rs ih =>
    have rest := ih (s.push r)
    rw [pushAll, List.foldl_cons]
    refine rest.trans ?_
    simp [Session.push, learn]

theorem mem_learn_surfaceRequests {live : List Object} (compositor shell n output : Nat)
    (o : Object) : o ∈ learn live (surfaceRequests compositor shell n output) ↔
      (o ∈ live ∧ o ≠ .region n) ∨ o = .surface n ∨ o = .layer n := by
  simp only [learn, surfaceRequests, List.foldl_cons, List.foldl_nil, Request.created,
    Request.destroyed, List.append_nil, List.mem_filter, List.mem_append, List.mem_singleton,
    List.contains_nil, Bool.not_false, and_true, List.contains_cons, Bool.or_false]
  by_cases own : o = .region n
  · subst own
    simp
  · simp [own, or_assoc]

/-- The objects that the display server knows when `k` surfaces were created. -/
def Known (c : Counts) (k : Nat) : Object → Prop
  | .display | .registry => True
  | .callback n => n = 0
  | .compositor n => n < c.compositor
  | .shm n => n < c.shm
  | .layerShell n => n < c.layerShell
  | .output n => n < c.output
  | .surface n | .layer n => n < k
  | .region _ | .pool _ | .buffer _ => False

theorem known_bound (c : Counts) (i : Interface) (k : Nat) (o : Object) :
    Known (c.bound i) k o ↔ Known c k o ∨ o = i.object (c.count i) := by
  cases i <;> cases o <;> simp [Known, Counts.bound, Counts.count, Interface.object] <;> omega

/-- The monitor that a request makes a layer for. -/
def Request.layered? : Request → Option Nat
  | .getLayerSurface _ _ _ output _ _ => some output
  | _ => none

/-- The monitors for which layers were asked for, in that order. -/
def layered (s : Session) : List Nat := (s.sent ++ s.queued).filterMap Request.layered?

structure Furnished (c : Counts) (k : Nat) (s : Session) : Prop where
  counts : s.counts = c
  globals : s.globals = c.globals
  layers : ∀ n, s.layers.find? n = if n < k then some n else none
  buffers : s.buffers = .empty
  nextBuffer : s.nextBuffer = 0
  link : s.link = .up
  pending : s.pending = []
  fatal : s.fatal = none
  live : ∀ o, o ∈ s.live ↔ Known c k o
  made : s.layered = List.range k

namespace Furnished

variable {c : Counts} {k : Nat} {s : Session}

theorem bind (furnished : Furnished c k s) (name : UInt32) (i : Interface) :
    Furnished (c.bound i) k { s.push (.bind name i (c.count i)) with
      globals := (c.bound i).globals, counts := c.bound i } where
  counts := rfl
  globals := rfl
  layers := furnished.layers
  buffers := furnished.buffers
  nextBuffer := furnished.nextBuffer
  link := furnished.link
  pending := furnished.pending
  fatal := furnished.fatal
  live := by
    intro o
    rw [known_bound, ← furnished.live o]
    simp [Session.push, Request.destroyed, Request.created]
  made := by
    rw [← furnished.made]
    simp [layered, Session.push, ← List.append_assoc, List.filterMap_append, Request.layered?]

/-- The requests for one surface make it and its layer known. -/
theorem emit (furnished : Furnished c k s) (able : c.Able) :
    Furnished c (k + 1) (s.emit (.createSurface k k k)) := by
  obtain ⟨x, bound⟩ := Option.isSome_iff_exists.mp ((isSome_last? c.compositor).mpr able.1)
  obtain ⟨y, shelled⟩ := Option.isSome_iff_exists.mp ((isSome_last? c.layerShell).mpr able.2)
  have asked : s.requestsOf (.createSurface k k k) = surfaceRequests x y k k := by
    simp only [requestsOf, furnished.globals, Counts.globals, bound, shelled]
  have emitted : s.emit (.createSurface k k k) =
      { s with
        queued := s.queued ++ surfaceRequests x y k k
        live := learn s.live (surfaceRequests x y k k)
        layers := s.layers.insert k k } := by
    simp only [Session.emit, asked, remember, pushAll_eq]
  have steady := Steady.emit s (.createSurface k k k)
  rw [emitted] at steady ⊢
  have less : ∀ n, n < k + 1 ↔ n < k ∨ n = k := fun n => Nat.lt_succ_iff_lt_or_eq
  refine ⟨steady.counts.trans furnished.counts, steady.globals.trans furnished.globals, ?_,
    furnished.buffers, furnished.nextBuffer, steady.link.trans furnished.link,
    steady.pending.trans furnished.pending, steady.fatal.trans furnished.fatal, ?_, ?_⟩
  · intro n
    have inserted : (s.layers.insert k k).find? n = if k = n then some k else s.layers.find? n :=
      Table.find?_insert _ _ _ _
    refine inserted.trans ?_
    rw [furnished.layers n]
    by_cases own : k = n
    · subst own
      simp
    · have same : n < k + 1 ↔ n < k := by omega
      simp only [if_neg own, same]
  · intro o
    simp only [mem_learn_surfaceRequests, furnished.live o]
    cases o <;> simp [Known, less]
  · have made := furnished.made
    simp only [layered] at made ⊢
    rw [← List.append_assoc, List.filterMap_append, made, List.range_succ]
    rfl

theorem foldl_emit {n : Nat} (furnished : Furnished c k s) (able : n = 0 ∨ c.Able) :
    Furnished c (k + n) (((List.range' k n).map fun i => Wall.Call.createSurface i i i).foldl
      Session.emit s) := by
  induction n generalizing k s with
  | zero => exact furnished
  | succ n ih =>
    have made : c.Able := able.resolve_left (by simp)
    have rest := ih (furnished.emit made) (.inr made)
    rw [List.range'_succ, List.map_cons, List.foldl_cons]
    have sum : k + 1 + n = k + (n + 1) := by omega
    rw [← sum]
    exact rest

theorem changeWall {f : Wall.Stage → Wall.Stage} {n : Nat} (furnished : Furnished c k s)
    (able : n = 0 ∨ c.Able) (calls : (f ⟨s.wall, [], []⟩).calls =
      (List.range' k n).map fun i => Wall.Call.createSurface i i i) :
    Furnished c (k + n) (s.changeWall f) := by
  have begun : Furnished c k { s with
      wall := (f ⟨s.wall, [], []⟩).wall, log := s.log ++ (f ⟨s.wall, [], []⟩).log } :=
    { furnished with }
  have emitted := begun.foldl_emit able
  rw [← calls] at emitted
  exact emitted

end Furnished

/-! ## What the announcements make of a session -/

/-- How many monitors have their surfaces. -/
def Counts.furnished (c : Counts) : Nat := if c.Able then c.output else 0

structure Portrait (names : List UInt32) (c : Counts) (s : Session) : Prop where
  count : c.output = names.length
  opened : Opened names c.furnished s.wall
  furnished : Furnished c c.furnished s

theorem ready_iff {c : Counts} {k : Nat} {s : Session} (furnished : Furnished c k s) :
    s.ready = true ↔ c.Able := by
  simp only [ready, furnished.globals, Counts.globals, Bool.and_eq_true, isSome_last?, Counts.Able]

theorem ready_eq_false {c : Counts} {k : Nat} {s : Session} (furnished : Furnished c k s)
    (unable : ¬ c.Able) : s.ready = false := by
  rw [← Bool.not_eq_true, ready_iff furnished]
  exact unable

theorem surfaceRefusal_display {s : Session} (ready : s.ready = true) (id : Wall.MonitorId) :
    s.display.surfaceRefusal id = none := by
  simp [display, ready]

theorem Counts.furnished_le (c : Counts) : c.furnished ≤ c.output := by
  unfold furnished
  split
  · exact Nat.le_refl _
  · exact Nat.zero_le _

namespace Portrait

variable {names : List UInt32} {c : Counts} {s : Session}

theorem few (portrait : Portrait names c s) : c.furnished ≤ names.length :=
  portrait.count ▸ c.furnished_le

/-- The wall asks for the surfaces that were missing. -/
theorem changeWall {f : Wall.Stage → Wall.Stage} {k n : Nat} (furnished : Furnished c k s)
    (able : n = 0 ∨ c.Able) (count : c.output = names.length) (full : c.furnished = k + n)
    (opened : Opened names (k + n) (f ⟨s.wall, [], []⟩).wall)
    (calls : (f ⟨s.wall, [], []⟩).calls =
      (List.range' k n).map fun i => Wall.Call.createSurface i i i) :
    Portrait names c (s.changeWall f) where
  count := count
  opened := by
    rw [full, wall_changeWall]
    exact opened
  furnished := by
    rw [full]
    exact furnished.changeWall able calls

/-- One of the objects is bound that surfaces are made with. -/
theorem bindGlobal (portrait : Portrait names c s) (name : UInt32) {i : Interface}
    (other : i ≠ .output) : Portrait names (c.bound i)
      (s.bindGlobal i name (c.count i) (c.bound i).globals (c.bound i)) := by
  let bound : Session :=
    ({ s.push (.bind name i (c.count i)) with
        globals := (c.bound i).globals, counts := c.bound i } : Session).note
      (Log.debug s!"Bound {i.name} v{i.required}")
  have furnished : Furnished (c.bound i) c.furnished bound :=
    { portrait.furnished.bind name i with }
  have opened : Opened names c.furnished (⟨bound.wall, [], []⟩ : Wall.Stage).wall :=
    portrait.opened
  have all : (c.bound i).output = names.length := by
    rw [← portrait.count]
    cases i with
    | output => exact absurd rfl other
    | _ => rfl
  -- Surfaces are asked for as soon as there is a compositor and a layer shell.
  by_cases able : (c.bound i).Able
  · have ready := (ready_iff furnished).mpr able
    have sum : c.furnished + (names.length - c.furnished) = names.length :=
      Nat.add_sub_cancel' portrait.few
    obtain ⟨later, calls⟩ := opened.createMissing portrait.few (fun _ => ready)
      (surfaceRefusal_display ready)
    refine changeWall furnished (.inr able) all ?_ (sum.symm ▸ later) calls
    rw [sum, Counts.furnished, if_pos able, all]
  · have before : c.furnished = 0 := if_neg fun h => able (h.bound i)
    rw [before] at furnished opened
    obtain ⟨same, calls⟩ := foldl_ensureSurface_unready
      (d := bound.display) (fun _ => ready_eq_false furnished able)
      ((bound.wall.monitors.entries.filter fun e => e.2.phase == .uncreated).map (·.1))
      ⟨bound.wall, [], []⟩
    exact changeWall (f := fun st => st.createMissing bound.display) (n := 0) furnished (.inl rfl)
      all (if_neg able) (same.symm ▸ opened) calls

theorem bindOutput (portrait : Portrait names c s) (name : UInt32) :
    Portrait (names ++ [name]) (c.bound .output) (s.bindOutput name) := by
  let bound : Session :=
    { s.push (.bind name .output c.output) with counts := c.bound .output }
  have furnished : Furnished (c.bound .output) c.furnished bound :=
    { portrait.furnished.bind name .output with globals := portrait.furnished.globals }
  have opened : Opened names c.furnished bound.wall := portrait.opened
  have all : (c.bound .output).output = (names ++ [name]).length := by
    simp [Counts.bound, portrait.count]
  let f : Wall.Stage → Wall.Stage := fun st =>
    st.reserve.2.insert bound.display st.reserve.1 name c.output
  have performed : s.bindOutput name = bound.changeWall f := by
    rw [Session.bindOutput, portrait.furnished.counts]
    rfl
  let claimed : Wall.Stage := ⟨bound.wall.claimMonitor, [], []⟩
  let begun : Wall.Stage := (claimed.note
    (Log.debug s!"New output {Wall.idText names.length} (global {name})")).putMonitor names.length
    (.announced name names.length)
  have turn : f ⟨bound.wall, [], []⟩ = begun.ensureSurface bound.display names.length := by
    have inserted : f ⟨bound.wall, [], []⟩ =
        claimed.insert bound.display bound.wall.nextMonitor name c.output := rfl
    rw [inserted, opened.nextMonitor, portrait.count]
    rfl
  have announced : Opened (names ++ [name]) c.furnished begun.wall :=
    opened.announced portrait.few name
  rw [performed]
  by_cases able : c.Able
  · have ready := (ready_iff furnished).mpr able
    have full : c.furnished = names.length := by
      rw [Counts.furnished, if_pos able, portrait.count]
    rw [full] at announced furnished
    obtain ⟨later, calls⟩ := announced.furnish (d := bound.display) (by simp) ready
      (surfaceRefusal_display ready _)
    rw [← turn] at later calls
    refine changeWall furnished (n := 1) (.inr able) all ?_ later calls
    rw [Counts.furnished, if_pos (able.bound .output), all, List.length_append]
    rfl
  · have before : c.furnished = 0 := if_neg able
    rw [before] at announced furnished
    obtain ⟨same, calls⟩ := foldl_ensureSurface_unready
      (d := bound.display) (fun _ => ready_eq_false furnished able) [names.length] begun
    rw [List.foldl_cons, List.foldl_nil, ← turn] at same calls
    exact changeWall furnished (n := 0) (.inl rfl) all (if_neg able) (same.symm ▸ announced) calls

/-- What one announcement makes of a session, if nothing is wrong with it. -/
theorem announce {as : List Announcement} {a : Announcement}
    (portrait : Portrait (outputs as) (tally as) s) (fine : a.fault? = none) :
    Portrait (outputs (as ++ [a])) (tally (as ++ [a])) (s.dispatch a.event) := by
  simp only [dispatch, Announcement.event, Session.announce]
  cases what : Interface.ofName? a.interface with
  | none =>
    rw [tally_append as what, outputs_append as what, if_neg (by decide), List.append_nil]
    exact portrait
  | some i =>
    have new : ¬ a.version < i.required := by
      intro old
      simp [Announcement.fault?, what, old] at fine
    have checked : checkVersion i.name i.required a.version = .ok () := if_neg new
    rw [tally_append as what, outputs_append as what]
    simp only [checked, bind, portrait.furnished.counts, portrait.furnished.globals]
    -- What the three others have in common is stated before the cases.
    have shared := fun other : i ≠ .output => portrait.bindGlobal a.name other
    cases i with
    | output => exact portrait.bindOutput a.name
    | compositor | shm | layerShell =>
      rw [if_neg (by decide), List.append_nil]
      exact shared (by decide)

theorem announceAll {as : List Announcement} (fine : ∀ a ∈ as, a.fault? = none)
    (start : Portrait [] (tally []) s) :
    Portrait (outputs as) (tally as) (s.dispatchAll (as.map Announcement.event)) := by
  -- By induction on the announcements, the last one first.
  induction as using List.reverseRecOn with
  | nil => exact start
  | append_singleton as a ih =>
    have before := ih fun b hb => fine b (List.mem_append_left _ hb)
    have now := before.announce (fine a (List.mem_append_right _ (List.mem_singleton_self a)))
    rw [List.map_append, dispatchAll, List.foldl_append]
    exact now

end Portrait

end Session
end Backdrop

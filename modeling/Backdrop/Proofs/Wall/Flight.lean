import Backdrop.Proofs.Table
import Backdrop.Proofs.Wall.Handshake
import Backdrop.Proofs.Wall.Mirror

/-!
# Backdrop.Proofs.Wall.Flight

The wall and the display server at the two ends of two queues.

* What the wall calls is received one call after another, at any later time. Sizes that the display
  server asks for are in flight until the wall hears of them, in the order in which they were sent.
* `Net` is both ends and both queues. `Net.act` is one thing that happens to it, where the display
  server asks for a size only on surfaces that it takes to be there.
* `Net.Waits P`: nothing is attached to a surface from which a picture was taken before a size for
  it was heard of, one with the property `P`.
* `waits_run`: this size is heard of after the picture was taken away. It need not be sent after
  that: in `overtaken`, one that was in flight at the time makes the surface drawable again.
-/

namespace Backdrop
namespace Wall

/-- A size that the display server asks for. -/
structure Notice where
  surface : SurfaceId
  serial : UInt32
  size : Extent
  /-- How many calls had been received when it was sent. -/
  seen : Nat
  deriving Repr, DecidableEq

/-- A size that the wall has heard of. -/
structure Heard where
  notice : Notice
  /-- How many calls had been made by then. -/
  made : Nat
  deriving Repr, DecidableEq

structure Net where
  past : List (Display × Operation)
  /-- How many of the calls that were made are received. -/
  received : Nat
  inFlight : List Notice
  heard : List Heard

inductive Action where
  /-- Anything happens to the wall but that it hears of a size. -/
  | operate (d : Display) (op : Operation)
  /-- The display server receives a call. -/
  | receive
  /-- The display server asks for a size. -/
  | send (surface : SurfaceId) (serial : UInt32) (size : Extent)
  /-- The wall hears of a size. -/
  | deliver (d : Display)

def Call.creates (surface : SurfaceId) : Call → Bool
  | .createSurface _ _ surface' => surface' == surface
  | _ => false

/-- The monitor that has this surface. -/
def holder? (w : Wall) (surface : SurfaceId) : Option MonitorId :=
  (w.monitors.entries.find? fun e => e.2.surface == some surface).map (·.1)

namespace Net

def start : Net := ⟨[], 0, [], []⟩

def stage (net : Net) : Stage := Stage.empty.run net.past

def calls (net : Net) : List Call := net.stage.calls

/-- As far as the display server knows the surface is there. -/
def isOpen (net : Net) (surface : SurfaceId) : Bool :=
  let calls := net.calls.take net.received
  calls.any (·.creates surface) && !calls.contains (.destroySurface surface)

def act (net : Net) : Action → Option Net
  | .operate _ (.configure _ _ _) => none
  | .operate d op => some { net with past := net.past ++ [(d, op)] }
  | .receive =>
    if net.received < net.calls.length then some { net with received := net.received + 1 } else none
  | .send surface serial size =>
    if net.isOpen surface then
      some { net with inFlight := net.inFlight ++ [⟨surface, serial, size, net.received⟩] }
    else none
  | .deliver d =>
    match net.inFlight with
    | [] => none
    | n :: rest =>
      match net.stage.wall.holder? n.surface with
      | none => some { net with inFlight := rest }
      | some id =>
        some ⟨net.past ++ [(d, .configure id n.serial n.size)], net.received, rest,
          net.heard ++ [⟨n, net.calls.length⟩]⟩

def run (net : Net) : List Action → Option Net
  | [] => some net
  | a :: actions => (net.act a).bind (·.run actions)

/-- Between taking a picture from a surface and attaching another, a size for the surface was heard
of. The property may look at the number of calls that were made before the picture was taken. -/
def Waits (net : Net) (P : Nat → Heard → Prop) : Prop :=
  ∀ before surface scale between frame scale' size pixels after,
    net.calls = before ++ .detach surface scale :: between ++
      .attach surface frame scale' size pixels :: after →
    ∃ e ∈ net.heard, e.notice.surface = surface ∧ e.made ≤ before.length + 1 + between.length ∧
      P before.length e

/-- The display server had received the call, and the commit after it, when it sent the size. -/
def Fresh (call : Nat) (e : Heard) : Prop := call + 2 ≤ e.notice.seen

/-- The size was heard of after the call was made. -/
def Later (call : Nat) (e : Heard) : Prop := call < e.made ∧ e.notice.size.isEmpty = false

end Net

/-! ## Sizes on the timeline -/

theorem split_callsOf {h : List Event} {cs cs' : List Call} {c : Call}
    (split : callsOf h = cs ++ c :: cs') :
    ∃ before after, h = before ++ .call c :: after ∧ callsOf before = cs := by
  obtain ⟨h₁, h₂, rfl, calls₁, calls₂⟩ := List.filterMap_eq_append_iff.mp split
  obtain ⟨silent, e, after, rfl, none, first, _⟩ := List.filterMap_eq_cons_iff.mp calls₂
  have first : e = .call c := by
    cases e with
    | operation op => cases first
    | call c' => exact congrArg Event.call (Option.some.inj first)
  refine ⟨h₁ ++ silent, after, by rw [first, List.append_assoc], ?_⟩
  have silent : callsOf silent = [] := List.filterMap_eq_nil_iff.mpr none
  rw [callsOf_append, silent, List.append_nil]
  exact calls₁

/-- An operation that is followed by a call is an earlier one or the last one. -/
theorem operation_of_turn {h before after : List Event} {op op' : Operation} {cs : List Call}
    {c : Call} (split : h ++ .operation op :: cs.map .call =
      before ++ .operation op' :: .call c :: after) :
    (∃ after', h = before ++ .operation op' :: .call c :: after') ∨
      before = h ∧ op' = op ∧ ∃ cs', cs = c :: cs' := by
  have last : .operation op :: cs.map .call = .operation op' :: .call c :: after →
      op' = op ∧ ∃ cs', cs = c :: cs' := by
    intro same
    obtain ⟨rfl, calls⟩ : op = op' ∧ cs.map .call = .call c :: after := by simpa using same
    obtain ⟨c', cs', rfl, first, _⟩ := List.map_eq_cons_iff.mp calls
    exact ⟨rfl, cs', by rw [Event.call.inj first]⟩
  rcases List.append_eq_append_iff.mp split with ⟨part, rfl, rest⟩ | ⟨part, rfl, rest⟩
  · cases part with
    | nil => exact .inr ⟨List.append_nil h, last rest⟩
    | cons e part =>
      -- All events but the first of an operation are calls.
      have calls : cs.map .call = part ++ .operation op' :: .call c :: after :=
        (List.cons.inj rest).2
      have : .operation op' ∈ cs.map Event.call := by simp [calls]
      simp at this
  · match part, rest with
    | [], rest => exact .inr ⟨(List.append_nil before).symm, last rest.symm⟩
    | [_], rest => simp at rest
    | _ :: _ :: part, rest =>
      obtain ⟨rfl, rfl, _⟩ : _ ∧ _ ∧ _ := by simpa using rest
      exact .inl ⟨part, rfl⟩

theorem monitor?_of_holder? {w : Wall} {surface : SurfaceId} {id : MonitorId}
    (held : w.holder? surface = some id) :
    ∃ m, w.monitor? id = some m ∧ m.surface = some surface := by
  obtain ⟨m, found, own⟩ := Table.exists_of_findKey held
  exact ⟨m, found, by simpa using own⟩

namespace Net

variable {net net' : Net}

/-- The wall heard of every size that it acknowledged, and at that time. -/
def Recorded (net : Net) : Prop :=
  ∀ before id serial size surface after,
    Stage.empty.timeline net.past = before ++ .operation (.configure id serial size) ::
      .call (.acknowledge surface serial) :: after →
    ∃ e ∈ net.heard, e.notice.surface = surface ∧ e.notice.size = size ∧
      e.made = (callsOf before).length

theorem calls_eq (net : Net) : net.calls = callsOf (Stage.empty.timeline net.past) := by
  rw [calls, stage, Stage.calls_run]
  rfl

theorem timeline_snoc (net : Net) (d : Display) (op : Operation) :
    Stage.empty.timeline (net.past ++ [(d, op)]) =
      Stage.empty.timeline net.past ++ net.stage.turn d op := by
  rw [Stage.timeline_append]
  simp [Stage.timeline, stage]

theorem recorded_operate {d : Display} {op : Operation} {heard : List Heard} {received : Nat}
    {inFlight : List Notice} (recorded : net.Recorded) (kept : ∀ e ∈ net.heard, e ∈ heard)
    (last : ∀ id serial size surface cs, op = .configure id serial size →
      net.stage.turn d op = .operation op :: .call (.acknowledge surface serial) :: cs →
      ∃ e ∈ heard, e.notice.surface = surface ∧ e.notice.size = size ∧
        e.made = net.calls.length) :
    Recorded ⟨net.past ++ [(d, op)], received, inFlight, heard⟩ := by
  intro before id serial size surface after split
  obtain ⟨cs, calls⟩ := Stage.calls_perform d op net.stage
  have turn := turn_eq calls
  rw [timeline_snoc, turn] at split
  rcases operation_of_turn split with ⟨after', earlier⟩ | ⟨rfl, rfl, cs', rfl⟩
  · obtain ⟨e, he, found⟩ := recorded before id serial size surface after' earlier
    exact ⟨e, kept e he, found⟩
  · rw [← calls_eq]
    exact last id serial size surface _ rfl turn

theorem recorded_act {a : Action} (act : net.act a = some net') (recorded : net.Recorded) :
    net'.Recorded := by
  cases a with
  | operate d op =>
    have apart : ∀ id serial size, op ≠ .configure id serial size := by
      rintro id serial size rfl
      cases act
    have after : net' = { net with past := net.past ++ [(d, op)] } := by
      cases op with
      | configure id serial size => exact absurd rfl (apart id serial size)
      | _ => exact (Option.some.inj act).symm
    rw [after]
    exact recorded_operate recorded (fun _ he => he) fun id serial size _ _ same =>
      absurd same (apart id serial size)
  | receive =>
    simp only [Net.act] at act
    split at act <;> cases act
    exact recorded
  | send surface serial size =>
    simp only [Net.act] at act
    split at act <;> cases act
    exact recorded
  | deliver d =>
    simp only [Net.act] at act
    split at act
    · cases act
    · rename_i n rest _
      split at act <;> cases act
      · exact recorded
      · rename_i id held
        obtain ⟨m, found, own⟩ := monitor?_of_holder? held
        refine recorded_operate recorded (fun _ he => List.mem_append_left _ he)
          fun id' serial size surface cs same turn => ?_
        cases same
        obtain ⟨cs', turn', _⟩ := turn_configure (d := d) n.serial n.size found own
        rw [turn'] at turn
        obtain ⟨rfl, _⟩ : n.surface = surface ∧ _ := by simpa using turn
        exact ⟨_, List.mem_append_right _ (List.mem_singleton_self _), rfl, rfl, rfl⟩

theorem recorded_run {actions : List Action} (run : net.run actions = some net')
    (recorded : net.Recorded) : net'.Recorded := by
  induction actions generalizing net with
  | nil =>
    cases run
    exact recorded
  | cons a actions ih =>
    obtain ⟨next, act, run⟩ := Option.bind_eq_some_iff.mp run
    exact ih run (recorded_act act recorded)

theorem recorded_start : start.Recorded := by
  intro before id serial size surface after split
  simp [start, Stage.timeline] at split

/-- Of two calls in a row of calls the first is before the other one, if it is not after it. -/
theorem lt_of_split {cs cs' ds ds' : List Call} {c d : Call}
    (split : cs ++ c :: cs' = ds ++ d :: ds') (apart : c ≠ d) (unlike : c ∉ ds') : cs.length < ds.length := by
  rcases List.append_eq_append_iff.mp split with ⟨part, rfl, rest⟩ | ⟨part, rfl, rest⟩
  · cases part with
    | nil => exact absurd (List.cons.inj rest).1 apart
    | cons e part => simp
  · have : c ∈ d :: ds' := by simp [rest]
    rcases List.mem_cons.mp this with e | e
    · exact absurd e apart
    · exact absurd e unlike

/-- A picture after a cleared one waits for a size that is heard of later. -/
theorem waits_run {actions : List Action} (run : start.run actions = some net)
    (orderly : Stage.empty.Orderly [] net.past) : net.Waits Later := by
  intro before surface scale between frame scale' size pixels after split
  have recorded := recorded_run run recorded_start
  rw [calls_eq] at split
  obtain ⟨h, rest, timeline, made⟩ := split_callsOf split
  obtain ⟨h', id, serial, size', es, rfl, full, _, kept⟩ : Configured h surface :=
    (prepared_run orderly).rule h _ rest timeline
  obtain ⟨e, he, own, sized, time⟩ :=
    recorded h' id serial size' surface
      (es ++ .call (.attach surface frame scale' size pixels) :: rest) (by rw [timeline]; simp)
  rw [callsOf_append, callsOf_operation, callsOf_call] at made
  have lt := lt_of_split made.symm (by simp) fun hc => kept scale (mem_callsOf.mp hc)
  have length := congrArg List.length made
  simp only [List.length_append, List.length_cons] at length
  refine ⟨e, he, own, by omega, by omega, ?_⟩
  rw [sized]
  exact Extent.isEmpty_eq_false_iff.mpr full

end Net

/-! ## A size that was in flight -/

section Overtaken

/-- A picture is shown and taken away again, while a size is on its way. -/
def overtaken : List Action :=
  let d := (⟨true, false, false, []⟩ : Rehearsal).display
  let picture := Content.image #[1, 2, 3, 4] ⟨1, 1⟩
  [.operate d .reserve, .operate d (.insert 0 7 3), .receive, .send 0 1 ⟨1, 1⟩, .deliver d,
    .operate d (.apply none picture .nearest), .send 0 2 ⟨1, 1⟩,
    .operate d (.apply none .clear .nearest), .deliver d,
    .operate d (.apply none picture .nearest)]

def afterOvertaken : Net :=
  let d := (⟨true, false, false, []⟩ : Rehearsal).display
  let picture := Content.image #[1, 2, 3, 4] ⟨1, 1⟩
  { past := [(d, .reserve), (d, .insert 0 7 3), (d, .configure 0 1 ⟨1, 1⟩),
      (d, .apply none picture .nearest), (d, .apply none .clear .nearest),
      (d, .configure 0 2 ⟨1, 1⟩), (d, .apply none picture .nearest)]
    received := 1
    inFlight := []
    heard := [⟨⟨0, 1, ⟨1, 1⟩, 1⟩, 1⟩, ⟨⟨0, 2, ⟨1, 1⟩, 1⟩, 6⟩] }

theorem run_overtaken : Net.start.run overtaken = some afterOvertaken := rfl

theorem waits_run_overtaken :
    Net.start.run overtaken = some afterOvertaken ∧
      Stage.empty.Orderly [] afterOvertaken.past ∧ afterOvertaken.Waits Net.Later :=
  ⟨run_overtaken, by decide, Net.waits_run run_overtaken (by decide)⟩

/-- The size that was in flight is enough for the next picture. -/
theorem not_fresh_overtaken :
    Net.start.run overtaken = some afterOvertaken ∧
      Stage.empty.Orderly [] afterOvertaken.past ∧ ¬ afterOvertaken.Waits Net.Fresh := by
  refine ⟨run_overtaken, by decide, fun waits => ?_⟩
  obtain ⟨e, he, _, _, fresh⟩ := waits
    [.createSurface 0 3 0, .acknowledge 0 1, .allocate 0 ⟨1, 1⟩, .attach 0 0 1 ⟨1, 1⟩ #[3, 2, 1, 4]]
    0 1 [.commit 0, .acknowledge 0 2, .allocate 1 ⟨1, 1⟩] 1 1 ⟨1, 1⟩ #[3, 2, 1, 4] [] (by decide)
  -- Both sizes were sent after one call.
  have early : ∀ e ∈ afterOvertaken.heard, e.notice.seen ≤ 1 := by decide
  have := early e he
  simp only [Net.Fresh, List.length_cons, List.length_nil] at fresh
  omega

end Overtaken

end Wall
end Backdrop

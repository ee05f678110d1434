import Mathlib.Data.List.Induction
import Backdrop.Proofs.Wall.Sound

/-!
# Backdrop.Proofs.Wall.Surfaces

Who holds which surface, in every run, also in those that insert monitors under keys in use.

* `perform_moves_entering`: an operation is a sequence of moves, when the monitor that it inserts
  is put there first. It asks nothing of the key.
* `Apart w`: every surface was created before and is held by one monitor only.
* `apart_run` holds of every run.
-/

namespace Backdrop
namespace Wall

/-- The surface of a monitor. -/
def surface? (w : Wall) (id : MonitorId) : Option SurfaceId := (w.monitor? id).bind (·.surface)

/-! ## Every operation, whatever is inserted -/

/-- The wall on which an operation goes to work. -/
def Operation.entering (op : Operation) (w : Wall) : Wall :=
  match op with
  | .insert id globalName handle => w.putMonitor id (.announced globalName handle)
  | _ => w

theorem insert_leads (d : Display) (id : MonitorId) (globalName : UInt32) (handle : Nat)
    (s : Stage) :
    Leads s (s.insert d id globalName handle)
      (.still (s.wall.putMonitor id (.announced globalName handle)))
      (.still (s.insert d id globalName handle).wall) :=
  Leads.trans (.same rfl) (Stage.ensureSurface_leads d id
    ((s.note (Log.debug s!"New output {idText id} (global {globalName})")).putMonitor id
      (.announced globalName handle)))

theorem perform_moves_entering (d : Display) (op : Operation) (s : Stage) :
    Moves (.still (op.entering s.wall)) (s.turn d op) (.still (s.perform d op).2.wall) := by
  cases op with
  | insert id globalName handle =>
    obtain ⟨cs, calls, moves⟩ := insert_leads d id globalName handle s
    have turn : s.turn d (.insert id globalName handle) =
        .operation (.insert id globalName handle) :: cs.map .call := turn_eq calls
    rw [turn]
    exact .cons (.heard _ _) moves
  | _ => exact perform_moves trivial

/-! ## Surfaces -/

section Surfaces

variable {w : Wall} {id j : MonitorId} {m m₁ : Monitor} {surface : SurfaceId}

theorem surface?_of_monitor? (found : w.monitor? id = some m) : w.surface? id = m.surface := by
  simp [surface?, found]

theorem surface?_eq_some_iff :
    w.surface? id = some surface ↔ ∃ m, w.monitor? id = some m ∧ m.surface = some surface :=
  Option.bind_eq_some_iff

theorem surface?_putMonitor :
    (w.putMonitor id m₁).surface? j = if id = j then m₁.surface else w.surface? j := by
  simp only [surface?, monitor?_putMonitor]
  split <;> rfl

theorem surface?_of_dropMonitor (held : (w.dropMonitor id).surface? j = some surface) :
    w.surface? j = some surface := by
  obtain ⟨m, found, own⟩ := surface?_eq_some_iff.mp held
  exact surface?_eq_some_iff.mpr ⟨m, (monitor?_of_dropMonitor found).2, own⟩

/-- A monitor is changed, and keeps its surface or gives it up. -/
theorem surface?_of_putMonitor (found : w.monitor? id = some m)
    (held : (w.putMonitor id m₁).surface? j = some surface)
    (kept : m₁.surface = m.surface ∨ m₁.surface = none) : w.surface? j = some surface := by
  rw [surface?_putMonitor] at held
  by_cases same : id = j
  · subst same
    rw [if_pos rfl] at held
    rw [surface?_of_monitor? found]
    rcases kept with kept | gone
    · rw [← kept, held]
    · rw [gone] at held
      cases held
  · rwa [if_neg same] at held

theorem surface?_adjusted {op : Operation} {change : Monitor → Monitor}
    (what : op.adjustment? = some (id, change))
    (held : (w.modifyMonitor id change).surface? j = some surface) :
    w.surface? j = some surface := by
  obtain ⟨m', found', own⟩ := surface?_eq_some_iff.mp held
  obtain ⟨m, found, alike⟩ := monitor?_of_adjusted what found'
  exact surface?_eq_some_iff.mpr ⟨m, found, alike.surface ▸ own⟩

end Surfaces

/-- A surface is held by the monitor that held it before, or it was created for this monitor. -/
theorem Move.surface_origin {M M' : Moment} {es : List Event} (move : Move M es M')
    {j : MonitorId} {surface : SurfaceId} (held : M'.wall.surface? j = some surface) :
    M.wall.surface? j = some surface ∨
      (∃ handle, es = [.call (.createSurface j handle surface)]) ∧ surface = M.wall.nextSurface ∧
        M'.wall.nextSurface = M.wall.nextSurface + 1 := by
  cases move with
  | announce globalName handle _ _ =>
    rw [Moment.wall_still, surface?_putMonitor] at held
    split at held
    · cases held
    · exact .inl held
  | adjust what => exact .inl (surface?_adjusted what held)
  | @create w id m found bare =>
    rw [Moment.wall_still, surface?_putMonitor] at held
    by_cases same : id = j
    · subst same
      rw [if_pos rfl] at held
      cases held
      exact .inr ⟨⟨m.handle, rfl⟩, rfl, rfl⟩
    · rw [if_neg same] at held
      exact .inl held
  | resize _ found _ _ => exact .inl (surface?_of_putMonitor found held (.inl rfl))
  | close found => exact .inl (surface?_of_putMonitor found held (.inr rfl))
  | clear found _ _ _ => exact .inl (surface?_of_putMonitor found held (.inl rfl))
  | uncover found _ _ => exact .inl (surface?_of_putMonitor found held (.inl rfl))
  | @draw w _ _ _ _ found _ _ =>
    exact .inl (surface?_of_putMonitor (w := w.claimFrame) found held (.inl rfl))
  | depart _ => exact .inl (surface?_of_dropMonitor held)
  | leave _ => exact .inl (surface?_of_dropMonitor held)
  | _ => exact .inl held

theorem Move.nextSurface_le {M M' : Moment} {es : List Event} (move : Move M es M') :
    M.wall.nextSurface ≤ M'.wall.nextSurface := by
  cases move with
  | create => exact Nat.le_succ _
  | _ => exact Nat.le_refl _

/-- Every surface is held by one monitor. -/
structure Apart (w : Wall) : Prop where
  below : ∀ {id surface}, w.surface? id = some surface → surface < w.nextSurface
  apart : ∀ {i j surface}, w.surface? i = some surface → w.surface? j = some surface → i = j

namespace Apart

theorem empty : Apart .empty where
  below := fun h => by cases h
  apart := fun h _ => by cases h

theorem move {M M' : Moment} {es : List Event} (old : Apart M.wall) (move : Move M es M') :
    Apart M'.wall := by
  refine ⟨?_, ?_⟩
  · intro id surface held
    rcases move.surface_origin held with before | ⟨_, rfl, next⟩
    · exact Nat.lt_of_lt_of_le (old.below before) move.nextSurface_le
    · rw [next]
      exact Nat.lt_succ_self _
  · intro i j surface heldI heldJ
    rcases move.surface_origin heldI with beforeI | ⟨⟨handleI, createdI⟩, rfl, _⟩
    · rcases move.surface_origin heldJ with beforeJ | ⟨_, rfl, _⟩
      · exact old.apart beforeI beforeJ
      · exact absurd (old.below beforeI) (Nat.lt_irrefl _)
    · rcases move.surface_origin heldJ with beforeJ | ⟨⟨handleJ, createdJ⟩, _, _⟩
      · exact absurd (old.below beforeJ) (Nat.lt_irrefl _)
      · have same := createdI.symm.trans createdJ
        simp only [List.cons.injEq, Event.call.injEq, Call.createSurface.injEq] at same
        exact same.1.1

/-- A monitor that is announced has no surface yet. -/
theorem entering {w : Wall} (old : Apart w) (op : Operation) : Apart (op.entering w) := by
  cases op with
  | insert id globalName handle =>
    have held : ∀ {j surface},
        (w.putMonitor id (.announced globalName handle)).surface? j = some surface →
          w.surface? j = some surface := by
      intro j surface held
      rw [surface?_putMonitor] at held
      split at held
      · cases held
      · exact held
    exact ⟨fun h => old.below (held h), fun h h' => old.apart (held h) (held h')⟩
  | _ => exact old

theorem perform {s : Stage} (old : Apart s.wall) (d : Display) (op : Operation) :
    Apart (s.perform d op).2.wall := by
  have moves := perform_moves_entering d op s
  exact moves.preserve (P := fun _ M => Apart M.wall) (fun old move => old.move move) (h := [])
    (old.entering op)

end Apart

theorem apart_run (ops : List (Display × Operation)) : Apart (Stage.empty.run ops).wall := by
  induction ops using List.reverseRecOn with
  | nil => exact .empty
  | append_singleton ops p ih =>
    rw [Stage.run_append]
    exact ih.perform p.1 p.2

end Wall
end Backdrop

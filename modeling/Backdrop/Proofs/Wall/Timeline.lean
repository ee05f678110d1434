import Backdrop.Proofs.Wall.Turn
import Backdrop.Wall.Rehearsal

/-!
# Backdrop.Proofs.Wall.Timeline

Runs of a wall from its beginning, and what can be proved of all of them.

* `Stage.timeline` is all that an observer of a run sees, in order.
* `Stage.Orderly` says that monitors are inserted under keys that were given out, under each once.
  Nothing else is asked of a run: the display server may answer each operation as it likes.
* `timeline_induction`: what holds of the empty wall and is kept by every move holds after every
  orderly run.
* `Always rule h`: each event of `h` obeys the rule, which may look at everything before it.
-/

namespace Backdrop
namespace Wall

/-- The key under which an operation inserts a monitor. -/
def Operation.inserted? : Operation → Option MonitorId
  | .insert id _ _ => some id
  | _ => none

/-- The keys that are given out and were not used yet, after an operation. -/
def unusedAfter (unused : List MonitorId) : Operation → Outcome → List MonitorId
  | .insert id _ _, _ => unused.erase id
  | _, .reserved id => id :: unused
  | _, _ => unused

namespace Stage

def timeline (s : Stage) : List (Display × Operation) → List Event
  | [] => []
  | (d, op) :: ops => s.turn d op ++ (s.perform d op).2.timeline ops

def Orderly (unused : List MonitorId) (s : Stage) : List (Display × Operation) → Prop
  | [] => True
  | (d, op) :: ops =>
    (∀ id ∈ op.inserted?, id ∈ unused) ∧
      Orderly (unusedAfter unused op (s.perform d op).1) (s.perform d op).2 ops

instance decidableOrderly (unused : List MonitorId) (s : Stage) :
    (ops : List (Display × Operation)) → Decidable (s.Orderly unused ops)
  | [] => .isTrue trivial
  | (d, op) :: ops =>
    have := decidableOrderly (unusedAfter unused op (s.perform d op).1) (s.perform d op).2 ops
    inferInstanceAs (Decidable (_ ∧ _))

theorem run_append (s : Stage) (ops ops' : List (Display × Operation)) :
    s.run (ops ++ ops') = (s.run ops).run ops' :=
  List.foldl_append

/-- After a shutdown there are no monitors and no slots. -/
theorem wall_run_shutdown (s : Stage) (ops : List (Display × Operation)) (d : Display) :
    (s.run (ops ++ [(d, .shutdown)])).wall =
      { (s.run ops).wall with monitors := .empty, frames := .empty } := by
  rw [run_append]
  exact wall_shutdown _

theorem timeline_append (s : Stage) (ops ops' : List (Display × Operation)) :
    s.timeline (ops ++ ops') = s.timeline ops ++ (s.run ops).timeline ops' := by
  induction ops generalizing s with
  | nil => rfl
  | cons p ops ih =>
    rw [List.cons_append, timeline, timeline, ih, List.append_assoc]
    rfl

theorem Orderly.left {unused : List MonitorId} {s : Stage} {ops ops' : List (Display × Operation)}
    (h : s.Orderly unused (ops ++ ops')) : s.Orderly unused ops := by
  induction ops generalizing unused s with
  | nil => trivial
  | cons p ops ih => exact ⟨h.1, ih h.2⟩

end Stage

/-! ## Keys -/

theorem exists_of_putMonitor {w : Wall} {id j : MonitorId} {m m₁ m' : Monitor}
    (found : w.monitor? id = some m) (h : (w.putMonitor id m₁).monitor? j = some m') :
    ∃ m, w.monitor? j = some m := by
  rcases monitor?_of_putMonitor h with ⟨rfl, _⟩ | ⟨_, h⟩
  · exact ⟨m, found⟩
  · exact ⟨m', h⟩

/-- A monitor that was not there before was inserted, under a key that was given out. -/
theorem Move.monitor_inserted {M M' : Moment} {es : List Event} (move : Move M es M')
    {j : MonitorId} {m' : Monitor} (h : M'.wall.monitor? j = some m') :
    (∃ m, M.wall.monitor? j = some m) ∨
      j < M.wall.nextMonitor ∧ ∃ g handle, .operation (.insert j g handle) ∈ es := by
  cases move with
  | announce globalName handle fresh given =>
    rcases monitor?_of_putMonitor h with ⟨rfl, _⟩ | ⟨_, h⟩
    · exact .inr ⟨given, globalName, handle, List.mem_singleton_self _⟩
    · exact .inl ⟨m', h⟩
  | adjust what =>
    simp only [Moment.still, monitor?_modifyMonitor, Option.map_eq_some_iff] at h
    obtain ⟨m, hm, _⟩ := h
    exact .inl ⟨m, hm⟩
  | create found bare => exact .inl (exists_of_putMonitor found h)
  | resize _ found _ _ => exact .inl (exists_of_putMonitor found h)
  | close found => exact .inl (exists_of_putMonitor found h)
  | clear found _ _ _ => exact .inl (exists_of_putMonitor found h)
  | uncover found _ _ => exact .inl (exists_of_putMonitor found h)
  | draw _ found _ _ => exact .inl (exists_of_putMonitor found h)
  | depart _ => exact .inl ⟨m', (monitor?_of_dropMonitor h).2⟩
  | leave _ => exact .inl ⟨m', (monitor?_of_dropMonitor h).2⟩
  | _ => exact .inl ⟨m', h⟩

theorem Move.nextMonitor_le {M M' : Moment} {es : List Event} (move : Move M es M') :
    M.wall.nextMonitor ≤ M'.wall.nextMonitor := by
  cases move with
  | reserve => exact Nat.le_succ _
  | _ => exact Nat.le_refl _

/-- Keys in use and keys that were given out and not used. -/
structure KeysKept (unused : List MonitorId) (w : Wall) : Prop where
  nodup : unused.Nodup
  given : ∀ id ∈ unused, id < w.nextMonitor ∧ w.monitor? id = none
  used : ∀ id m, w.monitor? id = some m → id < w.nextMonitor

theorem mem_turn_operation {d : Display} {op op' : Operation} {s : Stage}
    (h : .operation op' ∈ s.turn d op) : op' = op := by
  simp only [Stage.turn, List.mem_cons, Event.operation.injEq, List.mem_map, reduceCtorEq,
    and_false, exists_false, or_false] at h
  exact h

theorem KeysKept.welcome {unused : List MonitorId} {w : Wall} {op : Operation}
    (keys : KeysKept unused w) (h : ∀ id ∈ op.inserted?, id ∈ unused) : op.Welcome w := by
  cases op with
  | insert id _ _ =>
    have := keys.given id (h id rfl)
    exact ⟨this.2, this.1⟩
  | _ => trivial

/-- An operation inserts no monitor but under the key that it names. -/
theorem perform_monitors {d : Display} {op : Operation} {s : Stage} (welcome : op.Welcome s.wall) :
    s.wall.nextMonitor ≤ (s.perform d op).2.wall.nextMonitor ∧
      ∀ j m, (s.perform d op).2.wall.monitor? j = some m →
        (∃ m, s.wall.monitor? j = some m) ∨ op.inserted? = some j := by
  have kept := (perform_moves (d := d) welcome).preserve
    (P := fun h M => s.wall.nextMonitor ≤ M.wall.nextMonitor ∧
      ∀ j m, M.wall.monitor? j = some m →
        (∃ m, s.wall.monitor? j = some m) ∨ ∃ g handle, .operation (.insert j g handle) ∈ h)
    (h := []) ?_ ⟨Nat.le_refl _, fun j m hm => .inl ⟨m, hm⟩⟩
  · refine ⟨kept.1, fun j m hm => ?_⟩
    rcases kept.2 j m hm with old | ⟨g, handle, hin⟩
    · exact .inl old
    · have : .insert j g handle = op := mem_turn_operation hin
      subst this
      exact .inr rfl
  · intro h M M' es ⟨hle, hold⟩ move
    refine ⟨Nat.le_trans hle move.nextMonitor_le, fun j m hm => ?_⟩
    rcases move.monitor_inserted hm with ⟨m, hm⟩ | ⟨_, g, handle, hin⟩
    · rcases hold j m hm with old | ⟨g, handle, hin⟩
      · exact .inl old
      · exact .inr ⟨g, handle, List.mem_append_left _ hin⟩
    · exact .inr ⟨g, handle, List.mem_append_right _ hin⟩

theorem KeysKept.step {unused : List MonitorId} {d : Display} {op : Operation} {s : Stage}
    (keys : KeysKept unused s.wall) (h : ∀ id ∈ op.inserted?, id ∈ unused) :
    KeysKept (unusedAfter unused op (s.perform d op).1) (s.perform d op).2.wall := by
  obtain ⟨hle, hold⟩ := perform_monitors (d := d) (keys.welcome h)
  have used : ∀ j m, (s.perform d op).2.wall.monitor? j = some m →
      j < (s.perform d op).2.wall.nextMonitor := by
    intro j m hm
    rcases hold j m hm with ⟨m, hm⟩ | hin
    · exact Nat.lt_of_lt_of_le (keys.used j m hm) hle
    · exact Nat.lt_of_lt_of_le (keys.given j (h j hin)).1 hle
  -- A key that was not used before is used by an insertion under it only.
  have given : ∀ id ∈ unused, op.inserted? ≠ some id →
      id < (s.perform d op).2.wall.nextMonitor ∧ (s.perform d op).2.wall.monitor? id = none := by
    intro id hid hne
    refine ⟨Nat.lt_of_lt_of_le (keys.given id hid).1 hle, ?_⟩
    cases hm : (s.perform d op).2.wall.monitor? id with
    | none => rfl
    | some m =>
      rcases hold id m hm with ⟨m, hm⟩ | hin
      · rw [(keys.given id hid).2] at hm; cases hm
      · exact absurd hin hne
  cases op with
  | reserve =>
    have fresh : ∀ id ∈ unused, id < s.wall.nextMonitor := fun id hid => (keys.given id hid).1
    refine ⟨List.nodup_cons.mpr ⟨fun hin => Nat.lt_irrefl _ (fresh _ hin), keys.nodup⟩, ?_, used⟩
    intro id hid
    rcases List.mem_cons.mp hid with rfl | hid
    · refine ⟨Nat.lt_succ_self _, ?_⟩
      cases hm : s.wall.monitor? s.wall.nextMonitor with
      | none => exact hm
      | some m => exact absurd (keys.used _ m hm) (Nat.lt_irrefl _)
    · exact given id hid (by simp [Operation.inserted?])
  | insert id g handle =>
    refine ⟨keys.nodup.erase id, fun j hj => ?_, used⟩
    have hne : j ≠ id := fun e => (List.Nodup.not_mem_erase keys.nodup) (e ▸ hj)
    exact given j (List.mem_of_mem_erase hj) (by simpa [Operation.inserted?] using hne.symm)
  | _ => exact ⟨keys.nodup, fun id hid => given id hid (by simp [Operation.inserted?]), used⟩

/-- Every operation of an orderly run is welcome when its turn comes. -/
theorem Stage.Orderly.welcome {d : Display} {op : Operation}
    {before after : List (Display × Operation)} :
    ∀ {unused : List MonitorId} {s : Stage}, KeysKept unused s.wall →
      s.Orderly unused (before ++ (d, op) :: after) → op.Welcome (s.run before).wall := by
  induction before with
  | nil =>
    intro unused s keys orderly
    exact keys.welcome orderly.1
  | cons p before ih =>
    intro unused s keys orderly
    exact ih (keys.step orderly.1) orderly.2

theorem KeysKept.empty : KeysKept [] Stage.empty.wall :=
  ⟨.nil, fun _ h => absurd h List.not_mem_nil, fun _ _ h => by cases h⟩

/-! ## Induction over runs -/

theorem timeline_induction_from {P : List Event → Moment → Prop}
    (step : ∀ {h : List Event} {M M' : Moment} {es : List Event},
      P h M → Move M es M' → P (h ++ es) M')
    {ops : List (Display × Operation)} :
    ∀ {unused : List MonitorId} {s : Stage} {h : List Event}, KeysKept unused s.wall →
      s.Orderly unused ops → P h (.still s.wall) →
      P (h ++ s.timeline ops) (.still (s.run ops).wall) := by
  induction ops with
  | nil =>
    intro unused s h _ _ hp
    simpa [Stage.timeline, Stage.run] using hp
  | cons p ops ih =>
    intro unused s h keys orderly hp
    have one := (perform_moves (d := p.1) (keys.welcome orderly.1)).preserve step hp
    have := ih (keys.step orderly.1) orderly.2 one
    rwa [List.append_assoc] at this

/-- What holds at the beginning and is kept by every move holds after every orderly run. -/
theorem timeline_induction {P : List Event → Moment → Prop} (start : P [] (.still .empty))
    (step : ∀ {h : List Event} {M M' : Moment} {es : List Event},
      P h M → Move M es M' → P (h ++ es) M')
    {ops : List (Display × Operation)} (orderly : Stage.empty.Orderly [] ops) :
    P (Stage.empty.timeline ops) (.still (Stage.empty.run ops).wall) :=
  timeline_induction_from step .empty orderly start

/-! ## Rules for events -/

/-- Every event obeys a rule that looks at what came before it. -/
def Always (rule : List Event → Event → Prop) (h : List Event) : Prop :=
  ∀ before e after, h = before ++ e :: after → rule before e

/-- The last operation that began is this one. -/
def UnderWay (op : Operation) (h : List Event) : Prop :=
  ∃ before after, h = before ++ .operation op :: after ∧ ∀ op', .operation op' ∉ after

/-- An entry of a list that has grown by one is the last one or an earlier one. -/
theorem snoc_eq_append_cons {α : Type} {h before after : List α} {e e' : α} :
    h ++ [e] = before ++ e' :: after ↔
      (h = before ∧ e = e' ∧ after = []) ∨
        ∃ after', after = after' ++ [e] ∧ h = before ++ e' :: after' := by
  constructor
  · intro split
    rcases List.eq_nil_or_concat after with rfl | ⟨after', e'', rfl⟩
    · obtain ⟨hb, he⟩ := List.append_inj' split rfl
      cases he
      exact .inl ⟨hb, rfl, rfl⟩
    · have : h ++ [e] = (before ++ e' :: after') ++ [e''] := by simpa using split
      obtain ⟨hb, he⟩ := List.append_inj' this rfl
      cases he
      exact .inr ⟨after', by simp, hb⟩
  · rintro (⟨rfl, rfl, rfl⟩ | ⟨after', rfl, rfl⟩)
    · rfl
    · simp

namespace Always

variable {rule : List Event → Event → Prop} {h : List Event}

theorem nil : Always rule [] := by
  intro before e after h
  simp at h

theorem snoc {e : Event} (all : Always rule h) (last : rule h e) : Always rule (h ++ [e]) := by
  intro before e' after split
  rcases snoc_eq_append_cons.mp split with ⟨rfl, rfl, _⟩ | ⟨after', _, rfl⟩
  · exact last
  · exact all before e' after' rfl

theorem pair {e e' : Event} (all : Always rule h) (first : rule h e) (last : rule (h ++ [e]) e') :
    Always rule (h ++ [e, e']) := by
  have := (all.snoc first).snoc last
  rwa [List.append_assoc] at this

/-- Events that obey the rule whatever came before them. -/
theorem append {es : List Event} (all : Always rule h) (free : ∀ e ∈ es, ∀ past, rule past e) :
    Always rule (h ++ es) := by
  induction es generalizing h with
  | nil => rwa [List.append_nil]
  | cons e es ih =>
    rw [List.append_cons]
    refine ih (all.snoc (free e List.mem_cons_self h)) fun e' he' => ?_
    exact free e' (List.mem_cons_of_mem _ he')

theorem left {es : List Event} (all : Always rule (h ++ es)) : Always rule h := by
  rintro before e after rfl
  exact all before e (after ++ es) (by simp)

theorem of_mem {e : Event} (all : Always rule h) (he : e ∈ h) :
    ∃ before after, h = before ++ e :: after ∧ rule before e := by
  obtain ⟨before, after, split⟩ := List.append_of_mem he
  exact ⟨before, after, split, all before e after split⟩

end Always

theorem UnderWay.began (op : Operation) (h : List Event) : UnderWay op (h ++ [.operation op]) :=
  ⟨h, [], rfl, fun _ hop => (nomatch hop)⟩

theorem UnderWay.append {op : Operation} {h es : List Event} (way : UnderWay op h)
    (calls : ∀ op', .operation op' ∉ es) : UnderWay op (h ++ es) := by
  obtain ⟨before, after, rfl, none⟩ := way
  refine ⟨before, after ++ es, by simp, fun op' hop => ?_⟩
  rcases List.mem_append.mp hop with hop | hop
  · exact none op' hop
  · exact calls op' hop

/-! ## A rehearsal -/

/-- A monitor is drawn on, redrawn, cleared, drawn on again, closed and created anew, before
everything is taken down. -/
def rehearsed : List (Display × Operation) :=
  let d := (⟨true, false, false, []⟩ : Rehearsal).display
  let picture := Content.image #[1, 2, 3, 4] ⟨1, 1⟩
  [(d, .reserve), (d, .insert 0 7 3), (d, .setLabel 0 "DP-1"), (d, .configure 0 1 ⟨1, 1⟩),
    (d, .apply none picture .nearest), (d, .released 0), (d, .apply none picture .nearest),
    (d, .configure 0 2 ⟨1, 1⟩), (d, .apply (some "DP-1") .clear .nearest),
    (d, .configure 0 3 ⟨1, 1⟩), (d, .apply none picture .nearest), (d, .closed 0),
    (d, .done 0), (d, .released 1), (d, .shutdown)]

theorem orderly_rehearsed : Stage.empty.Orderly [] rehearsed := by decide

end Wall
end Backdrop

import Mathlib.Data.List.Induction
import Backdrop.Proofs.Wall.Broadcast
import Backdrop.Proofs.Wall.Lifetime
import Backdrop.Proofs.Wall.Repertoire
import Backdrop.Proofs.Wall.Surfaces

/-!
# Backdrop.Proofs.Wall.Roll

Which monitors a wall has, in which order, and what is told about one that is gone.

* `Stage.Prompt pending s ops`: a key that is given out is used by the very next operation, and no
  other key is ever used.
* `roll ops` calls the monitors in the order of their announcements, without those withdrawn.
* `Current`: the keys used so far come before those still to be given out.
* `punctual_run`: in every prompt run keys only grow, the wall has the monitors of the roll in its
  order, and what is told about a monitor or a frame that is gone does nothing.
-/

namespace Backdrop
namespace Wall

/-! ## Runs -/

def Outcome.reserved? : Outcome → Option MonitorId
  | .reserved id => some id
  | _ => none

namespace Stage

/-- A key is used at once when it is given out, and only then. -/
def Prompt (pending : Option MonitorId) (s : Stage) : List (Display × Operation) → Prop
  | [] => True
  | (d, op) :: ops =>
    op.inserted? = pending ∧ Prompt (s.perform d op).1.reserved? (s.perform d op).2 ops

instance decidablePrompt (pending : Option MonitorId) (s : Stage) :
    (ops : List (Display × Operation)) → Decidable (s.Prompt pending ops)
  | [] => .isTrue trivial
  | (d, op) :: ops =>
    have := decidablePrompt (s.perform d op).1.reserved? (s.perform d op).2 ops
    inferInstanceAs (Decidable (_ ∧ _))

/-- The keys that a run gives out. -/
def handed (s : Stage) (ops : List (Display × Operation)) : List MonitorId :=
  (s.outcomes ops).filterMap Outcome.reserved?

end Stage

/-- The keys under which a run inserts monitors. -/
def introduced (ops : List (Display × Operation)) : List MonitorId :=
  ops.filterMap (·.2.inserted?)

def Operation.enroll (op : Operation) (roll : List (MonitorId × UInt32)) :
    List (MonitorId × UInt32) :=
  match op with
  | .insert id globalName _ => roll ++ [(id, globalName)]
  | .removeGlobal globalName => roll.eraseP (·.2 == globalName)
  | .shutdown => []
  | _ => roll

/-- Announced and not withdrawn since, in the order of the announcements. -/
def roll (ops : List (Display × Operation)) : List (MonitorId × UInt32) :=
  ops.foldl (fun roll p => p.2.enroll roll) []

/-- The monitor that an operation names by its key. -/
def Operation.about? : Operation → Option MonitorId
  | .setMode id _ => some id
  | .setScale id _ => some id
  | .setLabel id _ => some id
  | .done id => some id
  | .configure id _ _ => some id
  | .closed id => some id
  | _ => none

/-! ## Names -/

/-- The names of the announcements that the monitors come from. -/
def names (w : Wall) : Table UInt32 := w.monitors.mapWithKey fun _ m => m.globalName

def name? (w : Wall) (id : MonitorId) : Option UInt32 := (w.monitor? id).map (·.globalName)

section Names

variable {w w' : Wall} {id j : MonitorId} {m m₁ : Monitor}

theorem find?_names (w : Wall) (id : MonitorId) : w.names.find? id = w.name? id :=
  Table.find?_mapWithKey _ _ _

theorem names_congr (same : w'.name? = w.name?) : w'.names = w.names := by
  refine Table.ext_find? fun id => ?_
  rw [find?_names, find?_names, same]

theorem name?_of_monitor? (found : w.monitor? id = some m) : w.name? id = some m.globalName := by
  simp [name?, found]

theorem name?_putMonitor :
    (w.putMonitor id m₁).name? j = if id = j then some m₁.globalName else w.name? j := by
  simp only [name?, monitor?_putMonitor]
  split <;> rfl

theorem name?_put_same (found : w.monitor? id = some m) (same : m₁.globalName = m.globalName) :
    (w.putMonitor id m₁).name? = w.name? := by
  funext j
  rw [name?_putMonitor]
  by_cases own : id = j
  · subst own
    rw [if_pos rfl, same, name?_of_monitor? found]
  · rw [if_neg own]

theorem name?_adjusted {op : Operation} {change : Monitor → Monitor}
    (what : op.adjustment? = some (id, change)) :
    (w.modifyMonitor id change).name? = w.name? := by
  have named : ∀ m, (change m).globalName = m.globalName := by
    intro m
    cases op with
    | setMode | setScale | setLabel =>
      cases what
      rfl
    | _ => cases what
  funext j
  simp only [name?, monitor?_modifyMonitor, Option.map_map]
  congr 1
  funext m
  by_cases own : j = id <;> simp [own, named]

end Names

/-- No monitor goes away but in a move that has its handle to release. -/
theorem Move.names {M M' : Moment} {es : List Event} (move : Move M es M') :
    M'.wall.name? = M.wall.name? ∨ M'.departing ≠ none ∨
      ∃ id globalName handle, .operation (.insert id globalName handle) ∈ es := by
  cases move with
  | announce globalName handle _ _ =>
    exact .inr (.inr ⟨_, globalName, handle, List.mem_singleton_self _⟩)
  | adjust what => exact .inl (name?_adjusted what)
  | create found _ => exact .inl (name?_put_same (w := Wall.claimSurface _) found rfl)
  | resize _ found _ _ => exact .inl (name?_put_same found rfl)
  | close found => exact .inl (name?_put_same found rfl)
  | clear found _ _ _ => exact .inl (name?_put_same found rfl)
  | uncover found _ _ => exact .inl (name?_put_same found rfl)
  | draw _ found _ _ => exact .inl (name?_put_same (w := Wall.claimFrame _) found rfl)
  | depart _ => exact .inr (.inl (by simp))
  | leave _ => exact .inr (.inl (by simp))
  | _ => exact .inl rfl

theorem Move.departing {M M' : Moment} {es : List Event} (move : Move M es M')
    (leaving : M.departing ≠ none) :
    M'.departing ≠ none ∨ ∃ handle, .call (.releaseOutput handle) ∈ es := by
  cases move with
  | releaseOutput w handle ending => exact .inr ⟨handle, List.mem_singleton_self _⟩
  | retireBusy _ _ _ => exact .inl leaving
  | retireIdle _ _ _ => exact .inl leaving
  | retireGone _ _ => exact .inl leaving
  | _ => exact absurd rfl leaving

theorem Moves.names {w w' : Wall} {es : List Event} (moves : Moves (.still w) es (.still w'))
    (old : ∀ id globalName handle, .operation (.insert id globalName handle) ∉ es)
    (kept : ∀ handle, .call (.releaseOutput handle) ∉ es) : w'.names = w.names := by
  have all := moves.preserve
    (P := fun h M => M.wall.name? = w.name? ∨ M.departing ≠ none ∨
      (∃ handle, .call (.releaseOutput handle) ∈ h) ∨
      ∃ id globalName handle, .operation (.insert id globalName handle) ∈ h)
    (h := []) ?_ (.inl rfl)
  · rcases all with same | leaving | ⟨handle, released⟩ | ⟨id, globalName, handle, inserted⟩
    · exact names_congr same
    · exact absurd rfl leaving
    · exact absurd released (kept handle)
    · exact absurd inserted (old id globalName handle)
  · intro h M M' es ih move
    rcases ih with same | leaving | ⟨handle, released⟩ | ⟨id, globalName, handle, inserted⟩
    · rcases move.names with still | leaving | ⟨id, globalName, handle, inserted⟩
      · exact .inl (still.trans same)
      · exact .inr (.inl leaving)
      · exact .inr (.inr (.inr ⟨id, globalName, handle, List.mem_append_right _ inserted⟩))
    · rcases move.departing leaving with leaving | ⟨handle, released⟩
      · exact .inr (.inl leaving)
      · exact .inr (.inr (.inl ⟨handle, List.mem_append_right _ released⟩))
    · exact .inr (.inr (.inl ⟨handle, List.mem_append_left _ released⟩))
    · exact .inr (.inr (.inr ⟨id, globalName, handle, List.mem_append_left _ inserted⟩))

/-- Most operations neither bring a monitor nor take one away. -/
theorem perform_names (d : Display) {op : Operation} (s : Stage) (old : op.inserted? = none)
    (kept : .releaseOutput ∉ op.repertoire) :
    (s.perform d op).2.wall.names = s.wall.names := by
  have welcome : op.Welcome s.wall := by
    cases op with
    | insert => cases old
    | _ => trivial
  refine (perform_moves (d := d) welcome).names ?_ ?_
  · intro id globalName handle inserted
    cases mem_turn_operation inserted
    cases old
  · intro handle released
    exact kept (kind_of_turn released)

theorem insert_names (d : Display) (id : MonitorId) (globalName : UInt32) (handle : Nat)
    (s : Stage) :
    (s.insert d id globalName handle).wall.names = s.wall.names.insert id globalName := by
  obtain ⟨cs, calls, moves⟩ := insert_leads d id globalName handle s
  have turn : s.turn d (.insert id globalName handle) =
      .operation (.insert id globalName handle) :: cs.map .call := turn_eq calls
  rw [moves.names (by simp)]
  · refine Table.ext_find? fun j => ?_
    rw [find?_names, name?_putMonitor, Table.find?_insert, find?_names]
    rfl
  · intro handle' released
    have told : .call (.releaseOutput handle') ∈ s.turn d (.insert id globalName handle) := by
      rw [turn]
      exact List.mem_cons_of_mem _ released
    have kind := kind_of_turn told
    simp [Call.kind] at kind

theorem removeMonitor_names (id : MonitorId) (m : Monitor) (s : Stage) :
    (s.removeMonitor id m).wall.names = s.wall.names.erase id := by
  have left : (s.removeMonitor id m).wall.monitor? = (s.wall.dropMonitor id).monitor? := by
    funext j
    simp only [Stage.removeMonitor, Stage.call, wall_retireOption, monitor?_retireFrame,
      Stage.wall_destroySurface]
    rfl
  refine Table.ext_find? fun j => ?_
  rw [find?_names, Table.find?_erase, find?_names]
  simp only [name?, left, monitor?_dropMonitor]
  split <;> rfl

/-! ## The roll -/

theorem entries_names (w : Wall) :
    w.names.entries = w.monitors.entries.map fun e => (e.1, e.2.globalName) := rfl

/-- What comes after everything else is put at the end. -/
theorem insertIn_eq_append {α : Type} {k : Nat} {v : α} {l : List (Nat × α)}
    (above : ∀ e ∈ l, e.1 < k) : Table.insertIn k v l = l ++ [(k, v)] := by
  induction l with
  | nil => rfl
  | cons e rest ih =>
    have first := above e List.mem_cons_self
    have notBefore : ¬ k < e.1 := by omega
    have notHere : k ≠ e.1 := by omega
    simp only [Table.insertIn, if_neg notBefore, if_neg notHere, List.cons_append]
    rw [ih fun e' he' => above e' (List.mem_cons_of_mem _ he')]

/-- Without the key of the first entry with a property, the first entry with it is missing. -/
theorem filter_eq_eraseP {α : Type} {p : Nat × α → Bool} {k : Nat} {l : List (Nat × α)}
    (ascending : l.Pairwise fun a b => a.1 < b.1) (first : (l.find? p).map (·.1) = some k) :
    l.filter (fun e => e.1 != k) = l.eraseP p := by
  induction l with
  | nil => cases first
  | cons e rest ih =>
    obtain ⟨before, ascending⟩ := List.pairwise_cons.mp ascending
    by_cases he : p e = true
    · rw [List.find?_cons_of_pos he] at first
      cases first
      rw [List.eraseP_cons_of_pos he, List.filter_cons_of_neg (by simp)]
      refine List.filter_eq_self.mpr fun e' he' => ?_
      have := before e' he'
      simp only [bne_iff_ne, ne_eq]
      omega
    · rw [List.find?_cons_of_neg he] at first
      obtain ⟨e', found, rfl⟩ := Option.map_eq_some_iff.mp first
      have apart := before e' (List.mem_of_find?_eq_some found)
      have kept : (e.1 != e'.1) = true := by
        simp only [bne_iff_ne, ne_eq]
        omega
      rw [List.eraseP_cons_of_neg he, ← ih ascending first]
      exact List.filter_cons_of_pos kept

theorem removeGlobal_unknown {globalName : UInt32} {s : Stage}
    (unknown : ∀ id m, s.wall.monitor? id = some m → m.globalName ≠ globalName) :
    s.removeGlobal globalName = (false, s) := by
  have missing : s.wall.findGlobal globalName = none := by
    rw [findGlobal, Option.map_eq_none_iff, List.find?_eq_none]
    intro e he same
    refine unknown e.1 e.2 (Table.find?_eq_some_iff.mpr he) ?_
    simpa using same
  simp only [Stage.removeGlobal, missing]

theorem removeGlobal_listed (globalName : UInt32) (s : Stage) :
    (s.removeGlobal globalName).2.wall.names.entries =
      s.wall.names.entries.eraseP (·.2 == globalName) := by
  unfold Stage.removeGlobal
  cases found : s.wall.findGlobal globalName with
  | none =>
    rw [findGlobal, Option.map_eq_none_iff, List.find?_eq_none] at found
    refine (List.eraseP_of_forall_not ?_).symm
    intro e he
    rw [entries_names] at he
    obtain ⟨e', listed, rfl⟩ := List.mem_map.mp he
    exact found e' listed
  | some id =>
    obtain ⟨m, held, _⟩ := Table.exists_of_findKey found
    have looked : s.monitor? id = some m := held
    simp only [looked]
    rw [removeMonitor_names]
    refine filter_eq_eraseP s.wall.names.ascending ?_
    rw [entries_names, List.find?_map, Option.map_map]
    exact found

/-! ## Keys in use and keys to come -/

theorem perform_reserved (d : Display) (op : Operation) (s : Stage) :
    (s.perform d op).1.reserved? = if op = .reserve then some s.wall.nextMonitor else none := by
  cases op <;> rfl

theorem nextMonitor_perform (d : Display) (op : Operation) (s : Stage) :
    s.wall.nextMonitor ≤ (s.perform d op).2.wall.nextMonitor := by
  have grown := (perform_moves_entering d op s).preserve
    (P := fun _ M => (op.entering s.wall).nextMonitor ≤ M.wall.nextMonitor)
    (fun old move => Nat.le_trans old move.nextMonitor_le) (h := []) (Nat.le_refl _)
  cases op <;> exact grown

theorem handed_ascending (s : Stage) (ops : List (Display × Operation)) :
    (s.handed ops).Pairwise (· < ·) ∧ ∀ id ∈ s.handed ops, s.wall.nextMonitor ≤ id := by
  -- By induction on the run, for the keys from `s` on.
  induction ops generalizing s with
  | nil => exact ⟨.nil, fun _ h => (nomatch h)⟩
  | cons p ops ih =>
    obtain ⟨d, op⟩ := p
    obtain ⟨ascending, above⟩ := ih (s.perform d op).2
    have grown := nextMonitor_perform d op s
    have reserved := perform_reserved d op s
    simp only [Stage.handed, Stage.outcomes, List.filterMap_cons] at ascending above ⊢
    by_cases reserve : op = .reserve
    · subst reserve
      rw [if_pos rfl] at reserved
      rw [reserved]
      have next : (s.perform d .reserve).2.wall.nextMonitor = s.wall.nextMonitor + 1 := rfl
      refine ⟨List.pairwise_cons.mpr ⟨?_, ascending⟩, ?_⟩
      · intro id hid
        have later := above id hid
        rw [next] at later
        exact later
      · intro id hid
        rcases List.mem_cons.mp hid with rfl | hid
        · exact Nat.le_refl _
        · exact Nat.le_trans grown (above id hid)
    · rw [if_neg reserve] at reserved
      rw [reserved]
      exact ⟨ascending, fun id hid => Nat.le_trans grown (above id hid)⟩

/-- The keys used so far, and the one that is to be used next. -/
structure Current (used : List MonitorId) (pending : Option MonitorId) (w : Wall) : Prop where
  present : ∀ id m, w.monitor? id = some m → id ∈ used
  below : ∀ id ∈ used, id < pending.getD w.nextMonitor
  given : ∀ id ∈ pending, id < w.nextMonitor

namespace Current

variable {used : List MonitorId} {pending : Option MonitorId} {d : Display} {op : Operation}
  {s : Stage}

theorem empty : Current [] none .empty :=
  ⟨fun _ _ h => (nomatch h), fun _ h => (nomatch h), fun _ h => (nomatch h)⟩

theorem lt_next {w : Wall} (current : Current used pending w) {id : MonitorId}
    (old : id ∈ used) : id < w.nextMonitor := by
  have below := current.below id old
  cases pending with
  | none => exact below
  | some next => exact Nat.lt_trans below (current.given next rfl)

theorem welcome (current : Current used pending s.wall) (prompt : op.inserted? = pending) :
    op.Welcome s.wall := by
  cases op with
  | insert id globalName handle =>
    subst prompt
    refine ⟨?_, current.given id rfl⟩
    cases found : s.wall.monitor? id with
    | none => rfl
    | some m => exact absurd (current.below id (current.present id m found)) (Nat.lt_irrefl _)
  | _ => trivial

theorem step (current : Current used pending s.wall) (prompt : op.inserted? = pending) :
    Current (used ++ op.inserted?.toList) (s.perform d op).1.reserved? (s.perform d op).2.wall := by
  have grown := nextMonitor_perform d op s
  have listed : ∀ id ∈ used ++ op.inserted?.toList, id < s.wall.nextMonitor := by
    intro id hid
    rcases List.mem_append.mp hid with old | new
    · exact current.lt_next old
    · exact current.given id (prompt ▸ Option.mem_toList.mp new)
  refine ⟨?_, ?_, ?_⟩
  · intro id m found
    rcases (perform_monitors (d := d) (current.welcome prompt)).2 id m found with ⟨m, old⟩ | new
    · exact List.mem_append_left _ (current.present id m old)
    · exact List.mem_append_right _ (Option.mem_toList.mpr new)
  · intro id hid
    rw [perform_reserved]
    by_cases reserve : op = .reserve
    · rw [if_pos reserve]
      exact listed id hid
    · rw [if_neg reserve]
      exact Nat.lt_of_lt_of_le (listed id hid) grown
  · intro id hid
    rw [perform_reserved] at hid
    by_cases reserve : op = .reserve
    · subst reserve
      cases hid
      exact Nat.lt_succ_self _
    · rw [if_neg reserve] at hid
      cases hid

/-- A key that was used is not used again. -/
theorem absent (current : Current used pending s.wall) (prompt : op.inserted? = pending)
    {id : MonitorId} (old : id ∈ used) (gone : s.wall.monitor? id = none) :
    (s.perform d op).2.wall.monitor? id = none := by
  cases found : (s.perform d op).2.wall.monitor? id with
  | none => rfl
  | some m =>
    rcases (perform_monitors (d := d) (current.welcome prompt)).2 id m found with ⟨m, here⟩ | new
    · rw [gone] at here
      cases here
    · have next : pending = some id := prompt.symm.trans new
      subst next
      exact absurd (current.below id old) (Nat.lt_irrefl _)

theorem listed (current : Current used pending s.wall) (prompt : op.inserted? = pending) :
    (s.perform d op).2.wall.names.entries = op.enroll s.wall.names.entries := by
  cases op with
  | insert id globalName handle =>
    have inserted : (s.perform d (.insert id globalName handle)).2.wall.names =
        s.wall.names.insert id globalName := insert_names d id globalName handle s
    rw [inserted]
    refine insertIn_eq_append fun e he => ?_
    obtain ⟨e', here, rfl⟩ := List.mem_map.mp he
    have old := current.present e'.1 e'.2 (Table.find?_eq_some_iff.mpr here)
    subst prompt
    exact current.below e'.1 old
  | removeGlobal globalName => exact removeGlobal_listed globalName s
  | shutdown =>
    have cleared : (s.perform d .shutdown).2.wall =
        { s.wall with monitors := .empty, frames := .empty } := Stage.wall_shutdown s
    rw [cleared]
    rfl
  | apply target content filter =>
    rw [perform_names d s rfl (by cases content <;> simp)]
    rfl
  | _ =>
    rw [perform_names d s rfl (by simp)]
    rfl

/-- Any number of operations, one after another. -/
theorem run {ops : List (Display × Operation)} (current : Current used pending s.wall)
    (prompt : s.Prompt pending ops) :
    ∃ pending', Current (used ++ introduced ops) pending' (s.run ops).wall ∧
      (s.run ops).wall.names.entries =
        ops.foldl (fun roll p => p.2.enroll roll) s.wall.names.entries ∧
      ∀ later, s.Prompt pending (ops ++ later) → (s.run ops).Prompt pending' later := by
  induction ops generalizing used pending s with
  | nil =>
    refine ⟨pending, ?_, rfl, fun later prompt => prompt⟩
    have none : used ++ introduced [] = used := List.append_nil used
    rw [none]
    exact current
  | cons p ops ih =>
    obtain ⟨d, op⟩ := p
    obtain ⟨now, rest⟩ := prompt
    obtain ⟨pending', current', listed', after⟩ := ih (current.step now) rest
    have more : used ++ introduced ((d, op) :: ops) =
        used ++ op.inserted?.toList ++ introduced ops := by
      cases inserted : op.inserted? <;> simp [introduced, inserted]
    refine ⟨pending', ?_, ?_, ?_⟩
    · rw [more]
      exact current'
    · rw [List.foldl_cons, ← current.listed now]
      exact listed'
    · intro later prompt
      exact after later prompt.2

theorem absent_run {ops : List (Display × Operation)} (current : Current used pending s.wall)
    (prompt : s.Prompt pending ops) {id : MonitorId} (old : id ∈ used)
    (gone : s.wall.monitor? id = none) : (s.run ops).wall.monitor? id = none := by
  induction ops generalizing used pending s with
  | nil => exact gone
  | cons p ops ih =>
    obtain ⟨now, rest⟩ := prompt
    exact ih (current.step now) rest (List.mem_append_left _ old) (current.absent now old gone)

end Current

theorem Stage.Prompt.left {pending : Option MonitorId} {s : Stage}
    {ops ops' : List (Display × Operation)} (prompt : s.Prompt pending (ops ++ ops')) :
    s.Prompt pending ops := by
  induction ops generalizing pending s with
  | nil => trivial
  | cons p ops ih => exact ⟨prompt.1, ih prompt.2⟩

theorem Stage.Prompt.orderly {pending : Option MonitorId} {s : Stage}
    {ops : List (Display × Operation)} (prompt : s.Prompt pending ops) :
    s.Orderly pending.toList ops := by
  induction ops generalizing pending s with
  | nil => trivial
  | cons p ops ih =>
    obtain ⟨d, op⟩ := p
    obtain ⟨now, rest⟩ := prompt
    refine ⟨fun id hid => Option.mem_toList.mpr (now ▸ hid), ?_⟩
    have next : unusedAfter pending.toList op (s.perform d op).1 =
        (s.perform d op).1.reserved?.toList := by
      subst now
      cases op with
      | insert id globalName handle => simp [unusedAfter, Operation.inserted?, perform_reserved]
      | _ => rfl
    rw [next]
    exact ih rest

/-! ## What is told about monitors that are gone -/

theorem modifyMonitor_absent {w : Wall} {id : MonitorId} (gone : w.monitor? id = none)
    (change : Monitor → Monitor) : w.modifyMonitor id change = w := by
  have same : w.monitors.modify id change = w.monitors := by
    refine Table.ext_find? fun j => ?_
    rw [Table.find?_modify]
    by_cases own : j = id
    · subst own
      have missing : w.monitors.find? j = none := gone
      rw [missing]
      rfl
    · simp [own]
  simp only [modifyMonitor, same]

theorem ensureSurface_absent (d : Display) {id : MonitorId} {s : Stage}
    (gone : s.wall.monitor? id = none) :
    (s.ensureSurface d id).wall = s.wall ∧ (s.ensureSurface d id).calls = s.calls := by
  have looked : s.monitor? id = none := gone
  unfold Stage.ensureSurface
  split
  · rw [looked]
    exact ⟨rfl, rfl⟩
  · exact ⟨rfl, rfl⟩

theorem perform_absent (d : Display) {op : Operation} {id : MonitorId} {s : Stage}
    (about : op.about? = some id) (gone : s.wall.monitor? id = none) :
    (s.perform d op).2.wall = s.wall ∧ (s.perform d op).2.calls = s.calls := by
  have looked : s.monitor? id = none := gone
  cases op with
  | setMode | setScale | setLabel =>
    cases about
    exact ⟨modifyMonitor_absent gone _, rfl⟩
  | done =>
    cases about
    simp only [Stage.perform, Stage.done, looked]
    exact ensureSurface_absent d gone
  | configure _ serial size =>
    cases about
    simp only [Stage.perform, Stage.configure, looked, and_self]
  | closed =>
    cases about
    simp only [Stage.perform, Stage.closed, looked, and_self]
  | _ => cases about

theorem configure_absent (d : Display) {id : MonitorId} (serial : UInt32) (size : Extent)
    {s : Stage} (gone : s.wall.monitor? id = none) :
    s.perform d (.configure id serial size) = (.configured none, s) := by
  have looked : s.monitor? id = none := gone
  simp only [Stage.perform, Stage.configure, looked]

theorem released_absent (d : Display) {f : FrameId} {s : Stage} (gone : s.wall.frame? f = none) :
    s.perform d (.released f) = (.nothing, s) := by
  have looked : s.frame? f = none := gone
  simp only [Stage.perform, Stage.released, looked]

theorem live_run {ops : List (Display × Operation)} (orderly : Stage.empty.Orderly [] ops)
    (f : FrameId) : (∃ slot, (Stage.empty.run ops).wall.frame? f = some slot) ↔
      f ∈ attached (Stage.empty.timeline ops) ∧ f ∉ freed (Stage.empty.timeline ops) := by
  have ledger := ledger_run orderly
  rw [ledger.live_iff f]
  constructor
  · rintro ⟨given, kept⟩
    exact ⟨(given_used_run orderly given).resolve_right kept, kept⟩
  · rintro ⟨shown, kept⟩
    obtain ⟨e, he, named⟩ := List.mem_filterMap.mp shown
    exact ⟨given_of_mem ledger.rule he (.inl named), kept⟩

/-! ## Prompt runs -/

structure Punctual (ops : List (Display × Operation)) : Prop where
  /-- No key is given out twice, whatever is withdrawn or shut down in between. -/
  ascending : (Stage.empty.handed ops).Pairwise (· < ·)
  ordered : ((Stage.empty.run ops).wall.monitors.entries.map fun e => (e.1, e.2.globalName)) =
    roll ops
  gone : ∀ before after, ops = before ++ after → ∀ id ∈ introduced before,
    (Stage.empty.run before).wall.monitor? id = none → ∀ d,
      (∀ serial size, (Stage.empty.run ops).perform d (.configure id serial size) =
        (.configured none, Stage.empty.run ops)) ∧
      ∀ op : Operation, op.about? = some id →
        ((Stage.empty.run ops).perform d op).2.wall = (Stage.empty.run ops).wall ∧
          ((Stage.empty.run ops).perform d op).2.calls = (Stage.empty.run ops).calls
  unknown : ∀ globalName,
    (∀ id m, (Stage.empty.run ops).wall.monitor? id = some m → m.globalName ≠ globalName) →
      ∀ d, (Stage.empty.run ops).perform d (.removeGlobal globalName) =
        (.removed false, Stage.empty.run ops)
  spent : ∀ f, (Stage.empty.run ops).wall.frame? f = none →
    ∀ d, (Stage.empty.run ops).perform d (.released f) = (.nothing, Stage.empty.run ops)
  slots : ∀ f, (Stage.empty.run ops).wall.frame? f = none ↔
    f ∈ freed (Stage.empty.timeline ops) ∨ f ∉ attached (Stage.empty.timeline ops)

theorem punctual_run {ops : List (Display × Operation)} (prompt : Stage.empty.Prompt none ops) :
    Punctual ops := by
  obtain ⟨_, _, listed, _⟩ := Current.empty.run prompt
  refine ⟨(handed_ascending _ ops).1, listed, ?_, ?_, fun f free d => released_absent d free, ?_⟩
  · rintro before after rfl id old gone d
    obtain ⟨pending, current, _, later⟩ := Current.empty.run prompt.left
    have absent : (Stage.empty.run (before ++ after)).wall.monitor? id = none := by
      rw [Stage.run_append]
      exact current.absent_run (later after prompt) old gone
    refine ⟨fun serial size => configure_absent d serial size absent, ?_⟩
    intro op about
    exact perform_absent d about absent
  · intro globalName unknown d
    simp only [Stage.perform, removeGlobal_unknown unknown]
  · intro f
    rw [Option.eq_none_iff_forall_ne_some, ← not_exists, live_run prompt.orderly f, not_and_or,
      not_not, or_comm]

/-- The first of two monitors goes away and comes back under its old name. -/
def readmitted : List (Display × Operation) :=
  let d := (⟨true, false, false, []⟩ : Rehearsal).display
  let picture := Content.image #[1, 2, 3, 4] ⟨1, 1⟩
  [(d, .reserve), (d, .insert 0 10 3), (d, .setLabel 0 "DP-1"), (d, .reserve), (d, .insert 1 11 4),
    (d, .configure 0 1 ⟨1, 1⟩), (d, .apply none picture .nearest), (d, .removeGlobal 10),
    (d, .released 0), (d, .reserve), (d, .insert 2 10 3), (d, .setLabel 2 "DP-1"),
    (d, .configure 0 2 ⟨1, 1⟩), (d, .released 0), (d, .removeGlobal 12)]

theorem punctual_run_readmitted :
    Stage.empty.Prompt none readmitted ∧ roll readmitted = [(1, 11), (2, 10)] ∧
      Punctual readmitted :=
  ⟨by decide, rfl, punctual_run (by decide)⟩

end Wall
end Backdrop

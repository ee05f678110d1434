import Backdrop.Proofs.Table
import Backdrop.Proofs.Wall.Backend
import Backdrop.Proofs.Wall.Painting

/-!
# Backdrop.Proofs.Wall.Broadcast

A request for all monitors is the requests for each of them.

* Serving one monitor changes its phase and its frame and nothing else that is known of monitors
  (`plain?_applyOn`), so that the monitors a request means stay the same while it is served.
* `applyAll_each`: serving monitors one after another is serving a request for each label.
* `broadcasts` has the equation and what the numbers of a report add up to.
-/

namespace Backdrop
namespace Wall

/-- Every monitor has a label, and no two have the same. -/
structure Labelled (w : Wall) : Prop where
  named : ∀ {id m}, w.monitor? id = some m → m.label ≠ none
  apart : ∀ {id id' m m'}, w.monitor? id = some m → w.monitor? id' = some m' →
    m.label = m'.label → id = id'

/-- The labels of the monitors, in the order of the monitors' keys. -/
def labels (w : Wall) : List String := w.monitors.values.filterMap (·.label)

namespace Report

/-- A report before the first verdict. -/
def matching (n : Nat) : Report := { empty with matched := n }

def add (r r' : Report) : Report :=
  ⟨r.matched + r'.matched, r.drawn + r'.drawn, r.cleared + r'.cleared, r.skipped + r'.skipped,
    r.failed + r'.failed⟩

def total (reports : List Report) : Report := reports.foldr add empty

/-- The monitors for which a verdict was given. -/
def served (r : Report) : Nat := r.drawn + r.cleared + r.skipped + r.failed

end Report

/-- What each operation of a run answers. -/
def Stage.outcomes (s : Stage) : List (Display × Operation) → List Outcome
  | [] => []
  | (d, op) :: ops => (s.perform d op).1 :: (s.perform d op).2.outcomes ops

/-- How the display server answers in each operation of a run. -/
def Backend.GivesEach (B : Backend) (s : Stage) : List (Display × Operation) → Prop
  | [] => True
  | (d, op) :: ops => B.Gives d op s ∧ B.GivesEach (s.perform d op).2 ops

/-! ## What stays known of a monitor -/

/-- A monitor but for its phase and its frame. -/
def Monitor.plain (m : Monitor) : Monitor := { m with phase := .uncreated, frame := none }

def plain? (w : Wall) (id : MonitorId) : Option Monitor := (w.monitor? id).map Monitor.plain

section Plain

variable {w w' : Wall} {id : MonitorId} {m m₁ : Monitor}

theorem plain?_put_same (found : w.monitor? id = some m) (same : m₁.plain = m.plain) :
    (w.putMonitor id m₁).plain? = w.plain? := by
  funext j
  simp only [plain?, monitor?_putMonitor]
  split
  · rename_i e
    subst e
    simp [found, same]
  · rfl

theorem plain?_retireFrame (o : Option FrameId) : (w.retireFrame o).plain? = w.plain? := by
  funext j
  simp only [plain?, monitor?_retireFrame]

theorem wall_retire (f : FrameId) (s : Stage) : (s.retire f).wall = s.wall.retireFrame (some f) :=
  wall_retireOption (some f) s

theorem wall_clearFrame (id : MonitorId) (m : Monitor) (surface : SurfaceId) (f : FrameId)
    (s : Stage) :
    ∃ phase, (s.clearFrame id m surface f).wall =
      (s.wall.putMonitor id { m with frame := none, phase := phase }).retireFrame (some f) := by
  unfold Stage.clearFrame
  split
  · exact ⟨.pendingConfigure, wall_retire f _⟩
  · exact ⟨m.phase, wall_retire f _⟩

theorem plain?_clearOn (id : MonitorId) (s : Stage) :
    (s.clearOn id).2.wall.plain? = s.wall.plain? := by
  rcases s.clearOn_cases id with ⟨wall, _⟩ | ⟨m, surface, f, found, _, _, cleared⟩
  · rw [wall]
  · obtain ⟨phase, wall⟩ := wall_clearFrame id m surface f s
    rw [cleared, wall, plain?_retireFrame]
    exact plain?_put_same found rfl

theorem plain?_drawFrame {d : Display} {s : Stage} (pixels : Array UInt8) (extent : Extent)
    (filter : Filter) (found : s.wall.monitor? id = some m) :
    (s.drawFrame d id m pixels extent filter).2.wall.plain? = s.wall.plain? := by
  rcases wall_drawFrame d id m pixels extent filter s with claimed | ⟨filled, painted⟩
  · rw [claimed]
    rfl
  · rw [painted, paint, plain?_retireFrame]
    exact plain?_put_same (w := s.wall.claimFrame) found rfl

theorem plain?_drawOn (d : Display) (id : MonitorId) (pixels : Array UInt8) (extent : Extent)
    (filter : Filter) (s : Stage) :
    (s.drawOn d id pixels extent filter).2.wall.plain? = s.wall.plain? := by
  rcases s.drawOn_cases d id pixels extent filter with ⟨wall, _⟩ | ⟨m, found, wall, _⟩
  · rw [wall]
  · rw [wall]
    exact plain?_drawFrame pixels extent filter found

theorem plain?_applyOn (d : Display) (content : Content) (filter : Filter) (id : MonitorId)
    (s : Stage) : (s.applyOn d content filter id).2.wall.plain? = s.wall.plain? := by
  cases content with
  | clear => exact plain?_clearOn id s
  | image pixels extent => exact plain?_drawOn d id pixels extent filter s

/-! ## Which monitors are meant -/

theorem sortedLT_targets (w : Wall) (target : Option String) : (w.targets target).SortedLT :=
  ((w.monitors.ascending.filter _).map (S := (· < ·)) Prod.fst fun _ _ h => h).sortedLT

theorem targets_of_plain? (same : w'.plain? = w.plain?) (target : Option String) :
    w'.targets target = w.targets target := by
  have member : ∀ {w : Wall} {id}, id ∈ w.targets target ↔
      ∃ m, w.plain? id = some m ∧ m.matchesTarget target = true := by
    intro w id
    rw [mem_targets]
    constructor
    · rintro ⟨m, found, wanted⟩
      exact ⟨m.plain, by simp [plain?, found], wanted⟩
    · rintro ⟨_, plain, wanted⟩
      obtain ⟨m, found, rfl⟩ := Option.map_eq_some_iff.mp plain
      exact ⟨m, found, wanted⟩
  refine (sortedLT_targets w' target).eq_of_mem_iff (sortedLT_targets w target) fun id => ?_
  rw [member, member, same]

end Plain

/-- The monitors with their labels. -/
def roster (w : Wall) : List (MonitorId × String) :=
  w.monitors.entries.filterMap fun e => e.2.label.map fun label => (e.1, label)

section Roster

variable {w : Wall}

theorem labels_eq_roster (w : Wall) : w.labels = w.roster.map (·.2) := by
  simp only [labels, roster, Table.values, List.map_filterMap, List.filterMap_map]
  refine congrArg (List.filterMap · _) (funext fun e => ?_)
  simp only [Function.comp]
  cases e.2.label <;> rfl

/-- With a label on each, all monitors are in the roster. -/
theorem targets_eq_roster (labelled : w.Labelled) : w.targets none = w.roster.map (·.1) := by
  have listed : ∀ e ∈ w.monitors.entries, ∃ label, e.2.label = some label := fun e he =>
    Option.ne_none_iff_exists'.mp (labelled.named (Table.find?_eq_some_iff.mpr he))
  simp only [targets, Monitor.matchesTarget, List.filter_true, roster, List.map_filterMap]
  rw [← List.filterMap_eq_map]
  refine List.filterMap_congr fun e he => ?_
  obtain ⟨label, named⟩ := listed e he
  simp [named]

/-- A label means its own monitor and no other. -/
theorem targets_label (labelled : w.Labelled) {e : MonitorId × String} (he : e ∈ w.roster) :
    w.targets (some e.2) = [e.1] := by
  obtain ⟨⟨id, m⟩, listed, paired⟩ := List.mem_filterMap.mp he
  obtain ⟨label, named, rfl⟩ := Option.map_eq_some_iff.mp paired
  change m.label = some label at named
  have found : w.monitor? id = some m := Table.find?_eq_some_iff.mpr listed
  refine (sortedLT_targets w _).eq_of_mem_iff (List.pairwise_singleton (· < ·) id).sortedLT
    fun j => ?_
  rw [mem_targets, List.mem_singleton]
  constructor
  · rintro ⟨m', found', wanted⟩
    have same : m'.label = some label := by simpa [Monitor.matchesTarget] using wanted
    exact labelled.apart found' found (same.trans named.symm)
  · rintro rfl
    exact ⟨m, found, by simp [Monitor.matchesTarget, named]⟩

end Roster

/-! ## Verdicts -/

theorem verdict_clearOn (id : MonitorId) (s : Stage) :
    (s.clearOn id).1 = .cleared ∨ (s.clearOn id).1 = .skipped := by
  unfold Stage.clearOn
  split
  · exact .inr rfl
  · split
    · exact .inr rfl
    · split
      · exact .inl rfl
      · exact .inl rfl

theorem verdict_drawOn (d : Display) (id : MonitorId) (pixels : Array UInt8) (extent : Extent)
    (filter : Filter) (s : Stage) : (s.drawOn d id pixels extent filter).1 ≠ .cleared := by
  unfold Stage.drawOn
  split
  · simp
  · rename_i m found
    split
    · split
      · rename_i v s' drawn
        simp only [Stage.drawFrame] at drawn
        split at drawn
        · cases drawn
        · simp only [Stage.fillFrame] at drawn
          split at drawn
          · cases drawn
          · split at drawn
            · cases drawn
              simp
            · cases drawn
              simp
      · simp
    · simp

/-- The numbers that a report for one more monitor does not touch. -/
structure Report.Grows (content : Content) (n : Nat) (r r' : Report) : Prop where
  matched : r'.matched = r.matched
  served : r'.served = r.served + n
  drawn : content = .clear → r'.drawn = r.drawn
  failed : content = .clear → r'.failed = r.failed
  cleared : content ≠ .clear → r'.cleared = r.cleared

theorem grows_count (d : Display) (content : Content) (filter : Filter) (id : MonitorId) (s : Stage)
    (r : Report) : r.Grows content 1 (r.count (s.applyOn d content filter id).1) := by
  cases content with
  | clear =>
    have verdict := verdict_clearOn id s
    simp only [Stage.applyOn]
    rcases verdict with v | v
    all_goals
      rw [v]
      refine ⟨rfl, ?_, fun _ => rfl, fun _ => rfl, by simp⟩
      simp only [Report.served, Report.count]
      omega
  | image pixels extent =>
    have verdict := verdict_drawOn d id pixels extent filter s
    simp only [Stage.applyOn]
    cases v : (s.drawOn d id pixels extent filter).1 with
    | cleared => exact absurd v verdict
    | _ =>
      refine ⟨rfl, ?_, by simp, by simp, fun _ => rfl⟩
      simp only [Report.served, Report.count]
      omega

theorem grows_applyAll (d : Display) (content : Content) (filter : Filter) (ids : List MonitorId)
    (r : Report) (s : Stage) :
    r.Grows content ids.length (Stage.applyAll d content filter ids r s).1 := by
  induction ids generalizing r s with
  | nil => exact ⟨rfl, rfl, fun _ => rfl, fun _ => rfl, fun _ => rfl⟩
  | cons id ids ih =>
    have one := grows_count d content filter id s r
    have rest := ih (r.count (s.applyOn d content filter id).1) (s.applyOn d content filter id).2
    refine ⟨rest.matched.trans one.matched, ?_, fun h => (rest.drawn h).trans (one.drawn h),
      fun h => (rest.failed h).trans (one.failed h),
      fun h => (rest.cleared h).trans (one.cleared h)⟩
    have := rest.served
    have := one.served
    simp only [Stage.applyAll, List.length_cons]
    omega

/-! ## One request for each monitor -/

theorem Backend.Answers.applyOn {B : Backend} {d : Display} {s : Stage} {id : MonitorId}
    {content : Content} {filter : Filter}
    (answers : B.Answers d s (s.applyOn d content filter id).2) :
    s.applyOn d content filter id = s.applyOn (B s.calls) content filter id := by
  cases content with
  | clear => rfl
  | image pixels extent =>
    simp only [Stage.applyOn] at answers ⊢
    cases found : s.monitor? id with
    | none => simp only [Stage.drawOn, found]
    | some m =>
      cases ready : m.phase.isDrawable with
      | false => simp only [Stage.drawOn, found, ready]; rfl
      | true =>
        have allocation := Backend.Answers.allocation (Between.drawFrame answers found ready)
        simp only [Stage.drawOn, found, ready, if_true, Stage.drawFrame, allocation]

/-- A request that means one monitor serves this monitor. -/
theorem perform_apply_one {d : Display} {label : String} {content : Content} {filter : Filter}
    {id : MonitorId} {s : Stage} (meant : s.wall.targets (some label) = [id]) :
    s.perform d (.apply (some label) content filter) =
      (.applied ((Report.matching 1).count (s.applyOn d content filter id).1),
        (s.applyOn d content filter id).2) := by
  simp [Stage.perform, Stage.apply, meant, Stage.applyAll, Stage.noteUnmatched, Report.matching]

theorem perform_apply_all (d : Display) (content : Content) (filter : Filter) (s : Stage) :
    s.perform d (.apply none content filter) =
      let all := Stage.applyAll d content filter (s.wall.targets none)
        (.matching (s.wall.targets none).length) s
      (.applied all.1, all.2) := by
  simp [Stage.perform, Stage.apply, Stage.noteUnmatched, Report.matching]

/-- A verdict counts the same before and after the sum. -/
theorem Report.add_count {r all rest : Report} {v : Verdict} {n : Nat}
    (sum : all.add (.matching n) = (r.count v).add rest) :
    all.add (.matching (n + 1)) = r.add (((Report.matching 1).count v).add rest) := by
  cases v
  all_goals
    simp only [Report.add, Report.matching, Report.empty, Report.count, Report.mk.injEq] at sum ⊢
    omega

theorem applyAll_each {B : Backend} {d : Display} {content : Content} {filter : Filter}
    {roster : List (MonitorId × String)} {requests : List (Display × Operation)} (r : Report)
    {s : Stage} (meant : ∀ e ∈ roster, s.wall.targets (some e.2) = [e.1])
    (answers : B.Answers d s (Stage.applyAll d content filter (roster.map (·.1)) r s).2)
    (named : requests.map (·.2) = roster.map fun e => .apply (some e.2) content filter)
    (given : B.GivesEach s requests) :
    (Stage.applyAll d content filter (roster.map (·.1)) r s).2 = s.run requests ∧
      ∃ reports, s.outcomes requests = reports.map .applied ∧
        (Stage.applyAll d content filter (roster.map (·.1)) r s).1.add (.matching roster.length) =
          r.add (.total reports) := by
  -- By induction on the monitors still to be served; what was served does not matter to them.
  induction roster generalizing r s requests with
  | nil =>
    obtain rfl : requests = [] := List.map_eq_nil_iff.mp named
    exact ⟨rfl, [], rfl, rfl⟩
  | cons e roster ih =>
    obtain ⟨id, label⟩ := e
    obtain ⟨⟨d', _⟩, requests, rfl, rfl, others⟩ := List.map_eq_cons_iff.mp named
    have one : s.perform d' (.apply (some label) content filter) = _ :=
      perform_apply_one (meant (id, label) List.mem_cons_self)
    -- Both ask the display server for this monitor after the same calls.
    have same : s.applyOn d' content filter id = s.applyOn d content filter id := by
      obtain ⟨cs, calls⟩ := Stage.calls_applyAll d content filter (roster.map (·.1))
        (r.count (s.applyOn d content filter id).1) (s.applyOn d content filter id).2
      have answers' : B.Answers d' s (s.perform d' (.apply (some label) content filter)).2 :=
        given.1.answers
      rw [one] at answers'
      exact answers'.applyOn.trans (Backend.Answers.applyOn (answers.left calls)).symm
    rw [same] at one
    have given_later : B.GivesEach (s.applyOn d content filter id).2 requests := by
      have : B.GivesEach (s.perform d' (.apply (some label) content filter)).2 requests := given.2
      rwa [one] at this
    obtain ⟨cs, calls⟩ := Stage.calls_applyOn d content filter id s
    obtain ⟨stage, reports, outcomes, sum⟩ :=
      ih (r.count (s.applyOn d content filter id).1) (s := (s.applyOn d content filter id).2)
        (fun e he => by
          rw [targets_of_plain? (plain?_applyOn d content filter id s)]
          exact meant e (List.mem_cons_of_mem _ he))
        (answers.right calls) others given_later
    refine ⟨?_, (Report.matching 1).count (s.applyOn d content filter id).1 :: reports, ?_, ?_⟩
    · simpa only [Stage.run, List.foldl_cons, one, Stage.applyAll, List.map_cons] using stage
    · simp only [Stage.outcomes, List.map_cons, one, outcomes]
    · exact Report.add_count sum

theorem Report.add_right_inj {r r' : Report} {n : Nat}
    (h : r.add (.matching n) = (Report.matching n).add r') : r = r' := by
  obtain ⟨_, _, _, _, _⟩ := r
  obtain ⟨_, _, _, _, _⟩ := r'
  simp only [Report.add, Report.matching, Report.empty, Report.mk.injEq] at h ⊢
  omega

theorem length_targets (w : Wall) (target : Option String) :
    (w.targets target).length =
      w.monitors.values.countP fun m => target.all fun name => m.label == some name := by
  simp only [targets, List.length_map, ← List.countP_eq_length_filter, Table.values,
    List.countP_map]
  refine List.countP_congr fun e _ => ?_
  cases target <;> rfl

/-! ## Broadcasts -/

/-- A request for all monitors, and what the numbers of a report say. -/
structure Broadcasts (s : Stage) : Prop where
  /-- A request for all monitors does what a request for each label does, in the order of the
  monitors, and its report is the sum of theirs. -/
  each : s.wall.Labelled → ∀ (B : Backend) (d : Display) (content : Content) (filter : Filter)
      (requests : List (Display × Operation)), B.Gives d (.apply none content filter) s →
    requests.map (·.2) = s.wall.labels.map (fun label => .apply (some label) content filter) →
    B.GivesEach s requests →
      (s.perform d (.apply none content filter)).2 = s.run requests ∧
        ∃ reports, s.outcomes requests = reports.map .applied ∧
          (s.perform d (.apply none content filter)).1 = .applied (.total reports)
  /-- Each monitor that is meant gets one verdict, and which ones there are depends on the
  content. -/
  counted : ∀ (d : Display) (target : Option String) (content : Content) (filter : Filter),
    ∃ r, (s.perform d (.apply target content filter)).1 = .applied r ∧
      r.matched = s.wall.monitors.values.countP
        (fun m => target.all fun name => m.label == some name) ∧
      r.matched = r.drawn + r.cleared + r.skipped + r.failed ∧
      (content = .clear → r.drawn = 0 ∧ r.failed = 0) ∧ (content ≠ .clear → r.cleared = 0)

theorem broadcasts (s : Stage) : Broadcasts s := by
  refine ⟨fun labelled B d content filter requests given named each => ?_,
    fun d target content filter => ?_⟩
  · have answers := given.answers
    rw [perform_apply_all] at answers ⊢
    rw [labels_eq_roster, List.map_map] at named
    rw [targets_eq_roster labelled] at answers ⊢
    obtain ⟨stage, reports, outcomes, sum⟩ :=
      applyAll_each _ (fun e he => targets_label labelled he) answers named each
    rw [List.length_map] at stage sum ⊢
    exact ⟨stage, reports, outcomes, congrArg Outcome.applied (Report.add_right_inj sum)⟩
  · have grows := grows_applyAll d content filter (s.wall.targets target)
      (.matching (s.wall.targets target).length) s
    have served := grows.served
    refine ⟨(Stage.applyAll d content filter (s.wall.targets target)
      (.matching (s.wall.targets target).length) s).1, rfl,
      grows.matched.trans (length_targets s.wall target), grows.matched.trans ?_,
      fun h => ⟨grows.drawn h, grows.failed h⟩, grows.cleared⟩
    simp only [Report.served, Report.matching, Report.empty] at served ⊢
    omega

/-! ## Two monitors, one without memory -/

theorem Labelled.ofEntries {w : Wall} (named : ∀ e ∈ w.monitors.entries, e.2.label ≠ none)
    (apart : ∀ e ∈ w.monitors.entries, ∀ e' ∈ w.monitors.entries,
      e.2.label = e'.2.label → e.1 = e'.1) : w.Labelled :=
  ⟨fun found => named _ (Table.find?_eq_some_iff.mp found), fun found found' =>
    apart _ (Table.find?_eq_some_iff.mp found) _ (Table.find?_eq_some_iff.mp found')⟩

/-- Gives no memory for the first frame. -/
def stingy : Display where
  ready _ := true
  surfaceRefusal _ := none
  allocate frame _ := if frame = 0 then .error .surfaceNotReady else .ok (Array.replicate 4 0)

/-- Two monitors with labels are announced and get their sizes. -/
def pairing : List (Display × Operation) :=
  ([.reserve, .insert 0 7 3, .setLabel 0 "DP-1", .configure 0 1 ⟨1, 1⟩, .reserve, .insert 1 8 4,
    .setLabel 1 "DP-2", .configure 1 2 ⟨1, 1⟩] : List Operation).map (stingy, ·)

def paired : Stage := Stage.empty.run pairing

theorem broadcasts_paired :
    let picture := Content.image #[1, 2, 3, 4] ⟨1, 1⟩
    let requests := [(stingy, Operation.apply (some "DP-1") picture .nearest),
      (stingy, .apply (some "DP-2") picture .nearest)]
    (paired.perform stingy (.apply none picture .nearest)).1 = .applied ⟨2, 1, 0, 0, 1⟩ ∧
      (paired.perform stingy (.apply none picture .nearest)).2 = paired.run requests ∧
        ∃ reports, paired.outcomes requests = reports.map .applied ∧
          (paired.perform stingy (.apply none picture .nearest)).1 = .applied (.total reports) :=
  ⟨by decide, (broadcasts paired).each (.ofEntries (by decide) (by decide)) (fun _ => stingy)
    stingy _ .nearest _ (Backend.gives_const _ _ _) (by decide)
    ⟨Backend.gives_const _ _ _, Backend.gives_const _ _ _, trivial⟩⟩

end Wall
end Backdrop

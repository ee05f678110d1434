import Mathlib.Data.List.Induction
import Backdrop.Proofs.Wall.Sound

/-!
# Backdrop.Proofs.Wall.Lifetime

The life of frames: asked for, given, attached, released, freed.

* `KeyRule`: memory is asked for under new keys only, and only frames that were given and not freed
  are attached or freed.
* `RestRule`: outside of shutdown, a frame that was attached is freed after a release that came
  after it was attached.
* `ScreenRule`: no surface shows a frame when it is freed.

Each rule is proved together with an invariant that ties the past to the slots of the wall.
`lifetimes_run` puts them together, and adds that nothing is kept: memory that no surface got is
freed by the same operation, and shutdown frees the rest.
-/

namespace Backdrop
namespace Wall

namespace Event

@[simp] def asked? : Event → Option FrameId
  | .call (.allocate f _) => some f
  | .call (.allocateFailed f _) => some f
  | _ => none

@[simp] def given? : Event → Option FrameId
  | .call (.allocate f _) => some f
  | _ => none

@[simp] def attached? : Event → Option FrameId
  | .call (.attach _ f _ _ _) => some f
  | _ => none

@[simp] def freed? : Event → Option FrameId
  | .call (.free f) => some f
  | _ => none

/-- The surface whose content an event replaces. -/
@[simp] def redrawn? : Event → Option SurfaceId
  | .call (.attach surface _ _ _ _) => some surface
  | .call (.detach surface _) => some surface
  | .call (.destroySurface surface) => some surface
  | _ => none

end Event

def asked (h : List Event) : List FrameId := h.filterMap Event.asked?

def given (h : List Event) : List FrameId := h.filterMap Event.given?

def attached (h : List Event) : List FrameId := h.filterMap Event.attached?

def freed (h : List Event) : List FrameId := h.filterMap Event.freed?

/-- A release has come since the frame was attached, if it was. -/
def ReleasedSince (h : List Event) (f : FrameId) : Prop :=
  ∀ before e after, h = before ++ e :: after → e.attached? = some f →
    .operation (.released f) ∈ after

/-- The surface shows the frame: it was attached, and nothing has replaced it. -/
def Displays (h : List Event) (surface : SurfaceId) (f : FrameId) : Prop :=
  ∃ before scale size pixels after,
    h = before ++ .call (.attach surface f scale size pixels) :: after ∧
      ∀ e ∈ after, e.redrawn? ≠ some surface

def KeyRule (past : List Event) (e : Event) : Prop :=
  (∀ f, e.asked? = some f → f ∉ asked past) ∧
    (∀ f, e.attached? = some f ∨ e.freed? = some f → f ∈ given past ∧ f ∉ freed past)

def RestRule (past : List Event) (e : Event) : Prop :=
  ∀ f, e.freed? = some f → UnderWay .shutdown past ∨ ReleasedSince past f

def ScreenRule (past : List Event) (e : Event) : Prop :=
  ∀ f, e.freed? = some f → ∀ surface, ¬ Displays past surface f

/-! ## Events that are not about frames -/

structure Event.Quiet (e : Event) : Prop where
  asked? : e.asked? = none
  given? : e.given? = none
  attached? : e.attached? = none
  freed? : e.freed? = none

namespace Event.Quiet

variable {e : Event}

theorem iff : e.Quiet ↔
    e.asked? = none ∧ e.given? = none ∧ e.attached? = none ∧ e.freed? = none :=
  ⟨fun h => ⟨h.1, h.2, h.3, h.4⟩, fun h => ⟨h.1, h.2.1, h.2.2.1, h.2.2.2⟩⟩

theorem keyRule (h : e.Quiet) (past : List Event) : KeyRule past e := by
  refine ⟨fun f hf => ?_, fun f hf => ?_⟩
  · rw [h.asked?] at hf
    cases hf
  · rw [h.attached?, h.freed?] at hf
    rcases hf with hf | hf <;> cases hf

theorem restRule (h : e.Quiet) (past : List Event) : RestRule past e := by
  intro f hf
  rw [h.freed?] at hf
  cases hf

theorem screenRule (h : e.Quiet) (past : List Event) : ScreenRule past e := by
  intro f hf
  rw [h.freed?] at hf
  cases hf

end Event.Quiet

theorem quiet_destruction (o : Option SurfaceId) : ∀ e ∈ destruction o, e.Quiet := by
  intro e he
  cases o with
  | none => cases he
  | some surface =>
    cases List.mem_singleton.mp he
    exact ⟨rfl, rfl, rfl, rfl⟩

theorem calls_destruction (o : Option SurfaceId) (op : Operation) :
    .operation op ∉ destruction o := by
  cases o <;> simp [destruction]

/-! ## Keys and slots -/

section Lists

variable {h es : List Event} {f : FrameId}

theorem mem_freed : f ∈ freed h ↔ .call (.free f) ∈ h := by
  simp only [freed, List.mem_filterMap]
  constructor
  · rintro ⟨e, he, hf⟩
    unfold Event.freed? at hf
    split at hf
    · cases hf
      exact he
    · cases hf
  · exact fun he => ⟨_, he, rfl⟩

theorem mem_given : f ∈ given h ↔ ∃ size, .call (.allocate f size) ∈ h := by
  simp only [given, List.mem_filterMap]
  constructor
  · rintro ⟨e, he, hf⟩
    unfold Event.given? at hf
    split at hf
    · cases hf
      exact ⟨_, he⟩
    · cases hf
  · exact fun ⟨_, he⟩ => ⟨_, he, rfl⟩

theorem asked_of_given (hf : f ∈ given h) : f ∈ asked h := by
  obtain ⟨size, he⟩ := mem_given.mp hf
  exact List.mem_filterMap.mpr ⟨_, he, rfl⟩

theorem given_append (h es : List Event) : given (h ++ es) = given h ++ given es :=
  List.filterMap_append

theorem freed_append (h es : List Event) : freed (h ++ es) = freed h ++ freed es :=
  List.filterMap_append

theorem asked_append (h es : List Event) : asked (h ++ es) = asked h ++ asked es :=
  List.filterMap_append

theorem given_quiet (quiet : ∀ e ∈ es, e.Quiet) : given es = [] :=
  List.filterMap_eq_nil_iff.mpr fun e he => (quiet e he).given?

theorem freed_quiet (quiet : ∀ e ∈ es, e.Quiet) : freed es = [] :=
  List.filterMap_eq_nil_iff.mpr fun e he => (quiet e he).freed?

theorem asked_quiet (quiet : ∀ e ∈ es, e.Quiet) : asked es = [] :=
  List.filterMap_eq_nil_iff.mpr fun e he => (quiet e he).asked?

/-- Only frames that were given are attached or freed. -/
theorem given_of_mem (rule : Always KeyRule h) {e : Event} (he : e ∈ h)
    (hf : e.attached? = some f ∨ e.freed? = some f) : f ∈ given h := by
  obtain ⟨before, after, rfl, obeyed⟩ := rule.of_mem he
  rw [given_append]
  exact List.mem_append_left _ (obeyed.2 f hf).1

end Lists

theorem exists_putFrame {w : Wall} {f : FrameId} {slot : Frame} (found : w.frame? f = some slot)
    (slot' : Frame) (k : FrameId) :
    (∃ s, (w.putFrame f slot').frame? k = some s) ↔ ∃ s, w.frame? k = some s := by
  rw [frame?_putFrame]
  split
  · rename_i e
    subst e
    simp [found]
  · rfl

/-- The slots of the wall are those of the frames that were given and not freed. -/
structure Ledger (h : List Event) (w : Wall) : Prop where
  rule : Always KeyRule h
  asked_below : ∀ f ∈ asked h, f < w.nextFrame
  live_iff : ∀ f, (∃ slot, w.frame? f = some slot) ↔ f ∈ given h ∧ f ∉ freed h

namespace Ledger

variable {h es : List Event} {w w' : Wall}

theorem empty : Ledger [] .empty :=
  ⟨.nil, fun _ hf => (nomatch hf), fun _ =>
    ⟨fun ⟨_, hslot⟩ => (nomatch hslot), fun hf => (nomatch hf.1)⟩⟩

theorem quiet (ledger : Ledger h w) (quiet : ∀ e ∈ es, e.Quiet)
    (hf : ∀ f, (∃ slot, w'.frame? f = some slot) ↔ ∃ slot, w.frame? f = some slot)
    (hn : w'.nextFrame = w.nextFrame) : Ledger (h ++ es) w' := by
  refine ⟨ledger.rule.append fun e he => (quiet e he).keyRule, ?_, fun f => ?_⟩
  · rw [asked_append, asked_quiet quiet, List.append_nil, hn]
    exact ledger.asked_below
  · rw [hf, given_append, given_quiet quiet, freed_append, freed_quiet quiet, List.append_nil,
      List.append_nil]
    exact ledger.live_iff f

/-! The next key is new. -/

theorem fresh (ledger : Ledger h w) : w.nextFrame ∉ asked h := fun hin =>
  absurd (ledger.asked_below _ hin) (Nat.lt_irrefl _)

theorem fresh_given (ledger : Ledger h w) : w.nextFrame ∉ given h := fun hin =>
  ledger.fresh (asked_of_given hin)

theorem fresh_of_mem (ledger : Ledger h w) {e : Event} (he : e ∈ h) :
    e.attached? ≠ some w.nextFrame ∧ e.freed? ≠ some w.nextFrame :=
  ⟨fun hf => ledger.fresh_given (given_of_mem ledger.rule he (.inl hf)),
    fun hf => ledger.fresh_given (given_of_mem ledger.rule he (.inr hf))⟩

theorem fresh_freed (ledger : Ledger h w) : w.nextFrame ∉ freed h := fun hin =>
  (ledger.fresh_of_mem (mem_freed.mp hin)).2 rfl

theorem allocate (ledger : Ledger h w) {e : Event} (he : e.asked? = some w.nextFrame) :
    KeyRule h e := by
  refine ⟨fun f hf => ?_, fun f hf => ?_⟩
  · rw [he] at hf
    cases hf
    exact ledger.fresh
  · -- What asks for memory neither attaches nor frees.
    unfold Event.asked? at he
    split at he <;> simp [Event.attached?, Event.freed?] at hf he

theorem asked_snoc_below (ledger : Ledger h w) {es : List Event}
    (hes : ∀ f ∈ asked es, f = w.nextFrame) : ∀ f ∈ asked (h ++ es), f < w.nextFrame + 1 := by
  intro f hf
  rw [asked_append] at hf
  rcases List.mem_append.mp hf with hf | hf
  · exact Nat.lt_succ_of_lt (ledger.asked_below f hf)
  · rw [hes f hf]
    exact Nat.lt_succ_self _

theorem allocateFailed (ledger : Ledger h w) (size : Extent) :
    Ledger (h ++ [.call (.allocateFailed w.nextFrame size)]) w.claimFrame := by
  refine ⟨ledger.rule.snoc (ledger.allocate rfl),
    ledger.asked_snoc_below fun f hf => List.mem_singleton.mp hf, fun f => ?_⟩
  rw [given_append, freed_append]
  simpa [given, freed, Event.given?, Event.freed?] using ledger.live_iff f

/-- Memory is given, and goes to a surface or back at once. -/
theorem given_snoc (ledger : Ledger h w) (size : Extent) {e : Event} (asks : e.asked? = none)
    (only : ∀ f, e.attached? = some f ∨ e.freed? = some f → f = w.nextFrame) :
    Always KeyRule (h ++ [.call (.allocate w.nextFrame size), e]) := by
  refine ledger.rule.pair (ledger.allocate rfl) ⟨fun f hf => ?_, fun f hf => ?_⟩
  · rw [asks] at hf
    cases hf
  · rw [only f hf, given_append, freed_append]
    have unfreed : w.nextFrame ∉ freed h ++ freed [.call (.allocate w.nextFrame size)] := by
      simpa [freed] using ledger.fresh_freed
    exact ⟨List.mem_append_right _ (List.mem_singleton_self _), unfreed⟩

theorem spoil (ledger : Ledger h w) (size : Extent) :
    Ledger (h ++ [.call (.allocate w.nextFrame size), .call (.free w.nextFrame)]) w.claimFrame := by
  refine ⟨ledger.given_snoc size rfl (by simp [eq_comm]),
    ledger.asked_snoc_below fun f hf => List.mem_singleton.mp hf, fun f => ?_⟩
  rw [given_append, freed_append, frame?_claimFrame, ledger.live_iff f]
  have := ledger.fresh_given
  simp only [given, freed, Event.given?, Event.freed?, List.filterMap_cons, List.filterMap_nil,
    List.mem_append, List.mem_singleton] at this ⊢
  by_cases hf : f = w.nextFrame
  · subst hf
    simp [this]
  · simp [hf]

theorem draw (ledger : Ledger h w) (surface : SurfaceId) (scale : Int) (size : Extent)
    (pixels : Array UInt8) {slot : Frame} (hn : w'.nextFrame = w.nextFrame + 1)
    (hf : ∀ f, w'.frame? f = if w.nextFrame = f then some slot else w.frame? f) :
    Ledger (h ++ [.call (.allocate w.nextFrame size),
      .call (.attach surface w.nextFrame scale size pixels)]) w' := by
  refine ⟨ledger.given_snoc size rfl (by simp [eq_comm]), hn ▸ ?_, fun f => ?_⟩
  · exact ledger.asked_snoc_below fun f hf => List.mem_singleton.mp hf
  · have live := ledger.live_iff f
    have unfreed := ledger.fresh_freed
    rw [given_append, freed_append, hf]
    simp only [given, freed, Event.given?, Event.freed?, List.filterMap_cons, List.filterMap_nil,
      List.mem_append, List.mem_singleton, List.append_nil] at live unfreed ⊢
    by_cases e : w.nextFrame = f
    · subst e
      simp [unfreed]
    · simp [e, Ne.symm e, live]

theorem free (ledger : Ledger h w) {f : FrameId} {slot : Frame} (found : w.frame? f = some slot) :
    Ledger (h ++ [.call (.free f)]) (w.dropFrame f) := by
  have live := (ledger.live_iff f).mp ⟨slot, found⟩
  refine ⟨ledger.rule.snoc ⟨fun k hk => (nomatch hk), fun k hk => ?_⟩, ?_, fun k => ?_⟩
  · rcases hk with hk | hk
    · cases hk
    · cases hk
      exact live
  · rw [asked_append, show asked [.call (.free f)] = [] from rfl, List.append_nil]
    exact ledger.asked_below
  · have old := ledger.live_iff k
    rw [given_append, freed_append, frame?_dropFrame]
    simp only [given, freed, Event.given?, Event.freed?, List.filterMap_cons, List.filterMap_nil,
      List.mem_append, List.mem_singleton, List.append_nil] at old ⊢
    by_cases e : f = k
    · subst e
      simp
    · simp [e, Ne.symm e, old]

theorem move {M M' : Moment} (ledger : Ledger h M.wall) (move : Move M es M') :
    Ledger (h ++ es) M'.wall := by
  cases move with
  | close _ => exact ledger.quiet (quiet_destruction _) (fun _ => .rfl) rfl
  | depart _ => exact ledger.quiet (quiet_destruction _) (fun _ => .rfl) rfl
  | leave _ => exact ledger.quiet (quiet_destruction _) (fun _ => .rfl) rfl
  | allocateFailed _ _ => exact ledger.allocateFailed _
  | spoil _ _ => exact ledger.spoil _
  | draw pixels _ _ _ => exact ledger.draw _ _ _ pixels rfl (frame?_putFrame _ _ · _)
  | retireBusy _ found _ =>
    exact ledger.quiet (fun _ he => (nomatch he)) (exists_putFrame found _) rfl
  | retireIdle _ found _ => exact ledger.free found
  | rest found _ =>
    exact ledger.quiet (by simp [Event.Quiet.iff]) (exists_putFrame found _) rfl
  | @collect w f _ found _ =>
    have released : Ledger (h ++ [.operation (.released f)]) w :=
      ledger.quiet (by simp [Event.Quiet.iff]) (fun _ => .rfl) rfl
    have := released.free found
    rwa [List.append_assoc] at this
  | discard _ found => exact ledger.free found
  | _ => exact ledger.quiet (by simp [Event.Quiet.iff]) (fun _ => .rfl) rfl

end Ledger

/-! ## Releases -/

namespace ReleasedSince

variable {h es : List Event} {f : FrameId}

theorem snoc {e : Event} (since : ReleasedSince h f) (he : e.attached? ≠ some f) :
    ReleasedSince (h ++ [e]) f := by
  intro before e' after split attach
  rcases snoc_eq_append_cons.mp split with ⟨_, rfl, _⟩ | ⟨after', rfl, rfl⟩
  · exact absurd attach he
  · exact List.mem_append_left _ (since before e' after' rfl attach)

theorem append (since : ReleasedSince h f) (hes : ∀ e ∈ es, e.attached? ≠ some f) :
    ReleasedSince (h ++ es) f := by
  induction es generalizing h with
  | nil => rwa [List.append_nil]
  | cons e es ih =>
    rw [List.append_cons]
    exact ih (since.snoc (hes e List.mem_cons_self)) fun e' he' =>
      hes e' (List.mem_cons_of_mem _ he')

theorem released (h : List Event) (f : FrameId) :
    ReleasedSince (h ++ [.operation (.released f)]) f := by
  intro before e after split attach
  rcases snoc_eq_append_cons.mp split with ⟨_, rfl, _⟩ | ⟨after', rfl, _⟩
  · cases attach
  · exact List.mem_append_right _ (List.mem_singleton_self _)

theorem unattached (hes : ∀ e ∈ h, e.attached? ≠ some f) : ReleasedSince h f := by
  intro before e after split attach
  exact absurd attach (hes e (by simp [split]))

end ReleasedSince

/-- A slot that is not busy was released since its frame was attached. -/
structure Rested (h : List Event) (M : Moment) : Prop where
  rule : Always RestRule h
  idle : ∀ {f slot}, M.wall.frame? f = some slot → slot.busy = false → ReleasedSince h f
  ending : M.ending = true → UnderWay .shutdown h

namespace Rested

variable {h es : List Event} {M M' : Moment}

theorem empty : Rested [] (.still .empty) :=
  ⟨.nil, fun hslot => (nomatch hslot), fun he => (nomatch he)⟩

theorem quiet (rested : Rested h M) (quiet : ∀ e ∈ es, e.Quiet)
    (hf : ∀ {f slot}, M'.wall.frame? f = some slot → slot.busy = false →
      ∃ slot', M.wall.frame? f = some slot' ∧ slot'.busy = false)
    (he : M'.ending = true → M.ending = true ∧ ∀ op, .operation op ∉ es) :
    Rested (h ++ es) M' := by
  refine ⟨rested.rule.append fun e he => (quiet e he).restRule, fun hslot idle => ?_,
    fun end' => ?_⟩
  · obtain ⟨slot', hslot', idle'⟩ := hf hslot idle
    refine (rested.idle hslot' idle').append fun e he => ?_
    rw [(quiet e he).attached?]
    exact (Option.some_ne_none _).symm
  · exact (rested.ending (he end').1).append (he end').2

/-- A frame is freed that the display server does not use. -/
theorem free (rested : Rested h M) {f : FrameId} (hw : M'.wall = M.wall.dropFrame f)
    (since : UnderWay .shutdown h ∨ ReleasedSince h f) (he : M'.ending = true → M.ending = true) :
    Rested (h ++ [.call (.free f)]) M' := by
  refine ⟨rested.rule.snoc fun k hk => ?_, fun hslot idle => ?_, fun end' => ?_⟩
  · cases hk
    exact since
  · rw [hw] at hslot
    exact (rested.idle (frame?_of_dropFrame hslot).2 idle).snoc (by simp)
  · exact (rested.ending (he end')).append (by simp)

/-- Memory is given under a new key, which no release can mean. -/
theorem spoil {w : Wall} (rested : Rested h (.still w)) (ledger : Ledger h w) (size : Extent) :
    Rested (h ++ [.call (.allocate w.nextFrame size), .call (.free w.nextFrame)])
      (.still w.claimFrame) := by
  have unattached : ReleasedSince (h ++ [.call (.allocate w.nextFrame size)]) w.nextFrame :=
    (ReleasedSince.unattached fun e he => (ledger.fresh_of_mem he).1).snoc (by simp)
  refine ⟨rested.rule.pair (fun f hf => (nomatch hf)) (fun f hf => ?_), fun hslot idle => ?_,
    fun end' => (nomatch end')⟩
  · cases hf
    exact .inr unattached
  · exact (rested.idle hslot idle).append (by simp)

theorem draw {w w' : Wall} {slot : Frame} {loose : Option FrameId} (rested : Rested h (.still w))
    (surface : SurfaceId) (scale : Int) (size : Extent) (pixels : Array UInt8)
    (hf : ∀ f, w'.frame? f = if w.nextFrame = f then some slot else w.frame? f)
    (busy : slot.busy = true) :
    Rested (h ++ [.call (.allocate w.nextFrame size),
      .call (.attach surface w.nextFrame scale size pixels)]) ⟨w', loose, none, false⟩ := by
  refine ⟨rested.rule.pair (fun f hf => (nomatch hf)) (fun f hf => (nomatch hf)),
    fun {f slot'} hslot idle => ?_, fun end' => (nomatch end')⟩
  rw [hf] at hslot
  split at hslot
  · cases hslot
    rw [busy] at idle
    cases idle
  · rename_i hne
    exact (rested.idle hslot idle).append (by simpa using hne)

theorem move (rested : Rested h M) (ledger : Ledger h M.wall) (move : Move M es M') :
    Rested (h ++ es) M' := by
  have same : ∀ {w : Wall} {f slot}, w.frame? f = some slot → slot.busy = false →
      ∃ slot', w.frame? f = some slot' ∧ slot'.busy = false :=
    fun hslot idle => ⟨_, hslot, idle⟩
  cases move with
  | close _ => exact rested.quiet (quiet_destruction _) same fun he => (nomatch he)
  | depart _ => exact rested.quiet (quiet_destruction _) same fun he => (nomatch he)
  | leave _ => exact rested.quiet (quiet_destruction _) same fun _ => ⟨rfl, calls_destruction _⟩
  | releaseOutput w handle ending =>
    exact rested.quiet (by simp [Event.Quiet.iff]) same fun he => ⟨he, by simp⟩
  | spoil _ _ => exact rested.spoil ledger _
  | allocateFailed _ _ =>
    refine ⟨rested.rule.snoc fun f hf => (nomatch hf), fun hslot idle => ?_, fun he => (nomatch he)⟩
    exact (rested.idle hslot idle).snoc (by simp)
  | draw pixels _ _ _ => exact rested.draw _ _ _ pixels (frame?_putFrame _ _ · _) rfl
  | @retireBusy w f slot _ found busy =>
    refine rested.quiet (fun _ he => (nomatch he)) (fun {k slot'} hslot idle => ?_)
      fun he => (nomatch he)
    rcases frame?_of_putFrame hslot with ⟨_, rfl⟩ | ⟨_, hslot⟩
    · rw [busy] at idle
      cases idle
    · exact same hslot idle
  | retireIdle _ found idle => exact rested.free rfl (.inr (rested.idle found idle)) fun he => he
  | @rest w f slot found _ =>
    refine ⟨rested.rule.snoc fun k hk => (nomatch hk), fun {k slot'} hslot idle => ?_,
      fun he => (nomatch he)⟩
    rcases frame?_of_putFrame hslot with ⟨rfl, _⟩ | ⟨_, hslot⟩
    · exact .released h f
    · exact (rested.idle hslot idle).snoc (by simp)
  | @collect w f _ found _ =>
    have released : Rested (h ++ [.operation (.released f)]) (.still w) :=
      rested.quiet (by simp [Event.Quiet.iff]) same fun he => (nomatch he)
    have freed : Rested ((h ++ [.operation (.released f)]) ++ [.call (.free f)])
        (.still (w.dropFrame f)) := released.free rfl (.inr (.released h f)) fun he => he
    rwa [List.append_assoc] at freed
  | strike w =>
    refine ⟨rested.rule.snoc fun k hk => (nomatch hk), fun hslot idle => ?_,
      fun _ => .began .shutdown h⟩
    exact (rested.idle hslot idle).snoc (by simp)
  | discard _ _ => exact rested.free rfl (.inl (rested.ending rfl)) fun he => he
  | _ => exact rested.quiet (by simp [Event.Quiet.iff]) same fun he => (nomatch he)

end Rested

/-! ## Surfaces -/

section Displays

variable {h es : List Event} {surface : SurfaceId} {f : FrameId}

theorem not_displays_nil : ¬ Displays [] surface f := by
  rintro ⟨before, _, _, _, after, split, _⟩
  simp at split

theorem displays_of_snoc {e : Event} (shown : Displays (h ++ [e]) surface f) :
    (e.attached? = some f ∧ e.redrawn? = some surface) ∨
      Displays h surface f ∧ e.redrawn? ≠ some surface := by
  obtain ⟨before, scale, size, pixels, after, split, kept⟩ := shown
  rcases snoc_eq_append_cons.mp split with ⟨_, rfl, _⟩ | ⟨after', rfl, rfl⟩
  · exact .inl ⟨rfl, rfl⟩
  · refine .inr ⟨⟨before, scale, size, pixels, after', rfl, fun e' he' => ?_⟩, ?_⟩
    · exact kept e' (List.mem_append_left _ he')
    · exact kept e (List.mem_append_right _ (List.mem_singleton_self _))

/-- Where nothing is attached, a surface shows what it showed. -/
theorem displays_of_append (hes : ∀ e ∈ es, e.attached? = none)
    (shown : Displays (h ++ es) surface f) :
    Displays h surface f ∧ ∀ e ∈ es, e.redrawn? ≠ some surface := by
  induction es generalizing h with
  | nil => exact ⟨List.append_nil h ▸ shown, fun _ he => (nomatch he)⟩
  | cons e es ih =>
    rw [List.append_cons] at shown
    obtain ⟨shown, kept⟩ := ih (fun e' he' => hes e' (List.mem_cons_of_mem _ he')) shown
    rcases displays_of_snoc shown with ⟨attach, _⟩ | ⟨shown, first⟩
    · rw [hes e List.mem_cons_self] at attach
      cases attach
    · exact ⟨shown, List.forall_mem_cons.mpr ⟨first, kept⟩⟩

end Displays

/-- What a surface shows is the frame of the monitor that holds the surface. -/
structure OnScreen (h : List Event) (w : Wall) : Prop where
  rule : Always ScreenRule h
  held : ∀ {surface f}, Displays h surface f →
    ∃ id m, w.monitor? id = some m ∧ m.surface = some surface ∧ m.frame = some f

namespace OnScreen

variable {h es : List Event} {w w' : Wall}

theorem empty : OnScreen [] .empty := ⟨.nil, fun shown => absurd shown not_displays_nil⟩

/-- A frame that no monitor shows is on no surface. -/
theorem hidden (on : OnScreen h w) {f : FrameId} (hidden : ∀ id, w.shown? id ≠ some f)
    (surface : SurfaceId) : ¬ Displays h surface f := by
  intro shown
  obtain ⟨id, m, hm, _, hf⟩ := on.held shown
  exact hidden id (shown?_eq_some_iff.mpr ⟨m, hm, hf⟩)

/-- Every monitor keeps its surface and its frame, or its surface is redrawn. -/
theorem keep (on : OnScreen h w) (rule : ∀ e ∈ es, ∀ past, ScreenRule past e)
    (hes : ∀ e ∈ es, e.attached? = none)
    (kept : ∀ {id m surface}, w.monitor? id = some m → m.surface = some surface →
      (∃ m', w'.monitor? id = some m' ∧ m'.surface = some surface ∧ m'.frame = m.frame) ∨
        ∃ e ∈ es, e.redrawn? = some surface) : OnScreen (h ++ es) w' := by
  refine ⟨on.rule.append rule, fun shown => ?_⟩
  obtain ⟨shown, same⟩ := displays_of_append hes shown
  obtain ⟨id, m, hm, hs, hf⟩ := on.held shown
  rcases kept hm hs with ⟨m', hm', hs', hf'⟩ | ⟨e, he, redrawn⟩
  · exact ⟨id, m', hm', hs', hf'.trans hf⟩
  · exact absurd redrawn (same e he)

theorem quiet (on : OnScreen h w) (quiet : ∀ e ∈ es, e.Quiet)
    (kept : ∀ {id m surface}, w.monitor? id = some m → m.surface = some surface →
      (∃ m', w'.monitor? id = some m' ∧ m'.surface = some surface ∧ m'.frame = m.frame) ∨
        ∃ e ∈ es, e.redrawn? = some surface) : OnScreen (h ++ es) w' :=
  on.keep (fun e he => (quiet e he).screenRule) (fun e he => (quiet e he).attached?) kept

/-- One monitor is put in place of another; the other monitors stay. -/
theorem kept_of_put {id : MonitorId} {m₀ : Monitor}
    (here : ∀ {m surface}, w.monitor? id = some m → m.surface = some surface →
      m₀.surface = some surface ∧ m₀.frame = m.frame ∨ ∃ e ∈ es, e.redrawn? = some surface)
    {j : MonitorId} {m : Monitor} {surface : SurfaceId} (hm : w.monitor? j = some m)
    (hs : m.surface = some surface) :
    (∃ m', (w.putMonitor id m₀).monitor? j = some m' ∧ m'.surface = some surface ∧
      m'.frame = m.frame) ∨ ∃ e ∈ es, e.redrawn? = some surface := by
  rw [monitor?_putMonitor]
  split
  · rename_i e
    subst e
    rcases here hm hs with ⟨hs', hf'⟩ | redrawn
    · exact .inl ⟨m₀, rfl, hs', hf'⟩
    · exact .inr redrawn
  · exact .inl ⟨m, hm, hs, rfl⟩

theorem redrawn_destruction {o : Option SurfaceId} {surface : SurfaceId}
    (ho : o = some surface) : ∃ e ∈ destruction o, e.redrawn? = some surface := by
  subst ho
  exact ⟨_, List.mem_singleton_self _, rfl⟩

theorem drop (on : OnScreen h w) {id : MonitorId} {m : Monitor} (found : w.monitor? id = some m) :
    OnScreen (h ++ destruction m.surface) (w.dropMonitor id) := by
  refine on.quiet (quiet_destruction _) fun {j m' surface} hm hs => ?_
  rw [monitor?_dropMonitor]
  split
  · rename_i e
    subst e
    rw [found] at hm
    cases hm
    exact .inr (redrawn_destruction hs)
  · exact .inl ⟨m', hm, hs, rfl⟩

theorem free (on : OnScreen h w) {f : FrameId} (hidden : ∀ id, w.shown? id ≠ some f)
    (hm : w'.monitor? = w.monitor?) : OnScreen (h ++ [.call (.free f)]) w' := by
  refine ⟨on.rule.snoc fun k hk => ?_, fun shown => ?_⟩
  · cases hk
    exact on.hidden hidden
  · rw [hm]
    exact on.held (displays_of_append (by simp) shown).1

/-- Memory that no surface gets. -/
theorem spoil (on : OnScreen h w) (size : Extent) (hidden : ∀ id, w.shown? id ≠ some w.nextFrame) :
    OnScreen (h ++ [.call (.allocate w.nextFrame size), .call (.free w.nextFrame)])
      w.claimFrame := by
  refine ⟨on.rule.pair (fun k hk => (nomatch hk)) fun k hk surface shown => ?_, fun shown => ?_⟩
  · cases hk
    rcases displays_of_snoc shown with ⟨attach, _⟩ | ⟨shown, _⟩
    · cases attach
    · exact on.hidden hidden surface shown
  · exact on.held (displays_of_append (by simp) shown).1

theorem draw (on : OnScreen h w) {id : MonitorId} {m : Monitor} {surface : SurfaceId}
    (found : w.monitor? id = some m) (held : m.surface = some surface) (scale : Int) (size : Extent)
    (pixels : Array UInt8)
    (hm : w'.monitor? = (w.putMonitor id { m with frame := some w.nextFrame }).monitor?) :
    OnScreen (h ++ [.call (.allocate w.nextFrame size),
      .call (.attach surface w.nextFrame scale size pixels)]) w' := by
  refine ⟨on.rule.pair (fun k hk => (nomatch hk)) fun k hk => (nomatch hk),
    fun {surface' f} shown => ?_⟩
  rw [hm]
  have split : h ++ [.call (.allocate w.nextFrame size),
      .call (.attach surface w.nextFrame scale size pixels)] =
      (h ++ [.call (.allocate w.nextFrame size)]) ++
        [.call (.attach surface w.nextFrame scale size pixels)] := by simp
  rw [split] at shown
  rcases displays_of_snoc shown with ⟨attach, redrawn⟩ | ⟨shown, other⟩
  · cases attach
    cases redrawn
    exact ⟨id, _, monitor?_putMonitor_self _ _ _, held, rfl⟩
  · obtain ⟨j, m', hm', hs', hf'⟩ := on.held (displays_of_append (by simp) shown).1
    refine ⟨j, m', ?_, hs', hf'⟩
    rw [monitor?_putMonitor]
    split
    · rename_i e
      subst e
      rw [found] at hm'
      cases hm'
      rw [held] at hs'
      cases hs'
      exact absurd rfl other
    · exact hm'

theorem move {M M' : Moment} (on : OnScreen h M.wall) (sound : SoundAt M)
    (move : Move M es M') : OnScreen (h ++ es) M'.wall := by
  have same : ∀ {w : Wall} {id m surface}, w.monitor? id = some m → m.surface = some surface →
      (∃ m', w.monitor? id = some m' ∧ m'.surface = some surface ∧ m'.frame = m.frame) ∨
        ∃ e ∈ es, e.redrawn? = some surface :=
    fun hm hs => .inl ⟨_, hm, hs, rfl⟩
  -- No monitor shows a frame under a key that was not given out.
  have unshown : ∀ id, M.wall.shown? id ≠ some M.wall.nextFrame := by
    intro id hid
    obtain ⟨slot, hslot, _⟩ := sound.frames.owned hid
    exact Nat.lt_irrefl _ (sound.frames.below hslot)
  cases move with
  | announce globalName handle fresh _ =>
    refine on.quiet (by simp [Event.Quiet.iff]) (kept_of_put fun hm _ => ?_)
    cases fresh.symm.trans hm
  | adjust what =>
    refine on.quiet (by simp [Event.Quiet.iff]) fun hm hs => .inl ?_
    obtain ⟨m', hm', alike⟩ := monitor?_adjusted what hm
    exact ⟨m', hm', alike.surface.trans hs, alike.frame⟩
  | create found bare =>
    refine on.quiet (by simp [Event.Quiet.iff]) (kept_of_put fun {m' surface} hm hs => ?_)
    cases found.symm.trans hm
    exact absurd bare ((sound.monitors.fit found).surface_iff.mp (by simp [hs]))
  | resize _ found _ _ =>
    refine on.quiet (by simp [Event.Quiet.iff]) (kept_of_put fun {m' surface} hm hs => ?_)
    cases found.symm.trans hm
    exact .inl ⟨hs, rfl⟩
  | close found =>
    refine on.quiet (quiet_destruction _) (kept_of_put fun {m' surface} hm hs => ?_)
    cases found.symm.trans hm
    exact .inr (redrawn_destruction hs)
  | depart found => exact on.drop found
  | leave found => exact on.drop found
  | clear found held _ _ =>
    refine on.quiet (by simp [Event.Quiet.iff]) (kept_of_put fun {m' surface} hm hs => ?_)
    cases found.symm.trans hm
    rw [held] at hs
    cases hs
    exact .inr ⟨_, List.mem_cons_self, rfl⟩
  | uncover found shown unready =>
    exact absurd ((sound.monitors.fit found).shown_drawable (by simp [shown])) unready
  | allocateFailed _ _ =>
    exact on.keep (by simp [ScreenRule]) (by simp) same
  | spoil _ _ => exact on.spoil _ unshown
  | draw pixels found held _ => exact on.draw found held _ _ pixels rfl
  | retireIdle _ found _ => exact on.free (sound.frames.hidden rfl) rfl
  | @collect w f _ found retired =>
    have released : OnScreen (h ++ [.operation (.released f)]) w :=
      on.quiet (by simp [Event.Quiet.iff]) fun hm hs => .inl ⟨_, hm, hs, rfl⟩
    have freed : OnScreen ((h ++ [.operation (.released f)]) ++ [.call (.free f)])
        (w.dropFrame f) := released.free (sound.frames.retired_hidden found retired) rfl
    rwa [List.append_assoc] at freed
  | discard bare _ => exact on.free (fun id => by simp [shown?, bare id]) rfl
  | _ => exact on.quiet (by simp [Event.Quiet.iff]) same

end OnScreen

/-! ## Runs -/

/-- No frame is freed twice. -/
theorem nodup_freed {h : List Event} (rule : Always KeyRule h) : (freed h).Nodup := by
  induction h using List.reverseRecOn with
  | nil => exact .nil
  | append_singleton h e ih =>
    rw [freed_append]
    refine List.nodup_append.mpr ⟨ih rule.left, ?_, ?_⟩
    · unfold freed
      cases hf : e.freed? with
      | none =>
        rw [List.filterMap_cons_none hf]
        exact .nil
      | some k =>
        rw [List.filterMap_cons_some hf]
        exact List.pairwise_singleton _ _
    · rintro f old _ new rfl
      obtain ⟨_, he, hf⟩ := List.mem_filterMap.mp new
      cases List.mem_singleton.mp he
      exact ((rule h e [] rfl).2 f (.inr hf)).2 old

/-- Memory that is given is attached or freed by the same move. -/
theorem Move.given_used {M M' : Moment} {es : List Event} (move : Move M es M') {f : FrameId}
    (hf : f ∈ given es) : f ∈ attached es ∨ f ∈ freed es := by
  have none_given : ∀ {es : List Event}, (∀ e ∈ es, e.Quiet) → f ∉ given es := by
    intro es quiet hf
    rw [given_quiet quiet] at hf
    cases hf
  cases move with
  | close _ => exact absurd hf (none_given (quiet_destruction _))
  | depart _ => exact absurd hf (none_given (quiet_destruction _))
  | leave _ => exact absurd hf (none_given (quiet_destruction _))
  | spoil _ _ => exact .inr hf
  | draw _ _ _ _ => exact .inl hf
  | retireBusy _ _ _ => cases hf
  | retireIdle _ _ _ => cases hf
  | collect _ _ => cases hf
  | discard _ _ => cases hf
  | allocateFailed _ _ => cases hf
  | _ => exact absurd hf (none_given (by simp [Event.Quiet.iff]))

theorem Move.given_used_append {h es : List Event} {M M' : Moment} {f : FrameId}
    (old : f ∈ given h → f ∈ attached h ∨ f ∈ freed h) (move : Move M es M')
    (hf : f ∈ given (h ++ es)) : f ∈ attached (h ++ es) ∨ f ∈ freed (h ++ es) := by
  rw [given_append] at hf
  simp only [attached, freed, List.filterMap_append, List.mem_append]
  rcases List.mem_append.mp hf with before | new
  · rcases old before with before | before
    · exact .inl (.inl before)
    · exact .inr (.inl before)
  · rcases move.given_used new with new | new
    · exact .inl (.inr new)
    · exact .inr (.inr new)

theorem turn_given_used {d : Display} {op : Operation} {s : Stage} (welcome : op.Welcome s.wall)
    {f : FrameId} (hf : f ∈ given (s.turn d op)) :
    f ∈ attached (s.turn d op) ∨ f ∈ freed (s.turn d op) :=
  (perform_moves (d := d) welcome).preserve
    (P := fun h _ => f ∈ given h → f ∈ attached h ∨ f ∈ freed h)
    (fun old move => move.given_used_append old) (h := []) (fun hf => (nomatch hf)) hf

theorem given_used_run {ops : List (Display × Operation)} (orderly : Stage.empty.Orderly [] ops)
    {f : FrameId} (hf : f ∈ given (Stage.empty.timeline ops)) :
    f ∈ attached (Stage.empty.timeline ops) ∨ f ∈ freed (Stage.empty.timeline ops) :=
  timeline_induction (P := fun h _ => f ∈ given h → f ∈ attached h ∨ f ∈ freed h)
    (fun hf => (nomatch hf)) (fun old move => move.given_used_append old) orderly hf

/-- How the memory of a run is treated: none is used early, none is freed early or twice, and none
is kept. -/
structure Lifetimes (ops : List (Display × Operation)) : Prop where
  keys : Always KeyRule (Stage.empty.timeline ops)
  rests : Always RestRule (Stage.empty.timeline ops)
  screens : Always ScreenRule (Stage.empty.timeline ops)
  once : (freed (Stage.empty.timeline ops)).Nodup
  /-- At no time does a monitor show what is freed. -/
  hidden : ∀ before after, ops = before ++ after →
    ∀ f ∈ freed (Stage.empty.timeline before), ∀ id,
      (Stage.empty.run before).wall.shown? id ≠ some f
  /-- Memory that no surface gets is freed by the operation that asked for it. -/
  spoiled : ∀ before d op after, ops = before ++ (d, op) :: after →
    ∀ f ∈ given ((Stage.empty.run before).turn d op),
      f ∈ attached ((Stage.empty.run before).turn d op) ∨
        f ∈ freed ((Stage.empty.run before).turn d op)
  /-- After a shutdown all memory is freed, for good. -/
  spent : ∀ before d after, ops = before ++ (d, .shutdown) :: after → ∀ f,
    (f ∈ freed (Stage.empty.timeline (before ++ [(d, .shutdown)])) ↔
      f ∈ given (Stage.empty.timeline (before ++ [(d, .shutdown)]))) ∧
    (f ∈ freed (Stage.empty.timeline (before ++ [(d, .shutdown)])) →
      f ∉ freed ((Stage.empty.run (before ++ [(d, .shutdown)])).timeline after))

theorem ledger_run {ops : List (Display × Operation)} (orderly : Stage.empty.Orderly [] ops) :
    Ledger (Stage.empty.timeline ops) (Stage.empty.run ops).wall :=
  timeline_induction (P := fun h M => Ledger h M.wall) .empty Ledger.move orderly

theorem rested_run {ops : List (Display × Operation)} (orderly : Stage.empty.Orderly [] ops) :
    Rested (Stage.empty.timeline ops) (.still (Stage.empty.run ops).wall) :=
  (timeline_induction (P := fun h M => Ledger h M.wall ∧ Rested h M) ⟨.empty, .empty⟩
    (fun hp move => ⟨hp.1.move move, hp.2.move hp.1 move⟩) orderly).2

theorem onScreen_run {ops : List (Display × Operation)} (orderly : Stage.empty.Orderly [] ops) :
    OnScreen (Stage.empty.timeline ops) (Stage.empty.run ops).wall :=
  (sound_induction (P := fun h M => OnScreen h M.wall) .empty
    (fun sound on move => on.move sound move) orderly).2

/-- A wall that was shut down has no slots, so that everything given was freed. -/
theorem freed_shutdown {before : List (Display × Operation)} {d : Display}
    (orderly : Stage.empty.Orderly [] (before ++ [(d, .shutdown)])) (f : FrameId) :
    f ∈ freed (Stage.empty.timeline (before ++ [(d, .shutdown)])) ↔
      f ∈ given (Stage.empty.timeline (before ++ [(d, .shutdown)])) := by
  have ledger := ledger_run orderly
  constructor
  · intro hf
    exact given_of_mem ledger.rule (mem_freed.mp hf) (.inr rfl)
  · intro hf
    refine Decidable.byContradiction fun unfreed => ?_
    obtain ⟨slot, hslot⟩ := (ledger.live_iff f).mpr ⟨hf, unfreed⟩
    rw [Stage.wall_run_shutdown] at hslot
    cases hslot

theorem lifetimes_run {ops : List (Display × Operation)} (orderly : Stage.empty.Orderly [] ops) :
    Lifetimes ops := by
  have ledger := ledger_run orderly
  have once := nodup_freed ledger.rule
  refine ⟨ledger.rule, (rested_run orderly).rule, (onScreen_run orderly).rule, once, ?_, ?_, ?_⟩
  · rintro before after rfl f hf id hid
    obtain ⟨slot, hslot, _⟩ := (soundAt_run orderly.left).frames.owned hid
    exact (((ledger_run orderly.left).live_iff f).mp ⟨slot, hslot⟩).2 hf
  · rintro before d op after rfl f hf
    exact turn_given_used (orderly.welcome .empty) hf
  · rintro before d after rfl f
    rw [List.append_cons] at orderly once
    refine ⟨freed_shutdown orderly.left f, fun hf hlater => ?_⟩
    rw [Stage.timeline_append, freed_append] at once
    exact (List.nodup_append.mp once).2.2 f hf f hlater rfl

theorem lifetimes_run_rehearsed :
    Stage.empty.Orderly [] rehearsed ∧ Lifetimes rehearsed :=
  ⟨orderly_rehearsed, lifetimes_run orderly_rehearsed⟩

end Wall
end Backdrop

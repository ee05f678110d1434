import Backdrop.Command.Serve
import Backdrop.Daemon.Boot
import Backdrop.Proofs.Daemon.Course
import Backdrop.Proofs.Daemon.Rejection
import Backdrop.Proofs.Wire.Tenure

/-!
# Backdrop.Proofs.Daemon.Lease

How long the path of the socket is taken: from a start that succeeds to the end, and no longer.

* `Boots` is how a start can go. `boot_error` says what a start that fails leaves behind: nothing,
  unless it made a socket at which nobody can listen.
* `Resides l d`: the path leads to the socket that the daemon's own start made. No round changes
  this as long as others spare the path (`resides_course`).
* `course_exitCode`: the exit status is zero if a signal came or the display server hung up, and
  only then.
* `Lease` is all that holds of the path, from before a start until after the end.
-/

namespace Backdrop

/-! ## Paths -/

namespace Tree

/-- From one tree to the other nothing has changed that a path passes. -/
structure Spares (p : Path) (t t' : Tree) : Prop where
  working : p.isAbsolute = false → t'.workingDirectory = t.workingDirectory
  same : ∀ l ∈ t.wayTo p, t'.node? l = t.node? l

variable {t t' : Tree} {p : Path}

theorem Spares.refl (p : Path) (t : Tree) : Spares p t t := ⟨fun _ => rfl, fun _ _ => rfl⟩

theorem Spares.locate (spares : Spares p t t') : t'.locate false p = t.locate false p := by
  have start : (if p.isAbsolute then [] else t'.workingDirectory) =
      if p.isAbsolute then [] else t.workingDirectory := by
    split
    · rfl
    · rename_i relative
      exact spares.working (Bool.eq_false_of_not_eq_true relative)
  simp only [Tree.locate, locateAlong, start, walk_congr p.endsInSeparator spares.same]

theorem inspect_of_locate {l : Location} {n : Node}
    (there : t.locate false p = .ok ⟨l, some n, false⟩) : t.inspect false p = .ok n := by
  simp [inspect, slash_of_locate there rfl, there]

theorem isAbsolute_workingPath (t : Tree) : t.workingPath.isAbsolute = true :=
  Path.isAbsolute_joins rfl t.workingDirectory

end Tree

/-- Whatever the settings say, the path of the socket is absolute when the daemon gets it. -/
theorem Command.Serve.isAbsolute_socketPath {s : Settings} {e : Environment} {t : Tree} {p : Path}
    (given : socketPath s e t.workingPath = .ok p) : p.isAbsolute = true := by
  unfold socketPath at given
  split at given
  · cases given
  split at given <;> cases given
  rename_i resolved
  exact Path.isAbsolute_absolute t.isAbsolute_workingPath resolved

/-! ## Why a start fails -/

/-- An error that ends the process, but not because a path is taken. -/
def DaemonError.Unblocked (e : DaemonError) : Prop :=
  e.isFatal = true ∧ ∀ p, e ≠ .socketInUse p

namespace Session

theorem Event.fault?_unblocked {e : Event} {fault : DaemonError} (found : e.fault? = some fault) :
    fault.Unblocked := by
  cases e with
  | global name interface version =>
    obtain ⟨i, _, old⟩ := Option.bind_eq_some_iff.mp found
    split at old <;> cases old
    exact ⟨rfl, nofun⟩
  | _ => cases found

theorem roundtrip_error {s s' : Session} {callback : Nat} {g : Greeting} {e : DaemonError}
    (sound : s.fatal = none) (failed : s.roundtrip callback g = (.error e, s')) :
    e.Unblocked := by
  unfold roundtrip at failed
  simp only at failed
  split at failed
  · cases failed
    exact ⟨rfl, nofun⟩
  split at failed
  · cases failed
    exact ⟨rfl, nofun⟩
  split at failed <;> cases failed
  rename_i es _ latched
  have before : (s.push (.sync callback)).fatal = none := sound
  rw [fatal_dispatchAll, before, Option.none_or] at latched
  obtain ⟨event, _, found⟩ := List.exists_of_findSome?_eq_some latched
  exact Event.fault?_unblocked found

theorem fatal_roundtrip {s s' : Session} {callback : Nat} {g : Greeting}
    (answered : s.roundtrip callback g = (.ok (), s')) : s'.fatal = none := by
  unfold roundtrip at answered
  simp only at answered
  split at answered
  · cases answered
  split at answered
  · cases answered
  split at answered <;> cases answered
  assumption

theorem handshake_error {first second : Greeting} {s : Session} {e : DaemonError}
    (failed : handshake first second = (.error e, s)) : e.Unblocked := by
  unfold handshake at failed
  split at failed
  · cases failed
    rename_i began
    exact roundtrip_error rfl began
  rename_i s₁ began
  split at failed
  · cases failed
    rename_i lacking
    unfold Globals.require at lacking
    split at lacking
    · cases lacking
      exact ⟨rfl, nofun⟩
    split at lacking
    · cases lacking
      exact ⟨rfl, nofun⟩
    split at lacking <;> cases lacking
    exact ⟨rfl, nofun⟩
  split at failed <;> cases failed
  rename_i again
  exact roundtrip_error (fatal_roundtrip began) again

end Session

theorem Wire.Server.bind_error {p : Path} {h : Host} {e : DaemonError}
    (failed : bind p h = .error e) :
    e = .socketInUse p ∧ isTaken p h = true ∨ ∃ cause, e = .socketSetup p cause := by
  unfold bind at failed
  split at failed
  · cases failed
    exact .inl ⟨rfl, ‹_›⟩
  · split at failed <;> cases failed
    exact .inr ⟨_, rfl⟩

namespace Arrival

/-- A signal has come, or the display server has hung up. -/
def Dismisses (a : Arrival) : Prop :=
  Readiness.isReadable a.signals = true ∨ (a.display.getD 0).meets PollFlags.hangup = true

theorem wake_of_not_dismisses {a : Arrival} (on : ¬ a.Dismisses) :
    a.readiness.wake ≠ .signal ∧ a.readiness.wake ≠ .displayHangup := by
  have only : ∀ data hangup error signal client : Bool, ¬ (signal = true ∨ hangup = true) →
      (⟨data, hangup, error, signal, client⟩ : Readiness).wake ≠ .signal ∧
        (⟨data, hangup, error, signal, client⟩ : Readiness).wake ≠ .displayHangup := by
    decide
  exact only _ _ _ _ _ on

end Arrival

namespace Daemon

open Wire (Server)

variable {a : Attempt} {d : Daemon} {h : Host} {l : Location} {r : Round}

/-- On this host the daemon has bound its socket. -/
structure Opened (l : Launch) (h : Host) (d : Daemon) : Prop where
  path : d.server.path = l.socket
  bound : ∃ h', Server.bind l.socket { h with log := [] } = .ok (d.server, h') ∧
    d.host.tree = h'.tree

theorem open_ok {l : Launch} {s : Session} (opened : open_ l s h = .ok d) : Opened l h d := by
  unfold open_ at opened
  split at opened <;> cases opened
  rename_i bound
  exact ⟨(Server.bind_ok bound).path, _, bound, rfl⟩

theorem open_error {l : Launch} {s : Session} {f : Failure} (failed : open_ l s h = .error f) :
    f.cause = .socketInUse l.socket ∧ Server.isTaken l.socket h = true ∨
      ∃ cause, f.cause = .socketSetup l.socket cause := by
  unfold open_ at failed
  split at failed <;> cases failed
  rename_i failed
  have why := Server.bind_error failed
  exact why

/-- How a start can go. -/
inductive Boots (a : Attempt) (h : Host) : Except Failure Daemon × Host → Prop where
  | taken (taken : Server.isTaken a.path h = true) :
    Boots a h (.error ⟨.socketInUse a.path, [], []⟩, h)
  | failed (f : Failure) (free : Server.isTaken a.path h = false) (fatal : f.cause.isFatal = true)
    (blocked : ∀ p, f.cause = .socketInUse p → Server.isTaken a.path (a.others h) = true) :
    Boots a h (.error f, a.others h)
  | deaf (s : Session) (d : Daemon) (e : Errno) (free : Server.isTaken a.path h = false)
    (opened : Opened a.launch (a.others h) d) (deaf : a.deafness = some e) :
    Boots a h (.error ⟨.socketSetup a.path (.os e), s.sent, s.log⟩,
      d.host.hangUp d.server.listener)
  | up (d : Daemon) (free : Server.isTaken a.path h = false)
    (opened : Opened a.launch (a.others h) d) (hears : a.deafness = none) :
    Boots a h (.ok d, d.host)

/-- A step fails for a reason of its own. -/
theorem Boots.unblocked {f : Failure} (free : Server.isTaken a.path h = false)
    (unblocked : f.cause.Unblocked) : Boots a h (.error f, a.others h) :=
  .failed f free unblocked.1 fun p same => absurd same (unblocked.2 p)

theorem boots_bindSocket (free : Server.isTaken a.path h = false) (s : Session) :
    Boots a h (a.bindSocket s (a.others h)) := by
  unfold Attempt.bindSocket
  split
  · rename_i e _
    unfold Attempt.refused
    split
    · rename_i taken
      exact .failed _ free rfl fun _ _ => taken
    · exact .unblocked free ⟨rfl, nofun⟩
  split
  · rename_i f failed
    rcases open_error failed with ⟨cause, taken⟩ | ⟨c, cause⟩
    · exact .failed f free (by rw [cause]; rfl) fun _ _ => taken
    · exact .unblocked free (by rw [cause]; exact ⟨rfl, nofun⟩)
  · rename_i d opened
    split
    · rename_i e deaf
      exact .deaf s d e free (open_ok opened) deaf
    · rename_i hears
      exact .up d free (open_ok opened) hears

theorem boots (a : Attempt) (h : Host) : Boots a h (a.boot h) := by
  unfold Attempt.boot
  split
  · rename_i taken
    exact .taken taken
  rename_i untaken
  have free : Server.isTaken a.path h = false := Bool.eq_false_of_not_eq_true untaken
  simp only
  split
  · exact .unblocked free ⟨rfl, nofun⟩
  split
  · rename_i greeted
    exact .unblocked free (Session.handshake_error greeted)
  split
  · exact .unblocked free ⟨rfl, nofun⟩
  · exact boots_bindSocket free _

/-- With nothing else in its way, a start goes as the launch has it. -/
theorem boot_calm (l : Launch) (h : Host) : (Attempt.calm l).boot h =
    match start l h with
    | .error f => (.error f, h)
    | .ok d => (.ok d, d.host) := by
  have path : (Attempt.calm l).path = l.socket := rfl
  unfold Attempt.boot start
  rw [path]
  by_cases taken : Server.isTaken l.socket h = true
  · rw [if_pos taken, if_pos taken]
  rw [if_neg taken, if_neg taken]
  simp only [Attempt.calm, id]
  cases l.display with
  | error why => rfl
  | ok greetings =>
    obtain ⟨first, second⟩ := greetings
    cases shaken : Session.handshake first second with
    | mk answer s =>
      cases answer with
      | error e => simp [shaken]
      | ok => cases opened : open_ l s h <;> simp [shaken, Attempt.bindSocket, opened]

/-! ## From the start to the end -/

/-- The path leads to the socket that the daemon listens at. -/
def Resides (l : Location) (d : Daemon) : Prop :=
  d.host.tree.locate false d.server.path = .ok ⟨l, some (.socket d.server.listener), false⟩

/-- The socket is new, and nothing else is. -/
structure Founds (h : Host) (l : Location) (d : Daemon) : Prop where
  free : h.tree.locate false d.server.path = .ok ⟨l, none, false⟩
  tree : d.host.tree = h.tree.put l (.socket d.server.listener)
  resides : Resides l d

theorem Opened.founds {l : Launch} (opened : Opened l h d) (named : l.socket.isEmpty = false) :
    ∃ l, Founds h l d := by
  obtain ⟨path, h', bound, tree⟩ := opened
  obtain ⟨l, free, put, leads⟩ := Server.bind_leads named bound
  rw [← path] at free leads
  rw [← tree] at put leads
  exact ⟨l, free, put, leads⟩

theorem server_attendIn (scarcity : Session.Scarcity) (d : Daemon) :
    (d.attendIn scarcity).2.server = d.server := by
  cases served : d.server.serveOne { d.host with log := [] } with
  | none => rw [attendIn_of_none served]
  | some answered =>
    obtain ⟨request, h⟩ := answered
    rw [attendIn_of_some served]
    cases request with
    | error e => rfl
    | ok request => exact (fulfilIn_frame scarcity request _).2

theorem server_pass (r : Round) (d : Daemon) : (d.pass r).daemon.server = d.server := by
  rcases pass_serves_or r d with ⟨_, s, _, serves⟩ | ⟨_, _, aside⟩
  · have attended := server_attendIn r.scarcity (armed r d)
    rw [serves.answer] at attended
    exact attended.trans (armed_unserved r d).server
  · exact aside.server

/-- The daemon itself changes no file while it runs. -/
theorem tree_pass (r : Round) (d : Daemon) :
    (d.pass r).daemon.host.tree = (r.others d.host).tree := by
  rcases pass_serves_or r d with ⟨_, s, _, serves⟩ | ⟨_, _, aside⟩
  · obtain ⟨_, _, accepts⟩ := serves.accepts
    exact accepts.tree
  · exact congrArg Host.tree aside.host

/-- Nobody else changes what a path passes while the daemon runs. -/
def Untouched (p : Path) : Daemon → List Round → Prop
  | _, [] => True
  | d, r :: rs => Tree.Spares p d.host.tree (r.others d.host).tree ∧
      ((d.pass r).stop = none → Untouched p (d.pass r).daemon rs)

theorem resides_pass (resides : Resides l d)
    (spares : Tree.Spares d.server.path d.host.tree (r.others d.host).tree) :
    Resides l (d.pass r).daemon := by
  unfold Resides
  rw [server_pass, tree_pass, spares.locate]
  exact resides

theorem resides_course {rs : List Round} (resides : Resides l d)
    (aside : Untouched d.server.path d rs) :
    (d.course rs).daemon.server = d.server ∧ Resides l (d.course rs).daemon := by
  induction rs generalizing d with
  | nil => exact ⟨rfl, resides⟩
  | cons r rs ih =>
    obtain ⟨spares, later⟩ := aside
    have server := server_pass r d
    have passed := resides_pass resides spares
    cases stop : (d.pass r).stop with
    | some reason =>
      rw [course_cons_of_stop stop]
      exact ⟨server, passed⟩
    | none =>
      have rest := ih passed (by rw [server]; exact later stop)
      rw [course_cons_of_none stop]
      exact ⟨rest.1.trans server, rest.2⟩

theorem tree_finish (reason : StopReason) (uptime : Nat) (d : Daemon) :
    (d.finish reason uptime).host.tree =
      (d.host.tree.remove d.server.path).toOption.getD d.host.tree :=
  Server.drop_tree d.server { d.host with log := [] }

/-! ## Good ends -/

theorem act_of_not_dismissed {p : Poll} {reason : StopReason} (signal : p.readiness.wake ≠ .signal)
    (hangup : p.readiness.wake ≠ .displayHangup) (stops : (d.act p).1 = some reason) :
    ∃ text, reason = .displayError text := by
  unfold act at stops
  split at stops
  · contradiction
  · contradiction
  · cases stops
    exact ⟨_, rfl⟩
  · unfold read at stops
    split at stops <;> cases stops
    exact ⟨_, rfl⟩
  · cases stops
  · cases stops

theorem react_of_dismisses {arrival : Arrival} (dismisses : arrival.Dismisses)
    (scarcity : Session.Scarcity) (d : Daemon) :
    ∃ reason, (d.react scarcity arrival).1 = some reason ∧ reason.exitCode = 0 := by
  by_cases signal : Readiness.isReadable arrival.signals = true
  · exact ⟨_, react_stops_of_signal signal d, rfl⟩
  · have silent := Bool.eq_false_of_not_eq_true signal
    exact ⟨_, react_stops_of_hangup silent (dismisses.resolve_left signal) d, rfl⟩

theorem react_exitCode {arrival : Arrival} {scarcity : Session.Scarcity} {reason : StopReason}
    (stops : (d.react scarcity arrival).1 = some reason) :
    reason.exitCode = 0 ↔ arrival.Dismisses := by
  constructor
  · intro content
    by_contra on
    obtain ⟨signal, hangup⟩ := Arrival.wake_of_not_dismisses on
    obtain ⟨text, rfl⟩ : ∃ text, reason = .displayError text := by
      unfold react at stops
      split at stops
      · cases stops
      · split at stops
        · exact act_of_not_dismissed signal hangup stops
        · split at stops
          · cases stops
            exact ⟨_, rfl⟩
          · exact act_of_not_dismissed signal hangup stops
    cases content
  · intro dismisses
    obtain ⟨first, ends, content⟩ := react_of_dismisses dismisses scarcity d
    rw [ends] at stops
    cases stops
    exact content

theorem prepare_stop {reason : StopReason} (stops : (d.prepare r).1 = some reason) :
    ∃ text, reason = .displayError text := by
  unfold prepare dispatchQueue at stops
  generalize r.fault? d.session.pending = fault at stops
  cases fault with
  | some g =>
    cases stops
    exact ⟨_, rfl⟩
  | none =>
    simp only at stops
    split at stops
    · cases stops
      exact ⟨_, rfl⟩
    · unfold sendQueue at stops
      split at stops
      · cases stops
      · split at stops <;> cases stops
        exact ⟨_, rfl⟩

theorem pass_exitCode {reason : StopReason} (stops : (d.pass r).stop = some reason) :
    reason.exitCode = 0 ↔ ∃ arrival, Finds r d arrival ∧ arrival.Dismisses := by
  cases reaches r d with
  | stops first prepared =>
    rw [pass_of_stop prepared] at stops
    cases stops
    obtain ⟨text, rfl⟩ := prepare_stop prepared
    refine iff_of_false nofun fun ⟨arrival, finds, _⟩ => ?_
    rw [finds.going] at prepared
    cases prepared
  | again prepared late =>
    rw [pass_of_none prepared, if_neg late] at stops
    cases stops
  | fails prepared idle e failed =>
    rw [pass_of_failed prepared idle failed] at stops
    cases stops
    refine iff_of_false nofun fun ⟨arrival, finds, _⟩ => ?_
    rw [finds.found] at failed
    cases failed
  | finds arrival finds =>
    rw [pass_of_finds finds] at stops
    refine (react_exitCode stops).trans ⟨fun dismisses => ⟨arrival, finds, dismisses⟩, ?_⟩
    rintro ⟨arrival', finds', dismisses⟩
    have same := finds'.found
    rw [finds.found] at same
    cases same
    exact dismisses

/-- The last round finds a signal, or that the display server has hung up. -/
def Dismissed (d : Daemon) (rs : List Round) : Prop :=
  ∃ before r after arrival, rs = before ++ r :: after ∧ (d.course before).stop = none ∧
    Finds r (d.course before).daemon arrival ∧ arrival.Dismisses

theorem pass_of_dismisses {arrival : Arrival} (finds : Finds r d arrival)
    (dismisses : arrival.Dismisses) : ∃ reason, (d.pass r).stop = some reason := by
  obtain ⟨reason, ends, _⟩ := react_of_dismisses dismisses r.scarcity (armed r d)
  rw [pass_of_finds finds]
  exact ⟨reason, ends⟩

/-- The daemon is content with its end if a signal came or the display server hung up, and only
then. -/
theorem course_exitCode {rs : List Round} {reason : StopReason}
    (stops : (d.course rs).stop = some reason) : reason.exitCode = 0 ↔ Dismissed d rs := by
  constructor
  · intro content
    obtain ⟨before, r, after, split, going, ends⟩ := course_stop stops
    obtain ⟨arrival, finds, dismisses⟩ := (pass_exitCode ends).mp content
    exact ⟨before, r, after, arrival, split, going, finds, dismisses⟩
  · rintro ⟨before, r, after, arrival, split, going, finds, dismisses⟩
    obtain ⟨first, ends⟩ := pass_of_dismisses finds dismisses
    rw [(course_orderly rs d).last before r after _ split going ends] at stops
    cases stops
    exact (pass_exitCode ends).mpr ⟨arrival, finds, dismisses⟩

/-! ## Who has the path -/

/-- A start that fails has changed nothing, unless it made a socket at which nobody can listen. That
one stays at the path. -/
theorem boot_error (named : a.path.isEmpty = false) {f : Failure}
    (failed : (a.boot h).1 = .error f) :
    (a.boot h).2 = (if Server.isTaken a.path h then h else a.others h) ∨
      a.deafness ≠ none ∧ ∃ n, (a.boot h).2.tree.inspect false a.path = .ok (.socket n) ∧
        (a.boot h).2.listeners.contains n = false := by
  have boots := boots a h
  generalize a.boot h = result at boots failed ⊢
  cases boots with
  | taken taken => exact .inl (if_pos taken).symm
  | failed f free fatal blocked => exact .inl (by simp [free])
  | deaf s d e free opened deaf =>
    obtain ⟨l, _, _, resides⟩ := opened.founds named
    have alike := Host.hangUp_alike d.server.listener d.host
    rw [Resides, opened.path] at resides
    refine .inr ⟨by simp [deaf], d.server.listener, ?_, ?_⟩
    · rw [alike.tree]
      exact Tree.inspect_of_locate resides
    · rw [alike.listeners, Table.contains, Table.find?_erase, if_pos rfl]
      rfl
  | up d free opened hears => cases failed

/-- Where nothing is, and where nobody puts anything meanwhile, no path is found to be taken. -/
theorem boot_of_free (free : h.tree.locate false a.path = .ok ⟨l, none, false⟩)
    (spares : Tree.Spares a.path h.tree (a.others h).tree) {f : Failure}
    (failed : (a.boot h).1 = .error f) (p : Path) : f.cause ≠ .socketInUse p := by
  have boots := boots a h
  generalize a.boot h = result at boots failed
  intro inUse
  cases boots with
  | taken taken =>
    rw [Server.isTaken_of_missing (Tree.inspect_missing free)] at taken
    cases taken
  | failed f _ fatal blocked =>
    cases failed
    have taken := blocked p inUse
    rw [← spares.locate] at free
    rw [Server.isTaken_of_missing (Tree.inspect_missing free)] at taken
    cases taken
  | deaf s d e _ opened deaf =>
    cases failed
    cases inUse
  | up => cases failed

/-- What is left when the daemon has ended. -/
structure Vacated (p : Path) (l : Location) (d final : Daemon) : Prop where
  /-- The daemon's own entry has gone, and nothing else. -/
  gone : final.host.tree = d.host.tree.drop l
  absent : final.host.tree.inspect false p = .error .noEntry
  /-- Whoever comes next can have the path. -/
  free : ∃ s h, Server.bind p final.host = .ok (s, h)
  again : ∀ a : Attempt, a.path = p →
    Tree.Spares p final.host.tree (a.others final.host).tree →
    ∀ f, (a.boot final.host).1 = .error f → ∀ q, f.cause ≠ .socketInUse q

/-- Who has the path after a start that succeeds. -/
structure Tenant (a : Attempt) (h : Host) (d : Daemon) (l : Location) : Prop where
  path : d.server.path = a.path
  /-- The start made one entry, where nothing was. -/
  new : (a.others h).tree.node? l = none
  tree : d.host.tree = { (a.others h).tree with
    entries := (a.others h).tree.entries ++ [(l, .socket d.server.listener)] }
  present : ∀ rs, Untouched a.path d.announce rs →
    (d.announce.course rs).daemon.host.tree.inspect false a.path =
      .ok (.socket d.server.listener)
  vacated : ∀ rs reason uptime, Untouched a.path d.announce rs →
    Vacated a.path l (d.announce.course rs).daemon
      ((d.announce.course rs).daemon.finish reason uptime)
  content : ∀ rs reason, (d.announce.course rs).stop = some reason →
    (reason.exitCode = 0 ↔ Dismissed d.announce rs)

/-- Who has the path, from before a start until after the end. -/
structure Lease (a : Attempt) (h : Host) : Prop where
  /-- Whatever is at the path stays there, be it a link that leads nowhere, and nothing is sent. -/
  taken : ∀ n, h.tree.inspect false a.path = .ok n →
    a.boot h = (.error ⟨.socketInUse a.path, [], []⟩, h)
  /-- Nor is an entry taken over that a separator behind its name hides. -/
  occupied : ∀ spot, (a.others h).tree.locate false a.path = .ok spot → spot.node ≠ none →
    ∃ f, (a.boot h).1 = .error f
  /-- A start that fails, at whatever step, changes nothing. -/
  failed : ∀ f, (a.boot h).1 = .error f →
    (a.boot h).2 = if Server.isTaken a.path h then h else a.others h
  fatal : ∀ f, (a.boot h).1 = .error f → f.cause.isFatal = true
  up : ∀ d, (a.boot h).1 = .ok d → (a.boot h).2 = d.host ∧ ∃ l, Tenant a h d l

theorem Resides.vacated (resides : Resides l d) (sound : Host.addressFault? d.server.path = none)
    (reason : StopReason) (uptime : Nat) :
    Vacated d.server.path l d (d.finish reason uptime) := by
  have removed := Tree.remove_of_locate resides rfl (by simp) rfl
  have gone : (d.finish reason uptime).host.tree = d.host.tree.drop l := by
    rw [tree_finish, removed]
    rfl
  have free : (d.finish reason uptime).host.tree.locate false d.server.path =
      .ok ⟨l, none, false⟩ := by
    rw [gone]
    exact Tree.locate_drop resides (Tree.leaf_socket _)
  refine ⟨gone, Tree.inspect_missing free, Server.bind_free sound free, ?_⟩
  intro a same spares f failed
  rw [← same] at free spares
  exact boot_of_free free spares failed

theorem Opened.tenant (opened : Opened a.launch (a.others h) d)
    (named : a.path.isEmpty = false) : ∃ l, Tenant a h d l := by
  obtain ⟨l, free, put, resides⟩ := opened.founds named
  obtain ⟨path, h', bound, _⟩ := opened
  have new := (Tree.node?_of_locate free Tree.leaf_none.1).2
  have sound : Host.addressFault? d.server.path = none := path ▸ (Server.bind_ok bound).sound
  have begun : Resides l d.announce := resides
  have path : d.server.path = a.path := path
  refine ⟨l, path, new, ?tree, ?present, ?vacated, fun rs reason => course_exitCode⟩
  case tree =>
    rw [put, ← Tree.entries_put new]
    rfl
  case present =>
    intro rs aside
    rw [← path] at aside ⊢
    obtain ⟨server, stays⟩ := resides_course begun aside
    rw [Resides, server] at stays
    exact Tree.inspect_of_locate stays
  case vacated =>
    intro rs reason uptime aside
    rw [← path] at aside ⊢
    obtain ⟨server, stays⟩ := resides_course begun aside
    have server : (d.announce.course rs).daemon.server = d.server := server
    have vacated := stays.vacated (by rw [server]; exact sound) reason uptime
    rwa [server] at vacated

/-- The path of the socket is taken while a daemon runs, and only then. -/
theorem leased (plain : h.tree.Plain) (named : a.path.isEmpty = false) (hears : a.deafness = none) :
    Lease a h where
  taken n there := by
    unfold Attempt.boot
    rw [if_pos (Server.isTaken_of_inspect plain there)]
  occupied spot located some := by
    have boots := boots a h
    generalize a.boot h = result at boots ⊢
    cases boots with
    | taken | failed | deaf => exact ⟨_, rfl⟩
    | up d free opened hears =>
      obtain ⟨l, free, _, _⟩ := opened.founds named
      rw [opened.path, ← Attempt.path, located] at free
      cases free
      exact absurd rfl some
  failed f failed := (boot_error named failed).resolve_right fun ⟨deaf, _⟩ => deaf hears
  fatal f failed := by
    have boots := boots a h
    generalize a.boot h = result at boots failed
    cases boots with
    | failed f _ fatal _ =>
      cases failed
      exact fatal
    | taken | deaf =>
      cases failed
      rfl
    | up => cases failed
  up d succeeded := by
    have boots := boots a h
    generalize a.boot h = result at boots succeeded ⊢
    cases boots with
    | up d free opened hears =>
      cases succeeded
      exact ⟨rfl, opened.tenant named⟩
    | taken | failed | deaf => cases succeeded

/-- The settings name a path, and the display server has all that is needed. -/
def settingOut : Attempt := .calm { opening with socket := .ofString "/w" }

def terminated : List Round := [.calm ⟨none, some 1, none, "SIGTERM", .ok []⟩]

theorem leased_settingOut :
    Command.Serve.socketPath { Settings.default with socketPath := some (.ofString "w") } ⟨[]⟩
        (Tree.bare []).workingPath = .ok settingOut.path ∧
      Lease settingOut (.ofTree (.bare [])) ∧
      ∃ d l, (settingOut.boot (.ofTree (.bare []))).1 = .ok d ∧
        (d.announce.course terminated).stop = some (.signal "SIGTERM") ∧
        Vacated settingOut.path l (d.announce.course terminated).daemon
          ((d.announce.course terminated).daemon.finish (.signal "SIGTERM") 5) := by
  have given : Command.Serve.socketPath
      { Settings.default with socketPath := some (.ofString "w") } ⟨[]⟩
      (Tree.bare []).workingPath = .ok settingOut.path := by decide +kernel
  have named := Path.isEmpty_of_isAbsolute (Command.Serve.isAbsolute_socketPath given)
  have lease : Lease settingOut (.ofTree (.bare [])) := leased Host.vacant_bare.plain named rfl
  have ended : (settingOut.boot (.ofTree (.bare []))).1.toOption.map
      (fun d => (d.announce.course terminated).stop) = some (some (.signal "SIGTERM")) := by cbv
  refine ⟨given, lease, ?_⟩
  cases up : (settingOut.boot (.ofTree (.bare []))).1 with
  | error f =>
    rw [up] at ended
    cases ended
  | ok d =>
    rw [up] at ended
    obtain ⟨_, l, tenant⟩ := lease.up d up
    exact ⟨d, l, rfl, Option.some.inj ended,
      tenant.vacated terminated _ 5 ⟨.refl _ _, fun _ => trivial⟩⟩

end Daemon
end Backdrop

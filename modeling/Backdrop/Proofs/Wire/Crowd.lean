import Mathlib.Data.List.Induction
import Backdrop.Proofs.Daemon.Backlog
import Backdrop.Proofs.Host.Sockets
import Backdrop.Proofs.Table
import Backdrop.Proofs.Wire.Growing
import Backdrop.Proofs.Wire.Transit

/-!
# Backdrop.Proofs.Wire.Crowd

Any number of clients at one server.

* `Act` is what clients do, and `streams` the streams that they make, in the order in which they
  have connected.
* `Crowd.serve` is `Server.serveOne` with clients that go on while it reads: before each receive
  they do some more. A server without a time limit waits there until there is something to receive,
  so that its services are those in which no receive times out.
* `Crowd.Lined` says who waits, and with what. It is kept by all that clients do, and a service takes
  the next one out.
* `in_turn` is what comes of any events: the answers, one for each service that finds a connection.
-/

namespace Backdrop
namespace Wire

/-- A client does something with its end of a connection, as long as that is open. -/
def Client.perform (c : Nat) (d : Deed) (h : Host) : Host :=
  match h.connections.find? c with
  | none => h
  | some s =>
    if s.writerOpen then
      match d with
      | .write m => (write c m h).2
      | .close => close c h
      | .fail cause => h.modifyConnection c (Stream.sever cause)
    else h

/-- One more client connects, or one of those that have connected does something. -/
inductive Act where
  | join
  | does (client : Nat) (deed : Deed)
  deriving Repr, DecidableEq, Inhabited

/-- What one client does. -/
def deeds (k : Nat) (acts : List Act) : List Deed :=
  acts.filterMap fun
    | .join => none
    | .does i d => if i = k then some d else none

def Act.on (streams : List Stream) : Act → List Stream
  | .join => streams ++ [.open_]
  | .does i d => streams.modify i (·.after d)

/-- The streams that clients make, in the order in which they have connected. -/
def streams (acts : List Act) : List Stream := acts.foldl Act.on []

/-- What reads from the stream of a client, when all of this has been done. -/
def requestOf (k : Nat) (acts : List Act) : Option (Except TransferError Request) :=
  (streams acts)[k]?.map fun s => (readRequest Stream.receive s).1

structure Crowd where
  host : Host
  /-- The connections, in the order of connecting. -/
  joined : List Nat
  answers : List (Except DaemonError Request)

namespace Crowd

variable (server : Server)

def act (w : Crowd) : Act → Crowd
  | .join =>
    match Client.connect server.path w.host with
    | .error _ => w
    | .ok (c, h) => { w with host := h, joined := w.joined ++ [c] }
  | .does i d =>
    match w.joined[i]? with
    | none => w
    | some c => { w with host := Client.perform c d w.host }

def actAll (w : Crowd) (acts : List Act) : Crowd := acts.foldl (act server) w

/-- Receives from one connection; before that clients do some more. -/
def receiveAmid (c : Nat) : Receive (Crowd × List (List Act)) := fun n (w, pace) =>
  let w := actAll server w (pace.headD [])
  let (r, h) := w.host.onConnection c (.error .timedOut) (Stream.receive n)
  (r, { w with host := h }, pace.tail)

def conclude (c : Nat) (r : Except TransferError Request) (h : Host) : Host :=
  match r with
  | .error _ => h.modifyConnection c Stream.closeReader
  | .ok r =>
    (h.note (Log.debug s!"Received request for {r.targetText}")).modifyConnection c
      Stream.closeReader

def serve (pace : List (List Act)) (w : Crowd) : Crowd :=
  match w.host.accept server.listener with
  | none => actAll server w pace.flatten
  | some (c, h) =>
    match readRequest (receiveAmid server c) ({ w with host := h }, pace) with
    | (r, w, rest) =>
      let w := actAll server w rest.flatten
      { w with
        host := conclude c r w.host
        answers := w.answers ++ [r.mapError .transfer] }

end Crowd

/-! ## The streams of a crowd -/

section Streams

variable {k : Nat} {acts : List Act}

theorem streams_append (acts acts' : List Act) :
    streams (acts ++ acts') = acts'.foldl Act.on (streams acts) :=
  List.foldl_append

theorem deeds_append (acts acts' : List Act) :
    deeds k (acts ++ acts') = deeds k acts ++ deeds k acts' :=
  List.filterMap_append

/-- What the others do does not show on a stream. -/
theorem getElem?_streams_append {s : Stream} (here : (streams acts)[k]? = some s)
    (acts' : List Act) : (streams (acts ++ acts'))[k]? = some (s.afterAll (deeds k acts')) := by
  rw [streams_append]
  generalize streams acts = l at here
  induction acts' generalizing l s with
  | nil => exact here
  | cons a acts' ih =>
    rw [List.foldl_cons]
    cases a with
    | join =>
      refine ih _ ?_
      have room := (List.getElem?_eq_some_iff.mp here).1
      rw [Act.on, List.getElem?_append_left room, here]
    | does i d =>
      by_cases own : i = k
      · subst own
        have there : (Act.on l (.does i d))[i]? = some (s.after d) := by
          simp [Act.on, here]
        simpa [deeds, Stream.afterAll] using ih _ there
      · have there : (Act.on l (.does i d))[k]? = some s := by
          simp [Act.on, own, here]
        simpa [deeds, own] using ih _ there

theorem fair_streams (acts : List Act) : ∀ s ∈ streams acts, s.Fair := by
  have step : ∀ (l : List Stream) (a : Act), (∀ s ∈ l, s.Fair) → ∀ s ∈ Act.on l a, s.Fair := by
    intro l a fair
    cases a with
    | join =>
      exact List.forall_mem_append.mpr ⟨fair, List.forall_mem_singleton.mpr Stream.fair_open⟩
    | does i d =>
      intro s hs
      obtain ⟨k, there⟩ := List.mem_iff_getElem?.mp hs
      rw [Act.on, List.getElem?_modify, Option.map_eq_map, Option.map_eq_some_iff] at there
      obtain ⟨t, ht, rfl⟩ := there
      have old := fair t (List.mem_of_getElem? ht)
      split
      · exact old.after d
      · exact old
  unfold streams
  exact List.foldlRecOn acts Act.on (fun _ hs => (nomatch hs)) fun l fair a _ => step l a fair

end Streams

/-! ## One connection -/

open Host (AllBut)

theorem Client.allBut_perform (c : Nat) (d : Deed) (h : Host) : AllBut c h (perform c d h) := by
  unfold perform
  split
  · exact .refl c h
  · split
    · cases d with
      | write m => exact .onConnection c _ _ h
      | close => exact .modifyConnection c _ h
      | fail cause => exact .modifyConnection c _ h
    · exact .refl c h

theorem Client.find?_perform {c : Nat} {h : Host} {s : Stream}
    (found : h.connections.find? c = some s) (quiet : s.log = []) (d : Deed) :
    (perform c d h).connections.find? c = some (s.after d) := by
  simp only [perform, found, Stream.after]
  cases s.writerOpen with
  | false => exact found
  | true =>
    cases d with
    | close => simp [close, Host.modifyConnection, Table.find?_modify, found]
    | fail cause => simp [Host.modifyConnection, Table.find?_modify, found]
    | write m =>
      have same : { s with log := [] } = s := by
        cases s
        cases quiet
        rfl
      obtain ⟨more, _, pushed⟩ := Stream.push_grown m s
      have pushed : (Stream.push m s).2 = { s with queue := s.queue ++ more } :=
        pushed s.queue s.log
      have written := (Host.find?_onConnection found
        (.error (.message .brokenPipe)) (Stream.push m)).2
      rw [same, pushed] at written
      simp only [if_true, write, pushed]
      rw [written, quiet]

theorem Crowd.allBut_conclude (c : Nat) (r : Except TransferError Request) (h : Host) :
    AllBut c h (conclude c r h) := by
  cases r with
  | error e => exact .modifyConnection c _ h
  | ok r =>
    obtain ⟨tree, listeners, next, others⟩ := AllBut.modifyConnection c Stream.closeReader h
    exact ⟨tree, listeners, next, others⟩

theorem Server.reach_bind {server : Server} {p : Path} {h h' : Host} (named : p.isEmpty = false)
    (bound : bind p h = .ok (server, h')) : h'.reach server.path = .ok server.listener := by
  unfold bind at bound
  split at bound
  · cases bound
  · split at bound <;> cases bound
    rename_i listens
    exact Host.reach_congr (Host.reach_listen named listens) rfl rfl

/-! ## Who waits -/

namespace Crowd

variable {server : Server} {n : Nat} {past : List Act} {w : Crowd}

/-- Of those who have joined the first `n` have been accepted, and the others wait in order, each
with what it has sent. -/
structure Lined (server : Server) (n : Nat) (past : List Act) (w : Crowd) : Prop where
  reached : w.host.reach server.path = .ok server.listener
  nodup : w.joined.Nodup
  below : ∀ c ∈ w.joined, c < w.host.nextConnection
  counted : w.joined.length = (streams past).length
  accepted : n ≤ w.joined.length
  waiting : w.host.listeners.find? server.listener = some (w.joined.drop n)
  carried : ∀ (k c : Nat), n ≤ k → w.joined[k]? = some c →
    w.host.connections.find? c = (streams past)[k]?

theorem Lined.congr {w' : Crowd} (lined : Lined server n past w) (host : w'.host = w.host)
    (joined : w'.joined = w.joined) : Lined server n past w' := by
  obtain ⟨reached, nodup, below, counted, accepted, waiting, carried⟩ := lined
  obtain ⟨_, _, _⟩ := w'
  cases host
  cases joined
  exact ⟨reached, nodup, below, counted, accepted, waiting, carried⟩

/-- Who waits carries what its client has made of the stream. -/
theorem Lined.stream {k : Nat} (lined : Lined server n past w) (later : n ≤ k)
    (more : k < w.joined.length) :
    ∃ s, (streams past)[k]? = some s ∧ s.log = [] ∧
      w.host.connections.find? w.joined[k] = some s := by
  have here := List.getElem?_eq_getElem (lined.counted ▸ more)
  have found := lined.carried k _ later (List.getElem?_eq_getElem more)
  exact ⟨_, here, (fair_streams past _ (List.mem_of_getElem? here)).quiet, found.trans here⟩

/-- Something has happened on one connection, and those who wait still carry what they should. -/
theorem Lined.update {c : Nat} {h : Host} {past' : List Act} (lined : Lined server n past w)
    (rest : AllBut c w.host h) (counted : (streams past').length = (streams past).length)
    (carried : ∀ (k c : Nat), n ≤ k → w.joined[k]? = some c →
      h.connections.find? c = (streams past')[k]?) :
    Lined server n past' { w with host := h } where
  reached := Host.reach_congr lined.reached rest.tree (by rw [rest.listeners])
  nodup := lined.nodup
  below := fun c' hc => rest.next ▸ lined.below c' hc
  counted := lined.counted.trans counted.symm
  accepted := lined.accepted
  waiting := by rw [rest.listeners, lined.waiting]
  carried := carried

/-- What becomes of a connection that was accepted is of no account for those who wait. -/
theorem Lined.allBut {k c : Nat} {h : Host} (lined : Lined server n past w) (past_ : k < n)
    (at_ : w.joined[k]? = some c) (rest : AllBut c w.host h) :
    Lined server n past { w with host := h } := by
  refine lined.update rest rfl fun k' c' later at' => ?_
  have other : c' ≠ c := by
    rintro rfl
    have room := (List.getElem?_eq_some_iff.mp at_).1
    have := (List.getElem?_inj room lined.nodup).mp (at_.trans at'.symm)
    omega
  exact (rest.others c' other).trans (lined.carried k' c' later at')

/-- One connection, by its place and its number, and the stream that it carries. -/
def Carries (w : Crowd) (k c : Nat) (s : Stream) : Prop :=
  w.joined[k]? = some c ∧ w.host.connections.find? c = some s

/-- A client that joins waits behind all others. -/
theorem act_join (lined : Lined server n past w) :
    act server w .join =
      { w with
        host := (w.host.enqueue server.listener).2
        joined := w.joined ++ [w.host.nextConnection] } := by
  simp [act, Client.connect, Host.connect, lined.reached, Host.enqueue]

theorem act_does (server : Server) (w : Crowd) (i : Nat) (d : Deed) :
    ∃ c h, act server w (.does i d) = { w with host := h } ∧ AllBut c w.host h := by
  cases who : w.joined[i]? with
  | none => exact ⟨0, w.host, by simp [act, who], AllBut.refl 0 w.host⟩
  | some c => exact ⟨c, _, by simp [act, who], Client.allBut_perform c d w.host⟩

/-- Nothing but what its own client does shows on a connection. -/
theorem Carries.act {k c : Nat} {s : Stream} (carries : w.Carries k c s)
    (lined : Lined server n past w) (quiet : s.log = []) (a : Act) :
    (act server w a).Carries k c (s.afterAll (deeds k [a])) := by
  obtain ⟨at_, found⟩ := carries
  cases a with
  | join =>
    have old : c < w.host.nextConnection := lined.below c (List.mem_of_getElem? at_)
    have room := (List.getElem?_eq_some_iff.mp at_).1
    rw [act_join lined]
    refine ⟨by rw [List.getElem?_append_left room, at_], ?_⟩
    simp [Host.enqueue, Table.find?_insert, Nat.ne_of_gt old, found, deeds, Stream.afterAll]
  | does i d =>
    cases who : w.joined[i]? with
    | none =>
      have other : i ≠ k := by
        rintro rfl
        rw [at_] at who
        cases who
      simpa [Crowd.act, who, deeds, other, Stream.afterAll] using ⟨at_, found⟩
    | some c' =>
      by_cases own : i = k
      · subst own
        obtain rfl : c = c' := Option.some.inj (at_.symm.trans who)
        simpa [Crowd.act, who, deeds, Stream.afterAll, Carries, at_] using
          Client.find?_perform found quiet d
      · have other : c ≠ c' := by
          rintro rfl
          have room := (List.getElem?_eq_some_iff.mp who).1
          exact own ((List.getElem?_inj room lined.nodup).mp (who.trans at_.symm))
        have same := (Client.allBut_perform c' d w.host).others c other
        simpa [Crowd.act, who, deeds, own, Stream.afterAll, Carries, at_] using same.trans found

/-- Those who have joined before keep to what their clients make of the streams. -/
theorem Lined.carried_act (lined : Lined server n past w) (a : Act) {k c : Nat} (later : n ≤ k)
    (at_ : w.joined[k]? = some c) :
    (act server w a).host.connections.find? c = (streams (past ++ [a]))[k]? := by
  obtain ⟨more, rfl⟩ := List.getElem?_eq_some_iff.mp at_
  obtain ⟨s, here, quiet, found⟩ := lined.stream later more
  obtain ⟨_, found'⟩ := Carries.act ⟨at_, found⟩ lined quiet a
  rw [found', getElem?_streams_append here]

theorem Lined.join (lined : Lined server n past w) :
    Lined server n (past ++ [.join]) (act server w .join) := by
  have old := fun k c => lined.carried_act .join (k := k) (c := c)
  have counted : (streams (past ++ [.join])).length = w.joined.length + 1 := by
    rw [streams_append, lined.counted]
    simp [Act.on]
  rw [act_join lined] at old ⊢
  refine ⟨?_, ?_, ?_, ?_, ?_, ?_, ?_⟩
  · refine Host.reach_congr lined.reached rfl ?_
    simp [Host.enqueue, Table.contains, Table.find?_modify]
  · refine List.nodup_append.mpr ⟨lined.nodup, List.pairwise_singleton _ _, ?_⟩
    rintro c hc _ new rfl
    cases List.mem_singleton.mp new
    exact Nat.lt_irrefl _ (lined.below _ hc)
  · intro c hc
    rcases List.mem_append.mp hc with hc | new
    · exact Nat.lt_succ_of_lt (lined.below c hc)
    · cases List.mem_singleton.mp new
      exact Nat.lt_succ_self _
  · rw [counted, List.length_append, List.length_singleton]
  · rw [List.length_append]
    exact Nat.le_add_right_of_le lined.accepted
  · simp [Host.enqueue, Table.find?_modify, lined.waiting, List.drop_append,
      Nat.sub_eq_zero_of_le lined.accepted]
  · intro k c later at_
    by_cases before : k < w.joined.length
    · rw [List.getElem?_append_left before] at at_
      exact old k c later at_
    · -- The one that has just joined has not sent anything.
      have room := (List.getElem?_eq_some_iff.mp at_).1
      rw [List.length_append, List.length_singleton] at room
      obtain rfl : k = w.joined.length := by omega
      rw [List.getElem?_concat_length] at at_
      cases at_
      rw [streams_append, lined.counted]
      simp [Host.enqueue, Act.on]

theorem Lined.does (lined : Lined server n past w) (i : Nat) (d : Deed) :
    Lined server n (past ++ [.does i d]) (act server w (.does i d)) := by
  have old := fun k c => lined.carried_act (.does i d) (k := k) (c := c)
  have counted : (streams (past ++ [.does i d])).length = (streams past).length := by
    rw [streams_append]
    simp [Act.on]
  obtain ⟨c, h, eq, rest⟩ := act_does server w i d
  rw [eq] at old ⊢
  exact lined.update rest counted old

theorem Lined.act (lined : Lined server n past w) (a : Act) :
    Lined server n (past ++ [a]) (act server w a) := by
  cases a with
  | join => exact lined.join
  | does i d => exact lined.does i d

theorem Lined.actAll (lined : Lined server n past w) (acts : List Act) :
    Lined server n (past ++ acts) (actAll server w acts) := by
  induction acts generalizing past w with
  | nil => rwa [List.append_nil]
  | cons a acts ih =>
    have rest := ih (lined.act a)
    rwa [List.append_assoc] at rest

theorem Carries.actAll {k c : Nat} {s : Stream} (carries : w.Carries k c s)
    (lined : Lined server n past w) (quiet : s.log = []) (acts : List Act) :
    (actAll server w acts).Carries k c (s.afterAll (deeds k acts)) := by
  induction acts generalizing past w s with
  | nil => exact carries
  | cons a acts ih =>
    have one := carries.act lined quiet a
    have rest := ih one (lined.act a) ((Stream.log_afterAll s _).trans quiet)
    rw [← Stream.afterAll_append, ← deeds_append] at rest
    exact rest

theorem answers_actAll (w : Crowd) (acts : List Act) :
    (actAll server w acts).answers = w.answers := by
  have step : ∀ (w : Crowd) (a : Act), (Crowd.act server w a).answers = w.answers := by
    intro w a
    cases a with
    | join => simp only [Crowd.act]; split <;> rfl
    | does i d => simp only [Crowd.act]; split <;> rfl
  induction acts generalizing w with
  | nil => rfl
  | cons a acts ih => exact (ih _).trans (step w a)

/-! ## Serving -/

/-- The connection that has waited longest is the next in the order of joining. -/
theorem Lined.accept (lined : Lined server n past w) (more : n < w.joined.length) :
    ∃ h, w.host.accept server.listener = some (w.joined[n], h) ∧
      h.connections = w.host.connections ∧
      Lined server (n + 1) past { w with host := h } := by
  have waiting := lined.waiting
  rw [List.drop_eq_getElem_cons more] at waiting
  let h : Host :=
    { w.host with listeners := w.host.listeners.insert server.listener (w.joined.drop (n + 1)) }
  refine ⟨h, by simp only [Host.accept, waiting, h], rfl, ?_⟩
  have reached : h.reach server.path = .ok server.listener := by
    refine Host.reach_congr lined.reached rfl ?_
    simp [h, Table.contains, waiting]
  exact ⟨reached, lined.nodup, lined.below, lined.counted, more, Table.find?_insert_self _ _ _,
    fun k c later at_ => lined.carried k c (Nat.le_of_succ_le later) at_⟩

theorem Lined.accept_none (lined : Lined server w.joined.length past w) :
    w.host.accept server.listener = none := by
  have waiting := lined.waiting
  rw [List.drop_length] at waiting
  simp only [Host.accept, waiting]

/-- A crowd while one connection is being read, and that connection by itself: the same is there to
receive, and the same is going to come. -/
structure Attends (server : Server) (k c : Nat) (all : List Act)
    (answers : List (Except DaemonError Request)) (x : Crowd × List (List Act))
    (y : Stream × List (List Deed)) : Prop where
  lined : ∃ past, past ++ x.2.flatten = all ∧ Lined server (k + 1) past x.1
  answers : x.1.answers = answers
  carries : x.1.Carries k c { y.1 with log := [] }
  pace : y.2 = x.2.map (deeds k)

variable {k c : Nat} {all : List Act} {answers : List (Except DaemonError Request)}
  {x : Crowd × List (List Act)} {y : Stream × List (List Deed)}

theorem alike_attends :
    Alike (receiveAmid server c) Stream.receiveAmid (Attends server k c all answers) := by
  rintro n ⟨w, pace⟩ ⟨s, own⟩ ⟨⟨past, joined, lined⟩, same, carries, rfl⟩
  have first : (pace.map (deeds k)).headD [] = deeds k (pace.headD []) := by
    cases pace <;> rfl
  have lined' := lined.actAll (pace.headD [])
  have carries' := carries.actAll lined rfl (pace.headD [])
  simp only [Stream.afterAll_noted] at carries'
  obtain ⟨at_, found⟩ := carries'
  obtain ⟨received, left⟩ := Host.find?_onConnection found (.error .timedOut) (Stream.receive n)
  have noted := Stream.receive_noted n (s.afterAll (deeds k (pace.headD [])))
  have apart := AllBut.onConnection c (.error .timedOut) (Stream.receive n)
    (actAll server w (pace.headD [])).host
  simp only [Crowd.receiveAmid, Stream.receiveAmid, first]
  rw [noted]
  refine ⟨received, ⟨?_, ?_, ⟨at_, left⟩, ?_⟩⟩
  · refine ⟨past ++ pace.headD [], ?_, lined'.allBut (Nat.lt_succ_self k) at_ apart⟩
    rw [← joined, List.append_assoc]
    cases pace <;> rfl
  · exact (answers_actAll w _).trans same
  · exact List.map_tail.symm

/-- The next in the order of joining is served, whatever the others do meanwhile. -/
theorem Lined.serve (lined : Lined server n past w) (more : n < w.joined.length)
    (pace : List (List Act)) :
    ∃ s, (streams past)[n]? = some s ∧
      (serve server pace w).answers = w.answers ++
        [(readRequest Stream.receiveAmid (s, pace.map (deeds n))).1.mapError .transfer] ∧
      Lined server (n + 1) (past ++ pace.flatten) (serve server pace w) := by
  obtain ⟨s, here, quiet, found⟩ := lined.stream (Nat.le_refl n) more
  obtain ⟨h, accepted, same, lined'⟩ := lined.accept more
  refine ⟨s, here, ?_⟩
  have carries : ({ w with host := h } : Crowd).Carries n w.joined[n] { s with log := [] } := by
    refine ⟨List.getElem?_eq_getElem more, ?_⟩
    rw [same, found, ← quiet]
  have attends : Attends server n w.joined[n] (past ++ pace.flatten) w.answers
      ({ w with host := h }, pace) (s, pace.map (deeds n)) :=
    ⟨⟨past, rfl, lined'⟩, rfl, carries, rfl⟩
  obtain ⟨told, left⟩ := readRequest_alike alike_attends attends
  simp only [Crowd.serve, accepted]
  generalize readRequest (receiveAmid server w.joined[n]) ({ w with host := h }, pace) = x
    at told left ⊢
  obtain ⟨r, w', rest⟩ := x
  obtain ⟨⟨past', joined, lined''⟩, answers, carries', _⟩ := left
  -- The rest of what clients do meanwhile they do before the connection is closed.
  obtain ⟨at', _⟩ := carries'.actAll lined'' rfl rest.flatten
  have closed := (lined''.actAll rest.flatten).allBut (Nat.lt_succ_self n) at'
    (allBut_conclude w.joined[n] r _)
  rw [joined] at closed
  refine ⟨?_, closed.congr rfl rfl⟩
  rw [answers_actAll, answers, told]

theorem Lined.serve_none (lined : Lined server w.joined.length past w) (pace : List (List Act)) :
    (Crowd.serve server pace w).answers = w.answers ∧
      Lined server w.joined.length (past ++ pace.flatten) (Crowd.serve server pace w) := by
  simp only [Crowd.serve, lined.accept_none]
  exact ⟨answers_actAll w pace.flatten, lined.actAll pace.flatten⟩

/-- A crowd with a host on which one connection has come to this stream. -/
def reading (w : Crowd) (h : Host) (c : Nat) (t : Stream) : Crowd :=
  { w with
    host := { h with
      connections := h.connections.insert c { t with log := [] }
      log := h.log ++ t.log } }

theorem receiveAmid_reading (w : Crowd) (h : Host) (c m : Nat) (t : Stream) :
    (Crowd.receiveAmid server c m (w.reading h c t, [])).1 = (Stream.receive m t).1 ∧
      (Crowd.receiveAmid server c m (w.reading h c t, [])).2 =
        (w.reading h c (Stream.receive m t).2, []) := by
  rw [Stream.receive_noted m t]
  simp [Crowd.receiveAmid, reading, actAll, Host.onConnection, Table.insert_insert]

/-- A service during which nobody does anything is the server's own. -/
theorem Lined.serve_alone (lined : Lined server n past w) :
    Crowd.serve server [] w =
      match server.serveOne w.host with
      | none => w
      | some (answer, h) => { w with host := h, answers := w.answers ++ [answer] } := by
  rcases Nat.eq_or_lt_of_le lined.accepted with all | more
  · subst all
    simp [Crowd.serve, Server.serveOne, lined.accept_none, Crowd.actAll]
  obtain ⟨h, accepted, same, lined'⟩ := lined.accept more
  obtain ⟨s, _, quiet, found⟩ := lined.stream (Nat.le_refl n) more
  generalize w.joined[n] = c at accepted found
  rw [← same] at found
  have bare : ({ s with log := [] } : Stream) = s := by
    rw [← quiet]
  have start : { w with host := h } = w.reading h c s := by
    rw [reading, bare, quiet, List.append_nil, Table.insert_of_find? found]
  have alike : Alike (Crowd.receiveAmid server c) Stream.receive
      (fun x t => x = (w.reading h c t, [])) := by
    rintro m _ t rfl
    exact receiveAmid_reading w h c m t
  obtain ⟨told, left⟩ := readRequest_alike alike (congrArg (·, []) start)
  have whole : h.onConnection c (.error .timedOut) (readRequest Stream.receive) =
      ((readRequest Stream.receive s).1,
        (w.reading h c (readRequest Stream.receive s).2).host) := by
    simp only [Host.onConnection, found, bare]
    rfl
  simp only [Crowd.serve, Server.serveOne, accepted, Option.map_some, Server.serveConnection, whole]
  generalize readRequest (Crowd.receiveAmid server c) ({ w with host := h }, []) = x at told left ⊢
  obtain ⟨r, w', rest⟩ := x
  cases left
  cases told
  cases (readRequest Stream.receive s).1 with
  | error e => rfl
  | ok q => rfl

end Crowd

/-! ## Any events -/

inductive Event where
  | act (a : Act)
  | serve (pace : List (List Act))
  deriving Repr, DecidableEq, Inhabited

def Event.acts : Event → List Act
  | .act a => [a]
  | .serve pace => pace.flatten

def history (events : List Event) : List Act := events.flatMap Event.acts

def Crowd.step (server : Server) (w : Crowd) : Event → Crowd
  | .act a => act server w a
  | .serve pace => serve server pace w

def Crowd.run (server : Server) (h : Host) (events : List Event) : Crowd :=
  events.foldl (step server) ⟨h, [], []⟩

/-- What comes of serving the client at one place, which has made stream `s` before, in `u`
receives. -/
structure Served (k : Nat) (past : List Act) (pace : List (List Act)) (s : Stream) (u : Nat)
    (outcome : Except TransferError Request) : Prop where
  here : (streams past)[k]? = some s
  /-- It depends on this stream and on what this client does while it is read. -/
  own : ∃ left, readRequest Stream.receiveAmid (s, pace.map (deeds k)) =
    (outcome, left, (pace.drop u).map (deeds k))
  /-- It is what the stream reads as at once when the reading is over. -/
  whole : requestOf k (past ++ (pace.take u).flatten) = some outcome
  /-- The client stalls, or it is what all that it ever sends reads as. -/
  settled : (outcome = .error .timedOut ∧
      ∃ s, (streams (past ++ (pace.take u).flatten))[k]? = some s ∧ s.Waits) ∨
    ∀ later, requestOf k (past ++ (pace.take u).flatten ++ later) = some outcome

/-- The answers that a server gives: to those who have joined, in that order, one each. A service
that finds nobody gives none. -/
inductive InTurn : List Event → List (Except DaemonError Request) → Prop where
  | start : InTurn [] []
  | act {events answers} (a : Act) :
      InTurn events answers → InTurn (events ++ [.act a]) answers
  | idle {events answers} (pace : List (List Act)) :
      InTurn events answers → answers.length = (streams (history events)).length →
      InTurn (events ++ [.serve pace]) answers
  | served {events answers} (pace : List (List Act)) {s u outcome} :
      InTurn events answers → Served answers.length (history events) pace s u outcome →
      InTurn (events ++ [.serve pace]) (answers ++ [outcome.mapError .transfer])

theorem flatten_map_deeds (k : Nat) (pace : List (List Act)) :
    (pace.map (deeds k)).flatten = deeds k pace.flatten := by
  rw [deeds, List.filterMap_flatten]
  rfl

theorem requestOf_append {k : Nat} {past : List Act} {s : Stream}
    (here : (streams past)[k]? = some s) (acts : List Act) :
    requestOf k (past ++ acts) =
      some (readRequest Stream.receive (s.afterAll (deeds k acts))).1 := by
  rw [requestOf, getElem?_streams_append here, Option.map_some]

theorem served_of_getElem? {k : Nat} {past : List Act} {s : Stream}
    (here : (streams past)[k]? = some s) (pace : List (List Act)) :
    ∃ u, Served k past pace s u
      (readRequest Stream.receiveAmid (s, pace.map (deeds k))).1 := by
  have fair := fair_streams past s (List.mem_of_getElem? here)
  obtain ⟨u, amid⟩ := Stream.readRequest_amid fair.full (pace.map (deeds k))
  rw [← List.map_take, ← List.map_drop, flatten_map_deeds] at amid
  rw [amid]
  refine ⟨u, here, ⟨_, amid⟩, requestOf_append here _, ?_⟩
  rcases Stream.readRequest_settled (fair.afterAll (deeds k (pace.take u).flatten)) with
    ⟨stalls, waits⟩ | stands
  · exact .inl ⟨stalls, _, getElem?_streams_append here _, waits⟩
  · right
    intro later
    rw [List.append_assoc, requestOf_append here, deeds_append, Stream.afterAll_append, stands]

namespace Crowd

variable {server : Server}

theorem lined_run {h : Host} (start : Lined server 0 [] ⟨h, [], []⟩) (events : List Event) :
    Lined server (run server h events).answers.length (history events) (run server h events) ∧
      InTurn events (run server h events).answers := by
  -- By induction on the events, the last one first.
  induction events using List.reverseRecOn with
  | nil => exact ⟨start, .start⟩
  | append_singleton events e ih =>
    obtain ⟨lined, inTurn⟩ := ih
    have past : history (events ++ [e]) = history events ++ e.acts := by
      simp [history]
    rw [past, run, List.foldl_append]
    change Lined server (step server (run server h events) e).answers.length _
      (step server (run server h events) e) ∧ InTurn _ (step server (run server h events) e).answers
    generalize run server h events = w at lined inTurn ⊢
    cases e with
    | act a =>
      have same : (Crowd.act server w a).answers = w.answers := answers_actAll w [a]
      simp only [step, same]
      exact ⟨lined.act a, inTurn.act a⟩
    | serve pace =>
      rcases Nat.eq_or_lt_of_le lined.accepted with all | more
      · have counted := lined.counted
        rw [all] at lined
        obtain ⟨same, lined'⟩ := lined.serve_none pace
        simp only [step, same, all]
        exact ⟨lined', inTurn.idle pace (all.trans counted)⟩
      · obtain ⟨s, here, answered, lined'⟩ := lined.serve more pace
        simp only [step]
        rw [answered, List.length_append, List.length_singleton]
        obtain ⟨u, served⟩ := served_of_getElem? here pace
        exact ⟨lined', inTurn.served pace served⟩

theorem lined_bind {p : Path} {h₀ h : Host} (named : p.isEmpty = false)
    (bound : Server.bind p h₀ = .ok (server, h)) : Lined server 0 [] ⟨h, [], []⟩ :=
  ⟨Server.reach_bind named bound, .nil, fun _ hc => (nomatch hc), rfl, Nat.le_refl 0,
    (Server.queued_bind bound).listed, fun _ _ _ at_ => (nomatch at_)⟩

/-- Those who connect to a server are served in turn, whatever they send and whenever they send it,
and a service with which nobody interferes is `Server.serveOne`. A server without a name is one
that nobody can connect to. -/
theorem in_turn {p : Path} {h₀ h : Host} (named : p.isEmpty = false)
    (bound : Server.bind p h₀ = .ok (server, h)) (events : List Event) :
    InTurn events (run server h events).answers ∧
      serve server [] (run server h events) =
        match server.serveOne (run server h events).host with
        | none => run server h events
        | some (answer, h') =>
          { run server h events with
            host := h'
            answers := (run server h events).answers ++ [answer] } := by
  obtain ⟨lined, inTurn⟩ := lined_run (lined_bind named bound) events
  exact ⟨inTurn, lined.serve_alone⟩

/-- Three clients. The first stops within the header while it is served, the second has sent more
than a request, and the third says too little. -/
def crossing : List Event :=
  [.act .join, .act .join,
    .act (.does 1 (.write ⟨List.replicate 18 0, []⟩)),
    .act (.does 0 (.write ⟨[1, 0, 0], [⟨#[]⟩]⟩)),
    .serve [[], [.does 0 (.write ⟨[0, 1, 0, 0, 0], []⟩), .join], [.does 0 .close]],
    .serve [],
    .serve [[.does 2 (.write ⟨[0], []⟩)]],
    .serve []]

theorem in_turn_crossing :
    ∃ server h, Server.bind ⟨[115]⟩ (.ofTree (.bare [])) = .ok (server, h) ∧
      InTurn crossing (run server h crossing).answers ∧
      [0, 1, 2].map (requestOf · (history crossing)) =
        [some (.error (.truncated 16 8)), some (.ok ⟨none, .clear⟩), some (.error .timedOut)] := by
  have free : (Host.ofTree (.bare [])).tree.locate false ⟨[115]⟩ = .ok ⟨[[115]], none, false⟩ := by
    have walked : (Tree.bare []).walk false Tree.maxLinks [] [[115]] false =
        .ok ⟨[[115]], none, false⟩ := by
      rw [Tree.walk]
      rfl
    exact walked
  obtain ⟨x, bound⟩ : ∃ x, Server.bind ⟨[115]⟩ (.ofTree (.bare [])) = .ok x := by
    have untaken : Server.isTaken ⟨[115]⟩ (.ofTree (.bare [])) = false := by
      simp [Server.isTaken, Tree.exists_, Tree.inspect, Path.endsInSeparator, Path.separator, free,
        Except.isOk, Except.toBool]
    simp [Server.bind, untaken, Host.listen, Host.addressFault?, Tree.create, free, Path.isEmpty,
      Path.length, Host.pathLimit]
  exact ⟨x.1, x.2, bound, (in_turn rfl bound crossing).1, by decide +kernel⟩

end Crowd
end Wire
end Backdrop

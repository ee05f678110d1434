import Backdrop.Daemon.Loop

/-!
# Backdrop.Proofs.Daemon.Backlog

Clients that wait at a listener, and what it takes to serve the one that has waited longest.

* `Host.arrive` brings a client with all that it is ever going to send.
* `Host.Queued h listener ids streams`: these connections wait, the oldest first, and these are the
  streams that they carry.
* `Daemon.Awaits d streams` is the same of a daemon's own listener. `attend_nil` and `attend_cons`
  say what serving comes to: it depends on the oldest stream and on nothing else that waits.
-/

namespace Backdrop

open Wire (Stream)

namespace Host

/-- A client comes to a listener; its stream says what it sends and how it ends. -/
def arrive (listener : Nat) (s : Stream) (h : Host) : Host :=
  let (c, h) := h.enqueue listener
  h.modifyConnection c fun _ => s

structure Queued (h : Host) (listener : Nat) (ids : List Nat) (streams : List Stream) : Prop where
  listed : h.listeners.find? listener = some ids
  nodup : ids.Nodup
  below : ∀ c ∈ ids, c < h.nextConnection
  carried : ids.map h.connections.find? = streams.map some

namespace Queued

variable {h : Host} {listener c : Nat} {ids : List Nat} {s : Stream} {streams : List Stream}

theorem arrive (queued : h.Queued listener ids streams) (s : Stream) :
    (h.arrive listener s).Queued listener (ids ++ [h.nextConnection]) (streams ++ [s]) where
  listed := by
    simp [Host.arrive, enqueue, modifyConnection, Table.find?_modify, queued.listed]
  nodup := by
    refine List.nodup_append.mpr ⟨queued.nodup, List.pairwise_singleton _ _, ?_⟩
    rintro c old _ new rfl
    cases List.mem_singleton.mp new
    exact Nat.lt_irrefl _ (queued.below _ old)
  below := by
    intro c hc
    rcases List.mem_append.mp hc with old | new
    · exact Nat.lt_succ_of_lt (queued.below c old)
    · cases List.mem_singleton.mp new
      exact Nat.lt_succ_self _
  carried := by
    have other : ∀ c ∈ ids, (h.arrive listener s).connections.find? c = h.connections.find? c := by
      intro c hc
      have hne : c ≠ h.nextConnection := Nat.ne_of_lt (queued.below c hc)
      simp [Host.arrive, enqueue, modifyConnection, Table.find?_modify, Table.find?_insert, hne,
        hne.symm]
    have new : (h.arrive listener s).connections.find? h.nextConnection = some s := by
      simp [Host.arrive, enqueue, modifyConnection, Table.find?_modify]
    rw [List.map_append, List.map_append, List.map_congr_left other, queued.carried]
    exact congrArg (streams.map some ++ [·]) new

theorem length_eq (queued : h.Queued listener ids streams) : ids.length = streams.length := by
  have := congrArg List.length queued.carried
  simpa using this

/-- What becomes of the connection in front is of no account for the others. -/
theorem tail {h' : Host} (queued : h.Queued listener (c :: ids) (s :: streams))
    (listed : h'.listeners.find? listener = some ids)
    (next : h'.nextConnection = h.nextConnection)
    (others : ∀ c', c' ≠ c → h'.connections.find? c' = h.connections.find? c') :
    h'.Queued listener ids streams where
  listed := listed
  nodup := queued.nodup.tail
  below := fun c' hc' => next ▸ queued.below c' (List.mem_cons_of_mem _ hc')
  carried := by
    have same : ∀ c' ∈ ids, h'.connections.find? c' = h.connections.find? c' := by
      intro c' hc'
      exact others c' fun e => (List.nodup_cons.mp queued.nodup).1 (e ▸ hc')
    rw [List.map_congr_left same]
    exact (List.cons.inj queued.carried).2

end Queued

/-- Nobody waits at a listener that was just bound. -/
theorem queued_listen {p : Path} {h h' : Host} {listener : Nat}
    (bound : h.listen p = .ok (listener, h')) : h'.Queued listener [] [] := by
  have fresh : ∀ t, (h.addListener t).2.Queued h.nextListener [] [] := by
    intro t
    exact ⟨Table.find?_insert_self _ _ _, .nil, fun _ hc => (nomatch hc), rfl⟩
  unfold listen at bound
  split at bound
  · cases bound
  · split at bound
    · cases bound
      exact fresh _
    · split at bound <;> cases bound
      exact fresh _

end Host

/-! ## One connection -/

namespace Wire

/-- What a server makes of a stream. -/
def Stream.request? (s : Stream) : Except DaemonError Request :=
  match (readRequest Stream.receive { s with log := [] }).1 with
  | .error e => .error (.transfer e)
  | .ok r => .ok r

namespace Server

variable {server : Server} {h : Host} {c : Nat} {ids : List Nat} {s : Stream}
  {streams : List Stream}

theorem serveOne_nil (queued : h.Queued server.listener [] []) : server.serveOne h = none := by
  simp [serveOne, Host.accept, queued.listed]

theorem serveOne_cons (queued : h.Queued server.listener (c :: ids) (s :: streams)) :
    ∃ h', server.serveOne h = some (s.request?, h') ∧
      h'.Queued server.listener ids streams := by
  have carried : h.connections.find? c = some s := (List.cons.inj queued.carried).1
  simp only [serveOne, Host.accept, queued.listed, Option.map_some, serveConnection,
    Host.onConnection, carried, Stream.request?]
  cases readRequest Stream.receive { s with log := [] } with
  | mk r s' =>
    have others : ∀ c', c' ≠ c →
        ((h.connections.insert c { s' with log := [] }).modify c Stream.closeReader).find? c' =
          h.connections.find? c' := by
      intro c' hne
      simp [Table.find?_modify, Table.find?_insert, hne, hne.symm]
    cases r with
    | error e => exact ⟨_, rfl, queued.tail (Table.find?_insert_self _ _ _) rfl others⟩
    | ok r => exact ⟨_, rfl, queued.tail (Table.find?_insert_self _ _ _) rfl others⟩

theorem queued_bind {p : Path} {h' : Host} (bound : bind p h = .ok (server, h')) :
    h'.Queued server.listener [] [] := by
  unfold bind at bound
  split at bound
  · cases bound
  · split at bound <;> cases bound
    rename_i h₁ listened
    obtain ⟨listed, nodup, below, carried⟩ := Host.queued_listen listened
    exact ⟨listed, nodup, below, carried⟩

end Server
end Wire

/-! ## A daemon's own clients -/

namespace Daemon

def Awaits (d : Daemon) (streams : List Stream) : Prop :=
  ∃ ids, d.host.Queued d.server.listener ids streams

/-- A client comes to the daemon's listener. -/
def arrive (s : Stream) (d : Daemon) : Daemon :=
  { d with host := d.host.arrive d.server.listener s }

/-- A request was accepted from a connection. -/
def count (d : Daemon) (h : Host) : Daemon :=
  { d with
    host := { h with log := [] }
    log := d.log ++ h.log
    status := { d.status with requests := d.status.requests + 1 } }

variable {d : Daemon} {s : Stream} {streams : List Stream}

theorem Awaits.congr {d' : Daemon} (awaits : d.Awaits streams) (host : d'.host = d.host)
    (server : d'.server = d.server) : d'.Awaits streams := by
  unfold Awaits
  rw [host, server]
  exact awaits

theorem Awaits.arrive (awaits : d.Awaits streams) (s : Stream) :
    (d.arrive s).Awaits (streams ++ [s]) := by
  obtain ⟨ids, queued⟩ := awaits
  exact ⟨_, queued.arrive s⟩

theorem attend_nil (awaits : d.Awaits []) : d.attend = (none, d) := by
  obtain ⟨ids, queued⟩ := awaits
  cases List.length_eq_zero_iff.mp queued.length_eq
  have quiet : ({ d.host with log := [] } : Host).Queued d.server.listener [] [] :=
    ⟨queued.listed, queued.nodup, queued.below, queued.carried⟩
  simp only [attend, attendIn, Wire.Server.serveOne_nil quiet]

/-- Serving depends on the stream that has waited longest. -/
theorem attend_cons (awaits : d.Awaits (s :: streams)) :
    ∃ h, (d.count h).Awaits streams ∧
      d.attend = match s.request? with
        | .error e =>
          (some (.error e), (d.count h).reject s!"Dropped transfer request: {e.message}")
        | .ok r => (some ((d.count h).fulfil r).1, ((d.count h).fulfil r).2) := by
  obtain ⟨ids, queued⟩ := awaits
  cases ids with
  | nil => cases queued.length_eq
  | cons c ids =>
    have quiet : ({ d.host with log := [] } : Host).Queued d.server.listener (c :: ids)
        (s :: streams) :=
      ⟨queued.listed, queued.nodup, queued.below, queued.carried⟩
    obtain ⟨h, served, left⟩ := Wire.Server.serveOne_cons quiet
    refine ⟨h, ⟨ids, left.listed, left.nodup, left.below, left.carried⟩, ?_⟩
    simp only [attend, attendIn, served]
    cases s.request? <;> rfl

theorem awaits_start {l : Launch} {h : Host} (started : start l h = .ok d) : d.Awaits [] := by
  have opened : ∀ session : Session, open_ l session h = .ok d → d.Awaits [] := by
    intro session opened
    unfold open_ at opened
    split at opened <;> cases opened
    rename_i bound
    obtain ⟨listed, nodup, below, carried⟩ := Wire.Server.queued_bind bound
    exact ⟨[], listed, nodup, below, carried⟩
  unfold start at started
  split at started
  · cases started
  · split at started
    · cases started
    · split at started
      · cases started
      · exact opened _ started

end Daemon
end Backdrop

import Mathlib.Data.List.Induction
import Backdrop.Proofs.Host.Sockets
import Backdrop.Proofs.Table
import Backdrop.Wire.Server

/-!
# Backdrop.Proofs.Wire.Premises

Any number of servers and clients on one host, and others who change its tree meanwhile.

* `Premises.step` does one thing after another: servers are bound, asked to serve and dropped,
  clients connect, and files, directories and links are made and removed.
* `Server.bind_ok` and `Server.drop_tree` say what becomes of the tree when a server is bound and
  when it is dropped.
* `Kept` ties the sockets of the tree to the servers that were bound there. Every step keeps it.
-/

namespace Backdrop

namespace Wire

namespace Server

variable {p : Path} {s : Server} {h h' : Host}

/-- What comes of a server that is bound. -/
structure Bound (p : Path) (h : Host) (s : Server) (h' : Host) : Prop where
  server : s = ⟨p, h.nextListener⟩
  next : h'.nextListener = h.nextListener + 1
  listeners : h'.listeners = h.listeners.insert h.nextListener []
  sound : Host.addressFault? p = none
  entry : p.isEmpty = true ∧ h'.tree = h.tree ∨
    ∃ l, h.tree.locate false p = .ok ⟨l, none, false⟩ ∧
      h'.tree = h.tree.put l (.socket h.nextListener)

theorem bind_ok (bound : bind p h = .ok (s, h')) : Bound p h s h' := by
  unfold bind at bound
  split at bound
  · cases bound
  split at bound
  · cases bound
  rename_i n h₁ listens
  cases bound
  unfold Host.listen at listens
  split at listens
  · cases listens
  rename_i sound
  split at listens
  · rename_i empty
    cases listens
    exact ⟨rfl, rfl, rfl, sound, .inl ⟨empty, rfl⟩⟩
  · split at listens <;> cases listens
    rename_i t created
    obtain ⟨spot, located, free, plain, rfl⟩ := Tree.create_ok created
    refine ⟨rfl, rfl, rfl, sound, .inr ⟨spot.location, ?_, rfl⟩⟩
    have plain : spot.slash = false := by simpa using plain
    rw [located, ← free, ← plain]

namespace Bound

theorem path (bound : Bound p h s h') : s.path = p := by rw [bound.server]

theorem number (bound : Bound p h s h') : s.listener = h.nextListener := by rw [bound.server]

theorem working (bound : Bound p h s h') :
    h'.tree.workingDirectory = h.tree.workingDirectory := by
  rcases bound.entry with ⟨_, same⟩ | ⟨_, _, put⟩
  · rw [same]
  · rw [put]
    rfl

/-- A socket of the tree is the new one, or it was there before. -/
theorem socket (bound : Bound p h s h') {l : Location} {n : Nat}
    (there : h'.tree.node? l = some (.socket n)) :
    h.tree.node? l = some (.socket n) ∨
      n = s.listener ∧ h.tree.node? l = none ∧ h'.tree = h.tree.put l (.socket s.listener) := by
  rcases bound.entry with ⟨_, same⟩ | ⟨l', located, put⟩
  · exact .inl (same ▸ there)
  · rw [← bound.number] at put
    rw [put] at there
    rcases Tree.of_node?_put there with ⟨rfl, new⟩ | before
    · cases new
      exact .inr ⟨rfl, (Tree.node?_of_locate located Tree.leaf_none.1).2, put⟩
    · exact .inl before

theorem plain (bound : Bound p h s h') (plain : h.tree.Plain) : h'.tree.Plain := by
  rcases bound.entry with ⟨_, same⟩ | ⟨l, located, put⟩
  · exact same ▸ plain
  · have whole : (0 : UInt8) ∉ p.bytes := by
      intro null
      have sound := bound.sound
      simp [Host.addressFault?, null] at sound
    rw [put]
    exact plain.put_socket (plain.location_of_locateAlong (Path.uncut_steps.mpr whole) located) _

end Bound

theorem isTaken_of_inspect (plain : h.tree.Plain) {n : Node}
    (there : h.tree.inspect false p = .ok n) : isTaken p h = true := by
  obtain ⟨spot, located, some, _⟩ := Tree.inspect_ok there
  have uncut := plain.names_of_walk (Tree.locateAlong_ok_iff.mp located).2.2 (by simp [some])
  simp [isTaken, Tree.exists_, there, Except.isOk, Except.toBool, Path.uncut_steps.mp uncut]

theorem isTaken_of_missing {e : Errno} (missing : h.tree.inspect false p = .error e) :
    isTaken p h = false := by
  simp [isTaken, Tree.exists_, missing, Except.isOk, Except.toBool]

/-- At a path that can be made, and where nothing is, a server can be bound. -/
theorem bind_free {l : Location} (sound : Host.addressFault? p = none)
    (free : h.tree.locate false p = .ok ⟨l, none, false⟩) :
    ∃ s h', bind p h = .ok (s, h') := by
  have named : p.isEmpty = false := (Tree.locateAlong_ok_iff.mp free).1
  have untaken := isTaken_of_missing (Tree.inspect_missing free)
  simp [bind, untaken, Host.listen, sound, named, Tree.create, free]

theorem bind_taken (plain : h.tree.Plain) {n : Node} (there : h.tree.inspect false p = .ok n) :
    bind p h = .error (.socketInUse p) := by
  simp [bind, isTaken_of_inspect plain there]

/-- What a server takes away when it is dropped. -/
theorem drop_tree (s : Server) (h : Host) :
    (s.drop h).tree = (h.tree.remove s.path).toOption.getD h.tree := by
  have alike := Host.hangUp_alike s.listener h
  unfold drop
  simp only [alike.tree]
  split <;> rename_i removed
  · simp [removed, Except.toOption]
  · simp [removed, Except.toOption, Host.note, alike.tree]

theorem drop_alike (s : Server) (h : Host) :
    (s.drop h).listeners = h.listeners.erase s.listener ∧
      (s.drop h).nextListener = h.nextListener := by
  have alike := Host.hangUp_alike s.listener h
  unfold drop
  simp only [alike.tree]
  split <;> exact ⟨alike.listeners, alike.next⟩

theorem serveConnection_alike (c : Nat) (h : Host) : h.Alike (serveConnection c h).2 := by
  have read := h.onConnection_alike c (.error .timedOut) (readRequest Stream.receive)
  unfold serveConnection
  split <;> rename_i received <;> rw [received] at read
  · exact ⟨read.tree, read.listeners, read.next⟩
  · exact ⟨read.tree, read.listeners, read.next⟩

/-- Whoever serves goes on listening. -/
theorem serveOne_alike {r : Except DaemonError Request} (served : s.serveOne h = some (r, h')) :
    h'.tree = h.tree ∧ h'.nextListener = h.nextListener ∧
      ∀ n, h'.listeners.contains n = h.listeners.contains n := by
  obtain ⟨⟨c, h₁⟩, accepted, same⟩ := Option.map_eq_some_iff.mp served
  have alike := serveConnection_alike c h₁
  simp only at same
  rw [same] at alike
  unfold Host.accept at accepted
  split at accepted
  · rename_i waiting
    cases accepted
    refine ⟨alike.tree, alike.next, fun n => ?_⟩
    rw [alike.listeners, Table.contains, Table.find?_insert]
    split
    · rename_i here
      simp [Table.contains, ← here, waiting]
    · rfl
  · cases accepted

end Server

/-- A client that connects waits at the listener that its path leads to. -/
theorem Client.connect_ok {p : Path} {c : Nat} {h h' : Host}
    (connected : connect p h = .ok (c, h')) :
    ∃ n, h.reach p = .ok n ∧ (c, h') = h.enqueue n := by
  unfold connect Host.connect at connected
  cases reached : h.reach p with
  | error e =>
    rw [reached] at connected
    cases connected
  | ok n =>
    rw [reached] at connected
    cases connected
    exact ⟨n, rfl, rfl⟩

/-! ## Runs -/

structure Premises where
  host : Host
  /-- The servers that live, by the numbers of their listeners. -/
  servers : Table Server

namespace Premises

inductive Step where
  | bind (p : Path)
  | drop (listener : Nat)
  | serve (listener : Nat)
  | connect (p : Path)
  | write (p : Path) (content : List UInt8)
  | makeDirectory (p : Path)
  | makeLink (p target : Path)
  | unlink (p : Path)
  deriving Repr, DecidableEq, Inhabited

/-- Changes the tree. The system is never asked to if one of these paths has a null byte in it. -/
def change (named : List Path) (f : Tree → Except Errno Tree) (x : Premises) : Premises :=
  if named.any (·.bytes.contains 0) then x
  else
    match f x.host.tree with
    | .error _ => x
    | .ok t => { x with host := { x.host with tree := t } }

def step (x : Premises) : Step → Premises
  | .bind p =>
    match Server.bind p x.host with
    | .error _ => x
    | .ok (s, h) => ⟨h, x.servers.insert s.listener s⟩
  | .drop n =>
    match x.servers.find? n with
    | none => x
    | some s => ⟨s.drop x.host, x.servers.erase n⟩
  | .serve n =>
    match (x.servers.find? n).bind fun s => s.serveOne x.host with
    | none => x
    | some (_, h) => { x with host := h }
  | .connect p =>
    match Client.connect p x.host with
    | .error _ => x
    | .ok (_, h) => { x with host := h }
  | .write p content => x.change [p] fun t => t.write p content
  | .makeDirectory p => x.change [p] fun t => t.create p .directory
  | .makeLink p target => x.change [p, target] fun t => t.create p (.link target)
  | .unlink p => x.change [p] fun t => t.remove p

/-- The servers and clients come to a host on which no server lives. -/
def run (start : Host) (steps : List Step) : Premises := steps.foldl step ⟨start, .empty⟩

theorem run_snoc (start : Host) (steps : List Step) (st : Step) :
    run start (steps ++ [st]) = (run start steps).step st := by
  rw [run, List.foldl_append]
  rfl

/-- In these steps a server was bound, and its binding made the entry at this place, where nothing
was. -/
def Made (start : Host) (steps : List Step) (s : Server) (l : Location) : Prop :=
  ∃ before after h, steps = before ++ .bind s.path :: after ∧
    Server.bind s.path (run start before).host = .ok (s, h) ∧
    (run start before).host.tree.node? l = none ∧
    h.tree = (run start before).host.tree.put l (.socket s.listener)

/-- The servers listen, and no socket that is new on the host is another one's than its binder's. -/
structure Kept (start : Host) (steps : List Step) (x : Premises) : Prop where
  listening : ∀ n, x.host.listeners.contains n = x.servers.contains n
  numbered : ∀ n s, x.servers.find? n = some s →
    s.listener = n ∧ start.nextListener ≤ n ∧ n < x.host.nextListener
  addressed : ∀ n s, x.servers.find? n = some s → Host.addressFault? s.path = none
  grown : start.nextListener ≤ x.host.nextListener
  sockets : ∀ l n, x.host.tree.node? l = some (.socket n) → n < x.host.nextListener
  made : ∀ l n, x.host.tree.node? l = some (.socket n) → start.nextListener ≤ n →
    ∃ s, s.listener = n ∧ Made start steps s l ∧ ∀ s', x.servers.find? n = some s' → s' = s
  plain : x.host.tree.Plain
  working : x.host.tree.workingDirectory = start.tree.workingDirectory

variable {start : Host} {steps : List Step} {x x' : Premises} {s : Server} {l : Location}

theorem Made.snoc (made : Made start steps s l) (st : Step) : Made start (steps ++ [st]) s l := by
  obtain ⟨before, after, h, rfl, bound, free, tree⟩ := made
  exact ⟨before, after ++ [st], h, by simp, bound, free, tree⟩

theorem Kept.initial (vacant : start.Vacant) : Kept start [] ⟨start, .empty⟩ where
  listening n := by simp [Table.contains, vacant.silent]
  numbered n s live := by cases live
  addressed n s live := by cases live
  grown := Nat.le_refl _
  sockets := vacant.stale
  made l n there new := absurd (vacant.stale l n there) (Nat.not_lt.mpr new)
  plain := vacant.plain
  working := rfl

namespace Kept

/-- Nobody but a server that is bound makes a socket, or listens. -/
theorem amend (kept : Kept start steps x) (tree : x.host.tree.Amended x'.host.tree)
    (next : x'.host.nextListener = x.host.nextListener)
    (listening : ∀ n, x'.host.listeners.contains n = x'.servers.contains n)
    (servers : ∀ n s, x'.servers.find? n = some s → x.servers.find? n = some s) (st : Step) :
    Kept start (steps ++ [st]) x' where
  listening := listening
  numbered n s live := next ▸ kept.numbered n s (servers n s live)
  addressed n s live := kept.addressed n s (servers n s live)
  grown := next ▸ kept.grown
  sockets l n there := next ▸ kept.sockets l n (tree.socket there)
  made l n there new := by
    obtain ⟨s, own, made, only⟩ := kept.made l n (tree.socket there) new
    exact ⟨s, own, made.snoc st, fun s' live => only s' (servers n s' live)⟩
  plain := tree.plain kept.plain
  working := tree.working.trans kept.working

theorem bind (kept : Kept start steps (run start steps)) {p : Path} {h : Host}
    (bound : Server.bind p (run start steps).host = .ok (s, h)) :
    Kept start (steps ++ [.bind p]) ⟨h, (run start steps).servers.insert s.listener s⟩ := by
  have comes := Server.bind_ok bound
  have number := comes.number
  have next := comes.next
  have old : ∀ n s', n < s.listener →
      ((run start steps).servers.insert s.listener s).find? n = some s' →
      (run start steps).servers.find? n = some s' := by
    intro n s' less live
    rwa [Table.find?_insert, if_neg (Nat.ne_of_gt less)] at live
  constructor
  case listening =>
    intro n
    have before := kept.listening n
    simp only [Table.contains] at before ⊢
    rw [comes.listeners, ← number, Table.find?_insert, Table.find?_insert]
    split
    · rfl
    · exact before
  case numbered =>
    intro n s' live
    rw [Table.find?_insert] at live
    split at live
    · rename_i here
      cases live
      exact ⟨here, by rw [← here, number]; exact kept.grown, by rw [← here, number, next]; omega⟩
    · obtain ⟨same, new, less⟩ := kept.numbered n s' live
      exact ⟨same, new, by rw [next]; omega⟩
  case addressed =>
    intro n s' live
    rw [Table.find?_insert] at live
    split at live
    · cases live
      rw [comes.path]
      exact comes.sound
    · exact kept.addressed n s' live
  case grown => exact Nat.le_trans kept.grown (next ▸ Nat.le_succ _)
  case sockets =>
    intro l n there
    change n < h.nextListener
    rcases comes.socket there with before | ⟨new, _, _⟩
    · have := kept.sockets l n before
      omega
    · omega
  case made =>
    intro l n there new
    rcases comes.socket there with before | ⟨here, none, tree⟩
    · obtain ⟨s', own', made, only⟩ := kept.made l n before new
      have less := kept.sockets l n before
      exact ⟨s', own', made.snoc _, fun s'' live => only s'' (old n s'' (by omega) live)⟩
    · have path := comes.path
      refine ⟨s, here.symm, ⟨steps, [], h, by rw [path], path ▸ bound, none, tree⟩, ?_⟩
      intro s' live
      rw [here, Table.find?_insert_self] at live
      exact (Option.some.inj live).symm
  case plain => exact comes.plain kept.plain
  case working => exact comes.working.trans kept.working

theorem change (kept : Kept start steps x) {named : List Path} {f : Tree → Except Errno Tree}
    (amends : ∀ t, f x.host.tree = .ok t → (∀ p ∈ named, (0 : UInt8) ∉ p.bytes) →
      x.host.tree.Amended t) (st : Step) : Kept start (steps ++ [st]) (x.change named f) := by
  unfold Premises.change
  split
  · exact kept.amend .same rfl kept.listening (fun _ _ live => live) st
  · rename_i whole
    have whole : ∀ p ∈ named, (0 : UInt8) ∉ p.bytes := by
      simpa using whole
    split
    · exact kept.amend .same rfl kept.listening (fun _ _ live => live) st
    · rename_i t changed
      apply kept.amend
      · exact amends t changed whole
      · rfl
      · exact kept.listening
      · exact fun _ _ live => live

theorem drop (kept : Kept start steps x) (s : Server) (st : Step) :
    Kept start (steps ++ [st]) ⟨s.drop x.host, x.servers.erase s.listener⟩ := by
  obtain ⟨listeners, next⟩ := s.drop_alike x.host
  refine kept.amend ?_ next ?_ ?_ st
  · rw [Server.drop_tree]
    cases removed : x.host.tree.remove s.path with
    | error e => exact .same
    | ok t =>
      obtain ⟨spot, _, _, _, _, _, rfl⟩ := Tree.remove_ok removed
      exact .drop spot.location
  · intro n
    have before := kept.listening n
    simp only [Table.contains] at before ⊢
    rw [listeners, Table.find?_erase, Table.find?_erase]
    split
    · rfl
    · exact before
  · intro n s' live'
    rw [Table.find?_erase] at live'
    split at live'
    · cases live'
    · exact live'

theorem step (kept : Kept start steps (run start steps)) (st : Step) :
    Kept start (steps ++ [st]) ((run start steps).step st) := by
  have same : Kept start (steps ++ [st]) (run start steps) :=
    kept.amend .same rfl kept.listening (fun _ _ live => live) st
  cases st with
  | bind p =>
    simp only [Premises.step]
    split
    · exact same
    · rename_i bound
      exact kept.bind bound
  | drop n =>
    simp only [Premises.step]
    split
    · exact same
    · rename_i s live
      obtain ⟨rfl, _, _⟩ := kept.numbered n s live
      exact kept.drop s _
  | serve n =>
    simp only [Premises.step]
    split
    · exact same
    · rename_i served
      obtain ⟨s, live, served⟩ := Option.bind_eq_some_iff.mp served
      obtain ⟨tree, next, listening⟩ := Server.serveOne_alike served
      apply kept.amend
      · exact tree ▸ .same
      · exact next
      · exact fun n => (listening n).trans (kept.listening n)
      · exact fun _ _ live => live
  | connect p =>
    simp only [Premises.step]
    split
    · exact same
    · rename_i connected
      obtain ⟨n, _, same⟩ := Client.connect_ok connected
      cases same
      apply kept.amend
      · exact .same
      · rfl
      · intro j
        rw [← kept.listening j]
        simp [Table.contains, Table.find?_modify]
      · exact fun _ _ live => live
  | write p content =>
    rw [Premises.step]
    refine kept.change (fun t written whole => ?_) _
    obtain ⟨spot, names, among, located, _, rfl⟩ := Tree.write_ok written
    have uncut := Path.uncut_steps.mpr (whole p List.mem_cons_self)
    have named : Path.Uncut names := by
      intro n listed
      rcases among n listed with rfl | step
      · decide
      · exact uncut n step
    exact .put (kept.plain.location_of_locateAlong named located) (by simp) (by simp)
  | makeDirectory p =>
    rw [Premises.step]
    refine kept.change (fun t created whole => ?_) _
    obtain ⟨spot, located, _, _, rfl⟩ := Tree.create_ok created
    have uncut := Path.uncut_steps.mpr (whole p List.mem_cons_self)
    exact .put (kept.plain.location_of_locateAlong uncut located) (by simp) (by simp)
  | makeLink p target =>
    rw [Premises.step]
    refine kept.change (fun t created whole => ?_) _
    obtain ⟨spot, located, _, _, rfl⟩ := Tree.create_ok created
    have uncut := Path.uncut_steps.mpr (whole p List.mem_cons_self)
    refine .put (kept.plain.location_of_locateAlong uncut located) (by simp) fun target' same => ?_
    cases same
    exact whole target (by simp)
  | unlink p =>
    rw [Premises.step]
    refine kept.change (fun t removed _ => ?_) _
    obtain ⟨spot, _, _, _, _, _, rfl⟩ := Tree.remove_ok removed
    exact .drop spot.location

end Kept

theorem kept_run (vacant : start.Vacant) (steps : List Step) :
    Kept start steps (run start steps) := by
  induction steps using List.reverseRecOn with
  | nil => exact .initial vacant
  | append_singleton steps st ih =>
    rw [run_snoc]
    exact ih.step st

end Premises
end Wire
end Backdrop

import Mathlib
import Backdrop.Proofs.Wire.Premises

/-!
# Backdrop.Proofs.Wire.Tenure

Which path belongs to which server.

* `BindsAside`: a server is bound beside the entries that are there, never over one.
* `ConnectsTo`: a client waits at the live server whose binding made the entry that its path leads
  to, or it is told that nobody listens there.
* `untouched`: nobody changes what a path passes. Then the entry that a server made is still there
  when the server is dropped, and goes with it.
-/

namespace Backdrop

/-- A path that takes a plain file for a directory. -/
def Tree.Through (t : Tree) (p : Path) : Prop :=
  ∃ (q : Path) (rest content : List UInt8), t.inspect true q = .ok (.file content) ∧
    p.bytes = q.bytes ++ Path.separator :: rest

namespace Host

/-- A path that reaches a listener leads to the socket that was bound to it. -/
theorem reach_ok {p : Path} {n : Nat} {h : Host} (reached : h.reach p = .ok n) :
    addressFault? p = none ∧ h.listeners.contains n = true ∧
      ∃ l, h.tree.locate true p = .ok ⟨l, some (.socket n), false⟩ := by
  unfold reach at reached
  split at reached
  · cases reached
  rename_i sound
  split at reached
  · cases reached
  split at reached
  · cases reached
  · rename_i k found
    split at reached
    · rename_i listening
      cases reached
      obtain ⟨⟨l, node, ends⟩, located, there, only⟩ := Tree.inspect_ok found
      cases there
      refine ⟨sound, listening, l, ?_⟩
      cases ends with
      | false => exact located
      | true => cases only rfl
    · cases reached
  · cases reached

theorem reach_of_locate {p : Path} {n : Nat} {l : Location} {h : Host}
    (sound : addressFault? p = none)
    (located : h.tree.locate true p = .ok ⟨l, some (.socket n), false⟩)
    (listening : h.listeners.contains n = true) : h.reach p = .ok n := by
  have named : p.isEmpty = false := (Tree.locateAlong_ok_iff.mp located).1
  simp [reach, sound, named, Tree.inspect, located, listening]

/-- Nobody listens where a path leads: nothing is there, or what is there is no socket of anybody
who listens. -/
def Unheard (h : Host) (p : Path) : Prop :=
  h.tree.inspect true p = .error .noEntry ∨
    ∃ n, h.tree.inspect true p = .ok n ∧ ∀ k, n = .socket k → h.listeners.contains k = false

theorem reach_of_unheard {p : Path} {h : Host} (sound : addressFault? p = none)
    (named : p.isEmpty = false) (unheard : h.Unheard p) :
    h.reach p = .error (.os .noEntry) ∨ h.reach p = .error (.os .connectionRefused) := by
  unfold reach
  simp only [sound, named, Bool.false_eq_true, if_false]
  rcases unheard with none | ⟨n, there, silent⟩
  · rw [none]
    exact .inl rfl
  · rw [there]
    cases n with
    | socket k =>
      simp [silent k rfl]
    | file | directory | link => exact .inr rfl

theorem unheard_of_reach {p : Path} {h : Host} {e : IoError} (failed : h.reach p = .error e)
    (nobody : e = .os .noEntry ∨ e = .os .connectionRefused) : h.Unheard p := by
  unfold reach at failed
  split at failed
  · -- A path that names no socket fails in its own way.
    rename_i fault
    cases failed
    unfold addressFault? at fault
    rcases nobody with rfl | rfl <;> split at fault <;> simp at fault
  split at failed
  · cases failed
    exact absurd nobody (by decide)
  split at failed
  · rename_i e missed
    cases failed
    rcases nobody with same | same
    · cases same
      exact .inl missed
    · cases same
      exact absurd missed Tree.inspect_ne_refused
  · rename_i k there
    split at failed
    · cases failed
    · rename_i silent
      refine .inr ⟨_, there, fun k' same => ?_⟩
      cases same
      simpa using silent
  · rename_i n other there
    exact .inr ⟨n, there, fun k same => absurd same (other k)⟩

/-- A path that names no socket, and one through a plain file, leads to nobody. -/
theorem reach_of_barred {p : Path} {h : Host}
    (barred : p.isEmpty = true ∨ pathLimit ≤ p.length ∨ (0 : UInt8) ∈ p.bytes ∨ h.tree.Through p) :
    ∃ e, h.reach p = .error e ∧ e ≠ .os .noEntry ∧ e ≠ .os .connectionRefused := by
  unfold reach
  split
  · rename_i e fault
    refine ⟨e, rfl, ?_⟩
    unfold addressFault? at fault
    constructor <;> rintro rfl <;> split at fault <;> simp at fault
  rename_i sound
  split
  · exact ⟨_, rfl, by decide, by decide⟩
  rename_i named
  have whole : (0 : UInt8) ∉ p.bytes ∧ p.length < pathLimit := by
    unfold addressFault? at sound
    simp only [List.contains_iff_mem] at sound
    split at sound
    · cases sound
    split at sound
    · cases sound
    · exact ⟨‹_›, Nat.lt_of_not_le ‹_›⟩
  obtain empty | long | null | ⟨q, rest, content, found, below⟩ := barred
  · exact absurd empty named
  · exact absurd whole.2 (Nat.not_lt.mpr long)
  · exact absurd null whole.1
  · have short : p.length ≤ Tree.maxPath := Nat.le_trans (Nat.le_of_lt whole.2) (by decide)
    rw [Tree.inspect_barred found (Tree.leaf_file content) below short]
    exact ⟨_, rfl, by decide, by decide⟩

end Host

namespace Wire

/-- A path that has a name leads to the socket that was bound there, and to nothing before. -/
theorem Server.bind_leads {p : Path} {s : Server} {h h' : Host} (named : p.isEmpty = false)
    (bound : bind p h = .ok (s, h')) :
    ∃ l, h.tree.locate false p = .ok ⟨l, none, false⟩ ∧
      h'.tree = h.tree.put l (.socket s.listener) ∧
      h'.tree.locate false p = .ok ⟨l, some (.socket s.listener), false⟩ := by
  have comes := bind_ok bound
  obtain ⟨empty, _⟩ | ⟨l, free, tree⟩ := comes.entry
  · rw [named] at empty
    cases empty
  · rw [← comes.number] at tree
    refine ⟨l, free, tree, ?_⟩
    rw [tree]
    exact Tree.locate_put_socket free false _

/-- Whoever connects where nobody listens is told so. -/
theorem Client.connect_of_unheard {p : Path} {h : Host} (sound : Host.addressFault? p = none)
    (named : p.isEmpty = false) (unheard : h.Unheard p) :
    connect p h = .error (.daemonNotRunning p) := by
  rcases Host.reach_of_unheard sound named unheard with failed | failed <;>
    simp [connect, Host.connect, failed, connectFailure]

namespace Premises

variable {start : Host} {steps : List Step} {x : Premises} {s : Server} {p : Path} {l : Location}

/-! ## Binding -/

/-- Binding at a path adds one entry, a socket, and only where nothing is. -/
structure BindsAside (x : Premises) (p : Path) : Prop where
  taken : ∀ n, x.host.tree.inspect false p = .ok n →
    Server.bind p x.host = .error (.socketInUse p)
  /-- A name that is taken is refused, also where a separator behind it hides what it is. -/
  occupied : ∀ spot, x.host.tree.locate false p = .ok spot → spot.node ≠ none →
    ∃ e, Server.bind p x.host = .error e
  refused : ∀ e, Server.bind p x.host = .error e → x.step (.bind p) = x
  bound : ∀ s h, Server.bind p x.host = .ok (s, h) →
    ∃ l, x.host.tree.locate false p = .ok ⟨l, none, false⟩ ∧ x.host.tree.node? l = none ∧
      x.host.tree.inspect false p = .error .noEntry ∧
      h.tree = { x.host.tree with entries := x.host.tree.entries ++ [(l, .socket s.listener)] }
  free : Host.addressFault? p = none → ∀ l, x.host.tree.locate false p = .ok ⟨l, none, false⟩ →
    ∃ s h, Server.bind p x.host = .ok (s, h)

theorem Kept.listens (kept : Kept start steps x) (live : x.servers.find? s.listener = some s) :
    x.host.listeners.contains s.listener = true := by
  rw [kept.listening, Table.contains, live]
  rfl

theorem Kept.bindsAside (kept : Kept start steps x) (named : p.isEmpty = false) :
    BindsAside x p where
  taken n there := Server.bind_taken kept.plain there
  occupied spot located some := by
    cases bound : Server.bind p x.host with
    | error e => exact ⟨e, rfl⟩
    | ok r =>
      obtain ⟨l, free, _⟩ := Server.bind_leads named bound
      rw [free] at located
      cases located
      exact absurd rfl some
  refused e bound := by rw [Premises.step, bound]
  bound s h bound := by
    obtain ⟨l, located, tree, _⟩ := Server.bind_leads named bound
    obtain ⟨_, free⟩ := Tree.node?_of_locate located Tree.leaf_none.1
    refine ⟨l, located, free, Tree.inspect_missing located, ?_⟩
    rw [tree, ← Tree.entries_put free]
    rfl
  free sound l located := Server.bind_free sound located

/-! ## Connecting -/

structure ConnectsTo (start : Host) (steps : List Step) (x : Premises) (p : Path) : Prop where
  /-- Of all who listen only the server that made the entry gets the client. -/
  queued : ∀ c h, Client.connect p x.host = .ok (c, h) →
    ∃ s l, x.servers.find? s.listener = some s ∧ Made start steps s l ∧
      x.host.tree.locate true p = .ok ⟨l, some (.socket s.listener), false⟩ ∧
      h.tree = x.host.tree ∧ c = x.host.nextConnection ∧
      ∀ n, h.listeners.find? n =
        (x.host.listeners.find? n).map fun cs => if n = s.listener then cs ++ [c] else cs
  heard : Host.addressFault? p = none → ∀ s l, x.servers.find? s.listener = some s →
    x.host.tree.locate true p = .ok ⟨l, some (.socket s.listener), false⟩ →
    ∃ c h, Client.connect p x.host = .ok (c, h)
  failed : ∀ e, Client.connect p x.host = .error e → x.step (.connect p) = x ∧
    (e = .daemonNotRunning p ∧ x.host.Unheard p ∨ ∃ cause, e = .io cause)
  unheard : p.isEmpty = false → p.length < Host.pathLimit → (0 : UInt8) ∉ p.bytes →
    x.host.Unheard p → Client.connect p x.host = .error (.daemonNotRunning p)
  barred : p.isEmpty = true ∨ Host.pathLimit ≤ p.length ∨ (0 : UInt8) ∈ p.bytes ∨
    x.host.tree.Through p →
    ∃ cause, Client.connect p x.host = .error (.io cause)

theorem Kept.connectsTo (kept : Kept start steps x) (p : Path) : ConnectsTo start steps x p where
  queued c h connected := by
    obtain ⟨n, reached, same⟩ := Client.connect_ok connected
    obtain ⟨_, listening, l, located⟩ := Host.reach_ok reached
    rw [kept.listening] at listening
    obtain ⟨s, live⟩ := Option.isSome_iff_exists.mp listening
    obtain ⟨own, new, _⟩ := kept.numbered n s live
    obtain ⟨_, there⟩ := Tree.node?_of_locate located (Tree.leaf_socket n).1
    obtain ⟨s', _, made, only⟩ := kept.made l n there new
    cases only s live
    cases own
    cases same
    exact ⟨s, l, live, made, located, rfl, rfl, fun n => by simp [Table.find?_modify]⟩
  heard sound s l live located := by
    rw [Client.connect, Host.connect, Host.reach_of_locate sound located (kept.listens live)]
    exact ⟨_, _, rfl⟩
  failed e refused := by
    refine ⟨by rw [Premises.step, refused], ?_⟩
    cases reached : x.host.reach p with
    | ok n =>
      rw [Client.connect, Host.connect, reached] at refused
      cases refused
    | error cause =>
      rw [Client.connect, Host.connect, reached] at refused
      cases refused
      unfold Client.connectFailure
      split
      · rename_i nobody
        exact .inl ⟨rfl, Host.unheard_of_reach reached nobody⟩
      · exact .inr ⟨cause, rfl⟩
  unheard named short whole unheard := by
    have sound : Host.addressFault? p = none := by
      simp [Host.addressFault?, whole, Nat.not_le.mpr short]
    exact Client.connect_of_unheard sound named unheard
  barred barred := by
    obtain ⟨cause, failed, missing, refused⟩ := Host.reach_of_barred barred
    exact ⟨cause, by simp [Client.connect, Host.connect, Client.connectFailure, *]⟩

/-! ## Leaving -/

/-- The step changes nothing that a path passes, and the server does not leave with it. -/
def spares (p : Path) (n : Nat) (x : Premises) (st : Step) : Bool :=
  st != .drop n &&
    (x.host.tree.wayTo p).all fun l => (x.step st).host.tree.node? l == x.host.tree.node? l

/-- Nobody changes what a path passes while a server lives. -/
def untouched (p : Path) (n : Nat) : Premises → List Step → Bool
  | _, [] => true
  | x, st :: rest => spares p n x st && untouched p n (x.step st) rest

theorem spares_iff {n : Nat} {st : Step} : spares p n x st = true ↔
    st ≠ .drop n ∧
      ∀ l ∈ x.host.tree.wayTo p, (x.step st).host.tree.node? l = x.host.tree.node? l := by
  simp [spares]

theorem Kept.lives (kept : Kept start steps x) {n : Nat} (live : x.servers.find? n = some s)
    {st : Step} (other : st ≠ .drop n) : (x.step st).servers.find? n = some s := by
  cases st with
  | bind p =>
    simp only [Premises.step]
    split
    · exact live
    · rename_i s' h bound
      obtain ⟨rfl, _, _, _, _⟩ := Server.bind_ok bound
      have older := (kept.numbered n s live).2.2
      rwa [Table.find?_insert, if_neg (Nat.ne_of_gt older)]
  | drop k =>
    simp only [Premises.step]
    split
    · exact live
    · rwa [Table.find?_erase, if_neg fun same : k = n => other (same ▸ rfl)]
  | serve k | connect p =>
    simp only [Premises.step]
    split <;> exact live
  | write p content | makeDirectory p | makeLink p target | unlink p =>
    simp only [Premises.step, Premises.change]
    split
    · exact live
    · split <;> exact live

/-- The path leads where it led, and the server still lives. -/
theorem located_of_untouched (vacant : start.Vacant) {spot : Tree.Spot} {n : Nat}
    {between : List Step} (live : (run start steps).servers.find? n = some s)
    (located : (run start steps).host.tree.locate false p = .ok spot)
    (aside : untouched p n (run start steps) between = true) :
    (run start (steps ++ between)).servers.find? n = some s ∧
      (run start (steps ++ between)).host.tree.locate false p = .ok spot := by
  induction between generalizing steps with
  | nil => simpa using ⟨live, located⟩
  | cons st rest ih =>
    obtain ⟨spared, aside⟩ := Bool.and_eq_true_iff.mp aside
    obtain ⟨other, same⟩ := spares_iff.mp spared
    have kept := kept_run vacant steps
    have working := (kept.step st).working.trans kept.working.symm
    rw [List.append_cons]
    rw [← run_snoc] at aside
    refine ih ?_ ?_ aside
    · rw [run_snoc]
      exact kept.lives live other
    · rw [run_snoc, Tree.locate_congr working same]
      exact located

/-- A server that leaves takes the entry with it that its binding made, and nothing else. Then its
path is free. -/
structure Leaves (start : Host) (steps : List Step) (x : Premises) (s : Server) (l : Location) :
    Prop where
  live : x.servers.find? s.listener = some s
  made : Made start steps s l
  there : x.host.tree.locate false s.path = .ok ⟨l, some (.socket s.listener), false⟩
  /-- Until then clients find it. -/
  reached : x.host.reach s.path = .ok s.listener
  gone : (x.step (.drop s.listener)).host.tree = x.host.tree.drop l
  missing : (x.step (.drop s.listener)).host.tree.inspect false s.path = .error .noEntry
  again : ∃ s' h, Server.bind s.path (x.step (.drop s.listener)).host = .ok (s', h)

theorem Kept.leaves (kept : Kept start steps x) (live : x.servers.find? s.listener = some s)
    (there : x.host.tree.locate false s.path = .ok ⟨l, some (.socket s.listener), false⟩)
    (made : Made start steps s l) : Leaves start steps x s l := by
  have leaf := Tree.leaf_socket s.listener
  have sound := kept.addressed _ s live
  have removed := Tree.remove_of_locate there rfl (by simp) rfl
  have gone : (x.step (.drop s.listener)).host.tree = x.host.tree.drop l := by
    simp only [Premises.step, live]
    rw [Server.drop_tree, removed]
    rfl
  have vacated : (x.step (.drop s.listener)).host.tree.locate false s.path =
      .ok ⟨l, none, false⟩ := by
    rw [gone]
    exact Tree.locate_drop there leaf
  exact ⟨live, made, there, Host.reach_of_locate sound (Tree.locate_true there leaf)
    (kept.listens live), gone, Tree.inspect_missing vacated, Server.bind_free sound vacated⟩

theorem leaves_of_untouched (vacant : start.Vacant) {before between : List Step} {h : Host}
    (named : p.isEmpty = false) (bound : Server.bind p (run start before).host = .ok (s, h))
    (aside : untouched p s.listener (run start (before ++ [.bind p])) between = true) :
    ∃ l, Leaves start (before ++ .bind p :: between)
      (run start (before ++ .bind p :: between)) s l := by
  obtain rfl := (Server.bind_ok bound).path
  obtain ⟨l, free, tree, leads⟩ := Server.bind_leads named bound
  have none := (Tree.node?_of_locate free Tree.leaf_none.1).2
  have first : run start (before ++ [.bind s.path]) =
      ⟨h, (run start before).servers.insert s.listener s⟩ := by
    rw [run_snoc, Premises.step, bound]
  have entered : (run start (before ++ [.bind s.path])).servers.find? s.listener = some s := by
    rw [first]
    exact Table.find?_insert_self _ _ s
  -- The path leads to the new socket, from the binding to the end.
  obtain ⟨live, there⟩ := located_of_untouched vacant entered (by rwa [first]) aside
  rw [List.append_assoc, List.singleton_append] at live there
  exact ⟨l, (kept_run vacant _).leaves live there ⟨before, between, h, rfl, bound, none, tree⟩⟩

/-! ## Every run -/

/-- Who has which path. -/
structure Tenure (start : Host) (steps : List Step) (x : Premises) : Prop where
  aside : ∀ p : Path, p.isEmpty = false → BindsAside x p
  connects : ∀ p, ConnectsTo start steps x p
  leaves : ∀ before p between s h, steps = before ++ .bind p :: between → p.isEmpty = false →
    Server.bind p (run start before).host = .ok (s, h) →
    untouched p s.listener (run start (before ++ [.bind p])) between = true →
    ∃ l, Leaves start steps x s l

/-- No server takes over a path that something is at, whoever connects is queued at the server whose
entry the path leads to, and a server whose path nobody touches leaves nothing behind. -/
theorem tenure_run (vacant : start.Vacant) (steps : List Step) :
    Tenure start steps (run start steps) where
  aside _ named := (kept_run vacant steps).bindsAside named
  connects p := (kept_run vacant steps).connectsTo p
  leaves before p between s h split named bound aside := by
    subst split
    exact leaves_of_untouched vacant named bound aside

/-- A server comes and goes beside another one. A link that leads nowhere is not bound over. -/
def visits : List Step :=
  [.makeLink ⟨[108]⟩ ⟨[103]⟩, .bind ⟨[119]⟩, .bind ⟨[108]⟩, .connect ⟨[119]⟩, .bind ⟨[118]⟩,
    .drop 1]

theorem tenure_run_visits : (Host.ofTree (.bare [])).Vacant ∧
    Tenure (.ofTree (.bare [])) visits (run (.ofTree (.bare [])) visits) ∧
    ∃ s l, Leaves (.ofTree (.bare [])) visits (run (.ofTree (.bare [])) visits) s l := by
  have tenure := tenure_run Host.vacant_bare visits
  have bound : (Server.bind ⟨[119]⟩ (run (.ofTree (.bare [])) (visits.take 1)).host).toOption.map
      (·.1) = some ⟨⟨[119]⟩, 0⟩ := by cbv
  have aside : untouched ⟨[119]⟩ 0 (run (.ofTree (.bare [])) (visits.take 2)) (visits.drop 2) =
      true := by cbv
  cases binds : Server.bind ⟨[119]⟩ (run (.ofTree (.bare [])) (visits.take 1)).host with
  | error e =>
    rw [binds] at bound
    cases bound
  | ok r =>
    obtain ⟨s, h⟩ := r
    rw [binds] at bound
    cases bound
    exact ⟨Host.vacant_bare, tenure, _, tenure.leaves (visits.take 1) _ _ _ h rfl rfl binds aside⟩

end Premises
end Wire
end Backdrop

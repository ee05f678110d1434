import Backdrop.Proofs.Wire.Tenure

/-!
# Backdrop.Proofs.Wire.Departure

What a server takes away when it is dropped. It knows its socket by the path alone.

* `Departs`: the entry goes that the path names at that moment, whoever made it.
* `Superseded`: that entry is somebody else's. Only then does a server take away what is not its
  own, and another server that was bound there is cut off (`replaced_cut_off`).
-/

namespace Backdrop
namespace Wire
namespace Premises

variable {start : Host} {steps : List Step} {x : Premises} {s : Server} {p : Path} {l : Location}

/-- The path of a server names what somebody else has put there. -/
def Superseded (x : Premises) (s : Server) : Prop :=
  ∃ l n, x.host.tree.locate false s.path = .ok ⟨l, some n, false⟩ ∧ n ≠ .directory ∧
    n ≠ .socket s.listener

structure Departs (start : Host) (steps : List Step) (x : Premises) (s : Server) : Prop where
  /-- What the path names goes, unless it is a directory, and nothing else. -/
  gone : ∀ l, (x.step (.drop s.listener)).host.tree.node? l ≠ x.host.tree.node? l ↔
    ∃ n, x.host.tree.locate false s.path = .ok ⟨l, some n, false⟩ ∧ n ≠ .directory
  /-- It is the socket that this server's own binding made, unless the path names another entry. -/
  own : ¬ Superseded x s ↔
    ∀ l, (x.step (.drop s.listener)).host.tree.node? l ≠ x.host.tree.node? l →
      x.host.tree.node? l = some (.socket s.listener) ∧ Made start steps s l
  /-- Then the other servers live on, and are reached as before. -/
  others : ¬ Superseded x s → ∀ s', s' ≠ s → x.servers.find? s'.listener = some s' →
    (x.step (.drop s.listener)).servers.find? s'.listener = some s' ∧
      (x.step (.drop s.listener)).host.listeners.find? s'.listener =
        x.host.listeners.find? s'.listener ∧
      ∀ p, x.host.reach p = .ok s'.listener →
        (x.step (.drop s.listener)).host.reach p = .ok s'.listener
  /-- A server that was bound there meanwhile lives on too, but nobody finds it there any more. -/
  cutOff : ∀ s', s' ≠ s → x.servers.find? s'.listener = some s' → ∀ l,
    x.host.tree.locate false s.path = .ok ⟨l, some (.socket s'.listener), false⟩ →
    (x.step (.drop s.listener)).servers.find? s'.listener = some s' ∧
      Client.connect s.path (x.step (.drop s.listener)).host = .error (.daemonNotRunning s.path)
  /-- It does not come to this while nobody changes what the path passes. -/
  untouched : ∀ before between h, steps = before ++ .bind s.path :: between →
    s.path.isEmpty = false → Server.bind s.path (run start before).host = .ok (s, h) →
    untouched s.path s.listener (run start (before ++ [.bind s.path])) between = true →
    ¬ Superseded x s

/-- What becomes of the tree when a live server is dropped. -/
theorem tree_drop (live : x.servers.find? s.listener = some s) :
    (∃ l n, x.host.tree.locate false s.path = .ok ⟨l, some n, false⟩ ∧ n ≠ .directory ∧
      (x.step (.drop s.listener)).host.tree = x.host.tree.drop l) ∨
    (∀ l n, x.host.tree.locate false s.path = .ok ⟨l, some n, false⟩ → n = .directory) ∧
      (x.step (.drop s.listener)).host.tree = x.host.tree := by
  simp only [Premises.step, live, Server.drop_tree]
  cases removed : x.host.tree.remove s.path with
  | ok t =>
    obtain ⟨spot, n, located, there, no, plain, rfl⟩ := Tree.remove_ok removed
    refine .inl ⟨spot.location, n, ?_, no, rfl⟩
    rw [located, ← there, ← plain]
  | error e =>
    refine .inr ⟨fun l n located => ?_, rfl⟩
    refine Decidable.byContradiction fun no => ?_
    rw [Tree.remove_of_locate located rfl no rfl] at removed
    cases removed

theorem node?_drop_iff (live : x.servers.find? s.listener = some s) (l : Location) :
    (x.step (.drop s.listener)).host.tree.node? l ≠ x.host.tree.node? l ↔
      ∃ n, x.host.tree.locate false s.path = .ok ⟨l, some n, false⟩ ∧ n ≠ .directory := by
  rcases tree_drop live with ⟨l', n, located, no, gone⟩ | ⟨none, same⟩
  · obtain ⟨below, there⟩ := Tree.node?_of_locate located (by simpa using no)
    rw [gone]
    constructor
    · intro changed
      obtain rfl : l = l' := Decidable.byContradiction fun other =>
        changed (Tree.node?_drop_ne _ other)
      exact ⟨n, located, no⟩
    · rintro ⟨m, here, _⟩
      rw [located] at here
      cases here
      rw [Tree.node?_drop_self _ below, there]
      simp
  · rw [same]
    constructor
    · exact fun changed => absurd rfl changed
    · rintro ⟨n, located, no⟩
      exact absurd (none l n located) no

theorem apart_of_live {s' : Server} (live : x.servers.find? s.listener = some s) (other : s' ≠ s)
    (live' : x.servers.find? s'.listener = some s') : s'.listener ≠ s.listener := by
  intro same
  rw [same, live] at live'
  exact other (Option.some.inj live').symm

/-- The others live on and keep those who wait at them. -/
theorem others_drop (live : x.servers.find? s.listener = some s) {n : Nat}
    (other : n ≠ s.listener) :
    (x.step (.drop s.listener)).servers.find? n = x.servers.find? n ∧
      (x.step (.drop s.listener)).host.listeners.find? n = x.host.listeners.find? n := by
  simp only [Premises.step, live]
  rw [(s.drop_alike x.host).1, Table.find?_erase, Table.find?_erase, if_neg other.symm,
    if_neg other.symm]
  exact ⟨rfl, rfl⟩

/-- A path to the socket of another server leads there still, if what goes is the server's own. -/
theorem reach_drop (live : x.servers.find? s.listener = some s) (own : ¬ Superseded x s) {n : Nat}
    (other : n ≠ s.listener) (reached : x.host.reach p = .ok n) :
    (x.step (.drop s.listener)).host.reach p = .ok n := by
  obtain ⟨sound, listening, l, located⟩ := Host.reach_ok reached
  have listening' : (x.step (.drop s.listener)).host.listeners.contains n = true := by
    rw [Table.contains, (others_drop live other).2]
    exact listening
  refine Host.reach_of_locate sound (l := l) ?_ listening'
  rcases tree_drop live with ⟨l', m, named, no, gone⟩ | ⟨_, same⟩
  · obtain rfl : m = .socket s.listener := Decidable.byContradiction fun foreign =>
      own ⟨l', m, named, no, foreign⟩
    obtain ⟨_, there⟩ := Tree.node?_of_locate located (Tree.leaf_socket n).1
    obtain ⟨_, there'⟩ := Tree.node?_of_locate named (Tree.leaf_socket _).1
    -- Only a socket goes, and not the one at the end of the path.
    have apart : l ≠ l' := by
      rintro rfl
      rw [there] at there'
      cases there'
      exact other rfl
    rw [gone]
    exact Tree.locate_drop_ne located (Tree.leaf_socket n) apart (there' ▸ Tree.leaf_socket _)
  · rw [same]
    exact located

/-- The path names the socket that the server's own binding made, or no entry that could go. -/
theorem own_iff (kept : Kept start steps x) (live : x.servers.find? s.listener = some s) :
    ¬ Superseded x s ↔
      ∀ l, (x.step (.drop s.listener)).host.tree.node? l ≠ x.host.tree.node? l →
        x.host.tree.node? l = some (.socket s.listener) ∧ Made start steps s l := by
  constructor
  · intro own l changed
    obtain ⟨n, located, no⟩ := (node?_drop_iff live l).mp changed
    obtain rfl : n = .socket s.listener := Decidable.byContradiction fun foreign =>
      own ⟨l, n, located, no, foreign⟩
    obtain ⟨_, there⟩ := Tree.node?_of_locate located (Tree.leaf_socket _).1
    obtain ⟨s', _, made, only⟩ := kept.made l s.listener there (kept.numbered _ s live).2.1
    exact ⟨there, only s live ▸ made⟩
  · rintro own ⟨l, n, located, no, foreign⟩
    obtain ⟨there', _⟩ := own l ((node?_drop_iff live l).mpr ⟨n, located, no⟩)
    obtain ⟨_, there⟩ := Tree.node?_of_locate located (by simpa using no)
    rw [there'] at there
    exact foreign (Option.some.inj there).symm

/-- Whatever socket the path names, nobody is found there afterwards. -/
theorem connect_drop (kept : Kept start steps x) (live : x.servers.find? s.listener = some s)
    {n : Nat} (located : x.host.tree.locate false s.path = .ok ⟨l, some (.socket n), false⟩) :
    Client.connect s.path (x.step (.drop s.listener)).host = .error (.daemonNotRunning s.path) := by
  have named : s.path.isEmpty = false := (Tree.locateAlong_ok_iff.mp located).1
  refine Client.connect_of_unheard (kept.addressed _ s live) named (.inl ?_)
  rcases tree_drop live with ⟨l', m, found, no, gone⟩ | ⟨none, _⟩
  · rw [located] at found
    cases found
    have vacated := Tree.locate_drop located (Tree.leaf_socket n)
    rw [gone]
    simp [Tree.inspect, Tree.locate_true vacated Tree.leaf_none]
  · cases none l _ located

theorem departs (vacant : start.Vacant) (steps : List Step)
    (live : (run start steps).servers.find? s.listener = some s) :
    Departs start steps (run start steps) s where
  gone := node?_drop_iff live
  own := own_iff (kept_run vacant steps) live
  others own s' other live' := by
    have apart := apart_of_live live other live'
    obtain ⟨servers, listeners⟩ := others_drop live apart
    exact ⟨servers ▸ live', listeners, fun p reached => reach_drop live own apart reached⟩
  cutOff s' other live' l located := by
    have apart := apart_of_live live other live'
    exact ⟨(others_drop live apart).1 ▸ live', connect_drop (kept_run vacant steps) live located⟩
  untouched := by
    rintro before between h rfl named bound aside ⟨l, n, located, _, foreign⟩
    obtain ⟨l', leaves⟩ := leaves_of_untouched vacant named bound aside
    rw [leaves.there] at located
    cases located
    exact foreign rfl

/-- A server, an outsider who unlinks its socket, and a second server that is bound at the same
path. -/
def replaced : List Step := [.bind ⟨[119]⟩, .unlink ⟨[119]⟩, .bind ⟨[119]⟩]

theorem departs_replaced : (Host.ofTree (.bare [])).Vacant ∧
    (run (.ofTree (.bare [])) replaced).servers.find? 1 = some ⟨⟨[119]⟩, 1⟩ ∧
    Departs (.ofTree (.bare [])) replaced (run (.ofTree (.bare [])) replaced) ⟨⟨[119]⟩, 1⟩ :=
  have live : (run (.ofTree (.bare [])) replaced).servers.find? 1 = some ⟨⟨[119]⟩, 1⟩ := by cbv
  ⟨Host.vacant_bare, live, departs Host.vacant_bare replaced live⟩

/-- When the first of the two leaves it takes away the socket of the second, which lives on and is
found by nobody. -/
theorem replaced_cut_off :
    (run (.ofTree (.bare [])) replaced).servers.find? 0 = some ⟨⟨[119]⟩, 0⟩ ∧
    (run (.ofTree (.bare [])) replaced).host.tree.node? [[119]] = some (.socket 1) ∧
    (run (.ofTree (.bare [])) replaced).host.reach ⟨[119]⟩ = .ok 1 ∧
    (run (.ofTree (.bare [])) (replaced ++ [.drop 0])).host.tree.node? [[119]] = none ∧
    (run (.ofTree (.bare [])) (replaced ++ [.drop 0])).servers.find? 1 = some ⟨⟨[119]⟩, 1⟩ ∧
    (run (.ofTree (.bare [])) (replaced ++ [.drop 0])).host.reach ⟨[119]⟩ =
      .error (.os .noEntry) := by
  refine ⟨?_, ?_, ?_, ?_, ?_, ?_⟩ <;> cbv

end Premises
end Wire
end Backdrop

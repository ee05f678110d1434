import Backdrop.Host.Sockets
import Backdrop.Proofs.Host.Change
import Backdrop.Proofs.Table

/-!
# Backdrop.Proofs.Host.Sockets

Who can be reached, and what an operation on one connection leaves alone.

* `Host.reach_listen`: whoever listens at a path is reached by it.
* `Host.AllBut c h h'`: the second host is the first but for what connection `c` carries.
-/

namespace Backdrop

/-! ## Paths to new entries -/

namespace Tree

/-- A socket that was made at a path is found there. -/
theorem inspect_create {t t' : Tree} {p : Path} {k : Nat}
    (created : t.create p (.socket k) = .ok t') : t'.inspect true p = .ok (.socket k) := by
  obtain ⟨spot, located, free, plain, rfl⟩ := create_ok created
  have plain : spot.slash = false := by simpa using plain
  have here : t.locate false p = .ok ⟨spot.location, none, spot.slash⟩ := by
    rw [located, ← free]
  simp [inspect, locate_put_socket here, plain]

end Tree

namespace Host

variable {c : Nat} {h h' : Host}

/-! ## Who can be reached -/

/-- It depends on the tree and on who listens. -/
theorem reach_congr {p : Path} {listener : Nat} (reached : h.reach p = .ok listener)
    (tree : h'.tree = h.tree)
    (listening : h'.listeners.contains listener = h.listeners.contains listener) :
    h'.reach p = .ok listener := by
  unfold reach at reached ⊢
  rw [tree]
  split at reached
  · cases reached
  · split at reached
    · cases reached
    · rename_i absolute
      rw [if_neg absolute]
      split at reached
      · cases reached
      · split at reached
        · cases reached
          rename_i there
          simp [listening, there]
        · cases reached
      · cases reached

/-- Whoever listens at a path is reached by it. -/
theorem reach_listen {p : Path} {listener : Nat} (named : p.isEmpty = false)
    (listens : h.listen p = .ok (listener, h')) : h'.reach p = .ok listener := by
  unfold listen at listens
  split at listens
  · cases listens
  rename_i sound
  rw [named, if_neg Bool.false_ne_true] at listens
  split at listens <;> cases listens
  rename_i t created
  simp [reach, sound, named, Tree.inspect_create created, Table.contains]

/-! ## One connection -/

/-- The second host is the first but for what one connection carries. -/
structure AllBut (c : Nat) (h h' : Host) : Prop where
  tree : h'.tree = h.tree
  listeners : h'.listeners = h.listeners
  next : h'.nextConnection = h.nextConnection
  others : ∀ c', c' ≠ c → h'.connections.find? c' = h.connections.find? c'

namespace AllBut

theorem refl (c : Nat) (h : Host) : AllBut c h h := ⟨rfl, rfl, rfl, fun _ _ => rfl⟩

theorem modifyConnection (c : Nat) (f : Wire.Stream → Wire.Stream) (h : Host) :
    AllBut c h (h.modifyConnection c f) where
  tree := rfl
  listeners := rfl
  next := rfl
  others := by
    intro c' hc
    simp [Host.modifyConnection, Table.find?_modify, hc]

theorem onConnection {α : Type} (c : Nat) (gone : α) (f : Wire.Stream → α × Wire.Stream)
    (h : Host) : AllBut c h (h.onConnection c gone f).2 := by
  unfold Host.onConnection
  split
  · exact refl c h
  · refine ⟨rfl, rfl, rfl, fun c' hc => ?_⟩
    simp [Table.find?_insert, hc.symm]

end AllBut

theorem find?_onConnection {α : Type} {s : Wire.Stream}
    (found : h.connections.find? c = some s) (gone : α) (f : Wire.Stream → α × Wire.Stream) :
    (h.onConnection c gone f).1 = (f { s with log := [] }).1 ∧
      (h.onConnection c gone f).2.connections.find? c =
        some { (f { s with log := [] }).2 with log := [] } := by
  simp [onConnection, found]

/-! ## Who listens -/

/-- Nobody listens on a host, and the sockets of its tree are left over. -/
structure Vacant (h : Host) : Prop where
  silent : ∀ n, h.listeners.find? n = none
  stale : ∀ l n, h.tree.node? l = some (.socket n) → n < h.nextListener
  plain : h.tree.Plain

theorem vacant_bare : (ofTree (.bare [])).Vacant := by
  have root : ∀ l n, (Tree.bare []).node? l = some n → l = [] ∧ n = .directory := by
    intro l n there
    unfold Tree.node? at there
    split at there
    · exact ⟨List.isEmpty_iff.mp ‹_›, (Option.some.inj there).symm⟩
    · cases there
  refine ⟨fun _ => rfl, ?_, Path.uncut_nil, ?_, ?_⟩
  · intro l n there
    cases (root _ _ there).2
  · intro l n there
    rw [(root _ _ there).1]
    exact Path.uncut_nil
  · intro l target there
    cases (root _ _ there).2

/-- The second host differs from the first in its connections and in what was noted. -/
structure Alike (h h' : Host) : Prop where
  tree : h'.tree = h.tree
  listeners : h'.listeners = h.listeners
  next : h'.nextListener = h.nextListener

theorem hangUp_alike (n : Nat) (h : Host) :
    Alike { h with listeners := h.listeners.erase n } (h.hangUp n) := by
  have closed : ∀ (cs : List Nat) (h : Host),
      Alike h (cs.foldl (fun h c => h.modifyConnection c Wire.Stream.closeReader) h) := by
    intro cs
    induction cs with
    | nil => exact fun h => ⟨rfl, rfl, rfl⟩
    | cons c cs ih =>
      intro h
      obtain ⟨tree, listeners, next⟩ := ih (h.modifyConnection c Wire.Stream.closeReader)
      exact ⟨tree, listeners, next⟩
  unfold hangUp
  split
  · rename_i none
    refine ⟨rfl, ?_, rfl⟩
    refine Table.ext_find? fun j => ?_
    rw [Table.find?_erase]
    split
    · rename_i here
      rw [← here, none]
    · rfl
  · exact closed _ _

theorem onConnection_alike {α : Type} (c : Nat) (gone : α) (f : Wire.Stream → α × Wire.Stream)
    (h : Host) : Alike h (h.onConnection c gone f).2 := by
  unfold onConnection
  split <;> exact ⟨rfl, rfl, rfl⟩

end Host
end Backdrop

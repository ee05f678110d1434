import Backdrop.Proofs.Host.Path
import Backdrop.Host.Tree

/-!
# Backdrop.Proofs.Host.Way

Where walks along names come to, and what it depends on.

* `Tree.way` lists the places that a walk looks at. What is elsewhere does not matter
  (`walk_congr`).
* `Tree.walk_leaf`: a walk that comes to a socket, to a file or to nothing comes there as long as
  the directories and the links stay, whatever else is made or removed.
* `Tree.walk_barred`: no walk goes on from a file or a socket.
* `Tree.Plain`: the names of a tree and its links have no null byte in them, so that a path with one
  leads to no entry.
-/

namespace Backdrop
namespace Tree

/-! ## Entries -/

theorem lookup_filter_self (es : List (Location × Node)) (l : Location) :
    (es.filter fun e => e.1 != l).lookup l = none := by
  rw [List.lookup_eq_none_iff]
  intro e he
  have other := (List.mem_filter.mp he).2
  simp only [bne_iff_ne, ne_eq] at other ⊢
  exact Ne.symm other

theorem lookup_filter_ne (es : List (Location × Node)) {l l' : Location} (other : l' ≠ l) :
    (es.filter fun e => e.1 != l).lookup l' = es.lookup l' := by
  induction es with
  | nil => rfl
  | cons e es ih =>
    obtain ⟨k, v⟩ := e
    by_cases here : k = l
    · subst here
      have differs : (l' == k) = false := by simpa using other
      simp [List.lookup_cons, differs, ih]
    · simp [here, List.lookup_cons, ih]

theorem node?_put_self (t : Tree) {l : Location} (below : l ≠ []) (n : Node) :
    (t.put l n).node? l = some n := by
  simp [node?, put, below, List.lookup_append, lookup_filter_self]

theorem node?_put_ne (t : Tree) {l l' : Location} (other : l' ≠ l) (n : Node) :
    (t.put l n).node? l' = t.node? l' := by
  have differs : (l' == l) = false := by simpa using other
  simp [node?, put, List.lookup_append, lookup_filter_ne _ other, List.lookup_cons, differs]

theorem node?_drop_self (t : Tree) {l : Location} (below : l ≠ []) :
    (t.drop l).node? l = none := by
  simp [node?, drop, below, lookup_filter_self]

theorem node?_drop_ne (t : Tree) {l l' : Location} (other : l' ≠ l) :
    (t.drop l).node? l' = t.node? l' := by
  simp [node?, drop, lookup_filter_ne _ other]

/-- What is put where nothing was stands behind the other entries. -/
theorem entries_put {t : Tree} {l : Location} (free : t.node? l = none) (n : Node) :
    (t.put l n).entries = t.entries ++ [(l, n)] := by
  have unlisted : t.entries.lookup l = none := by
    unfold node? at free
    split at free
    · cases free
    · exact free
  have kept : (t.entries.filter fun e => e.1 != l) = t.entries := by
    refine List.filter_eq_self.mpr fun e he => ?_
    have := List.lookup_eq_none_iff.mp unlisted e he
    simp only [bne_iff_ne, ne_eq] at this ⊢
    exact Ne.symm this
  rw [put, kept]

/-! ## Walks -/

/-- Neither a directory nor a link: no walk goes on from there. -/
def Leaf (n : Option Node) : Prop := n ≠ some .directory ∧ ∀ target, n ≠ some (.link target)

/-- Unless it is a directory that a walk comes to, it has looked there. -/
theorem node?_of_walk {t : Tree} {follow : Bool} {links : Nat} {at_ : Location}
    {names : List PathName} {slash : Bool} {spot : Spot}
    (found : t.walk follow links at_ names slash = .ok spot)
    (no : spot.node ≠ some .directory) :
    spot.location ≠ [] ∧ t.node? spot.location = spot.node := by
  fun_induction Tree.walk t follow links at_ names slash with
  | case1 => cases found; exact absurd rfl no
  | case2 _ _ _ _ ih => exact ih found
  | case3 _ _ _ _ _ ih => exact ih found
  | case5 _ _ _ _ _ _ _ _ none =>
    cases found
    exact ⟨by simp, none⟩
  | case7 _ _ _ _ _ _ _ _ _ ih => exact ih found
  | case8 _ _ _ _ _ _ _ _ _ there =>
    cases found
    exact ⟨by simp, there⟩
  | case11 _ _ _ _ _ _ _ _ _ _ _ _ _ ih => exact ih found
  | case12 _ _ _ _ _ _ _ _ _ _ _ there =>
    cases found
    exact ⟨by simp, there⟩
  | case4 | case6 | case9 | case10 | case13 => cases found

/-- A last name under which a leaf is ends the walk. -/
theorem walk_last {t : Tree} {follow : Bool} {links : Nat} {at_ : Location} {n : PathName}
    {slash : Bool} (here : n ≠ itself) (above : n ≠ up) (fits : ¬ maxName < n.length)
    (leaf : Leaf (t.node? (at_ ++ [n]))) :
    t.walk follow links at_ [n] slash = .ok ⟨at_ ++ [n], t.node? (at_ ++ [n]), slash⟩ := by
  rw [walk, if_neg here, if_neg above, if_neg fits]
  split
  · simp [*]
  · rename_i there
    exact absurd there leaf.1
  · rename_i target there
    exact absurd there (leaf.2 target)
  · simp [*]

/-- A walk that comes to a leaf comes there as long as the directories and links are kept, and finds
what is there then. A link under the last name may be followed where it was not before. -/
theorem walk_leaf {t t' : Tree} {follow follow' : Bool} {links : Nat} {at_ : Location}
    {names : List PathName} {slash : Bool} {spot : Spot}
    (found : t.walk follow links at_ names slash = .ok spot) (leaf : Leaf spot.node)
    (more : follow = true → follow' = true)
    (kept : ∀ l, ¬ Leaf (t.node? l) → t'.node? l = t.node? l)
    (new : Leaf (t'.node? spot.location)) :
    t'.walk follow' links at_ names slash =
      .ok { spot with node := t'.node? spot.location } := by
  fun_induction Tree.walk t follow links at_ names slash with
  | case1 => cases found; exact absurd rfl leaf.1
  | case2 links at_ slash rest ih =>
    rw [walk, if_pos rfl]
    exact ih found
  | case3 links at_ slash rest here ih =>
    rw [walk, if_neg here, if_pos rfl]
    exact ih found
  | case5 links at_ slash n rest here above fits there last =>
    cases found
    obtain rfl := List.isEmpty_iff.mp last
    exact walk_last here above fits new
  | case7 links at_ slash n rest here above fits there ih =>
    rw [walk, if_neg here, if_neg above, if_neg fits]
    have same := kept _ (by rw [there]; exact fun l => l.1 rfl)
    simp only [same, there]
    exact ih found
  | case8 links at_ slash n rest here above fits target there =>
    cases found
    exact absurd rfl (leaf.2 target)
  | case11 links at_ slash n rest here above fits target there on left leads ih =>
    rw [walk, if_neg here, if_neg above, if_neg fits]
    have same := kept _ (by rw [there]; exact fun l => l.2 target rfl)
    have followed : (rest.isEmpty && !follow') = false := by
      cases follow with
      | true => simp [more rfl]
      | false =>
        simp only [Bool.not_false, Bool.and_true, Bool.not_eq_true] at on
        simp [on]
    simp only [same, there]
    rw [if_neg (by simp [followed]), if_neg left, if_neg leads]
    exact ih found
  | case12 links at_ slash n rest here above fits other _ _ there last =>
    cases found
    obtain rfl := List.isEmpty_iff.mp last
    exact walk_last here above fits new
  | case4 | case6 | case9 | case10 | case13 => cases found

theorem leaf_socket (k : Nat) : Leaf (some (.socket k)) := ⟨by simp, by simp⟩

theorem leaf_file (content : List UInt8) : Leaf (some (.file content)) := ⟨by simp, by simp⟩

theorem leaf_none : Leaf none := ⟨by simp, by simp⟩

/-- The places that a walk looks at, one after another. -/
def way (t : Tree) (follow : Bool) (links : Nat) (at_ : Location) (names : List PathName) :
    List Location :=
  match names with
  | [] => []
  | n :: rest =>
    if n = itself then way t follow links at_ rest
    else if n = up then way t follow links at_.dropLast rest
    else if maxName < n.length then []
    else
      (at_ ++ [n]) ::
        match t.node? (at_ ++ [n]) with
        | some .directory => way t follow links (at_ ++ [n]) rest
        | some (.link target) =>
          if rest.isEmpty && !follow then []
          else if links = 0 then []
          else
            way t follow (links - 1) (if target.isAbsolute then [] else at_) (target.steps ++ rest)
        | _ => []
termination_by (links, names.length)

/-- A walk depends on what is at the places that it looks at, and on nothing else. -/
theorem walk_congr {t t' : Tree} {follow : Bool} {links : Nat} {at_ : Location}
    {names : List PathName} (slash : Bool)
    (same : ∀ l ∈ t.way follow links at_ names, t'.node? l = t.node? l) :
    t'.walk follow links at_ names slash = t.walk follow links at_ names slash := by
  fun_induction Tree.walk t follow links at_ names slash with
  | case1 => rw [walk]
  | case2 links at_ slash rest ih =>
    rw [walk, if_pos rfl]
    rw [way, if_pos rfl] at same
    exact ih same
  | case3 links at_ slash rest here ih =>
    rw [walk, if_neg here, if_pos rfl]
    rw [way, if_neg here, if_pos rfl] at same
    exact ih same
  | case4 links at_ slash n rest here above long =>
    rw [walk, if_neg here, if_neg above, if_pos long]
  | case5 links at_ slash n rest here above fits there last =>
    rw [way, if_neg here, if_neg above, if_neg fits] at same
    rw [walk, if_neg here, if_neg above, if_neg fits, (List.forall_mem_cons.mp same).1]
    simp only [there]
    rw [if_pos last]
  | case6 links at_ slash n rest here above fits there last =>
    rw [way, if_neg here, if_neg above, if_neg fits] at same
    rw [walk, if_neg here, if_neg above, if_neg fits, (List.forall_mem_cons.mp same).1]
    simp only [there]
    rw [if_neg last]
  | case7 links at_ slash n rest here above fits there ih =>
    rw [way, if_neg here, if_neg above, if_neg fits] at same
    obtain ⟨first, others⟩ := List.forall_mem_cons.mp same
    rw [walk, if_neg here, if_neg above, if_neg fits, first]
    simp only [there] at others ⊢
    exact ih others
  | case8 links at_ slash n rest here above fits target there last =>
    rw [way, if_neg here, if_neg above, if_neg fits] at same
    rw [walk, if_neg here, if_neg above, if_neg fits, (List.forall_mem_cons.mp same).1]
    simp only [there]
    rw [if_pos last]
  | case9 at_ slash n rest here above fits target there on =>
    rw [way, if_neg here, if_neg above, if_neg fits] at same
    rw [walk, if_neg here, if_neg above, if_neg fits, (List.forall_mem_cons.mp same).1]
    simp only [there]
    rw [if_neg on, if_pos trivial]
  | case10 links at_ slash n rest here above fits target there on left nowhere =>
    rw [way, if_neg here, if_neg above, if_neg fits] at same
    rw [walk, if_neg here, if_neg above, if_neg fits, (List.forall_mem_cons.mp same).1]
    simp only [there]
    rw [if_neg on, if_neg left, if_pos nowhere]
  | case11 links at_ slash n rest here above fits target there on left leads ih =>
    rw [way, if_neg here, if_neg above, if_neg fits] at same
    obtain ⟨first, others⟩ := List.forall_mem_cons.mp same
    rw [walk, if_neg here, if_neg above, if_neg fits, first]
    simp only [there] at others ⊢
    rw [if_neg on, if_neg left] at others
    rw [if_neg on, if_neg left, if_neg leads]
    exact ih others
  | case12 links at_ slash n rest here above fits other file link there last =>
    rw [way, if_neg here, if_neg above, if_neg fits] at same
    rw [walk, if_neg here, if_neg above, if_neg fits, (List.forall_mem_cons.mp same).1]
    simp only [there]
    rw [if_pos last]
  | case13 links at_ slash n rest here above fits other file link there last =>
    rw [way, if_neg here, if_neg above, if_neg fits] at same
    rw [walk, if_neg here, if_neg above, if_neg fits, (List.forall_mem_cons.mp same).1]
    simp only [there]
    rw [if_neg last]

/-- A walk does not go on from what is neither a directory nor a link. -/
theorem walk_barred {t : Tree} {links : Nat} {at_ : Location} {names : List PathName}
    {slash : Bool} {spot : Spot} (found : t.walk true links at_ names slash = .ok spot)
    (leaf : Leaf spot.node) (there : spot.node ≠ none) {rest : List PathName} (on : rest ≠ [])
    (follow slash' : Bool) :
    t.walk follow links at_ (names ++ rest) slash' = .error .notDirectory := by
  fun_induction Tree.walk t true links at_ names slash generalizing slash' with
  | case1 => cases found; exact absurd rfl leaf.1
  | case2 links at_ slash names ih =>
    rw [List.cons_append, walk, if_pos rfl]
    exact ih found slash'
  | case3 links at_ slash names here ih =>
    rw [List.cons_append, walk, if_neg here, if_pos rfl]
    exact ih found slash'
  | case5 => cases found; exact absurd rfl there
  | case7 links at_ slash n names here above fits dir ih =>
    rw [List.cons_append, walk, if_neg here, if_neg above, if_neg fits]
    simp only [dir]
    exact ih found slash'
  | case8 links at_ slash n names here above fits target link last => simp at last
  | case11 links at_ slash n names here above fits target link last left leads ih =>
    rw [List.cons_append, walk, if_neg here, if_neg above, if_neg fits]
    simp only [link]
    rw [if_neg (by simp [on]), if_neg left, if_neg leads, ← List.append_assoc]
    exact ih found _
  | case12 links at_ slash n names here above fits other dir link here' last =>
    obtain rfl := List.isEmpty_iff.mp last
    rw [List.cons_append, walk, if_neg here, if_neg above, if_neg fits]
    simp [on, here']
  | case4 | case6 | case9 | case10 | case13 => cases found

/-- A separator at the end shows in nothing else. -/
theorem walk_slash {t : Tree} {follow : Bool} {links : Nat} {at_ : Location}
    {names : List PathName} {slash : Bool} {spot : Spot}
    (found : t.walk follow links at_ names slash = .ok spot) (slash' : Bool) :
    ∃ ends, t.walk follow links at_ names slash' = .ok { spot with slash := ends } := by
  fun_induction Tree.walk t follow links at_ names slash generalizing slash' with
  | case1 => cases found; exact ⟨slash', by rw [walk]⟩
  | case2 links at_ slash names ih =>
    rw [walk, if_pos rfl]
    exact ih found slash'
  | case3 links at_ slash names here ih =>
    rw [walk, if_neg here, if_pos rfl]
    exact ih found slash'
  | case5 links at_ slash n rest here above fits there last =>
    cases found
    exact ⟨slash', by rw [walk, if_neg here, if_neg above, if_neg fits]; simp [there, last]⟩
  | case7 links at_ slash n names here above fits there ih =>
    rw [walk, if_neg here, if_neg above, if_neg fits]
    simp only [there]
    exact ih found slash'
  | case8 links at_ slash n names here above fits target there last =>
    cases found
    refine ⟨slash', ?_⟩
    rw [walk, if_neg here, if_neg above, if_neg fits]
    simp only [there, last, if_true]
  | case11 links at_ slash n names here above fits target there on left leads ih =>
    rw [walk, if_neg here, if_neg above, if_neg fits]
    simp only [there]
    rw [if_neg on, if_neg left, if_neg leads]
    exact ih found _
  | case12 links at_ slash n names here above fits other dir link there last =>
    cases found
    exact ⟨slash', by rw [walk, if_neg here, if_neg above, if_neg fits]; simp [there, last]⟩
  | case4 | case6 | case9 | case10 | case13 => cases found

theorem walk_ne_refused {t : Tree} {follow : Bool} {links : Nat} {at_ : Location}
    {names : List PathName} {slash : Bool} :
    t.walk follow links at_ names slash ≠ .error .connectionRefused := by
  fun_induction Tree.walk t follow links at_ names slash with
  | case2 _ _ _ _ ih => exact ih
  | case3 _ _ _ _ _ ih => exact ih
  | case7 _ _ _ _ _ _ _ _ _ ih => exact ih
  | case11 _ _ _ _ _ _ _ _ _ _ _ _ _ ih => exact ih
  | case4 | case6 | case9 | case10 | case13 =>
    exact fun e => absurd (Except.error.inj e) (by decide)
  | case1 | case5 | case8 | case12 => exact nofun

/-- A separator at the end stays there. -/
theorem slash_of_walk {t : Tree} {follow : Bool} {links : Nat} {at_ : Location}
    {names : List PathName} {slash : Bool} {spot : Spot}
    (found : t.walk follow links at_ names slash = .ok spot) (ends : slash = true) :
    spot.slash = true := by
  fun_induction Tree.walk t follow links at_ names slash with
  | case2 _ _ _ _ ih => exact ih found ends
  | case3 _ _ _ _ _ ih => exact ih found ends
  | case7 _ _ _ _ _ _ _ _ _ ih => exact ih found ends
  | case11 _ _ _ _ _ _ _ _ _ _ _ _ _ ih => exact ih found (by simp [ends])
  | case4 | case6 | case9 | case10 | case13 => cases found
  | case1 | case5 | case8 | case12 =>
    cases found
    exact ends

/-! ## Null bytes -/

open Backdrop.Path (Uncut)

/-- No null byte is in a name of the tree, or in what a link says. -/
structure Plain (t : Tree) : Prop where
  working : Uncut t.workingDirectory
  named : ∀ l n, t.node? l = some n → Uncut l
  linked : ∀ l target, t.node? l = some (.link target) → (0 : UInt8) ∉ target.bytes

namespace Plain

variable {t : Tree} {follow : Bool} {links : Nat} {at_ : Location} {names : List PathName}
  {slash : Bool} {spot : Spot}

/-- Names that lead to an entry are names of entries. -/
theorem names_of_walk (plain : t.Plain)
    (found : t.walk follow links at_ names slash = .ok spot) (there : spot.node ≠ none) :
    Uncut names := by
  fun_induction Tree.walk t follow links at_ names slash with
  | case1 => exact Path.uncut_nil
  | case2 links at_ slash names ih =>
    exact List.forall_mem_cons.mpr ⟨by decide, ih found⟩
  | case3 links at_ slash names here ih =>
    exact List.forall_mem_cons.mpr ⟨by decide, ih found⟩
  | case5 => cases found; exact absurd rfl there
  | case7 links at_ slash n names here above fits dir ih =>
    have uncut := plain.named _ _ dir
    exact List.forall_mem_cons.mpr ⟨uncut n (by simp), ih found⟩
  | case8 links at_ slash n names here above fits target link last =>
    obtain rfl : names = [] := by simp_all
    have uncut := plain.named _ _ link
    exact List.forall_mem_singleton.mpr (uncut n (by simp))
  | case11 links at_ slash n names here above fits target link on left leads ih =>
    have uncut := plain.named _ _ link
    exact List.forall_mem_cons.mpr
      ⟨uncut n (by simp), (List.forall_mem_append.mp (ih found)).2⟩
  | case12 links at_ slash n names here above fits other dir link here' last =>
    obtain rfl := List.isEmpty_iff.mp last
    have uncut := plain.named _ _ here'
    exact List.forall_mem_singleton.mpr (uncut n (by simp))
  | case4 | case6 | case9 | case10 | case13 => cases found

/-- Names without a null byte lead to places without one. -/
theorem location_of_walk (plain : t.Plain) (start : Uncut at_) (uncut : Uncut names)
    (found : t.walk follow links at_ names slash = .ok spot) : Uncut spot.location := by
  have below : ∀ {at_ : Location} {n : PathName} {names : List PathName}, Uncut at_ →
      Uncut (n :: names) → Uncut (at_ ++ [n]) :=
    fun start uncut => start.append (List.forall_mem_singleton.mpr (List.forall_mem_cons.mp uncut).1)
  fun_induction Tree.walk t follow links at_ names slash with
  | case1 => cases found; exact start
  | case2 _ _ _ _ ih => exact ih start (List.forall_mem_cons.mp uncut).2 found
  | case3 _ _ _ _ _ ih =>
    exact ih (fun n listed => start n (List.dropLast_subset _ listed))
      (List.forall_mem_cons.mp uncut).2 found
  | case7 _ _ _ _ _ _ _ _ _ ih =>
    exact ih (below start uncut) (List.forall_mem_cons.mp uncut).2 found
  | case11 links at_ slash n names here above fits target link on left leads ih =>
    refine ih ?_ ?_ found
    · split
      · exact Path.uncut_nil
      · exact start
    · exact (Path.uncut_steps.mpr (plain.linked _ _ link)).append (List.forall_mem_cons.mp uncut).2
  | case4 | case6 | case9 | case10 | case13 => cases found
  | case5 | case8 | case12 =>
    cases found
    exact below start uncut

end Plain

end Tree
end Backdrop

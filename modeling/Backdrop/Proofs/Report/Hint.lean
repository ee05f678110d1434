import Mathlib.Logic.Basic
import Backdrop.Report.Hint

/-!
# Backdrop.Proofs.Report.Hint

Which hints an error gets.

* `Category.ofChain_of_plain`: if no layer tells the kind of an error, then its outermost words do.
* `Category.mentions_append_iff`: words in front of a text matter only if they could begin with what
  is looked for.
* `SettingsError.ofChain_ofSettings`: of the settings errors those are missed that refuse a value.
-/

namespace Backdrop
namespace Category

/-! ## Words -/

theorem contains_iff {part l : List Char} : contains part l = true ↔ part <:+: l := by
  induction l with
  | nil => simp [contains]
  | cons c cs ih => simp [contains, ih, List.infix_cons_iff]

/-- A text is not found where its first letter does not stand. -/
theorem infix_append_iff {c : Char} {part before l : List Char} (absent : c ∉ before) :
    c :: part <:+: before ++ l ↔ c :: part <:+: l := by
  induction before with
  | nil => rfl
  | cons b before ih =>
    obtain ⟨other, absent⟩ := List.ne_and_not_mem_of_not_mem_cons absent
    rw [List.cons_append, List.infix_cons_iff, ih absent, List.cons_prefix_cons]
    simp [other]

/-- A text speaks of settings, or seems to. -/
def Mentions (text : String) : Prop := "config".toList <:+: text.toList

instance (text : String) : Decidable (Mentions text) :=
  inferInstanceAs (Decidable ("config".toList <:+: text.toList))

theorem mentions_append_iff {before text : String} (absent : 'c' ∉ before.toList) :
    Mentions (before ++ text) ↔ Mentions text := by
  have first : "config".toList = 'c' :: "onfig".toList := rfl
  rw [Mentions, Mentions, String.toList_append, first, infix_append_iff absent]

theorem Mentions.append {before : String} (mentioned : Mentions before) (text : String) :
    Mentions (before ++ text) := by
  rw [Mentions, String.toList_append]
  exact mentioned.trans (List.prefix_append _ _).isInfix

/-- If no layer tells the kind of an error, then its outermost words do. -/
theorem ofChain_of_plain {c : Chain} (plain : ∀ l ∈ c, ofLayer? l = none) :
    ofChain c = if Mentions c.outermost then .settings else .other := by
  rw [ofChain, List.findSome?_eq_none_iff.mpr plain]
  simp only [contains_iff]
  rfl

/-- Only one heading is shown. -/
theorem heading_iff {c : Chain} (plain : c.text ≠ "Configuration Error") :
    "Configuration Error" ∈ c.shownLines ↔ ofChain c = .settings := by
  have frame : "Configuration Error" ∉ Chain.frame "                     ERROR" := by
    decide +kernel
  have rule : "Configuration Error" ≠ Chain.rule := by decide +kernel
  have one : ∀ k : Category, "Configuration Error" ∈ k.lines ↔ k = .settings := by
    intro k
    cases k <;> decide +kernel
  rw [Chain.shownLines, List.mem_append, List.mem_append, one]
  simp [frame, rule, plain.symm]

theorem lines_infix (c : Chain) : (ofChain c).lines <:+: c.shownLines :=
  ⟨[""] ++ Chain.frame "                     ERROR" ++ [""], _, List.append_assoc _ _ _⟩

end Category

/-! ## Errors of the settings -/

namespace SettingsError

/-- The error is seen to be about settings. Of a value that is refused only the value itself could
tell. -/
def Recognised : SettingsError → Prop
  | .unreadable _ _ | .malformed => True
  | .unknownFilter n | .unknownLevel n => Category.Mentions n
  | .zeroTimeout => False

instance : (e : SettingsError) → Decidable e.Recognised
  | .unreadable _ _ | .malformed => .isTrue trivial
  | .unknownFilter n | .unknownLevel n => inferInstanceAs (Decidable (Category.Mentions n))
  | .zeroTimeout => .isFalse id

theorem ofChain_ofSettings (malformation : String) (e : SettingsError) :
    Category.ofChain (.ofSettings malformation e) =
      if e.Recognised then .settings else .other := by
  have alone : ∀ text, Category.ofChain (.plain text) =
      if Category.Mentions text then .settings else .other := fun text =>
    Category.ofChain_of_plain (by simp [Chain.plain, Category.ofLayer?])
  cases e with
  | unreadable p cause =>
    rw [Chain.ofSettings, Category.ofChain_of_plain
      (by simp [Chain.context, Chain.ofIo, Chain.plain, Category.ofLayer?])]
    -- The words in front of the path speak of settings.
    exact if_congr (iff_of_true (Category.Mentions.append (by decide +kernel) _) trivial) rfl rfl
  | malformed => rfl
  | unknownFilter n | unknownLevel n =>
    exact (alone _).trans (if_congr (Category.mentions_append_iff (by simp)) rfl rfl)
  | zeroTimeout =>
    exact (alone _).trans (if_congr (iff_of_false (by decide +kernel) id) rfl rfl)

/-- No error of the settings is worded like a heading. -/
theorem text_ne_heading (malformation : String) (e : SettingsError) :
    (Chain.ofSettings malformation e).text ≠ "Configuration Error" := by
  intro same
  have first := congrArg (·.toList.head?) same
  cases e with
  | unreadable p cause =>
    change ("Failed to read config file: " ++ p.display ++ ": " ++ cause.message).toList.head? = _
      at first
    simp at first
  | malformed =>
    change ("Failed to parse config file" ++ ": " ++ malformation).toList.head? = _ at first
    simp at first
  | unknownFilter n =>
    change ("Invalid render filter: " ++ n).toList.head? = _ at first
    simp at first
  | unknownLevel n =>
    change ("Invalid log level: " ++ n).toList.head? = _ at first
    simp at first
  | zeroTimeout =>
    change "socket.read_timeout_ms must be positive when set".toList.head? = _ at first
    simp at first

end SettingsError

end Backdrop

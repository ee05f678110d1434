import Mathlib
import Backdrop.Command.Control
import Backdrop.Command.Serve
import Backdrop.Proofs.Report.Hint

/-!
# Backdrop.Proofs.Command.Complaint

What the programs say about settings and pictures that they cannot use.

* `Settings.load_eq_error_iff` tells what is wrong with a settings file, error by error.
* `Command.unsettled`: both programs end with that error. The hints about settings are shown with it
  unless it refuses a value that does not happen to mention them.
* `Command.Control.unloaded`: a picture that the decoder refuses gets the hints about pictures. One
  that cannot be read gets hints that depend on the name of the file.
-/

namespace Backdrop

/-! ## Settings -/

namespace Settings

/-- A file gives these settings, whether they make sense or not. -/
def Gives (t : Tree) (p : Path) (s : Settings) : Prop :=
  ∃ content text, t.read p = .ok content ∧ Utf8.decode? content = some text ∧
    (Toml.parse text).bind ofEntries = some s

/-- What is wrong with a file. Of several faults the first counts. -/
def Fault (t : Tree) (p : Path) : SettingsError → Prop
  | .unreadable q cause => q = p ∧
      ((∃ e, t.read p = .error e ∧ cause = .os e) ∨
        ∃ content, t.read p = .ok content ∧ Utf8.decode? content = none ∧
          cause = .other "stream did not contain valid UTF-8")
  | .malformed => ∃ content text, t.read p = .ok content ∧ Utf8.decode? content = some text ∧
      (Toml.parse text).bind ofEntries = none
  | .unknownFilter n => ∃ s, Gives t p s ∧ s.filterName = n ∧ Filter.ofName? n = none
  | .unknownLevel n => ∃ s, Gives t p s ∧ Filter.ofName? s.filterName ≠ none ∧ s.level = n ∧
      n ∉ levels
  | .zeroTimeout => ∃ s, Gives t p s ∧ Filter.ofName? s.filterName ≠ none ∧ s.level ∈ levels ∧
      s.readTimeout = some 0

theorem validate_eq_error_iff {s : Settings} {e : SettingsError} : s.validate = .error e ↔
    (e = .unknownFilter s.filterName ∧ Filter.ofName? s.filterName = none) ∨
      Filter.ofName? s.filterName ≠ none ∧
        ((e = .unknownLevel s.level ∧ s.level ∉ levels) ∨
          e = .zeroTimeout ∧ s.level ∈ levels ∧ s.readTimeout = some 0) := by
  unfold validate
  split
  · rename_i unknown
    have unknown : Filter.ofName? s.filterName = none := by simpa using unknown
    simp [unknown, eq_comm]
  rename_i known
  have known : Filter.ofName? s.filterName ≠ none := by simpa using known
  split
  · rename_i unknown
    have unknown : s.level ∉ levels := by simpa using unknown
    simp [known, unknown, eq_comm]
  rename_i listed
  have listed : s.level ∈ levels := by simpa using listed
  split
  · rename_i zero
    simp [known, listed, zero, eq_comm]
  · rename_i set
    simp [known, listed, set]

theorem load_of_gives {t : Tree} {p : Path} {s : Settings} (gives : Gives t p s) :
    load t p = (s.validate).map fun _ => s := by
  obtain ⟨content, text, read, decoded, given⟩ := gives
  simp only [load, read, decoded, ofText, given]
  cases s.validate <;> rfl

/-- A file cannot be used exactly if something is wrong with it. -/
theorem load_eq_error_iff {t : Tree} {p : Path} {e : SettingsError} :
    load t p = .error e ↔ Fault t p e := by
  constructor
  · intro failed
    unfold load at failed
    split at failed
    · rename_i cause unread
      cases failed
      exact ⟨rfl, .inl ⟨cause, unread, rfl⟩⟩
    rename_i content read
    split at failed
    · rename_i ill
      cases failed
      exact ⟨rfl, .inr ⟨content, read, ill, rfl⟩⟩
    rename_i text decoded
    unfold ofText at failed
    split at failed
    · rename_i none
      cases failed
      exact ⟨content, text, read, decoded, none⟩
    rename_i s given
    have gives : Gives t p s := ⟨content, text, read, decoded, given⟩
    split at failed
    · rename_i e' invalid
      cases failed
      rcases validate_eq_error_iff.mp invalid with
        ⟨rfl, unknown⟩ | ⟨known, ⟨rfl, unlisted⟩ | ⟨rfl, listed, zero⟩⟩
      · exact ⟨s, gives, rfl, unknown⟩
      · exact ⟨s, gives, known, rfl, unlisted⟩
      · exact ⟨s, gives, known, listed, zero⟩
    · cases failed
  · intro fault
    have refused : ∀ s, Gives t p s → s.validate = .error e → load t p = .error e := by
      intro s gives invalid
      rw [load_of_gives gives, invalid]
      rfl
    cases e with
    | unreadable q cause =>
      obtain ⟨rfl, ⟨n, unread, rfl⟩ | ⟨content, read, ill, rfl⟩⟩ := fault
      · simp [load, unread]
      · simp [load, read, ill]
    | malformed =>
      obtain ⟨content, text, read, decoded, none⟩ := fault
      simp [load, read, decoded, ofText, none]
    | unknownFilter n =>
      obtain ⟨s, gives, rfl, unknown⟩ := fault
      exact refused s gives (validate_eq_error_iff.mpr (.inl ⟨rfl, unknown⟩))
    | unknownLevel n =>
      obtain ⟨s, gives, known, rfl, unlisted⟩ := fault
      exact refused s gives (validate_eq_error_iff.mpr (.inr ⟨known, .inl ⟨rfl, unlisted⟩⟩))
    | zeroTimeout =>
      obtain ⟨s, gives, known, listed, zero⟩ := fault
      exact refused s gives (validate_eq_error_iff.mpr (.inr ⟨known, .inr ⟨rfl, listed, zero⟩⟩))

end Settings

namespace Command

variable {t : Tree} {environment : Environment} {asked : Option Path} {e : SettingsError}

/-- What comes of settings that cannot be used. -/
structure Unsettled (t : Tree) (environment : Environment) (asked : Option Path)
    (e : SettingsError) : Prop where
  fault : Settings.Fault t (asked.getD (Settings.defaultPath environment)) e
  control : ∀ words (s : Control.Setting) (h : Host) o, h.tree = t → s.environment = environment →
    Control.options words environment = .ok o → o.config = asked →
    Control.run words s h = (.failed (.ofSettings malformation e), h)
  serve : ∀ words (s : Serve.Setting) (h : Host) o, h.tree = t → s.environment = environment →
    Serve.options words environment = .ok o → o.config = asked →
    Serve.start words s h = .early (.failed (.ofSettings malformation e)) h
  /-- The hints about settings are shown with these errors only. -/
  heading : "Configuration Error" ∈ (Chain.ofSettings malformation e).shownLines ↔ e.Recognised
  hints : e.Recognised → Category.settings.lines <:+: (Chain.ofSettings malformation e).shownLines
  missed : ¬ e.Recognised → Category.ofChain (.ofSettings malformation e) = .other

theorem unsettled (failed : Settings.loadOrDefault t environment asked = .error e) :
    Unsettled t environment asked e where
  fault := by
    unfold Settings.loadOrDefault at failed
    split at failed
    · exact Settings.load_eq_error_iff.mp failed
    · split at failed
      · exact Settings.load_eq_error_iff.mp failed
      · cases failed
  control := by
    rintro words s h o rfl rfl read rfl
    simp only [Control.run, read, loadSettings, failed]
  serve := by
    rintro words s h o rfl rfl read rfl
    simp only [Serve.start, read, loadSettings, failed]
  heading := by
    rw [Category.heading_iff (SettingsError.text_ne_heading _ e), SettingsError.ofChain_ofSettings]
    split <;> simp [*]
  hints recognised := by
    have shown := Category.lines_infix (.ofSettings malformation e)
    rwa [SettingsError.ofChain_ofSettings, if_pos recognised] at shown
  missed unseen := by
    rw [SettingsError.ofChain_ofSettings, if_neg unseen]

/-- A settings file with a filter that nobody knows. -/
def bicubic : Tree :=
  ⟨[], [([Utf8.encode "c.toml"], .file (Utf8.encode "[render]\nfilter = \"bicubic\"\n"))]⟩

theorem load_bicubic :
    Settings.load bicubic (.ofString "c.toml") = .error (.unknownFilter "bicubic") := by
  cbv

theorem unsettled_bicubic :
    Settings.loadOrDefault bicubic ⟨[]⟩ (some (.ofString "c.toml")) =
      .error (.unknownFilter "bicubic") ∧
    Unsettled bicubic ⟨[]⟩ (some (.ofString "c.toml")) (.unknownFilter "bicubic") :=
  ⟨load_bicubic, unsettled load_bicubic⟩

/-- The hints name the filters, and are not shown with the error that they are for. -/
theorem bicubic_missed :
    Settings.load bicubic (.ofString "c.toml") = .error (.unknownFilter "bicubic") ∧
    Category.ofChain (.ofSettings malformation (.unknownFilter "bicubic")) = .other ∧
    "Configuration Error" ∉
      (Chain.ofSettings malformation (.unknownFilter "bicubic")).shownLines := by
  refine ⟨load_bicubic, ?_, ?_⟩
  · decide +kernel
  · decide +kernel

/-! ## Pictures -/

namespace Control

variable {s s' : Setting} {file file' : Path} {t t' : Tree} {c c' : Chain}

theorem ofChain_of_pictureBytes (failed : pictureBytes s file t = .error c) :
    Category.ofChain c = if Category.Mentions file.display then .settings else .other := by
  have placed : ∀ (before : String) (cause : IoError), 'c' ∉ before.toList →
      Category.ofChain (.context (before ++ file.display) (.ofIo cause)) =
        if Category.Mentions file.display then .settings else .other := by
    intro before cause absent
    rw [Category.ofChain_of_plain
      (by simp [Chain.context, Chain.ofIo, Chain.plain, Category.ofLayer?])]
    exact if_congr (Category.mentions_append_iff absent) rfl rfl
  unfold pictureBytes at failed
  split at failed
  · cases failed
  split at failed
  · cases failed
    exact placed "Failed to open " _ (by simp)
  · cases failed
    exact placed "Failed to open " _ (by simp)
  · split at failed
    · cases failed
      exact placed "Failed to read " _ (by simp)
    · cases failed

/-- Before the decoder is asked, errors are about the place that the picture comes from. -/
theorem ofChain_of_unread {why : Chain} (missed : pictureBytes s file t = .error why)
    (failed : load s file t = .error c) :
    Category.ofChain c = if Category.Mentions file.display then .settings else .other := by
  rw [load, missed] at failed
  cases failed
  exact ofChain_of_pictureBytes missed

/-- The decoder's own errors are known by their kind. -/
theorem ofChain_of_refused {r : List UInt8 × String} (found : pictureBytes s file t = .ok r)
    (failed : load s file t = .error c) : Category.ofChain c = .image := by
  obtain ⟨bytes, place⟩ := r
  rw [load, found] at failed
  simp only [bind, Except.bind] at failed
  split at failed
  · cases failed
    rfl
  · cases failed

/-- What comes of a picture that cannot be loaded. -/
structure Unloaded (s : Setting) (file : Path) (t : Tree) (c : Chain) : Prop where
  ends : ∀ socket (o : Options) (h : Host), o.clear = false → o.file = file → h.tree = t →
    carryOut s socket o h = (.failed c, h)
  /-- The decoder refused it, wherever it was found. -/
  refused : ∀ r, pictureBytes s file t = .ok r → Category.ofChain c = .image
  /-- It could not be read, and the hints depend on the name of the file. -/
  unread : ∀ why, pictureBytes s file t = .error why →
    Category.ofChain c = if Category.Mentions file.display then .settings else .other
  /-- Apart from that, all that fail at the same point get the same hints. -/
  alike : ∀ s' file' t' c', load s' file' t' = .error c' →
    (pictureBytes s file t).isOk = (pictureBytes s' file' t').isOk →
    (Category.Mentions file.display ↔ Category.Mentions file'.display) →
    Category.ofChain c' = Category.ofChain c

theorem unloaded (failed : load s file t = .error c) : Unloaded s file t c where
  ends := by
    rintro socket o h unclear rfl rfl
    rw [carryOut, failed, unclear]
    rfl
  refused _ found := ofChain_of_refused found failed
  unread _ missed := ofChain_of_unread missed failed
  alike s' file' t' c' failed' same named := by
    cases found : pictureBytes s file t <;> cases found' : pictureBytes s' file' t' <;>
      rw [found, found'] at same
    case error.error =>
      rw [ofChain_of_unread found failed, ofChain_of_unread found' failed']
      exact if_congr named.symm rfl rfl
    case ok.ok => rw [ofChain_of_refused found failed, ofChain_of_refused found' failed']
    case error.ok | ok.error => cases same

/-- What is said of a file that is not there. -/
def absent (name : String) : Chain :=
  .context ("Failed to open " ++ name) (.ofIo (.os .noEntry))

theorem load_config :
    load ⟨⟨[]⟩, []⟩ (.ofString "config.png") (.bare []) = .error (absent "config.png") := by
  cbv

theorem unloaded_config :
    load ⟨⟨[]⟩, []⟩ (.ofString "config.png") (.bare []) = .error (absent "config.png") ∧
    Unloaded ⟨⟨[]⟩, []⟩ (.ofString "config.png") (.bare []) (absent "config.png") :=
  ⟨load_config, unloaded load_config⟩

/-- Two files that are not there, and different hints. -/
theorem config_misled :
    load ⟨⟨[]⟩, []⟩ (.ofString "config.png") (.bare []) = .error (absent "config.png") ∧
    load ⟨⟨[]⟩, []⟩ (.ofString "other.png") (.bare []) = .error (absent "other.png") ∧
    Category.ofChain (absent "config.png") = .settings ∧
    Category.ofChain (absent "other.png") = .other := by
  refine ⟨load_config, ?_, ?_, ?_⟩
  · cbv
  · decide +kernel
  · decide +kernel

end Control
end Command
end Backdrop

import Backdrop.Report.Chain

/-!
# Backdrop.Report.Hint

Errors as they are shown to people: a heading, hints that fit the category of the error, and the
technical details.

The category comes from the first layer that has one of its own. If none has, the outermost words
decide: they are about settings if they contain "config".
-/

namespace Backdrop

inductive Category where
  | runtimeDirectory
  | socketInUse
  | daemonNotRunning
  | display
  | layerShell
  | settings
  | image
  | other
  deriving Repr, DecidableEq, Inhabited

namespace Category

def ofDaemon : DaemonError → Category
  | .runtimeDirUnset | .runtimeDirEmpty | .socketPathTooLong _ => .runtimeDirectory
  | .socketInUse _ => .socketInUse
  | .waylandConnect _ | .protocol _ => .display
  | .missingGlobal _ | .unsupportedVersion _ _ _ => .layerShell
  | _ => .other

/-- The category that a layer decides, if it decides one. -/
def ofLayer? (l : Layer) : Option Category :=
  match l.source with
  | .daemon e => some (ofDaemon e)
  | .transfer (.daemonNotRunning _) => some .daemonNotRunning
  | .image => some .image
  | .settings => some .settings
  | _ => none

/-- One text contains another. -/
def contains (part : List Char) : List Char → Bool
  | [] => part.isEmpty
  | c :: cs => part.isPrefixOf (c :: cs) || contains part cs

def ofChain (c : Chain) : Category :=
  match c.findSome? ofLayer? with
  | some k => k
  | none => if contains "config".toList c.outermost.toList then .settings else .other

/-- The heading and the hints of a category. -/
def lines : Category → List String
  | .runtimeDirectory => ["Socket Location Error", "",
      "Could not work out where the wallpaper socket lives.", "", "Common Causes:", "",
      "  1. XDG_RUNTIME_DIR is not set", "     → Check: echo $XDG_RUNTIME_DIR",
      "     → Usually set by the login manager or pam_systemd", "",
      "  2. The socket path is longer than 107 bytes",
      "     → Set LAMCO_WALLPAPER_SOCKET to a shorter path"]
  | .socketInUse => ["Socket Already Exists", "",
      "Something already exists at the wallpaper socket path.", "", "Common Causes:", "",
      "  1. Another lamco-wallpaperd is running", "     → Check: pgrep -a lamco-wallpaperd", "",
      "  2. A previous daemon was killed without cleaning up",
      "     → Remove the stale socket named below and retry"]
  | .daemonNotRunning => ["Daemon Not Running", "",
      "No wallpaper daemon is listening on the socket.", "", "  → Start it: lamco-wallpaperd",
      "  → If it runs with LAMCO_WALLPAPER_SOCKET, export the same value here"]
  | .display => ["Wayland Connection Error", "", "Could not talk to the Wayland compositor.", "",
      "  → Check: echo $WAYLAND_DISPLAY (should not be empty)",
      "  → The daemon must run inside the graphical session"]
  | .layerShell => ["Unsupported Compositor", "",
      "The compositor lacks a protocol needed for background surfaces.", "",
      "  → zwlr_layer_shell_v1 is required (Sway, Hyprland, river,",
      "    labwc, KDE Plasma and other wlroots-style compositors)",
      "  → GNOME Shell does not offer it"]
  | .settings => ["Configuration Error", "", "Problem with configuration file.", "",
      "Common Causes:", "", "  1. Invalid TOML syntax",
      "     → Check for typos, missing quotes, etc.", "", "  2. Unknown value",
      "     → render.filter: nearest, triangle, catmull-rom or lanczos3",
      "     → logging.level: trace, debug, info, warn or error"]
  | .image => ["Image Error", "", "The image could not be decoded.", "",
      "  → Supported formats: PNG, JPEG, BMP"]
  | .other => ["Wallpaper Error"]

end Category

namespace Chain

/-- The same character so many times. -/
def bar (c : Char) (n : Nat) : String := String.ofList (List.replicate n c)

/-- A rule across the page. -/
def rule : String := bar '━' 58

/-- A title in a frame. -/
def frame (title : String) : List String :=
  ["╔" ++ bar '═' 60 ++ "╗", "║" ++ title ++ bar ' ' (60 - title.length) ++ "║",
    "╚" ++ bar '═' 60 ++ "╝"]

/-- What is shown to people, line by line. -/
def shownLines (c : Chain) : List String :=
  [""] ++ frame "                     ERROR" ++ [""] ++ (Category.ofChain c).lines ++
    ["", rule, "Technical Details:", "", c.text, "", rule, "Need Help?",
      "  - Run the daemon in the foreground with logs: lamco-wallpaperd -f -vv",
      "  - Report issues: https://github.com/lamco-admin/lamco-wallpaper/issues"]

/-- What is shown to people. -/
def shown (c : Chain) : String := String.join (c.shownLines.map (· ++ "\n"))

end Chain
end Backdrop

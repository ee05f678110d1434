import Backdrop.Host.Environment
import Backdrop.Log
import Backdrop.Report.Hint

/-!
# Backdrop.Report.Diagnostics

What the daemon logs about its surroundings when it starts.
-/

namespace Backdrop
namespace Diagnostics

/-- The release of the programs. -/
def version : String := "0.1.0"

/-- The name of the desktop, as far as the environment tells. -/
def compositor? (e : Environment) : Option String :=
  (e.text? "XDG_CURRENT_DESKTOP").or
    ((e.text? "WAYLAND_DISPLAY").map fun d => s!"Wayland ({d})")

/-- The lines about the surroundings; `system` tells of the machine. -/
def lines (system : List String) (e : Environment) (socket : Path) : List Log.Line :=
  let compositor := (compositor? e).getD "Unknown (not in Wayland session?)"
  let display := (e.text? "WAYLAND_DISPLAY").getD "unset"
  (Chain.frame "          Startup Diagnostics" ++ ["=== System Information ==="] ++ system ++
    ["=== Environment ===", "  Compositor: " ++ compositor, "  WAYLAND_DISPLAY: " ++ display,
      "  Socket: " ++ socket.display, "=== Build ===", "  Version: " ++ version]).map Log.info

end Diagnostics
end Backdrop

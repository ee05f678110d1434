/-!
# Backdrop.Log

Log lines: a level and a text. Operations that log return their lines in order.
-/

namespace Backdrop
namespace Log

inductive Level where
  | trace | debug | info | warn | error
  deriving Repr, DecidableEq, Inhabited

def Level.name : Level → String
  | .trace => "TRACE"
  | .debug => "DEBUG"
  | .info => "INFO"
  | .warn => "WARN"
  | .error => "ERROR"

/-- Greater for more severe levels. -/
def Level.severity : Level → Nat
  | .trace => 0
  | .debug => 1
  | .info => 2
  | .warn => 3
  | .error => 4

structure Line where
  level : Level
  text : String
  deriving Repr, DecidableEq, Inhabited

def trace (text : String) : Line := ⟨.trace, text⟩
def debug (text : String) : Line := ⟨.debug, text⟩
def info (text : String) : Line := ⟨.info, text⟩
def warn (text : String) : Line := ⟨.warn, text⟩
def error (text : String) : Line := ⟨.error, text⟩

/-- Level and text, as one line of output. -/
def Line.render (l : Line) : String := l.level.name ++ " " ++ l.text

end Log
end Backdrop

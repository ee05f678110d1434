import Backdrop.Host.Path

/-!
# Backdrop.Host.Environment

Environment variables. Their values are byte strings; a value that is asked for as text and is none
counts as absent.
-/

namespace Backdrop

structure Environment where
  bindings : List (String × Path)
  deriving Repr, DecidableEq, Inhabited

namespace Environment

def get? (e : Environment) (name : String) : Option Path := e.bindings.lookup name

def text? (e : Environment) (name : String) : Option String :=
  (e.get? name).bind fun v => Utf8.decode? v.bytes

end Environment
end Backdrop

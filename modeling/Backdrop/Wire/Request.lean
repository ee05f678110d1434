import Backdrop.Wire.Header

/-!
# Backdrop.Wire.Request

Requests as the daemon understands them: a target, which is one monitor by name or all of them, and
an action, which is to clear or to draw the picture behind a descriptor.

`Request.assemble` makes one from the parts that arrive. A name that is not text is reported before
a missing descriptor.
-/

namespace Backdrop

/-- An open file that was passed along with bytes. -/
structure Descriptor where
  content : Array UInt8
  deriving Repr, DecidableEq, Inhabited

namespace Wire

inductive Action where
  | clear
  | draw (extent : Extent) (region : Descriptor)
  deriving Repr, DecidableEq, Inhabited

structure Request where
  target : Option String
  action : Action
  deriving Repr, DecidableEq, Inhabited

namespace Request

/-- How log lines name the target. -/
def targetText (r : Request) : String := r.target.getD "*"

/-- The target that the bytes of a name mean; no bytes mean all monitors. -/
def targetOf (name : List UInt8) : Except TransferError (Option String) :=
  if name.isEmpty then .ok none
  else
    match Utf8.decode name with
    | .ok s => .ok (some s)
    | .error f => .error (.invalidName f)

def actionOf (h : Header) (descriptor : Option Descriptor) : Except TransferError Action :=
  if h.isClear then .ok .clear
  else
    match descriptor with
    | some d => .ok (.draw h.extent d)
    | none => .error (.missingDescriptor h.extent)

def assemble (h : Header) (name : List UInt8) (descriptor : Option Descriptor) :
    Except TransferError Request :=
  match h.check with
  | .error e => .error e
  | .ok () =>
    match targetOf name with
    | .error e => .error e
    | .ok target =>
      match actionOf h descriptor with
      | .error e => .error e
      | .ok action => .ok ⟨target, action⟩

end Request
end Wire
end Backdrop

import Backdrop.Daemon.Error
import Backdrop.Settings.Basic

/-!
# Backdrop.Report.Chain

Errors with what caused them.

A chain is a list of layers, the outermost first. An error that wraps another one, and says nothing
of its own, is one layer with the inner error's words; the inner error's causes follow directly.
-/

namespace Backdrop

/-- What kind of error a layer is, as far as it matters to anybody. -/
inductive Layer.Source where
  | plain
  | daemon (e : DaemonError)
  | transfer (e : TransferError)
  | image
  | settings
  deriving Repr, DecidableEq, Inhabited

structure Layer where
  text : String
  source : Layer.Source
  deriving Repr, DecidableEq, Inhabited

abbrev Chain := List Layer

namespace Chain

def plain (text : String) : Chain := [⟨text, .plain⟩]

/-- Puts words in front of an error. -/
def context (text : String) (c : Chain) : Chain := ⟨text, .plain⟩ :: c

def ofIo (e : IoError) : Chain := plain e.message

def ofErrno (e : Errno) : Chain := plain e.message

/-- The causes of a memory error. -/
def memoryCauses : MemoryError → Chain
  | .create e | .resize _ e | .sealing e => ofErrno e
  | .map e | .stat e => ofIo e
  | _ => []

def ofMemory (e : MemoryError) : Chain := ⟨e.message, .plain⟩ :: memoryCauses e

/-- The causes of a transfer error. -/
def transferCauses : TransferError → Chain
  | .invalidName f => plain f.message
  | .region e => ofMemory e
  | .message e => ofErrno e
  | .io e => ofIo e
  | _ => []

def ofTransfer (e : TransferError) : Chain := ⟨e.text, .transfer e⟩ :: transferCauses e

def ofScale (e : ScaleError) : Chain := plain e.message

/-- The causes of an error of the daemon; three of them wrap errors that speak for themselves. -/
def daemonCauses : DaemonError → Chain
  | .socketSetup _ e | .io e => ofIo e
  | .signal e => ofErrno e
  | .memory e => memoryCauses e
  | .transfer e => transferCauses e
  | _ => []

def ofDaemon (e : DaemonError) : Chain := ⟨e.message, .daemon e⟩ :: daemonCauses e

/-- An error of the picture decoder. -/
def ofImage (text : String) : Chain := [⟨text, .image⟩]

/-- An error of the reader of settings files. -/
def ofToml (text : String) : Chain := [⟨text, .settings⟩]

/-- An error of the settings; `malformation` is how the reader words a malformed file. -/
def ofSettings (malformation : String) : SettingsError → Chain
  | .unreadable p e => context (SettingsError.unreadable p e).message (ofIo e)
  | .malformed => context SettingsError.malformed.message (ofToml malformation)
  | e => plain e.message

/-- All layers in one line. -/
def text (c : Chain) : String := ": ".intercalate (c.map (·.text))

/-- The words of the outermost layer. -/
def outermost (c : Chain) : String := (c.head?.map (·.text)).getD ""

end Chain
end Backdrop

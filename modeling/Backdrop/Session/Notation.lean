import Backdrop.Session.Protocol

/-!
# Backdrop.Session.Notation

How a connection is written down: labels for objects, and requests and events as a name with data.

A label is the word for the kind of an object and its number; the connection itself and the
announcements have no number.
-/

namespace Backdrop
namespace Session

/-- Kinds of numbered objects by their words. -/
def objectWords : List (String × (Nat → Object)) :=
  [("callback", .callback), ("compositor", .compositor), ("shm", .shm),
    ("layer_shell", .layerShell), ("output", .output), ("surface", .surface), ("region", .region),
    ("layer", .layer), ("pool", .pool), ("buffer", .buffer)]

namespace Object

def label : Object → String
  | .display => "display"
  | .registry => "registry"
  | .callback n => s!"callback{n}"
  | .compositor n => s!"compositor{n}"
  | .shm n => s!"shm{n}"
  | .layerShell n => s!"layer_shell{n}"
  | .output n => s!"output{n}"
  | .surface n => s!"surface{n}"
  | .region n => s!"region{n}"
  | .layer n => s!"layer{n}"
  | .pool n => s!"pool{n}"
  | .buffer n => s!"buffer{n}"

def ofLabel? (label : String) : Option Object :=
  if label == "display" then some .display
  else if label == "registry" then some .registry
  else
    let word := (label.toList.reverse.dropWhile Char.isDigit).reverse
    let digits := String.ofList (label.toList.drop word.length)
    match objectWords.lookup (String.ofList word), digits.toNat? with
    | some make, some n => some (make n)
    | _, _ => none

end Object

/-- What a request or an event carries. -/
inductive Datum where
  | nothing
  | number (n : Int)
  | text (s : String)
  | object (o : Object)
  /-- A descriptor, told by the length and the seals of its file. -/
  | region (length : Nat) (seals : Seals)
  | pixels (bytes : Array UInt8)
  deriving Repr, DecidableEq, Inhabited

/-- The object, the verb and the data of a request. -/
def Request.parts : Request → Object × String × List Datum
  | .getRegistry => (.display, "get_registry", [.object .registry])
  | .sync n => (.display, "sync", [.object (.callback n)])
  | .bind name i n => (.registry, "bind",
      [.number name.toNat, .text i.name, .number i.required.toNat, .object (i.object n)])
  | .createSurface c n => (.compositor c, "create_surface", [.object (.surface n)])
  | .createRegion c n => (.compositor c, "create_region", [.object (.region n)])
  | .setInputRegion n r => (.surface n, "set_input_region", [.object (.region r)])
  | .destroyRegion n => (.region n, "destroy", [])
  | .getLayerSurface l n s o depth purpose => (.layerShell l, "get_layer_surface",
      [.object (.layer n), .object (.surface s), .object (.output o), .number depth,
        .text purpose])
  | .setAnchor n edges => (.layer n, "set_anchor", [.number edges])
  | .setExclusiveZone n zone => (.layer n, "set_exclusive_zone", [.number zone])
  | .setKeyboardInteractivity n mode => (.layer n, "set_keyboard_interactivity", [.number mode])
  | .commit n => (.surface n, "commit", [])
  | .acknowledge n serial => (.layer n, "ack_configure", [.number serial.toNat])
  | .destroyLayer n => (.layer n, "destroy", [])
  | .destroySurface n => (.surface n, "destroy", [])
  | .createPool s n fileLength seals length => (.shm s, "create_pool",
      [.object (.pool n), .region fileLength seals, .number length])
  | .createBuffer p n offset width height stride format => (.pool p, "create_buffer",
      [.object (.buffer n), .number offset, .number width, .number height, .number stride,
        .number format])
  | .destroyPool n => (.pool n, "destroy", [])
  | .setBufferScale n scale => (.surface n, "set_buffer_scale", [.number scale])
  | .attach n b pixels => (.surface n, "attach",
      [.object (.buffer b), .number 0, .number 0, .pixels pixels])
  | .detach n => (.surface n, "attach", [.nothing, .number 0, .number 0])
  | .damageBuffer n width height => (.surface n, "damage_buffer",
      [.number 0, .number 0, .number width, .number height])
  | .destroyBuffer n => (.buffer n, "destroy", [])
  | .releaseOutput n => (.output n, "release", [])

/-- The lowest 32 bits. -/
def word (n : Int) : UInt32 := (n % UInt32.size).toNat.toUInt32

/-- The message that an object, the name of an event and its data make. -/
def Message.ofParts : Object → String → List Datum → Message
  | .display, "error", [.number code, .text t] => .error (word code) t
  | .registry, "global", [.number name, .text interface, .number version] =>
    .event (.global (word name) interface (word version))
  | .registry, "global_remove", [.number name] => .event (.globalRemove (word name))
  | .output n, "mode", .number flags :: .number w :: .number h :: _ =>
    .event (.mode n (word flags) ⟨w, h⟩)
  | .output n, "scale", [.number factor] => .event (.scale n factor)
  | .output n, "name", [.text t] => .event (.name n t)
  | .output n, "done", _ => .event (.done n)
  | .layer n, "configure", [.number serial, .number w, .number h] =>
    .event (.configure n (word serial) ⟨word w, word h⟩)
  | .layer n, "closed", _ => .event (.closed n)
  | .buffer n, "release", _ => .event (.release n)
  | o, _, _ => .event (.other o)

end Session
end Backdrop

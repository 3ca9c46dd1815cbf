import BusDoc.Bus.Client
import BusDoc.Bus.Hub

/-!
# A bus in memory

A transport without a peer. It answers calls from prepared responses and from tables of
properties, and it delivers the signals that are emitted on it.
-/

namespace BusDoc

/-- A call that was made. -/
structure CallRecord where
  target : Target
  method : String
  args : List Variant
  deriving Repr

/-- An interface of an object. -/
structure Endpoint where
  path : ObjectPath
  interface : String
  deriving DecidableEq, Repr

/-- A bus in memory. -/
structure Loopback where
  /-- The calls made so far. -/
  calls : List CallRecord := []
  /-- The prepared responses, by interface and method. -/
  responses : OrderedMap (String × String) (List Variant) := OrderedMap.empty
  /-- The properties of the objects. -/
  tables : OrderedMap Endpoint PropertyMap := OrderedMap.empty
  /-- The subscriptions to signals. -/
  hubs : OrderedMap Endpoint (Hub Signal) := OrderedMap.empty
  /-- Subscriptions are refused. -/
  refusing : Bool := false

namespace Loopback

/-- The properties of an interface of an object. -/
def table (b : Loopback) (e : Endpoint) : PropertyMap := (b.tables.get? e).getD OrderedMap.empty

/-- The hub of an interface of an object. -/
def hub (b : Loopback) (e : Endpoint) : Hub Signal := (b.hubs.get? e).getD Hub.empty

/-- The bus with the hub of an interface of an object replaced. -/
def putHub (b : Loopback) (e : Endpoint) (h : Hub Signal) : Loopback :=
  { b with hubs := b.hubs.insert e h }

/-- The bus with the properties of an interface of an object replaced. -/
def putTable (b : Loopback) (e : Endpoint) (m : PropertyMap) : Loopback :=
  { b with tables := b.tables.insert e m }

/-- The bus with a response prepared for a method of an interface. -/
def prepare (b : Loopback) (interface method : String) (values : List Variant) : Loopback :=
  { b with responses := b.responses.insert (interface, method) values }

/-- The bus that refuses subscriptions. -/
def refuse (b : Loopback) : Loopback := { b with refusing := true }

/-- The text of an argument; a missing argument and one that is no text count as empty. -/
def textArg (args : List Variant) (index : Nat) : String := (args[index]?.bind (·.asText?)).getD ""

/-- A call that accesses the properties of an object: its result, and the bus. -/
def accessProperties (b : Loopback) (path : ObjectPath) (method : String) (args : List Variant) :
    Except Error (List Variant) × Loopback :=
  let e : Endpoint := ⟨path, textArg args 0⟩
  let name := textArg args 1
  if method = "GetAll" then (.ok [.dict (b.table e).entries], b)
  else if method = "Get" then
    match (b.table e).get? name with
    | some v => (.ok [v], b)
    | none => (.error (.transport s!"no property {name}"), b)
  else if method = "Set" then
    let value := args[2]?.getD (.array [])
    (.ok [], b.putTable e ((b.table e).insert name value))
  else (.error (.transport s!"unknown method {method}"), b)

/-- A call: its result, and the bus. -/
def call (b : Loopback) (t : Target) (method : String) (args : List Variant) :
    Except Error (List Variant) × Loopback :=
  let b := { b with calls := b.calls ++ [⟨t, method, args⟩] }
  match b.responses.get? (t.interface, method) with
  | some values => (.ok values, b)
  | none =>
    if t.interface = propertiesInterface then b.accessProperties t.path method args
    else (.error (.transport s!"no response for {method}"), b)

/-- A subscription to the signals of an interface of an object: its number, and the bus. -/
def register (b : Loopback) (e : Endpoint) : Except Error Nat × Loopback :=
  if b.refusing then (.error (.transport s!"cannot register {e.path.text} {e.interface}"), b)
  else
    let (id, h) := (b.hub e).subscribe
    (.ok id, b.putHub e h)

instance : Transport Loopback where
  call t method args := ExceptT.mk fun b => b.call t method args
  register path interface := ExceptT.mk fun b => b.register ⟨path, interface⟩

/-- A signal emitted: the number of subscriptions it reached, and the bus. -/
def emit (b : Loopback) (s : Signal) : Nat × Loopback :=
  let e : Endpoint := ⟨s.path, s.interface⟩
  let (delivered, h) := (b.hub e).publish s
  (delivered, b.putHub e h)

/-- All subscriptions let go. -/
def disconnect (b : Loopback) : Loopback :=
  { b with hubs := b.hubs.mapValues Hub.closeAll }

/-- The source of the signals of a watch. -/
def source (w : Watching) : Endpoint := ⟨w.path, w.interface⟩

/-- The next event of a watch. -/
def tryNext (b : Loopback) (w : Watching) : Option WatchEvent × Loopback :=
  let (event, h) := (b.hub (source w)).tryNextBy w.watch.accept w.id
  (event, b.putHub (source w) h)

/-- The next event of a watch, or whether there may be one. -/
def poll (b : Loopback) (w : Watching) : Polled WatchEvent × Loopback :=
  let (event, h) := (b.hub (source w)).pollBy w.watch.accept w.id
  (event, b.putHub (source w) h)

/-- A watch ended. -/
def unsubscribe (b : Loopback) (w : Watching) : Loopback :=
  b.putHub (source w) ((b.hub (source w)).unsubscribe w.id)

end Loopback

end BusDoc

import BusDoc.Bus.Returns
import BusDoc.Bus.Watch
import BusDoc.Error

/-!
# Clients

A client calls one interface of one remote object. It reaches the bus through a transport only.
On top of calls it has the standard access to properties and the subscriptions to signals.
-/

namespace BusDoc

/-- The interface through which the properties of objects are accessed. -/
def propertiesInterface : String := "org.freedesktop.DBus.Properties"

/-- The interface that tells of objects that come and go. -/
def objectManagerInterface : String := "org.freedesktop.DBus.ObjectManager"

/-- The address of one interface of a remote object. -/
structure Target where
  /-- The bus name of the peer. -/
  service : String
  interface : String
  path : ObjectPath
  /-- The path of the peer's object manager. -/
  objectManagerPath : ObjectPath := ObjectPath.root
  deriving DecidableEq, Repr

namespace Target

/-- The same object, addressed through another interface. -/
def withInterface (t : Target) (interface : String) : Target := { t with interface }

end Target

/-- An exchange with the bus, whose state is `σ`. -/
abbrev Exchange (σ α : Type) := ExceptT Error (StateM σ) α

/-- The means by which clients reach the bus, whose state is `σ`. -/
class Transport (σ : Type) where
  /-- Calls a method and gives the values it returned. -/
  call : Target → (method : String) → (args : List Variant) → Exchange σ (List Variant)
  /-- Subscribes to the signals of an interface of an object and gives the number of the
  subscription. -/
  register : ObjectPath → (interface : String) → Exchange σ Nat

/-- A subscription of a client: the source of its signals, its number there, and its purpose. -/
structure Watching where
  path : ObjectPath
  interface : String
  id : Nat
  watch : Watch
  deriving DecidableEq, Repr

namespace Target

variable {σ : Type} [Transport σ]

/-- A call of a method of the interface. -/
def call (t : Target) (method : String) (args : List Variant) : Exchange σ (List Variant) :=
  Transport.call t method args

/-- A call of a method that accesses properties. -/
def callProperties (t : Target) (method : String) (args : List Variant) :
    Exchange σ (List Variant) :=
  Transport.call (t.withInterface propertiesInterface) method args

/-- A failure to convert, as the error of an exchange. -/
def liftMarshal {α : Type} (r : Except MarshalError α) : Exchange σ α :=
  ExceptT.mk (pure (r.mapError .marshal))

/-- The value of a property. -/
def getProperty (t : Target) (name : String) : Exchange σ Variant := do
  let values ← t.callProperties "Get" [.str t.interface, .str name]
  liftMarshal ((Returns.ofValues "Get" values).take .variant).1

/-- The value of a property at a type. -/
def getPropertyAs (t : Target) (name : String) (type : FieldType) : Exchange σ type.Carrier := do
  let value ← t.getProperty name
  liftMarshal (value.convertFor name type)

/-- A property set to a value. -/
def setProperty (t : Target) (name : String) (value : Variant) : Exchange σ Unit := do
  discard (t.callProperties "Set" [.str t.interface, .str name, value])

/-- All properties of the interface. -/
def getAllProperties (t : Target) : Exchange σ PropertyMap := do
  let values ← t.callProperties "GetAll" [.str t.interface]
  let entries ← liftMarshal ((Returns.ofValues "GetAll" values).take .dict).1
  return OrderedMap.ofList entries

/-- A subscription to the signals of an interface of an object. -/
def subscribe (path : ObjectPath) (interface : String) (watch : Watch) : Exchange σ Watching := do
  return ⟨path, interface, ← Transport.register path interface, watch⟩

/-- All signals of an interface of the object. -/
def register (t : Target) (interface : String) : Exchange σ Watching :=
  subscribe t.path interface .everything

/-- The signals of one name of the interface. -/
def watchSignal (t : Target) (name : String) : Exchange σ Watching :=
  subscribe t.path t.interface (.member name)

/-- The changes of properties of the interface. -/
def watchProperties (t : Target) : Exchange σ Watching :=
  subscribe t.path propertiesInterface (.properties t.interface)

/-- The objects added below, or removed from below, the path of the object. -/
def watchObjects (t : Target) : Exchange σ Watching :=
  subscribe t.objectManagerPath objectManagerInterface (.objects t.path)

end Target

end BusDoc

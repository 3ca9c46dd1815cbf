import BusDoc.Bus.Signal

/-!
# Watches

A watch lets through the signals it is about, in the form in which its holder wants them. Signals
that it does not accept, among them those whose body does not convert, are passed over.
-/

namespace BusDoc

/-- What a subscription to signals is for. -/
inductive Watch
  /-- Changed properties of one interface. -/
  | properties (interface : String)
  /-- Objects added below, or removed from below, a path. -/
  | objects (root : ObjectPath)
  /-- Signals of one name. -/
  | member (name : String)
  /-- All signals. -/
  | everything
  deriving DecidableEq, Repr

/-- What a watch gives to its holder. -/
inductive WatchEvent
  | change (c : PropertyChange)
  | object (e : ObjectEvent)
  | signal (s : Signal)
  deriving Repr

namespace Watch

/-- The change of properties of the interface that a signal tells of. -/
def acceptChange? (interface : String) (s : Signal) : Option PropertyChange :=
  if s.member = propertiesChanged then
    match PropertyChange.ofSignal s with
    | .ok c => if c.interface = interface then some c else none
    | .error _ => none
  else none

/-- The event of an object below the root that a signal tells of. -/
def acceptObject? (root : ObjectPath) (s : Signal) : Option ObjectEvent :=
  match ObjectEvent.ofSignal s with
  | .ok (some e) => if e.path.isBelow root then some e else none
  | _ => none

/-- What the watch gives for a signal, if it accepts it. -/
def accept (w : Watch) (s : Signal) : Option WatchEvent :=
  match w with
  | properties interface => (acceptChange? interface s).map .change
  | objects root => (acceptObject? root s).map .object
  | member name => if s.member = name then some (.signal s) else none
  | everything => some (.signal s)

end Watch

end BusDoc

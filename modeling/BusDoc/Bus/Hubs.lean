import BusDoc.Bus.Hub

/-!
# Shared hubs

Handles on hubs that several parties share. A clone of a handle stands for the same hub. When the
last handle on a hub is dropped, the hub lets all of its subscriptions go.
-/

namespace BusDoc

variable {E : Type}

/-- The hubs in use, and for every handle the place of its hub, or nothing if it was dropped. -/
structure Hubs (E : Type) where
  hubs : List (Hub E)
  handles : List (Option Nat)
  deriving Repr

namespace Hubs

/-- One hub with one handle. -/
def one : Hubs E := ⟨[Hub.empty], [some 0]⟩

/-- The place of the hub of a handle. -/
def place? (s : Hubs E) (handle : Nat) : Option Nat := s.handles[handle]?.bind id

/-- The hub of a handle. -/
def hub? (s : Hubs E) (handle : Nat) : Option (Hub E) :=
  (s.place? handle).bind fun place => s.hubs[place]?

/-- The hub at a place replaced. -/
def put (s : Hubs E) (place : Nat) (h : Hub E) : Hubs E := { s with hubs := s.hubs.set place h }

/-- A new handle on a new hub. -/
def add (s : Hubs E) : Hubs E := ⟨s.hubs ++ [Hub.empty], s.handles ++ [some s.hubs.length]⟩

/-- A new handle on the hub of a handle. -/
def clone (s : Hubs E) (handle : Nat) : Hubs E :=
  { s with handles := s.handles ++ [s.place? handle] }

/-- A handle dropped. -/
def drop (s : Hubs E) (handle : Nat) : Hubs E :=
  match s.place? handle with
  | none => s
  | some place =>
    let handles := s.handles.set handle none
    if some place ∈ handles then { s with handles := handles }
    else ⟨s.hubs.modify place Hub.closeAll, handles⟩

end Hubs

end BusDoc

/-!
# Hubs

A hub hands every published event to all of its subscriptions. A subscription has a queue of the
events that were delivered and not read yet. The hub stops delivering to a subscription that was
closed, whose receiver was dropped, or that the hub let go; only closing keeps queued events from
being read. Subscriptions are numbered in the order of subscribing and never forgotten, so the
number of a subscription is its place in the hub.

* `firstAccepted_eq_some_iff`: reading takes the first event of the queue that is accepted.
* `fst_subscribe`: a new subscription gets the next free number.
-/

namespace BusDoc

variable {E α : Type}

/-- What a reader that does not wait gets: an event, the end of the events, or the advice to come
back later. -/
inductive Polled (α : Type)
  | event (value : α)
  | finished
  | pending
  deriving DecidableEq, Repr

/-- One subscription to a hub. -/
structure Subscription (E : Type) where
  /-- The hub delivers to it. -/
  attached : Bool := true
  /-- It was ended by its holder. -/
  closed : Bool := false
  /-- Its receiver is still there. -/
  receiving : Bool := true
  /-- The events delivered and not read yet, oldest first. -/
  queue : List E := []
  deriving DecidableEq, Repr

/-- The first event of a queue that `accept` lets through, as `accept` gives it, and the queue
behind it. -/
def firstAccepted (accept : E → Option α) : List E → Option (α × List E)
  | [] => none
  | e :: queue =>
    match accept e with
    | some x => some (x, queue)
    | none => firstAccepted accept queue

namespace Subscription

/-- The subscription that was just made. -/
def fresh : Subscription E := {}

/-- A published event reaches the subscription. -/
def isLive (s : Subscription E) : Bool := s.attached && !s.closed && s.receiving

/-- The subscription after an event was published: the event is queued, or the hub lets go of a
subscription that it does not reach. -/
def deliver (e : E) (s : Subscription E) : Subscription E :=
  if s.isLive then { s with queue := s.queue ++ [e] } else { s with attached := false }

/-- The subscription ended by its holder. -/
def close (s : Subscription E) : Subscription E := { s with closed := true, attached := false }

/-- The subscription that the hub has let go. -/
def detach (s : Subscription E) : Subscription E := { s with attached := false }

/-- The subscription without a receiver. -/
def dropReceiver (s : Subscription E) : Subscription E :=
  { s with receiving := false, queue := [] }

/-- The next queued event that is accepted; the events before it are gone. -/
def tryNextBy (accept : E → Option α) (s : Subscription E) : Option α × Subscription E :=
  if s.closed then (none, s)
  else match firstAccepted accept s.queue with
    | some (x, queue) => (some x, { s with queue := queue })
    | none => (none, { s with queue := [] })

/-- The next queued event. -/
def tryNext (s : Subscription E) : Option E × Subscription E := s.tryNextBy some

/-- The next queued event that is accepted, or whether there may still be one: an open
subscription without one is finished when the hub has let it go. -/
def pollBy (accept : E → Option α) (s : Subscription E) : Polled α × Subscription E :=
  if s.closed then (.finished, s)
  else match firstAccepted accept s.queue with
    | some (x, queue) => (.event x, { s with queue := queue })
    | none => (if s.attached then .pending else .finished, { s with queue := [] })

/-- The next queued event, or whether there may still be one. -/
def poll (s : Subscription E) : Polled E × Subscription E := s.pollBy some

end Subscription

/-- A hub: all subscriptions ever made, by number. -/
structure Hub (E : Type) where
  subscriptions : List (Subscription E) := []
  deriving DecidableEq, Repr

namespace Hub

/-- The hub without subscriptions. -/
def empty : Hub E := {}

/-- A new subscription: its number, and the hub with it. -/
def subscribe (h : Hub E) : Nat × Hub E :=
  (h.subscriptions.length, ⟨h.subscriptions ++ [Subscription.fresh]⟩)

/-- An event handed to every subscription: the number of those it reached, and the hub. -/
def publish (h : Hub E) (e : E) : Nat × Hub E :=
  (h.subscriptions.countP Subscription.isLive, ⟨h.subscriptions.map (Subscription.deliver e)⟩)

/-- The number of subscriptions that the hub delivers to. -/
def subscriberCount (h : Hub E) : Nat := h.subscriptions.countP Subscription.attached

/-- The hub without subscribers. What is queued can still be read. -/
def closeAll (h : Hub E) : Hub E := ⟨h.subscriptions.map Subscription.detach⟩

/-- The hub with one subscription changed. -/
def modify (h : Hub E) (id : Nat) (f : Subscription E → Subscription E) : Hub E :=
  ⟨h.subscriptions.modify id f⟩

/-- A subscription ended by its holder. -/
def unsubscribe (h : Hub E) (id : Nat) : Hub E := h.modify id Subscription.close

/-- The receiver of a subscription dropped. -/
def dropReceiver (h : Hub E) (id : Nat) : Hub E := h.modify id Subscription.dropReceiver

/-- A subscription was ended by its holder. -/
def isClosed (h : Hub E) (id : Nat) : Bool :=
  match h.subscriptions[id]? with
  | some s => s.closed
  | none => false

/-- The receiver of a subscription is still there. -/
def isReceiving (h : Hub E) (id : Nat) : Bool :=
  match h.subscriptions[id]? with
  | some s => s.receiving
  | none => false

/-- The next queued event of a subscription that is accepted. -/
def tryNextBy (accept : E → Option α) (h : Hub E) (id : Nat) : Option α × Hub E :=
  match h.subscriptions[id]? with
  | some s =>
    let (event, s) := s.tryNextBy accept
    (event, ⟨h.subscriptions.set id s⟩)
  | none => (none, h)

/-- The next queued event of a subscription. -/
def tryNext (h : Hub E) (id : Nat) : Option E × Hub E := h.tryNextBy some id

/-- The next queued event of a subscription that is accepted, or whether there may be one. -/
def pollBy (accept : E → Option α) (h : Hub E) (id : Nat) : Polled α × Hub E :=
  match h.subscriptions[id]? with
  | some s =>
    let (event, s) := s.pollBy accept
    (event, ⟨h.subscriptions.set id s⟩)
  | none => (.finished, h)

/-- The next queued event of a subscription, or whether there may be one. -/
def poll (h : Hub E) (id : Nat) : Polled E × Hub E := h.pollBy some id

end Hub

theorem firstAccepted_eq_some_iff {accept : E → Option α} {queue rest : List E} {x : α} :
    firstAccepted accept queue = some (x, rest) ↔
      ∃ skipped e, queue = skipped ++ e :: rest ∧ (∀ s ∈ skipped, accept s = none) ∧
        accept e = some x := by
  induction queue with
  | nil => simp [firstAccepted]
  | cons c queue ih =>
    rw [firstAccepted]
    cases hc : accept c with
    | some y =>
      constructor
      · intro h
        simp only [Option.some.injEq, Prod.mk.injEq] at h
        exact ⟨[], c, by simp [h.2], by simp, by simp [hc, h.1]⟩
      · rintro ⟨skipped, e, hq, hs, he⟩
        cases skipped with
        | nil =>
          simp only [List.nil_append, List.cons.injEq] at hq
          rw [← hq.1, hc] at he
          simp only [Option.some.injEq] at he
          simp [he, hq.2]
        | cons s skipped =>
          simp only [List.cons_append, List.cons.injEq] at hq
          have := hs s (List.mem_cons_self ..)
          rw [← hq.1, hc] at this
          cases this
    | none =>
      rw [ih]
      constructor
      · rintro ⟨skipped, e, rfl, hs, he⟩
        exact ⟨c :: skipped, e, rfl, by simpa [hc] using hs, he⟩
      · rintro ⟨skipped, e, hq, hs, he⟩
        cases skipped with
        | nil =>
          simp only [List.nil_append, List.cons.injEq] at hq
          rw [← hq.1, hc] at he
          cases he
        | cons s skipped =>
          simp only [List.cons_append, List.cons.injEq] at hq
          exact ⟨skipped, e, hq.2, fun t ht => hs t (List.mem_cons_of_mem _ ht), he⟩

theorem Hub.fst_subscribe (h : Hub E) :
    h.subscribe.1 = h.subscriptions.length ∧
      h.subscribe.2.subscriptions.length = h.subscriptions.length + 1 := by
  simp [subscribe]

end BusDoc

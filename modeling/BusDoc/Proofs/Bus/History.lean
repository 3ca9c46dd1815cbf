import BusDoc.Bus.Hub
import Mathlib.Data.List.TakeWhile

/-!
# Histories of a hub

A hub is used through six calls, in any order. A run keeps the hub and its history: every call that
was made, with its answer. What the histories say about a subscription is read off the calls alone,
without the hub's state:

- **Since** (`History.since id`): what happened after the call that made subscription `id`.
- **Published** (`History.published id`): the events published since then, up to the first call
  that ends the delivery (`HubCall.ends`): `id` is unsubscribed or its stream dropped, or the hub
  closes all subscriptions.
- **Received** (`History.received id`): the events that reading the stream of `id` gave.
- **Open** (`History.isOpen id`): made, and no such call since.

One more call extends them as `published_concat`, `received_concat` and `isOpen_concat` say.
-/

namespace BusDoc

variable {E : Type}

/-- What can be done with a hub, its subscriptions and their streams. -/
inductive HubCall (E : Type)
  | subscribe
  | publish (e : E)
  | unsubscribe (id : Nat)
  | closeAll
  | dropStream (id : Nat)
  | tryNext (id : Nat)
  deriving DecidableEq, Repr

/-- What a call of a hub gives back. -/
inductive HubAnswer (E : Type)
  | subscribed (id : Nat)
  | reached (count : Nat)
  | next (event : Option E)
  | done
  deriving DecidableEq, Repr

namespace HubCall

/-- The event that is published. -/
def event? : HubCall E → Option E
  | publish e => some e
  | _ => none

def unsubscribes (id : Nat) : HubCall E → Bool
  | unsubscribe i => i = id
  | _ => false

def dropsStream (id : Nat) : HubCall E → Bool
  | dropStream i => i = id
  | _ => false

/-- No event published after the call is delivered to subscription `id`. -/
def ends (id : Nat) : HubCall E → Bool
  | closeAll => true
  | c => c.unsubscribes id || c.dropsStream id

end HubCall

/-- The answer of a hub to a call, and the hub after it. -/
def Hub.call (h : Hub E) : HubCall E → HubAnswer E × Hub E
  | .subscribe => (.subscribed h.subscribe.1, h.subscribe.2)
  | .publish e => (.reached (h.publish e).1, (h.publish e).2)
  | .unsubscribe id => (.done, h.unsubscribe id)
  | .closeAll => (.done, h.closeAll)
  | .dropStream id => (.done, h.dropReceiver id)
  | .tryNext id => (.next (h.tryNext id).1, (h.tryNext id).2)

/-- The calls that were made, oldest first, with their answers. -/
abbrev History (E : Type) := List (HubCall E × HubAnswer E)

/-- A hub that was new at the start of the history. -/
structure HubRun (E : Type) where
  hub : Hub E := Hub.empty
  history : History E := []

namespace HubRun

/-- The run with one more call. -/
def call (r : HubRun E) (c : HubCall E) : HubRun E :=
  ⟨(r.hub.call c).2, r.history ++ [(c, (r.hub.call c).1)]⟩

/-- The calls made on a new hub, in order. -/
def of (calls : List (HubCall E)) : HubRun E := calls.foldl call {}

/-- What holds at the start and is kept by every call holds of every run. -/
theorem of_induction {P : HubRun E → Prop} (start : P {}) (step : ∀ r c, P r → P (r.call c))
    (calls : List (HubCall E)) : P (of calls) := by
  unfold of
  generalize ({} : HubRun E) = r at start
  induction calls generalizing r with
  | nil => exact start
  | cons c calls ih => exact ih _ (step r c start)

/-- The history of a run has its calls, in order. -/
theorem map_fst_history (calls : List (HubCall E)) : (of calls).history.map Prod.fst = calls := by
  suffices ∀ r : HubRun E, (calls.foldl call r).history.map Prod.fst =
      r.history.map Prod.fst ++ calls from this {}
  induction calls with
  | nil => simp
  | cons c calls ih => intro r; simp [ih, call]

end HubRun

namespace History

/-- The number that an answer gives to a new subscription. -/
def subscribedId? : HubCall E × HubAnswer E → Option Nat
  | (.subscribe, .subscribed id) => some id
  | _ => none

/-- The event that reading the stream of `id` gave. -/
def receivedEvent? (id : Nat) : HubCall E × HubAnswer E → Option E
  | (.tryNext i, .next event) => if i = id then event else none
  | _ => none

/-- The subscriptions made, oldest first. -/
def ids (history : History E) : List Nat := history.filterMap subscribedId?

/-- What happened after subscription `id` was made. -/
def since (id : Nat) : History E → History E
  | [] => []
  | x :: history => if subscribedId? x = some id then history else since id history

def unsubscribed (id : Nat) (history : History E) : Bool :=
  (history.since id).any (·.1.unsubscribes id)

def dropped (id : Nat) (history : History E) : Bool :=
  (history.since id).any (·.1.dropsStream id)

/-- Subscription `id` was made, and nothing has ended its delivery. -/
def isOpen (id : Nat) (history : History E) : Bool :=
  id ∈ history.ids && (history.since id).all (!·.1.ends id)

/-- The events published from the making of subscription `id` to the first call that ended its
delivery. -/
def published (id : Nat) (history : History E) : List E :=
  ((history.since id).takeWhile (!·.1.ends id)).filterMap (·.1.event?)

/-- The events that the stream of subscription `id` gave, in order. -/
def received (id : Nat) (history : History E) : List E :=
  history.filterMap (receivedEvent? id)

/-- The number of open subscriptions. -/
def openCount (history : History E) : Nat := history.ids.countP (isOpen · history)

variable {id : Nat} {history : History E} {x : HubCall E × HubAnswer E}

/-! ## One more call -/

theorem ids_concat : ids (history ++ [x]) = history.ids ++ (subscribedId? x).toList := by
  cases hx : subscribedId? x <;> simp [ids, hx]

theorem received_concat :
    received id (history ++ [x]) = received id history ++ (receivedEvent? id x).toList := by
  cases hx : receivedEvent? id x <;> simp [received, hx]

@[simp] theorem mem_ids_cons :
    id ∈ ids (x :: history) ↔ subscribedId? x = some id ∨ id ∈ history.ids := by
  simp [ids]

theorem since_append_of_notMem (h : id ∉ history.ids) (more : History E) :
    since id (history ++ more) = since id more := by
  induction history with
  | nil => rfl
  | cons y history ih =>
    simp only [mem_ids_cons, not_or] at h
    rw [List.cons_append, since, if_neg h.1, ih h.2]

theorem since_of_notMem (h : id ∉ history.ids) : since id history = [] := by
  have := since_append_of_notMem h []
  rwa [List.append_nil] at this

/-- Nothing has happened yet after the making of a subscription. -/
theorem since_concat_of_notMem (h : id ∉ history.ids) : since id (history ++ [x]) = [] := by
  rw [since_append_of_notMem h]
  simp [since]

theorem since_concat (h : id ∈ history.ids) :
    since id (history ++ [x]) = since id history ++ [x] := by
  induction history with
  | nil => simp [ids] at h
  | cons y history ih =>
    rw [List.cons_append, since, since]
    by_cases hy : subscribedId? y = some id
    · rw [if_pos hy, if_pos hy]
    · rw [if_neg hy, if_neg hy, ih ((mem_ids_cons.mp h).resolve_left hy)]

theorem unsubscribed_concat (h : id ∈ history.ids) :
    unsubscribed id (history ++ [x]) = (unsubscribed id history || x.1.unsubscribes id) := by
  simp [unsubscribed, since_concat h]

theorem dropped_concat (h : id ∈ history.ids) :
    dropped id (history ++ [x]) = (dropped id history || x.1.dropsStream id) := by
  simp [dropped, since_concat h]

theorem isOpen_concat (h : id ∈ history.ids) :
    isOpen id (history ++ [x]) = (isOpen id history && !x.1.ends id) := by
  simp [isOpen, since_concat h, ids_concat, h]

/-- A call that publishes an event ends no delivery. -/
theorem ends_of_event? {c : HubCall E} {e : E} (h : c.event? = some e) : c.ends id = false := by
  cases c with
  | publish _ => rfl
  | _ => cases h

/-- What is published counts for the subscriptions that are open. -/
theorem published_concat (h : id ∈ history.ids) :
    published id (history ++ [x]) =
      published id history ++ if isOpen id history then x.1.event?.toList else [] := by
  unfold published
  rw [since_concat h]
  by_cases ho : isOpen id history
  · have hall : ∀ y ∈ history.since id, (!y.1.ends id) = true := by
      simpa [isOpen, h] using ho
    rw [List.takeWhile_append_of_pos hall, List.takeWhile_eq_self_iff.mpr hall, if_pos ho,
      List.filterMap_append]
    congr 1
    cases he : x.1.event? with
    | none => by_cases hx : x.1.ends id <;> simp [hx, he]
    | some e => simp [ends_of_event? he, he]
  · have hlt : ¬ ((history.since id).takeWhile (!·.1.ends id)).length =
        (history.since id).length := by
      intro heq
      refine ho ?_
      rw [isOpen, List.all_eq_true.mpr, decide_eq_true h, Bool.true_and]
      exact List.takeWhile_eq_self_iff.mp ((List.takeWhile_prefix _).eq_of_length heq)
    rw [List.takeWhile_append, if_neg hlt, if_neg ho, List.append_nil]

end History

end BusDoc

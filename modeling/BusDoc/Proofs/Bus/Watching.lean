import BusDoc.Bus.Watch
import BusDoc.Proofs.Bus.Delivery

/-!
# What a watch gives

A watch reads the stream of a subscription while the hub is used. `watch_delivery` is its law: at
every moment the events it has given, and then those that its queue holds for it, are the events of
the signals delivered, in order. So no signal that the watch passes over, malformed or about
something else, ends the watch or hides a later signal.

- **Steps** (`StreamStep`): a call of the hub, or a read. `delivered` is read off them alone.
- **One read** (`Subscription.tryNextBy_cases`): takes the first accepted event, with those before
  it.
- **One call** (`Subscription.arrived_after`): a call that leaves the subscription to its watch
  moves an event from those to come to the queue.
- **A run** (`Hub.exists_watched`): what has been given, is queued and is still to come stays the
  same list.
-/

namespace BusDoc

variable {E α : Type} {accept : E → Option α}

namespace Watch

/-- The signal is one that the watch is about, and the event what it tells. -/
inductive Accepts : Watch → Signal → WatchEvent → Prop
  | change {interface : String} {s : Signal} {c : PropertyChange}
      (named : s.member = propertiesChanged) (reads : PropertyChange.ofSignal s = .ok c)
      (about : c.interface = interface) : Accepts (.properties interface) s (.change c)
  | object {root : ObjectPath} {s : Signal} {e : ObjectEvent}
      (named : s.member = interfacesAdded ∨ s.member = interfacesRemoved)
      (reads : ObjectEvent.ofSignal s = .ok (some e)) (below : e.path.isBelow root) :
      Accepts (.objects root) s (.object e)
  | member {name : String} {s : Signal} (named : s.member = name) :
      Accepts (.member name) s (.signal s)
  | everything {s : Signal} : Accepts .everything s (.signal s)

/-- Only the two signals of an object manager tell of objects. -/
theorem member_of_ofSignal {s : Signal} {e : ObjectEvent}
    (h : ObjectEvent.ofSignal s = .ok (some e)) :
    s.member = interfacesAdded ∨ s.member = interfacesRemoved := by
  unfold ObjectEvent.ofSignal at h
  split at h
  next hadded => exact .inl hadded
  next =>
    split at h
    next hremoved => exact .inr hremoved
    next => cases h

theorem acceptChange?_eq_some {interface : String} {s : Signal} {c : PropertyChange} :
    acceptChange? interface s = some c ↔
      s.member = propertiesChanged ∧ PropertyChange.ofSignal s = .ok c ∧
        c.interface = interface := by
  unfold acceptChange?
  by_cases hnamed : s.member = propertiesChanged
  · rw [if_pos hnamed]
    cases hreads : PropertyChange.ofSignal s with
    | error e => simp
    | ok d =>
      by_cases habout : d.interface = interface <;> simp only [habout, if_true, if_false]
      · constructor
        · rintro ⟨⟩
          exact ⟨hnamed, rfl, habout⟩
        · rintro ⟨-, ⟨⟩, -⟩
          rfl
      · constructor
        · rintro ⟨⟩
        · rintro ⟨-, ⟨⟩, h⟩
          exact absurd h habout
  · simp [hnamed]

theorem acceptObject?_eq_some {root : ObjectPath} {s : Signal} {e : ObjectEvent} :
    acceptObject? root s = some e ↔
      ObjectEvent.ofSignal s = .ok (some e) ∧ e.path.isBelow root := by
  unfold acceptObject?
  split
  next d hreads =>
    by_cases hbelow : d.path.isBelow root
    · rw [if_pos hbelow, hreads]
      constructor
      · rintro ⟨⟩
        exact ⟨rfl, hbelow⟩
      · rintro ⟨⟨⟩, -⟩
        rfl
    · rw [if_neg hbelow, hreads]
      constructor
      · rintro ⟨⟩
      · rintro ⟨⟨⟩, h⟩
        exact absurd h hbelow
  next hother =>
    constructor
    · rintro ⟨⟩
    · rintro ⟨hreads, -⟩
      exact absurd hreads (hother e)

theorem accept_eq_some_iff {w : Watch} {s : Signal} {x : WatchEvent} :
    w.accept s = some x ↔ w.Accepts s x := by
  cases w with
  | properties interface =>
    rw [accept, Option.map_eq_some_iff]
    constructor
    · rintro ⟨c, hc, rfl⟩
      obtain ⟨hnamed, hreads, habout⟩ := acceptChange?_eq_some.1 hc
      exact .change hnamed hreads habout
    · rintro ⟨hnamed, hreads, habout⟩
      exact ⟨_, acceptChange?_eq_some.2 ⟨hnamed, hreads, habout⟩, rfl⟩
  | objects root =>
    rw [accept, Option.map_eq_some_iff]
    constructor
    · rintro ⟨e, he, rfl⟩
      obtain ⟨hreads, hbelow⟩ := acceptObject?_eq_some.1 he
      exact .object (member_of_ofSignal hreads) hreads hbelow
    · intro h
      cases h with
      | object hnamed hreads hbelow =>
        exact ⟨_, acceptObject?_eq_some.2 ⟨hreads, hbelow⟩, rfl⟩
  | member name =>
    by_cases hnamed : s.member = name
    · rw [accept, if_pos hnamed]
      constructor
      · rintro ⟨⟩
        exact .member hnamed
      · rintro ⟨⟩
        rfl
    · rw [accept, if_neg hnamed]
      constructor
      · rintro ⟨⟩
      · intro h
        cases h with
        | member named => exact absurd named hnamed
  | everything =>
    constructor
    · rintro ⟨⟩
      exact .everything
    · rintro ⟨⟩
      rfl

end Watch

/-! ## One read -/

theorem firstAccepted_eq_none_iff {queue : List E} :
    firstAccepted accept queue = none ↔ ∀ e ∈ queue, accept e = none := by
  induction queue with
  | nil => simp [firstAccepted]
  | cons e queue ih => cases he : accept e <;> simp [firstAccepted, he, ih]

namespace Subscription

variable {s : Subscription E}

/-- A read takes the first accepted event and all before it, or the whole queue if there is none. -/
theorem tryNextBy_cases (accept : E → Option α) (hopen : s.closed = false) :
    (∃ skipped e x rest, s.queue = skipped ++ e :: rest ∧ (∀ t ∈ skipped, accept t = none) ∧
      accept e = some x ∧ s.tryNextBy accept = (some x, { s with queue := rest })) ∨
    ((∀ e ∈ s.queue, accept e = none) ∧ s.tryNextBy accept = (none, { s with queue := [] })) := by
  rw [tryNextBy, hopen, if_neg Bool.false_ne_true]
  cases hf : firstAccepted accept s.queue with
  | none => exact .inr ⟨firstAccepted_eq_none_iff.1 hf, rfl⟩
  | some found =>
    obtain ⟨skipped, e, hqueue, hskipped, he⟩ := firstAccepted_eq_some_iff.1 hf
    exact .inl ⟨skipped, e, found.1, found.2, hqueue, hskipped, he, rfl⟩

/-- Reading gives the first of the accepted events. -/
theorem fst_tryNextBy (hopen : s.closed = false) :
    (s.tryNextBy accept).1 = (s.queue.filterMap accept).head? := by
  rcases s.tryNextBy_cases accept hopen with
    ⟨skipped, e, x, rest, hqueue, hskipped, he, hread⟩ | ⟨hnone, hread⟩
  · simp [hread, hqueue, he, List.filterMap_eq_nil_iff.2 hskipped]
  · simp [hread, List.filterMap_eq_nil_iff.2 hnone]

/-- What reading gave and the accepted events left are the accepted events there were. -/
theorem accepted_tryNextBy (hopen : s.closed = false) :
    (s.tryNextBy accept).1.toList ++ (s.tryNextBy accept).2.queue.filterMap accept =
      s.queue.filterMap accept := by
  rcases s.tryNextBy_cases accept hopen with
    ⟨skipped, e, x, rest, hqueue, hskipped, he, hread⟩ | ⟨hnone, hread⟩
  · simp [hread, hqueue, he, List.filterMap_eq_nil_iff.2 hskipped]
  · simp [hread, List.filterMap_eq_nil_iff.2 hnone]

/-- A read that gives nothing has gone through the whole queue. -/
theorem queue_of_fst_tryNextBy_eq_none (hopen : s.closed = false)
    (h : (s.tryNextBy accept).1 = none) : (s.tryNextBy accept).2.queue = [] := by
  rcases s.tryNextBy_cases accept hopen with ⟨_, _, x, rest, -, -, -, hread⟩ | ⟨-, hread⟩
  · rw [hread] at h
    cases h
  · rw [hread]

/-- Reading touches the queue alone. -/
theorem flags_tryNextBy (accept : E → Option α) (s : Subscription E) :
    (s.tryNextBy accept).2.closed = s.closed ∧ (s.tryNextBy accept).2.isLive = s.isLive := by
  unfold tryNextBy isLive
  split
  · exact ⟨rfl, rfl⟩
  · split <;> exact ⟨rfl, rfl⟩

end Subscription

/-! ## Runs -/

/-- What happens while a stream is read: the hub is called, or the stream is read. -/
inductive StreamStep (E : Type)
  | call (c : HubCall E)
  | read

/-- The call is one that the holder of the stream of `id` makes. -/
def HubCall.IsOf (id : Nat) : HubCall E → Prop
  | unsubscribe i | dropStream i | tryNext i => i = id
  | _ => False

/-- The events published, up to the call that ends the delivery to `id`. -/
def delivered (id : Nat) : List (StreamStep E) → List E
  | [] => []
  | .read :: steps => delivered id steps
  | .call c :: steps => if c.ends id then [] else c.event?.toList ++ delivered id steps

namespace Subscription

variable {s : Subscription E}

/-- What is queued and what is still to be delivered. -/
def arrived (s : Subscription E) (id : Nat) (steps : List (StreamStep E)) : List E :=
  s.queue ++ if s.isLive then delivered id steps else []

/-- A call that the holder of the stream does not make queues what it publishes. -/
theorem arrived_after {id : Nat} {c : HubCall E} (hc : ¬ c.IsOf id)
    (steps : List (StreamStep E)) :
    (s.after id c).arrived id steps = s.arrived id (.call c :: steps) := by
  rw [arrived, isLive_after, arrived, delivered]
  cases c with
  | subscribe => simp [after, HubCall.ends, HubCall.event?, HubCall.unsubscribes,
      HubCall.dropsStream]
  | publish e =>
    by_cases hlive : s.isLive <;> simp [after, deliver, hlive, HubCall.ends, HubCall.event?,
      HubCall.unsubscribes, HubCall.dropsStream]
  | closeAll => simp [after, detach, HubCall.ends]
  | unsubscribe i =>
    have hi : ¬ i = id := hc
    simp [after, hi, HubCall.ends, HubCall.event?, HubCall.unsubscribes, HubCall.dropsStream]
  | dropStream i =>
    have hi : ¬ i = id := hc
    simp [after, hi, HubCall.ends, HubCall.event?, HubCall.unsubscribes, HubCall.dropsStream]
  | tryNext i =>
    have hi : ¬ i = id := hc
    simp [after, hi, HubCall.ends, HubCall.event?, HubCall.unsubscribes, HubCall.dropsStream]

theorem closed_after {id : Nat} {c : HubCall E} (hc : ¬ c.IsOf id) :
    (s.after id c).closed = s.closed := by
  rw [(s.flags_after id c).1]
  cases c with
  | unsubscribe i =>
    have hi : ¬ i = id := hc
    simp [HubCall.unsubscribes, hi]
  | _ => simp [HubCall.unsubscribes]

end Subscription

namespace Hub

/-- The events that the reads of the stream of `id` give, and the hub after the steps. -/
def watched (accept : E → Option α) (id : Nat) (h : Hub E) :
    List (StreamStep E) → List α × Hub E
  | [] => ([], h)
  | .call c :: steps => watched accept id (h.call c).2 steps
  | .read :: steps =>
    let (event, h) := h.tryNextBy accept id
    let (events, h) := watched accept id h steps
    (event.toList ++ events, h)

/-- A stream is read by reading its subscription. -/
theorem tryNextBy_of_getElem? (accept : E → Option α) {h : Hub E} {id : Nat} {s : Subscription E}
    (hs : h.subscriptions[id]? = some s) :
    (h.tryNextBy accept id).1 = (s.tryNextBy accept).1 ∧
      (h.tryNextBy accept id).2.subscriptions[id]? = some (s.tryNextBy accept).2 := by
  have hlt : id < h.subscriptions.length := (List.getElem?_eq_some_iff.mp hs).1
  rw [tryNextBy, hs]
  exact ⟨rfl, List.getElem?_set_self hlt⟩

/-- Through every run, the events given, those queued and those to come are the same list. -/
theorem exists_watched (accept : E → Option α) {id : Nat} {steps : List (StreamStep E)}
    (hsteps : ∀ c, .call c ∈ steps → ¬ c.IsOf id) {h : Hub E} {s : Subscription E}
    (hs : h.subscriptions[id]? = some s) (hopen : s.closed = false) :
    ∃ t, (h.watched accept id steps).2.subscriptions[id]? = some t ∧ t.closed = false ∧
      (h.watched accept id steps).1 ++ t.queue.filterMap accept =
        (s.arrived id steps).filterMap accept := by
  induction steps generalizing h s with
  | nil =>
    refine ⟨s, hs, hopen, ?_⟩
    simp [watched, Subscription.arrived, delivered]
  | cons x steps ih =>
    have hrest : ∀ c, .call c ∈ steps → ¬ c.IsOf id := fun c hc =>
      hsteps c (List.mem_cons_of_mem _ hc)
    cases x with
    | call c =>
      have hc : ¬ c.IsOf id := hsteps c (List.mem_cons_self ..)
      have hopen' : (s.after id c).closed = false := by
        rw [Subscription.closed_after hc, hopen]
      obtain ⟨t, ht, hclosed, hevents⟩ := ih hrest (getElem?_call hs c) hopen'
      rw [Subscription.arrived_after hc] at hevents
      exact ⟨t, ht, hclosed, hevents⟩
    | read =>
      obtain ⟨hfst, hsnd⟩ := tryNextBy_of_getElem? accept hs
      obtain ⟨hclosed, hlive⟩ := s.flags_tryNextBy accept
      obtain ⟨t, ht, hstill, hevents⟩ := ih hrest hsnd (hclosed.trans hopen)
      refine ⟨t, ht, hstill, ?_⟩
      -- what the read took from the front of the queue is put before what later reads give
      calc (h.watched accept id (.read :: steps)).1 ++ t.queue.filterMap accept
          = (s.tryNextBy accept).1.toList ++
              ((s.tryNextBy accept).2.arrived id steps).filterMap accept := by
            rw [← hevents, ← hfst, ← List.append_assoc]
            rfl
        _ = (s.arrived id (.read :: steps)).filterMap accept := by
            rw [Subscription.arrived, Subscription.arrived, hlive, delivered,
              List.filterMap_append, List.filterMap_append, ← List.append_assoc,
              s.accepted_tryNextBy hopen]

end Hub

/-- **Watches.** At every moment of every run in which others use the hub as they like, the events
that a watch on an open subscription has given, and then those of the signals still queued, are the
events of the signals queued at the start and delivered since, in order. The next read gives the
first of those queued; it gives none only if there is none, and then the queue is empty. -/
theorem watch_delivery (w : Watch) {h : Hub Signal} {id : Nat} {s : Subscription Signal}
    (hs : h.subscriptions[id]? = some s) (hopen : s.closed = false)
    {steps : List (StreamStep Signal)} (hsteps : ∀ c, .call c ∈ steps → ¬ c.IsOf id) :
    (∀ sent x, w.accept sent = some x ↔ w.Accepts sent x) ∧
    ∃ t, (h.watched w.accept id steps).2.subscriptions[id]? = some t ∧
      (h.watched w.accept id steps).1 ++ t.queue.filterMap w.accept =
        (s.queue ++ if s.isLive then delivered id steps else []).filterMap w.accept ∧
      let next := (h.watched w.accept id steps).2.tryNextBy w.accept id
      next.1 = (t.queue.filterMap w.accept).head? ∧
      (next.1 = none ↔ ∀ sent ∈ t.queue, w.accept sent = none) ∧
      (next.1 = none → ∃ u, next.2.subscriptions[id]? = some u ∧ u.queue = []) := by
  refine ⟨fun sent x => Watch.accept_eq_some_iff, ?_⟩
  obtain ⟨t, ht, hclosed, hevents⟩ := Hub.exists_watched w.accept hsteps hs hopen
  obtain ⟨hfst, hsnd⟩ := Hub.tryNextBy_of_getElem? w.accept ht
  have hnext := hfst.trans (t.fst_tryNextBy hclosed)
  refine ⟨t, ht, hevents, hnext, ?_, fun hnone => ⟨_, hsnd, ?_⟩⟩
  · rw [hnext, List.head?_eq_none_iff, List.filterMap_eq_nil_iff]
  · exact t.queue_of_fst_tryNextBy_eq_none hclosed (hfst.symm.trans hnone)

/-- A signal of changed properties with this body. -/
def volumeSignal (body : List Variant) : Signal :=
  ⟨⟨"/mixer"⟩, "org.example.Mixer", propertiesChanged, body⟩

/-- The volume changed. -/
def volumeChange : Signal := volumeSignal [.str "org.example.Mixer", .dict [("Volume", .byte 3)]]

/-- A malformed signal, and one of another interface, come before and behind one that is
accepted. -/
def volumeSteps : List (StreamStep Signal) := [
  .call (.publish (volumeSignal [])), .call .subscribe, .read, .call (.publish volumeChange),
  .call (.publish (volumeSignal [.str "org.example.Other", .dict []])), .read, .call .closeAll]

theorem watch_delivery_volume :
    ∃ t, (Hub.empty.subscribe.2.watched (Watch.properties "org.example.Mixer").accept 0
        volumeSteps).2.subscriptions[0]? = some t ∧
      (Hub.empty.subscribe.2.watched (Watch.properties "org.example.Mixer").accept 0
          volumeSteps).1 ++ t.queue.filterMap (Watch.properties "org.example.Mixer").accept =
        [.change ⟨"org.example.Mixer", OrderedMap.ofList [("Volume", .byte 3)], []⟩] := by
  have hsteps : ∀ c, .call c ∈ volumeSteps → ¬ c.IsOf 0 := by
    intro c hc
    simp only [volumeSteps, List.mem_cons, StreamStep.call.injEq, reduceCtorEq, List.not_mem_nil,
      or_false, false_or] at hc
    rcases hc with rfl | rfl | rfl | rfl | rfl <;> exact id
  obtain ⟨-, t, ht, hevents, -⟩ := watch_delivery (.properties "org.example.Mixer")
    (h := Hub.empty.subscribe.2) rfl rfl hsteps
  exact ⟨t, ht, hevents.trans rfl⟩

end BusDoc

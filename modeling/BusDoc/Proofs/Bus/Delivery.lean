import BusDoc.Proofs.Bus.History

/-!
# What a hub delivers

`hub_delivery` is the law of delivery: at every moment of every run, a stream has given the first
events of those published for its subscription, reading gives the next one, and publishing counts
the open subscriptions.

It is kept by an invariant. For one subscription (`Tallies`): its flags are those that the history
gives, and its queue is what was published for it and not read yet, or empty without a receiver.
One call keeps that (`Tallies.step`), as a call changes the subscriptions of a hub one by one
(`Subscription.after`, `Hub.getElem?_call`). For the hub (`HubRun.Tallied`): the subscriptions are
those that the history names, in order.
-/

namespace BusDoc

variable {E : Type}

namespace Subscription

variable {s : Subscription E}

theorem fst_tryNext (s : Subscription E) :
    s.tryNext.1 = if s.closed then none else s.queue.head? := by
  unfold tryNext tryNextBy
  cases s.closed <;> cases s.queue <;> simp [firstAccepted]

theorem snd_tryNext (s : Subscription E) :
    s.tryNext.2 = if s.closed then s else { s with queue := s.queue.tail } := by
  unfold tryNext tryNextBy
  cases s.closed <;> cases s.queue <;> simp [firstAccepted]

/-- Publishing lets go of the subscriptions that it does not reach. -/
@[simp] theorem attached_deliver (e : E) (s : Subscription E) :
    (s.deliver e).attached = s.isLive := by
  unfold deliver
  by_cases h : s.isLive
  · rw [if_pos h, h]
    simp only [isLive, Bool.and_eq_true] at h
    exact h.1.1
  · rw [if_neg h]
    simpa using h

/-- What a call does to subscription `id`. -/
def after (id : Nat) (s : Subscription E) : HubCall E → Subscription E
  | .subscribe => s
  | .publish e => s.deliver e
  | .unsubscribe i => if i = id then s.close else s
  | .closeAll => s.detach
  | .dropStream i => if i = id then s.dropReceiver else s
  | .tryNext i => if i = id then s.tryNext.2 else s

theorem isLive_after (id : Nat) (s : Subscription E) (c : HubCall E) :
    (s.after id c).isLive = (s.isLive && !c.ends id) := by
  cases c with
  | subscribe => simp [after, HubCall.ends, HubCall.unsubscribes, HubCall.dropsStream]
  | publish e =>
    by_cases h : s.isLive <;>
      simp [after, deliver, h, HubCall.ends, HubCall.unsubscribes, HubCall.dropsStream]
    · simpa [isLive] using h
    · simp [isLive]
  | unsubscribe i =>
    by_cases hi : i = id <;>
      simp [after, close, isLive, hi, HubCall.ends, HubCall.unsubscribes, HubCall.dropsStream]
  | closeAll => simp [after, detach, isLive, HubCall.ends]
  | dropStream i =>
    by_cases hi : i = id <;>
      simp [after, dropReceiver, isLive, hi, HubCall.ends, HubCall.unsubscribes,
        HubCall.dropsStream]
  | tryNext i =>
    by_cases hi : i = id <;> by_cases hc : s.closed <;>
      simp [after, snd_tryNext, isLive, hi, hc, HubCall.ends, HubCall.unsubscribes,
        HubCall.dropsStream]

theorem flags_after (id : Nat) (s : Subscription E) (c : HubCall E) :
    (s.after id c).closed = (s.closed || c.unsubscribes id) ∧
      (s.after id c).receiving = (s.receiving && !c.dropsStream id) := by
  cases c with
  | subscribe => simp [after, HubCall.unsubscribes, HubCall.dropsStream]
  | publish e =>
    by_cases h : s.isLive <;> simp [after, deliver, h, HubCall.unsubscribes, HubCall.dropsStream]
  | unsubscribe i =>
    by_cases hi : i = id <;>
      simp [after, close, hi, HubCall.unsubscribes, HubCall.dropsStream]
  | closeAll => simp [after, detach, HubCall.unsubscribes, HubCall.dropsStream]
  | dropStream i =>
    by_cases hi : i = id <;>
      simp [after, dropReceiver, hi, HubCall.unsubscribes, HubCall.dropsStream]
  | tryNext i =>
    by_cases hi : i = id <;> by_cases hc : s.closed <;>
      simp [after, snd_tryNext, hi, hc, HubCall.unsubscribes, HubCall.dropsStream]

end Subscription

namespace Hub

theorem fst_tryNext (h : Hub E) (id : Nat) :
    (h.tryNext id).1 = h.subscriptions[id]?.bind (·.tryNext.1) := by
  unfold tryNext tryNextBy
  cases h.subscriptions[id]? <;> rfl

theorem subscriptions_snd_tryNext (h : Hub E) (id : Nat) :
    (h.tryNext id).2.subscriptions = h.subscriptions.modify id (·.tryNext.2) := by
  unfold tryNext tryNextBy
  cases hs : h.subscriptions[id]? with
  | none => exact (List.modify_eq_self (List.getElem?_eq_none_iff.mp hs)).symm
  | some s =>
    have : Inhabited (Subscription E) := ⟨s⟩
    rw [List.modify_eq_set, hs]
    rfl

/-- A call changes the subscriptions one by one; a new one comes behind them. -/
theorem getElem?_call {h : Hub E} {id : Nat} {s : Subscription E}
    (hs : h.subscriptions[id]? = some s) (c : HubCall E) :
    (h.call c).2.subscriptions[id]? = some (s.after id c) := by
  cases c with
  | subscribe =>
    have hlt : id < h.subscriptions.length := (List.getElem?_eq_some_iff.mp hs).1
    simp [call, subscribe, Subscription.after, List.getElem?_append_left hlt, hs]
  | publish e => simp [call, publish, Subscription.after, hs]
  | unsubscribe i =>
    by_cases hi : i = id <;> simp [call, unsubscribe, modify, Subscription.after, hs, hi]
  | closeAll => simp [call, closeAll, Subscription.after, hs]
  | dropStream i =>
    by_cases hi : i = id <;> simp [call, dropReceiver, modify, Subscription.after, hs, hi]
  | tryNext i =>
    by_cases hi : i = id <;> simp [call, subscriptions_snd_tryNext, Subscription.after, hs, hi]

/-- Subscribing makes one more subscription, numbered next; no other call makes one. -/
theorem length_call (h : Hub E) (c : HubCall E) :
    (h.call c).2.subscriptions.length =
        h.subscriptions.length + (History.subscribedId? (c, (h.call c).1)).toList.length ∧
      ∀ id, History.subscribedId? (c, (h.call c).1) = some id → id = h.subscriptions.length := by
  cases c <;>
    simp [call, subscribe, publish, unsubscribe, closeAll, dropReceiver, modify,
      subscriptions_snd_tryNext, History.subscribedId?]

/-- A subscription that was not there before a call was just made. -/
theorem eq_fresh_of_call {h : Hub E} {c : HubCall E} {id : Nat} {s : Subscription E}
    (hs : (h.call c).2.subscriptions[id]? = some s) (hid : h.subscriptions.length ≤ id) :
    History.subscribedId? (c, (h.call c).1) = some id ∧ s = Subscription.fresh := by
  have hlt := (List.getElem?_eq_some_iff.mp hs).1
  have hlen := (h.length_call c).1
  cases c with
  | subscribe =>
    simp only [History.subscribedId?, call, Option.toList_some,
      List.length_singleton] at hlen hlt hs
    have hid : id = h.subscriptions.length := by omega
    subst hid
    exact ⟨rfl, by simpa [subscribe] using hs.symm⟩
  | _ =>
    simp only [History.subscribedId?, Option.toList_none, List.length_nil] at hlen
    omega

/-- Only the streams of subscriptions give events. -/
theorem lt_length_of_receivedEvent? {h : Hub E} {c : HubCall E} {id : Nat} {e : E}
    (he : History.receivedEvent? id (c, (h.call c).1) = some e) : id < h.subscriptions.length := by
  cases c with
  | tryNext i =>
    simp only [call, History.receivedEvent?] at he
    split at he
    · next hi =>
      rw [fst_tryNext, Option.bind_eq_some_iff] at he
      obtain ⟨s, hs, -⟩ := he
      exact hi ▸ (List.getElem?_eq_some_iff.mp hs).1
    · cases he
  | _ => cases he

end Hub

/-! ## One subscription -/

/-- A queue holds what was published for a subscription and not read yet, or nothing when the
stream was dropped. -/
def Unread (id : Nat) (history : History E) (queue : List E) : Prop :=
  ∃ unread, history.published id = history.received id ++ unread ∧
    queue = if history.dropped id then [] else unread

/-- A subscription is as the history says. -/
structure Tallies (id : Nat) (history : History E) (s : Subscription E) : Prop where
  isLive : s.isLive = history.isOpen id
  closed : s.closed = history.unsubscribed id
  receiving : s.receiving = !history.dropped id
  queue : Unread id history s.queue

namespace Tallies

variable {id : Nat} {history : History E} {s : Subscription E}

/-- A subscription that was just made. -/
theorem fresh {x : HubCall E × HubAnswer E} (hx : History.subscribedId? x = some id)
    (hid : id ∉ history.ids) (hr : (history ++ [x]).received id = []) :
    Tallies id (history ++ [x]) Subscription.fresh := by
  have hs := History.since_concat_of_notMem (x := x) hid
  have hm : id ∈ (history ++ [x]).ids := by simp [History.ids_concat, hx]
  refine ⟨?_, ?_, ?_, [], ?_, ?_⟩
  · simp [History.isOpen, hs, hm, Subscription.fresh, Subscription.isLive]
  · simp [History.unsubscribed, hs, Subscription.fresh]
  · simp [History.dropped, hs, Subscription.fresh]
  · simp [History.published, hs, hr]
  · simp [Subscription.fresh]

/-- A call that publishes nothing, and neither reads nor drops the stream. -/
theorem queue_of_quiet {c : HubCall E} {a : HubAnswer E} (t : Tallies id history s)
    (hid : id ∈ history.ids) (he : c.event? = none) (hd : c.dropsStream id = false)
    (hr : History.receivedEvent? id (c, a) = none) (hs : (s.after id c).queue = s.queue) :
    Unread id (history ++ [(c, a)]) (s.after id c).queue := by
  obtain ⟨unread, hp, hq⟩ := t.queue
  refine ⟨unread, ?_, ?_⟩
  · rw [History.published_concat hid, History.received_concat, hr, he, hp]
    simp
  · rw [History.dropped_concat hid, hd, Bool.or_false, hs, hq]

theorem queue_of_publish {e : E} {a : HubAnswer E} (t : Tallies id history s)
    (hid : id ∈ history.ids) :
    Unread id (history ++ [(.publish e, a)]) (s.deliver e).queue := by
  obtain ⟨unread, hp, hq⟩ := t.queue
  refine ⟨unread ++ if history.isOpen id then [e] else [], ?_, ?_⟩
  · rw [History.published_concat hid, History.received_concat, hp]
    simp [History.receivedEvent?, HubCall.event?]
  · rw [History.dropped_concat hid, Subscription.deliver, t.isLive]
    by_cases ho : history.isOpen id
    · have hl := t.isLive.trans ho
      simp only [Subscription.isLive, Bool.and_eq_true] at hl
      have hd : history.dropped id = false := by simpa [t.receiving] using hl.2
      simp [ho, hd, hq, HubCall.dropsStream]
    · simp [ho, hq, HubCall.dropsStream]

theorem queue_of_tryNext (t : Tallies id history s) (hid : id ∈ history.ids) :
    Unread id (history ++ [(.tryNext id, .next s.tryNext.1)]) s.tryNext.2.queue := by
  obtain ⟨unread, hp, hq⟩ := t.queue
  rw [Unread, History.published_concat hid, History.received_concat, History.dropped_concat hid,
    hp, s.snd_tryNext, s.fst_tryNext]
  by_cases hc : s.closed
  · exact ⟨unread, by simp [hc, HubCall.event?, History.receivedEvent?],
      by simp [hc, hq, HubCall.dropsStream]⟩
  by_cases hd : history.dropped id
  · rw [if_pos hd] at hq
    exact ⟨unread, by simp [hc, hq, HubCall.event?, History.receivedEvent?], by simp [hc, hq, hd]⟩
  · rw [if_neg hd] at hq
    subst hq
    refine ⟨s.queue.tail, ?_, ?_⟩
    · cases hs : s.queue <;> simp [hc, HubCall.event?, History.receivedEvent?]
    · simp [hc, hd, HubCall.dropsStream]

/-- One call keeps a subscription as its history says. -/
theorem step {c : HubCall E} {a : HubAnswer E} (t : Tallies id history s) (hid : id ∈ history.ids)
    (ha : c = .tryNext id → a = .next s.tryNext.1) :
    Tallies id (history ++ [(c, a)]) (s.after id c) where
  isLive := by rw [History.isOpen_concat hid, s.isLive_after, t.isLive]
  closed := by rw [History.unsubscribed_concat hid, (s.flags_after id c).1, t.closed]
  receiving := by rw [History.dropped_concat hid, (s.flags_after id c).2, t.receiving, Bool.not_or]
  queue := by
    cases c with
    | subscribe => exact t.queue_of_quiet hid rfl rfl rfl rfl
    | publish e => exact t.queue_of_publish hid
    | unsubscribe i =>
      refine t.queue_of_quiet hid rfl rfl rfl ?_
      by_cases hi : i = id <;> simp [Subscription.after, Subscription.close, hi]
    | closeAll => exact t.queue_of_quiet hid rfl rfl rfl rfl
    | dropStream i =>
      by_cases hi : i = id
      · subst hi
        obtain ⟨unread, hp, -⟩ := t.queue
        refine ⟨unread, ?_, ?_⟩
        · rw [History.published_concat hid, History.received_concat, hp]
          simp [History.receivedEvent?, HubCall.event?]
        · simp [History.dropped_concat hid, HubCall.dropsStream, Subscription.after,
            Subscription.dropReceiver]
      · refine t.queue_of_quiet hid rfl ?_ rfl ?_
        · simpa [HubCall.dropsStream] using hi
        · simp [Subscription.after, hi]
    | tryNext i =>
      by_cases hi : i = id
      · subst hi
        rw [ha rfl, Subscription.after, if_pos rfl]
        exact t.queue_of_tryNext hid
      · refine t.queue_of_quiet hid rfl rfl ?_ ?_
        · cases a <;> simp [History.receivedEvent?, hi]
        · simp [Subscription.after, hi]

/-- What reading the stream gives. -/
theorem fst_tryNext (t : Tallies id history s) :
    s.tryNext.1 = if history.unsubscribed id || history.dropped id then none
      else (history.published id)[(history.received id).length]? := by
  obtain ⟨unread, hp, hq⟩ := t.queue
  rw [s.fst_tryNext, t.closed, hq, hp]
  rw [List.getElem?_append_right (Nat.le_refl _), Nat.sub_self, ← List.head?_eq_getElem?]
  by_cases hu : history.unsubscribed id <;> by_cases hd : history.dropped id <;> simp [hu, hd]

end Tallies

/-! ## The hub -/

/-- The subscriptions of a hub are those that the history names, each as the history says. -/
structure HubRun.Tallied (r : HubRun E) : Prop where
  ids : r.history.ids = List.range r.hub.subscriptions.length
  tallies : ∀ id s, r.hub.subscriptions[id]? = some s → Tallies id r.history s
  received : ∀ id, r.hub.subscriptions.length ≤ id → r.history.received id = []

namespace HubRun

variable {r : HubRun E}

theorem Tallied.mem_ids (t : r.Tallied) {id : Nat} :
    id ∈ r.history.ids ↔ id < r.hub.subscriptions.length := by
  rw [t.ids, List.mem_range]

/-- One call keeps a hub as its history says. -/
theorem Tallied.call (t : r.Tallied) (c : HubCall E) : (r.call c).Tallied := by
  obtain ⟨hlen, hnew⟩ := r.hub.length_call c
  have hreceived : ∀ id, r.hub.subscriptions.length ≤ id → (r.call c).history.received id = [] := by
    intro id hid
    rw [HubRun.call, History.received_concat, t.received id hid, List.nil_append]
    cases he : History.receivedEvent? id (c, (r.hub.call c).1) with
    | none => rfl
    | some e => exact absurd (Hub.lt_length_of_receivedEvent? he) (Nat.not_lt.mpr hid)
  refine ⟨?_, ?_, fun id hid => hreceived id (Nat.le_trans ?_ hid)⟩
  · rw [HubRun.call, History.ids_concat, t.ids, hlen]
    cases hs : History.subscribedId? (c, (r.hub.call c).1) with
    | none => simp
    | some id => simp [hnew id hs, List.range_succ]
  · intro id s hs
    by_cases hid : id < r.hub.subscriptions.length
    · -- a subscription that was there before the call
      have hs₀ := List.getElem?_eq_getElem hid
      rw [HubRun.call, Hub.getElem?_call hs₀, Option.some.injEq] at hs
      subst hs
      refine (t.tallies id _ hs₀).step (t.mem_ids.mpr hid) ?_
      rintro rfl
      simp [Hub.call, Hub.fst_tryNext, hs₀]
    · -- the subscription that the call made
      obtain ⟨hx, rfl⟩ := Hub.eq_fresh_of_call hs (Nat.not_lt.mp hid)
      exact Tallies.fresh hx (t.mem_ids.not.mpr hid) (hreceived id (Nat.not_lt.mp hid))
  · rw [HubRun.call, hlen]
    exact Nat.le_add_right _ _

/-- Every run keeps its hub as its history says. -/
theorem tallied_of (calls : List (HubCall E)) : (of calls).Tallied := by
  refine of_induction ?_ (fun r c t => t.call c) calls
  exact ⟨rfl, by simp [Hub.empty], fun _ _ => rfl⟩

/-- The subscriptions that an event reaches are the open ones. -/
theorem Tallied.countP_isLive (t : r.Tallied) :
    r.hub.subscriptions.countP Subscription.isLive = r.history.openCount := by
  have hmap : r.hub.subscriptions.map Subscription.isLive =
      r.history.ids.map (History.isOpen · r.history) := by
    refine List.ext_getElem (by simp [t.ids]) fun id h₁ h₂ => ?_
    have hid : id < r.hub.subscriptions.length := by simpa using h₁
    rw [List.getElem_map, List.getElem_map,
      (t.tallies id _ (List.getElem?_eq_getElem hid)).isLive]
    simp [t.ids]
  have hcount := congrArg (List.countP id) hmap
  rwa [List.countP_map, List.countP_map] at hcount

end HubRun

/-- The law of delivery, at every moment of every run, read off the calls that were made, each with
its answer: no number is given to two subscriptions; a stream has given the first events published
for its subscription, in order; reading gives the next of them, and nothing once the subscription
was ended by its holder; publishing reaches the open subscriptions, and leaves no others in the
hub. -/
theorem hub_delivery (calls : List (HubCall E)) :
    let r := HubRun.of calls
    r.history.map Prod.fst = calls ∧
      r.history.ids.Nodup ∧
      (∀ id, r.history.received id <+: r.history.published id) ∧
      (∀ id, (r.hub.tryNext id).1 =
        if r.history.unsubscribed id || r.history.dropped id then none
        else (r.history.published id)[(r.history.received id).length]?) ∧
      ∀ e, (r.hub.publish e).1 = r.history.openCount ∧
        (r.hub.publish e).2.subscriberCount = r.history.openCount := by
  intro r
  have t : r.Tallied := HubRun.tallied_of calls
  have hnone : ∀ id, r.hub.subscriptions[id]? = none →
      r.history.received id = [] ∧ r.history.published id = [] := by
    intro id hs
    have hid := List.getElem?_eq_none_iff.mp hs
    have hmem : id ∉ r.history.ids := t.mem_ids.not.mpr (Nat.not_lt.mpr hid)
    exact ⟨t.received id hid, by simp [History.published, History.since_of_notMem hmem]⟩
  refine ⟨HubRun.map_fst_history calls, by rw [t.ids]; exact List.nodup_range, fun id => ?_,
    fun id => ?_, fun e => ⟨?_, ?_⟩⟩
  · cases hs : r.hub.subscriptions[id]? with
    | none => rw [(hnone id hs).1]; exact List.nil_prefix
    | some s =>
      obtain ⟨unread, hp, -⟩ := (t.tallies id s hs).queue
      exact ⟨unread, hp.symm⟩
  · rw [Hub.fst_tryNext]
    cases hs : r.hub.subscriptions[id]? with
    | none => simp [hnone id hs]
    | some s => exact (t.tallies id s hs).fst_tryNext
  · exact t.countP_isLive
  · rw [← t.countP_isLive]
    simp [Hub.subscriberCount, Hub.publish, List.countP_map, Function.comp_def]

/-- Two subscriptions, of which one is ended by its holder and the other by the hub, each with
events still queued. -/
def endedCalls : List (HubCall Char) := [
  .subscribe, .subscribe, .publish 'a', .publish 'b', .unsubscribe 1, .closeAll, .publish 'c',
  .tryNext 0, .tryNext 1]

/-- Closing all subscriptions leaves what is queued to be read; ending one does not. -/
theorem hub_delivery_endedCalls :
    let r := HubRun.of endedCalls
    r.history.map Prod.fst = endedCalls ∧
      r.history.published 0 = ['a', 'b'] ∧ r.history.received 0 = ['a'] ∧
      (r.hub.tryNext 0).1 = some 'b' ∧
      r.history.published 1 = ['a', 'b'] ∧ r.history.received 1 = [] ∧
      (r.hub.tryNext 1).1 = none ∧ (r.hub.publish 'd').1 = 0 := by
  intro r
  obtain ⟨hcalls, -, -, hnext, hpublish⟩ := hub_delivery endedCalls
  refine ⟨hcalls, by decide, by decide, (hnext 0).trans (by decide), by decide, by decide,
    (hnext 1).trans (by decide), (hpublish 'd').1.trans (by decide)⟩

end BusDoc

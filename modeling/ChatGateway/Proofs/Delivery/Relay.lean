import ChatGateway.Delivery.Trigger
import ChatGateway.Proofs.Delivery.History
import ChatGateway.Proofs.Keyed

/-!
A fan-out at work. Subscribers come and go, records are triggered, and each worker takes its turns
when it will; of every subscriber it is written down which records its queue took, which deliveries
began and which ended. What one subscriber gets to see of this is its share.
-/

namespace ChatGateway.Delivery

namespace Queue

/-- Whether a record would be taken. -/
def hasRoom (q : Queue) : Bool := !q.cancelled && decide (q.waiting.length < q.capacity)

theorem submit_eq (q : Queue) (m : Message) (k : Metrics) :
    q.submit m k =
      if q.hasRoom then ({ q with waiting := q.waiting ++ [m] }, k.accepted, .ok ())
      else (q, k.refused, .error (if q.cancelled then .closed else .full)) := by
  rcases q.submit_cases m k with ⟨stopped, e⟩ | ⟨running, full, e⟩ | ⟨running, free, e⟩
  · simp [e, hasRoom, stopped]
  · simp [e, hasRoom, running, full]
  · simp [e, hasRoom, running, free]

/-- The queue after a record was submitted to it. -/
def offered (q : Queue) (m : Message) : Queue :=
  if q.hasRoom then { q with waiting := q.waiting ++ [m] } else q

theorem submit_queue (q : Queue) (m : Message) (k : Metrics) : (q.submit m k).1 = q.offered m := by
  rw [submit_eq, offered]
  split <;> rfl

end Queue

namespace Metrics

/-- Count records that were queued, and records that were not. -/
def offers (k : Metrics) (taken refused : Nat) : Metrics :=
  { k with submitted := k.submitted + .ofNat taken, dropped := k.dropped + .ofNat refused }

theorem offers_accepted (k : Metrics) (taken refused : Nat) :
    k.accepted.offers taken refused = k.offers (taken + 1) refused := by
  simp only [offers, accepted, UInt64.ofNat_add, UInt64.add_assoc]
  rw [UInt64.add_comm 1]
  rfl

theorem offers_refused (k : Metrics) (taken refused : Nat) :
    k.refused.offers taken refused = k.offers taken (refused + 1) := by
  simp only [offers, Metrics.refused, UInt64.ofNat_add, UInt64.add_assoc]
  rw [UInt64.add_comm 1]
  rfl

end Metrics

namespace Fanout

def queue? (f : Fanout) (id : String) : Option Queue :=
  (Keyed.find? Registration.id id f.registrations).map Registration.queue

/-- Change the queue of a subscriber. -/
def modify (f : Fanout) (id : String) (change : Queue → Queue) : Fanout :=
  { f with
    registrations := Keyed.modify Registration.id id
      (fun r => { r with queue := change r.queue }) f.registrations }

theorem queue?_modify_self (f : Fanout) (id : String) (change : Queue → Queue) :
    (f.modify id change).queue? id = (f.queue? id).map change := by
  rw [queue?, modify, Keyed.find?_modify_self, queue?, Option.map_map, Option.map_map]
  · rfl
  · exact fun _ => rfl

theorem queue?_modify_ne (f : Fanout) {id other : String} (change : Queue → Queue)
    (different : other ≠ id) : (f.modify id change).queue? other = f.queue? other := by
  rw [queue?, modify, Keyed.find?_modify_ne _ _ different, queue?]
  exact fun _ => rfl

section Placed

variable {f : Fanout} {front rest : List Registration} {r : Registration}

theorem queue?_placed (placed : f.registrations = front ++ r :: rest)
    (distinct : Keyed.Distinct Registration.id f.registrations) : f.queue? r.id = some r.queue := by
  have member : r ∈ f.registrations := by
    rw [placed]
    exact List.mem_append_right front List.mem_cons_self
  rw [queue?, (Keyed.find?_eq_some distinct).mpr ⟨member, rfl⟩, Option.map_some]

theorem modify_placed (placed : f.registrations = front ++ r :: rest)
    (distinct : Keyed.Distinct Registration.id f.registrations) (change : Queue → Queue) :
    f.modify r.id change = { f with registrations := front ++ ⟨r.id, change r.queue⟩ :: rest } := by
  rw [placed] at distinct
  rw [modify, placed, Keyed.modify_middle _ distinct]

theorem replaced_distinct {q : Queue}
    (distinct : Keyed.Distinct Registration.id (front ++ r :: rest)) :
    Keyed.Distinct Registration.id (front ++ ⟨r.id, q⟩ :: rest) := by
  rw [Keyed.Distinct, List.map_append, List.map_cons] at distinct ⊢
  exact distinct

end Placed

theorem queue?_register_self (f : Fanout) (id : String) :
    (f.register id).1.queue? id =
      some ((f.queue? id).getD { Queue.ofCapacity f.capacity with cancelled := f.cancelled }) := by
  rw [register, Keyed.has_eq_isSome]
  cases found : Keyed.find? Registration.id id f.registrations with
  | some r => simp [queue?, found]
  | none => simp [queue?, found, Keyed.find?_concat]

theorem queue?_register_ne (f : Fanout) {id other : String} (different : other ≠ id) :
    (f.register id).1.queue? other = f.queue? other := by
  unfold register
  split
  · rfl
  · simp [queue?, Keyed.find?_concat, Ne.symm different]

theorem queue?_unregister_self (f : Fanout) (id : String) :
    (f.unregister id).1.queue? id = none := by
  simp [queue?, unregister, Keyed.find?_erase_self]

theorem queue?_unregister_ne (f : Fanout) {id other : String} (different : other ≠ id) :
    (f.unregister id).1.queue? other = f.queue? other := by
  simp only [queue?, unregister, Keyed.find?_erase_ne _ different]

theorem queue?_cancel (f : Fanout) (id : String) :
    f.cancel.queue? id = (f.queue? id).map Queue.close := by
  rw [queue?, cancel, Keyed.find?_through, queue?, Option.map_map, Option.map_map]
  · rfl
  · exact fun _ => rfl

theorem submitAll_eq (m : Message) (rs : List Registration) (k : Metrics) :
    submitAll m rs k =
      (rs.map fun r => { r with queue := r.queue.offered m },
        k.offers (rs.countP (·.queue.hasRoom)) (rs.countP (!·.queue.hasRoom)),
        rs.countP (·.queue.hasRoom)) := by
  induction rs generalizing k with
  | nil => simp [submitAll, Metrics.offers]
  | cons r rest ih =>
      rw [submitAll, Queue.submit_eq, List.map_cons, List.countP_cons, List.countP_cons,
        Queue.offered]
      cases room : r.queue.hasRoom with
      | true => simp [ih, Metrics.offers_accepted]
      | false => simp [ih, Metrics.offers_refused]

/-- Every queue is offered the record once, and the connections are, whatever became of it at the
queues before. -/
theorem trigger_eq (f : Fanout) (hub : Push.Hub) (token : String) (m : Message) (k : Metrics) :
    f.trigger hub token m k =
      ({ f with
          registrations := f.registrations.map fun r => { r with queue := r.queue.offered m } },
        (hub.dispatch token m).1,
        k.offers (f.registrations.countP (·.queue.hasRoom))
          (f.registrations.countP (!·.queue.hasRoom)),
        f.registrations.countP (·.queue.hasRoom)) := by
  simp only [trigger, submit, submitAll_eq]

theorem queue?_trigger (f : Fanout) (hub : Push.Hub) (token : String) (m : Message) (k : Metrics)
    (id : String) : (f.trigger hub token m k).1.queue? id = (f.queue? id).map (·.offered m) := by
  rw [trigger_eq, queue?, Keyed.find?_through, queue?, Option.map_map, Option.map_map]
  · rfl
  · exact fun _ => rfl

end Fanout

/-- One thing that happens at a fan-out. -/
inductive Turn where
  | register (id : String)
  | unregister (id : String)
  | trigger (m : Message)
  | take (id : String)
  | finish (id : String) (outcome : Outcome)
  | halt (id : String)
  | clear
  | cancel

namespace Turn

/-- Whether a turn is one subscriber's own, or everybody's. -/
def concerns (id : String) : Turn → Bool
  | register other | unregister other | take other | finish other _ | halt other => other == id
  | trigger _ | clear | cancel => true

/-- Whether a turn is a worker's own. -/
def IsWork : Turn → Prop
  | take _ | finish .. | halt _ => True
  | register _ | unregister _ | trigger _ | clear | cancel => False

end Turn

/-- What became of the records at one subscriber. -/
structure Log where
  accepted : List Message := []
  started : List Message := []
  finished : List (Message × Outcome) := []

namespace Log

def waiting (q : Option Queue) : List Message := (q.map Queue.waiting).getD []

def inFlight (q : Option Queue) : Option Message := q.bind Queue.inFlight

/-- What a turn shows at the queue of the subscriber. -/
def note (l : Log) (t : Turn) (before after : Option Queue) : Log :=
  match t with
  | .trigger _ =>
    { l with accepted := l.accepted ++ (waiting after).drop (waiting before).length }
  | .take _ =>
    { l with started := l.started ++
        if (inFlight before).isNone then (inFlight after).toList else [] }
  | .finish _ outcome =>
    { l with finished := l.finished ++
        if (inFlight after).isNone then (inFlight before).toList.map (·, outcome) else [] }
  | _ => l

theorem note_unchanged (l : Log) (t : Turn) (q : Option Queue) : l.note t q q = l := by
  cases t with
  | trigger m => simp [note]
  | take id => cases busy : inFlight q <;> simp [note, busy]
  | finish id outcome => cases busy : inFlight q <;> simp [note, busy]
  | _ => rfl

end Log

/-- A fan-out, what it shares with others, and what became of the records so far. -/
structure Relay where
  token : String
  fanout : Fanout
  hub : Push.Hub
  metrics : Metrics := {}
  logs : String → Log := fun _ => {}

namespace Relay

def move (w : Relay) : Turn → Relay
  | .register id => { w with fanout := (w.fanout.register id).1 }
  | .unregister id => { w with fanout := (w.fanout.unregister id).1 }
  | .trigger m =>
    let (fanout, hub, metrics, _) := w.fanout.trigger w.hub w.token m w.metrics
    { w with fanout := fanout, hub := hub, metrics := metrics }
  | .take id => { w with fanout := w.fanout.modify id Queue.take }
  | .finish id outcome =>
    { w with
      fanout := w.fanout.modify id fun q => (q.finish outcome w.metrics).1
      metrics := ((w.fanout.queue? id).map fun q => (q.finish outcome w.metrics).2).getD w.metrics }
  | .halt id => { w with fanout := w.fanout.modify id Queue.halt }
  | .clear => { w with fanout := w.fanout.clear }
  | .cancel => { w with fanout := w.fanout.cancel }

def step (w : Relay) (t : Turn) : Relay :=
  { w.move t with
    logs := fun id => (w.logs id).note t (w.fanout.queue? id) ((w.move t).fanout.queue? id) }

def run (w : Relay) (turns : List Turn) : Relay := turns.foldl step w

end Relay

/-- What one subscriber gets to see of a fan-out. -/
structure Share where
  capacity : Nat
  cancelled : Bool
  queue : Option Queue
  log : Log

namespace Share

/-- What a turn makes of the subscriber's queue. -/
def turned (s : Share) : Turn → Option Queue
  | .register _ =>
    some (s.queue.getD { Queue.ofCapacity s.capacity with cancelled := s.cancelled })
  | .unregister _ | .clear => none
  | .trigger m => s.queue.map (·.offered m)
  | .take _ => s.queue.map Queue.take
  | .finish _ outcome => s.queue.map fun q => (q.finish outcome {}).1
  | .halt _ => s.queue.map Queue.halt
  | .cancel => s.queue.map Queue.close

/-- The subscriber as if it were alone. -/
def step (s : Share) (t : Turn) : Share :=
  { s with
    cancelled := match t with
      | .cancel => true
      | _ => s.cancelled
    queue := s.turned t
    log := s.log.note t s.queue (s.turned t) }

end Share

namespace Relay

def share (w : Relay) (id : String) : Share :=
  ⟨w.fanout.capacity, w.fanout.cancelled, w.fanout.queue? id, w.logs id⟩

theorem finish_queue (q : Queue) (outcome : Outcome) (k k' : Metrics) :
    (q.finish outcome k).1 = (q.finish outcome k').1 := by
  unfold Queue.finish
  split <;> rfl

theorem move_capacity (w : Relay) (t : Turn) :
    (w.move t).fanout.capacity = w.fanout.capacity := by
  cases t with
  | register id =>
      simp only [move, Fanout.register]
      split <;> rfl
  | _ => rfl

theorem move_cancelled (w : Relay) (t : Turn) :
    (w.move t).fanout.cancelled = match t with
      | .cancel => true
      | _ => w.fanout.cancelled := by
  cases t with
  | register id =>
      simp only [move, Fanout.register]
      split <;> rfl
  | _ => rfl

theorem move_queue (w : Relay) {t : Turn} {id : String} (concerned : t.concerns id = true) :
    (w.move t).fanout.queue? id = (w.share id).turned t := by
  cases t with
  | register other =>
      obtain rfl := eq_of_beq concerned
      exact w.fanout.queue?_register_self other
  | unregister other =>
      obtain rfl := eq_of_beq concerned
      exact w.fanout.queue?_unregister_self other
  | trigger m => exact w.fanout.queue?_trigger w.hub w.token m w.metrics id
  | take other =>
      obtain rfl := eq_of_beq concerned
      exact w.fanout.queue?_modify_self other _
  | finish other outcome =>
      obtain rfl := eq_of_beq concerned
      rw [move, w.fanout.queue?_modify_self, Share.turned]
      congr 1
      funext q
      exact finish_queue q outcome _ _
  | halt other =>
      obtain rfl := eq_of_beq concerned
      exact w.fanout.queue?_modify_self other _
  | clear => rfl
  | cancel => exact w.fanout.queue?_cancel id

theorem move_queue_other (w : Relay) {t : Turn} {id : String} (foreign : t.concerns id = false) :
    (w.move t).fanout.queue? id = w.fanout.queue? id := by
  cases t with
  | register other => exact w.fanout.queue?_register_ne (Ne.symm (ne_of_beq_false foreign))
  | unregister other => exact w.fanout.queue?_unregister_ne (Ne.symm (ne_of_beq_false foreign))
  | trigger m => cases foreign
  | take other => exact w.fanout.queue?_modify_ne _ (Ne.symm (ne_of_beq_false foreign))
  | finish other outcome => exact w.fanout.queue?_modify_ne _ (Ne.symm (ne_of_beq_false foreign))
  | halt other => exact w.fanout.queue?_modify_ne _ (Ne.symm (ne_of_beq_false foreign))
  | clear => cases foreign
  | cancel => cases foreign

/-- A turn that concerns a subscriber shows it what it would show it alone. -/
theorem step_share (w : Relay) {t : Turn} {id : String} (concerned : t.concerns id = true) :
    (w.step t).share id = (w.share id).step t := by
  simp only [share, step, Share.step, move_capacity, move_cancelled, move_queue w concerned]

theorem step_share_other (w : Relay) {t : Turn} {id : String} (foreign : t.concerns id = false) :
    (w.step t).share id = w.share id := by
  have flag : (w.move t).fanout.cancelled = w.fanout.cancelled := by
    rw [move_cancelled]
    cases t with
    | cancel => cases foreign
    | _ => rfl
  simp only [share, step, move_capacity, flag, move_queue_other w foreign, Log.note_unchanged]

end Relay

end ChatGateway.Delivery

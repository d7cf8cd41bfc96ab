import ChatGateway.Proofs.Delivery.Isolation
import ChatGateway.Proofs.Delivery.Ledger

namespace ChatGateway.Delivery

structure Bureau where
  hub : Push.Hub
  metrics : Metrics := {}
  fanouts : List (String × Fanout) := []
  queues : List Queue := []
  ledger : Ledger := {}

namespace Bureau

/-- What happens at a bureau. Fan-outs and queues are told apart by their places. -/
inductive Event where
  | openFanout (token : String) (capacity : Nat) (stopped : Bool)
  | openQueue (capacity : Nat) (stopped : Bool)
  | turn (place : Nat) (t : Turn)
  | offer (place : Nat) (id : String) (m : Message)
  | act (place : Nat) (a : Action)

def relay (b : Bureau) (token : String) (f : Fanout) : Relay where
  token := token
  fanout := f
  hub := b.hub
  metrics := b.metrics

def history (b : Bureau) (q : Queue) : History where
  queue := q
  metrics := b.metrics

def turnAt (b : Bureau) (place : Nat) (token : String) (f : Fanout) (t : Turn) : Bureau :=
  let w := (b.relay token f).move t
  { b with
    hub := w.hub
    metrics := w.metrics
    fanouts := b.fanouts.set place (token, w.fanout)
    ledger := b.ledger.noteTurn f b.metrics t }

def offerAt (b : Bureau) (place : Nat) (token : String) (f : Fanout) (id : String) (m : Message) :
    Bureau :=
  { b with
    metrics := ((f.queue? id).map fun q => (q.submit m b.metrics).2.1).getD b.metrics
    fanouts := b.fanouts.set place (token, f.modify id fun q => (q.submit m b.metrics).1)
    ledger := ((f.queue? id).map fun q => b.ledger.note q b.metrics (.submit m)).getD b.ledger }

def actAt (b : Bureau) (place : Nat) (q : Queue) (a : Action) : Bureau :=
  let h := (b.history q).step a
  { b with
    metrics := h.metrics
    queues := b.queues.set place h.queue
    ledger := b.ledger.note q b.metrics a }

def step (b : Bureau) : Event → Bureau
  | .openFanout token capacity stopped =>
    { b with fanouts := b.fanouts ++ [(token, { capacity := capacity, cancelled := stopped })] }
  | .openQueue capacity stopped =>
    { b with queues := b.queues ++ [{ Queue.ofCapacity capacity with cancelled := stopped }] }
  | .turn place t => (b.fanouts[place]?.map fun f => b.turnAt place f.1 f.2 t).getD b
  | .offer place id m => (b.fanouts[place]?.map fun f => b.offerAt place f.1 f.2 id m).getD b
  | .act place a => (b.queues[place]?.map fun q => b.actAt place q a).getD b

def run (b : Bureau) (events : List Event) : Bureau := events.foldl step b

/-- The records queued or in flight anywhere. -/
def held (b : Bureau) : List Message :=
  b.fanouts.flatMap (·.2.held) ++ b.queues.flatMap Queue.held

structure Sound (b : Bureau) : Prop where
  distinct : ∀ f ∈ b.fanouts, Keyed.Distinct Registration.id f.2.registrations
  balanced : b.ledger.Balanced b.metrics b.held

/-- What one of several holds, and what the others hold whatever becomes of it. -/
theorem flatMap_set {α β : Type} (holds : α → List β) {items : List α} {place : Nat} {a : α}
    (found : items[place]? = some a) :
    ∃ others, (items.flatMap holds).Perm (holds a ++ others) ∧
      ∀ b, ((items.set place b).flatMap holds).Perm (holds b ++ others) := by
  induction items generalizing place with
  | nil => cases found
  | cons c rest ih =>
      cases place with
      | zero =>
          cases found
          exact ⟨rest.flatMap holds, .refl _, fun _ => .refl _⟩
      | succ place =>
          obtain ⟨others, before, after⟩ := ih found
          refine ⟨holds c ++ others, ?_, fun b => ?_⟩
          · exact (before.append_left (holds c)).trans (List.perm_append_comm_assoc ..)
          · exact ((after b).append_left (holds c)).trans (List.perm_append_comm_assoc ..)

end Bureau

/-- What was written down before makes no difference to a queue and its counters. -/
theorem History.step_alike (h h' : History) (queue : h.queue = h'.queue)
    (metrics : h.metrics = h'.metrics) (a : Action) :
    (h.step a).queue = (h'.step a).queue ∧ (h.step a).metrics = (h'.step a).metrics := by
  cases a with
  | submit m =>
      simp only [step, submit, queue, metrics]
      rcases h'.queue.submit m h'.metrics with ⟨_, _, _ | _⟩ <;> exact ⟨rfl, rfl⟩
  | take => exact ⟨congrArg Queue.take queue, metrics⟩
  | finish outcome =>
      simp only [step, finish, queue, metrics, and_self]
  | close => exact ⟨congrArg Queue.close queue, metrics⟩
  | cancelOwner => exact ⟨congrArg Queue.close queue, metrics⟩
  | halt => exact ⟨congrArg Queue.halt queue, metrics⟩

theorem Fanout.modify_distinct {f : Fanout}
    (distinct : Keyed.Distinct Registration.id f.registrations) (id : String)
    (change : Queue → Queue) :
    Keyed.Distinct Registration.id (f.modify id change).registrations := by
  rw [Keyed.Distinct, modify, Keyed.modify_keys]
  · exact distinct
  · exact fun _ => rfl

theorem Relay.move_distinct {w : Relay}
    (distinct : Keyed.Distinct Registration.id w.fanout.registrations) (t : Turn) :
    Keyed.Distinct Registration.id (w.move t).fanout.registrations := by
  cases t with
  | register id =>
      simp only [move, Fanout.register]
      split
      · exact distinct
      · next absent =>
        exact Keyed.concat_distinct distinct fun r member same =>
          absent (Keyed.has_iff.mpr ⟨r, member, same⟩)
  | unregister id => exact Keyed.erase_distinct id distinct
  | trigger m =>
      simp only [move, Fanout.trigger_eq]
      rwa [Keyed.Distinct, List.map_map]
  | take id => exact Fanout.modify_distinct distinct id _
  | finish id outcome => exact Fanout.modify_distinct distinct id _
  | halt id => exact Fanout.modify_distinct distinct id _
  | clear => exact List.nodup_nil
  | cancel =>
      simp only [move, Fanout.cancel]
      rwa [Keyed.Distinct, List.map_map]

namespace Bureau

variable {b : Bureau} {place : Nat} {token : String} {f f' : Fanout} {q q' : Queue}

namespace Sound

theorem opened (hub : Push.Hub) : Sound { hub := hub } :=
  ⟨fun _ member => (List.not_mem_nil member).elim, .empty⟩

/-- It is enough to know what the change at one fan-out means to whatever else is held. -/
theorem fanoutAt (sound : b.Sound) (found : b.fanouts[place]? = some (token, f)) {hub : Push.Hub}
    {k : Metrics} {l : Ledger} (distinct : Keyed.Distinct Registration.id f'.registrations)
    (balanced : ∀ rest, b.ledger.Balanced b.metrics (f.held ++ rest) →
      l.Balanced k (f'.held ++ rest)) :
    Sound { b with
      hub := hub, metrics := k, fanouts := b.fanouts.set place (token, f'), ledger := l } := by
  obtain ⟨others, before, after⟩ := flatMap_set (·.2.held) found
  constructor
  · intro g member
    rcases List.mem_or_eq_of_mem_set member with member | rfl
    · exact sound.distinct g member
    · exact distinct
  · have apart := sound.balanced.perm (before.append_right (b.queues.flatMap Queue.held))
    rw [List.append_assoc] at apart
    have done := balanced _ apart
    rw [← List.append_assoc] at done
    exact done.perm ((after (token, f')).symm.append_right _)

theorem queueAt (sound : b.Sound) (found : b.queues[place]? = some q) {k : Metrics} {l : Ledger}
    (balanced : ∀ rest, b.ledger.Balanced b.metrics (q.held ++ rest) →
      l.Balanced k (q'.held ++ rest)) :
    Sound { b with metrics := k, queues := b.queues.set place q', ledger := l } := by
  obtain ⟨others, before, after⟩ := flatMap_set Queue.held found
  refine ⟨sound.distinct, ?_⟩
  have apart : b.held.Perm (q.held ++ (b.fanouts.flatMap (·.2.held) ++ others)) :=
    (before.append_left _).trans (List.perm_append_comm_assoc ..)
  refine (balanced _ (sound.balanced.perm apart)).perm ?_
  exact (List.perm_append_comm_assoc ..).trans ((after q').symm.append_left _)

theorem step (sound : b.Sound) (e : Event) : (b.step e).Sound := by
  cases e with
  | openFanout token capacity stopped =>
      constructor
      · intro g member
        rcases List.mem_append.mp member with member | last
        · exact sound.distinct g member
        · rw [List.mem_singleton.mp last]
          exact List.nodup_nil
      · simpa [Bureau.step, Bureau.held, Fanout.held] using sound.balanced
  | openQueue capacity stopped =>
      refine ⟨sound.distinct, ?_⟩
      simpa [Bureau.step, Bureau.held, Queue.held, Queue.ofCapacity] using sound.balanced
  | turn place t =>
      rw [Bureau.step]
      cases found : b.fanouts[place]? with
      | none => exact sound
      | some f =>
          have distinct := sound.distinct f (List.mem_of_getElem? found)
          exact sound.fanoutAt found (Relay.move_distinct (w := b.relay f.1 f.2) distinct t)
            fun _ => .turn (w := b.relay f.1 f.2) distinct t
  | offer place id m =>
      rw [Bureau.step]
      cases found : b.fanouts[place]? with
      | none => exact sound
      | some f =>
          have distinct := sound.distinct f (List.mem_of_getElem? found)
          exact sound.fanoutAt found (Fanout.modify_distinct distinct id _)
            fun _ => .work (w := b.relay f.1 f.2) distinct id _ _ fun q _ => .submit q m
  | act place a =>
      rw [Bureau.step]
      cases found : b.queues[place]? with
      | none => exact sound
      | some q => exact sound.queueAt found fun _ => .act q a

theorem run (sound : b.Sound) (events : List Event) : (b.run events).Sound := by
  induction events generalizing b with
  | nil => exact sound
  | cons e rest ih => exact ih (sound.step e)

end Sound

theorem set_found {α : Type} {items : List α} {a : α} (found : items[place]? = some a) :
    items.set place a = items := by
  obtain ⟨_, rfl⟩ := List.getElem?_eq_some_iff.mp found
  exact List.set_getElem_self ..

theorem getElem?_set_found {α : Type} {items : List α} {a : α} (found : items[place]? = some a)
    (b : α) : (items.set place b)[place]? = some b := by
  obtain ⟨small, _⟩ := List.getElem?_eq_some_iff.mp found
  exact List.getElem?_set_self small

/-- The subscribers of `rest` are offered a record one after the other. -/
theorem run_offers {front rest : List Registration}
    (found : b.fanouts[place]? = some (token, f)) (placed : f.registrations = front ++ rest)
    (distinct : Keyed.Distinct Registration.id f.registrations) (m : Message) (k : Metrics) :
    b.run (rest.map fun r => .offer place r.id m) =
      { b with
        metrics := b.metrics.offers (rest.countP (·.queue.hasRoom)) (rest.countP (!·.queue.hasRoom))
        fanouts := b.fanouts.set place (token, { f with
          registrations := front ++ rest.map fun r => { r with queue := r.queue.offered m } })
        ledger := { b.ledger with
          submissions := b.ledger.submissions ++
            rest.map fun r => (m, (r.queue.submit m k).2.2) } } := by
  induction rest generalizing b f front with
  | nil => simp [run, Metrics.offers, ← placed, set_found found]
  | cons r rest ih =>
      have offered : b.step (.offer place r.id m) =
          { b with
            metrics := (r.queue.submit m b.metrics).2.1
            fanouts := b.fanouts.set place (token, { f with
              registrations := (front ++ [{ r with queue := r.queue.offered m }]) ++ rest })
            ledger := { b.ledger with
              submissions := b.ledger.submissions ++ [(m, (r.queue.submit m k).2.2)] } } := by
        simpa [step, offerAt, found, Fanout.queue?_placed placed distinct,
          Fanout.modify_placed placed distinct, Queue.submit_queue, Ledger.note]
          using r.queue.submit_answer m b.metrics k
      have found' : (b.step (.offer place r.id m)).fanouts[place]? = some (token, { f with
          registrations := (front ++ [{ r with queue := r.queue.offered m }]) ++ rest }) := by
        rw [offered]
        exact getElem?_set_found found _
      have distinct' : Keyed.Distinct Registration.id
          ((front ++ [{ r with queue := r.queue.offered m }]) ++ rest) := by
        rw [List.append_assoc]
        exact Fanout.replaced_distinct (placed ▸ distinct)
      have later := ih found' rfl distinct'
      rw [List.map_cons, run, List.foldl_cons]
      refine later.trans ?_
      rw [offered]
      cases room : r.queue.hasRoom <;>
        simp [Queue.submit_eq, room, Metrics.offers_accepted, Metrics.offers_refused]

theorem run_turns {w : Relay} (found : b.fanouts[place]? = some (w.token, w.fanout))
    (hub : w.hub = b.hub) (metrics : w.metrics = b.metrics) (turns : List Turn) :
    (b.run (turns.map (.turn place))).fanouts =
        b.fanouts.set place (w.token, (w.run turns).fanout) ∧
      (b.run (turns.map (.turn place))).metrics = (w.run turns).metrics := by
  induction turns generalizing b w with
  | nil => exact ⟨(set_found found).symm, metrics.symm⟩
  | cons t rest ih =>
      have token : (w.step t).token = w.token := by
        cases t <;> rfl
      have moved : b.step (.turn place t) =
          { b with
            hub := (w.step t).hub
            metrics := (w.step t).metrics
            fanouts := b.fanouts.set place ((w.step t).token, (w.step t).fanout)
            ledger := b.ledger.noteTurn w.fanout b.metrics t } := by
        obtain ⟨_, _, _, _, _⟩ := w
        cases hub
        cases metrics
        rw [step, found, token]
        cases t <;> rfl
      have later := ih (b := b.step (.turn place t)) (w := w.step t)
        (by rw [moved]; exact getElem?_set_found found _) (by rw [moved]) (by rw [moved])
      rw [List.map_cons, run, List.foldl_cons]
      refine ⟨later.1.trans ?_, later.2⟩
      rw [moved, token]
      exact List.set_set ..

theorem run_actions {h : History} (found : b.queues[place]? = some h.queue)
    (metrics : h.metrics = b.metrics) (actions : List Action) :
    (b.run (actions.map (.act place))).queues = b.queues.set place (h.run actions).queue ∧
      (b.run (actions.map (.act place))).metrics = (h.run actions).metrics := by
  induction actions generalizing b h with
  | nil => exact ⟨(set_found found).symm, metrics.symm⟩
  | cons a rest ih =>
      have acted : b.step (.act place a) =
          { b with
            metrics := (h.step a).metrics
            queues := b.queues.set place (h.step a).queue
            ledger := b.ledger.note h.queue b.metrics a } := by
        have same := (b.history h.queue).step_alike h rfl metrics.symm a
        simp only [step, found, Option.map_some, Option.getD_some, actAt, same]
      have later := ih (b := b.step (.act place a)) (h := h.step a)
        (by rw [acted]; exact getElem?_set_found found _) (by rw [acted])
      rw [List.map_cons, run, List.foldl_cons]
      refine ⟨later.1.trans ?_, later.2⟩
      rw [acted]
      exact List.set_set ..

/-- What a trigger at a fan-out does to the counters, and that it is the same as one submission to
each subscriber. -/
structure CountsTrigger (b : Bureau) (place : Nat) (f : Fanout) (m : Message) (taken : Nat)
    (after : Bureau) : Prop where
  answers : after.ledger.submissions =
    b.ledger.submissions ++ f.registrations.map fun r => (m, (r.queue.submit m b.metrics).2.2)
  submitted : after.metrics.submitted = b.metrics.submitted + .ofNat taken
  offered : after.metrics.submitted + after.metrics.dropped =
    b.metrics.submitted + b.metrics.dropped + .ofNat f.registrations.length
  inParts : after = { b.run (f.registrations.map fun r => .offer place r.id m) with
    hub := after.hub }

theorem counts_trigger (found : b.fanouts[place]? = some (token, f))
    (distinct : Keyed.Distinct Registration.id f.registrations) (m : Message) :
    b.CountsTrigger place f m (f.trigger b.hub token m b.metrics).2.2.2
      (b.step (.turn place (.trigger m))) := by
  have after : b.step (.turn place (.trigger m)) =
      { b with
        hub := (b.hub.dispatch token m).1
        metrics := b.metrics.offers (f.registrations.countP (·.queue.hasRoom))
          (f.registrations.countP (!·.queue.hasRoom))
        fanouts := b.fanouts.set place (token, { f with
          registrations := f.registrations.map fun r => { r with queue := r.queue.offered m } })
        ledger := b.ledger.noteTurn f b.metrics (.trigger m) } := by
    simp only [step, found, Option.map_some, Option.getD_some, turnAt, relay, Relay.move,
      Fanout.trigger_eq]
  constructor
  · rw [after, Ledger.noteTurn]
  · rw [after, Fanout.trigger_eq, Metrics.offers]
  · have all := List.length_eq_countP_add_countP (·.queue.hasRoom) (l := f.registrations)
    simp only [Bool.not_eq_true, Bool.decide_eq_false] at all
    rw [after, Metrics.offers_total, ← all]
  · rw [after, run_offers found (List.nil_append _).symm distinct m b.metrics]
    rfl

/-- Fan-outs and queues are opened, subscribers come and go, records are triggered and submitted,
workers take and finish them, are stopped and leave, in any order. At every moment the counters are
those of the ledger, and every accepted record has one fate. -/
theorem counters_are_conserved (hub : Push.Hub) (events : List Event) :
    let b := run { hub := hub } events
    b.metrics.submitted + b.metrics.dropped = .ofNat b.ledger.submissions.length ∧
    b.metrics.dropped = .ofNat (b.ledger.submissions.countP (!·.2.isOk)) ∧
    (∀ place token f, b.fanouts[place]? = some (token, f) → ∀ m,
      b.CountsTrigger place f m (f.trigger b.hub token m b.metrics).2.2.2
        (b.step (.turn place (.trigger m)))) ∧
    b.metrics.submitted = b.metrics.sent + b.metrics.skipped + b.metrics.failed +
      .ofNat (b.held.length + b.ledger.abandoned.length) ∧
    b.metrics.sent = .ofNat (b.ledger.finished.countP (·.2 = .sent)) ∧
    b.metrics.skipped = .ofNat (b.ledger.finished.countP (·.2 = .skipped)) ∧
    b.metrics.failed = .ofNat (b.ledger.finished.countP (·.2.fault?.isSome)) ∧
    b.ledger.accepted.Perm
      (b.ledger.finished.map Prod.fst ++ (b.held ++ b.ledger.abandoned)) ∧
    (∀ place token f, b.fanouts[place]? = some (token, f) →
      ∀ (σ : Type) (deliver : String → Subscriber σ) (s : σ), ∃ work : List Turn,
        (∀ t ∈ work, t.IsWork) ∧
        (b.run (work.map (.turn place))).fanouts =
          b.fanouts.set place (token, (f.run deliver b.metrics s).1) ∧
        (b.run (work.map (.turn place))).metrics = (f.run deliver b.metrics s).2.1) ∧
    ∀ place q, b.queues[place]? = some q →
      ∀ (σ : Type) (deliver : Subscriber σ) (s : σ), ∃ work : List Action,
        (∀ a ∈ work, a.IsWork) ∧
        (b.run (work.map (.act place))).queues =
          b.queues.set place (q.run deliver b.metrics s).1 ∧
        (b.run (work.map (.act place))).metrics = (q.run deliver b.metrics s).2.1 := by
  intro b
  have sound : b.Sound := (Sound.opened hub).run events
  have balanced := sound.balanced
  refine ⟨balanced.answered, balanced.dropped, ?_, balanced.placed, balanced.sent,
    balanced.skipped, balanced.failed, balanced.fates, ?_, ?_⟩
  · intro place token f found m
    exact counts_trigger found (sound.distinct _ (List.mem_of_getElem? found)) m
  · intro place token f found σ deliver s
    -- No worker has run yet, so all of them are still to run.
    have placed : f.registrations = [] ++ f.registrations := rfl
    obtain ⟨work, own, fanout, metrics⟩ := Relay.runAll_is_turns (w := b.relay token f) deliver
      placed (sound.distinct _ (List.mem_of_getElem? found)) s
    obtain ⟨fanouts, counted⟩ := run_turns (w := b.relay token f) found rfl rfl work
    rw [fanout] at fanouts
    exact ⟨work, own, fanouts, counted.trans metrics⟩
  · intro place q found σ deliver s
    obtain ⟨work, own, queue, metrics⟩ := (b.history q).worker_run_is_work deliver s
    obtain ⟨queues, counted⟩ := run_actions (h := b.history q) found rfl work
    rw [queue] at queues
    exact ⟨work, own, queues, counted.trans metrics⟩

end Bureau

end ChatGateway.Delivery

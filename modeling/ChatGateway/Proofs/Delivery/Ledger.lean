import ChatGateway.Proofs.Delivery.Relay

/-!
A ledger of submissions: how each was answered, and what became of the records that were accepted.
The counters are in balance with it: each counts the entries of its kind, and every record accepted
was delivered, is held by a queue, or was abandoned by a worker that was told to stop. Each action
at a queue, and each turn at a fan-out, keeps the balance.
-/

namespace ChatGateway.Delivery

namespace Queue

def held (q : Queue) : List Message := q.inFlight.toList ++ q.waiting

/-- What is counted elsewhere makes no difference to the answer. -/
theorem submit_answer (q : Queue) (m : Message) (k k' : Metrics) :
    (q.submit m k).2.2 = (q.submit m k').2.2 := by
  rw [submit_eq, submit_eq]
  split <;> rfl

theorem submit_isOk (q : Queue) (m : Message) (k : Metrics) :
    (q.submit m k).2.2.isOk = q.hasRoom := by
  rw [submit_eq]
  cases q.hasRoom <;> rfl

theorem offered_held {q : Queue} {m x : Message} (member : x ∈ (q.offered m).held) :
    x ∈ q.held ∨ x = m := by
  unfold offered at member
  split at member
  · simpa [held, or_assoc] using member
  · exact Or.inl member

theorem deliverAll_held {σ : Type} (deliver : Subscriber σ) (ms : List Message) (k : Metrics)
    (s : σ) :
    ((deliverAll deliver ms k s).1.1.toList ++ (deliverAll deliver ms k s).1.2) <:+ ms := by
  induction ms generalizing k s with
  | nil => exact List.suffix_refl []
  | cons m rest ih =>
      unfold deliverAll
      cases deliver m s with
      | none => exact List.suffix_refl _
      | some result => exact (ih _ _).trans (List.suffix_cons m rest)

theorem run_held {σ : Type} (deliver : Subscriber σ) (q : Queue) (k : Metrics) (s : σ) :
    (q.run deliver k s).1.held ⊆ q.held := by
  unfold run
  split
  · next stopped =>
    rw [halt, if_pos stopped]
    exact List.nil_subset _
  · exact (deliverAll_held deliver _ k s).subset

end Queue

namespace Fanout

def held (f : Fanout) : List Message := f.registrations.flatMap (·.queue.held)

/-- What the subscriber of an id holds. -/
def heldBy (f : Fanout) (id : String) : List Message := ((f.queue? id).map Queue.held).getD []

end Fanout

theorem Metrics.offers_total (k : Metrics) (taken refused : Nat) :
    (k.offers taken refused).submitted + (k.offers taken refused).dropped =
      k.submitted + k.dropped + .ofNat (taken + refused) := by
  simp only [offers, UInt64.ofNat_add]
  ac_rfl

structure Ledger where
  submissions : List (Message × Except SubmitError Unit) := []
  finished : List (Message × Outcome) := []
  abandoned : List Message := []

namespace Ledger

def accepted (l : Ledger) : List Message := (l.submissions.filter (·.2.isOk)).map Prod.fst

def abandon (l : Ledger) (ms : List Message) : Ledger := { l with abandoned := l.abandoned ++ ms }

/-- A busy worker that is free afterwards has ended a delivery. -/
def ended (l : Ledger) (outcome : Outcome) (before after : Queue) : Ledger :=
  { l with finished := l.finished ++
      if after.inFlight.isNone then before.inFlight.toList.map (·, outcome) else [] }

/-- What an action at a queue adds. -/
def note (l : Ledger) (q : Queue) (k : Metrics) : Action → Ledger
  | .submit m => { l with submissions := l.submissions ++ [(m, (q.submit m k).2.2)] }
  | .finish outcome => l.ended outcome q (q.finish outcome k).1
  | .halt => l.abandon (if q.cancelled then q.held else [])
  | .take | .close | .cancelOwner => l

/-- What a turn at a fan-out adds. A subscriber that leaves is told to stop. -/
def noteTurn (l : Ledger) (f : Fanout) (k : Metrics) : Turn → Ledger
  | .trigger m =>
    { l with submissions := l.submissions ++
        f.registrations.map (fun r => (m, (r.queue.submit m k).2.2)) }
  | .finish id outcome => ((f.queue? id).map fun q => l.note q k (.finish outcome)).getD l
  | .halt id => ((f.queue? id).map fun q => l.note q k .halt).getD l
  | .unregister id => l.abandon (f.heldBy id)
  | .clear => l.abandon f.held
  | .register _ | .take _ | .cancel => l

/-- The counters say what the ledger says, and all records are accounted for. -/
structure Balanced (l : Ledger) (k : Metrics) (held : List Message) : Prop where
  submitted : k.submitted = .ofNat (l.submissions.countP (·.2.isOk))
  dropped : k.dropped = .ofNat (l.submissions.countP (!·.2.isOk))
  sent : k.sent = .ofNat (l.finished.countP (·.2 = .sent))
  skipped : k.skipped = .ofNat (l.finished.countP (·.2 = .skipped))
  failed : k.failed = .ofNat (l.finished.countP (·.2.fault?.isSome))
  fates : l.accepted.Perm (l.finished.map Prod.fst ++ (held ++ l.abandoned))

namespace Balanced

variable {l : Ledger} {k : Metrics} {held held' rest : List Message}

theorem empty : Balanced {} {} [] := by
  constructor <;> rfl

theorem perm (balanced : l.Balanced k held) (same : held.Perm held') : l.Balanced k held' :=
  { balanced with
    fates := balanced.fates.trans ((same.append_right l.abandoned).append_left _) }

theorem abandon (balanced : l.Balanced k (held ++ rest)) : (l.abandon held).Balanced k rest := by
  refine { balanced with fates := balanced.fates.trans (List.Perm.append_left _ ?_) }
  rw [List.append_assoc]
  calc (held ++ (rest ++ l.abandoned)).Perm (rest ++ l.abandoned ++ held) := List.perm_append_comm
    _ = rest ++ (l.abandoned ++ held) := List.append_assoc ..

theorem answered (balanced : l.Balanced k held) :
    k.submitted + k.dropped = .ofNat l.submissions.length := by
  have all := List.length_eq_countP_add_countP (·.2.isOk) (l := l.submissions)
  simp only [Bool.not_eq_true, Bool.decide_eq_false] at all
  rw [balanced.submitted, balanced.dropped, ← UInt64.ofNat_add, all]

theorem three_ends (ends : List (Message × Outcome)) :
    ends.length = ends.countP (·.2 = .sent) + ends.countP (·.2 = .skipped) +
      ends.countP (·.2.fault?.isSome) := by
  induction ends with
  | nil => rfl
  | cons e rest ih =>
      obtain ⟨m, outcome⟩ := e
      cases outcome <;> simp [Outcome.fault?, ih] <;> omega

theorem placed (balanced : l.Balanced k held) :
    k.submitted =
      k.sent + k.skipped + k.failed + .ofNat (held.length + l.abandoned.length) := by
  have accepted : l.submissions.countP (·.2.isOk) = l.accepted.length := by
    rw [Ledger.accepted, List.length_map, List.countP_eq_length_filter]
  rw [balanced.submitted, accepted, balanced.fates.length_eq, balanced.sent, balanced.skipped,
    balanced.failed, List.length_append, List.length_append, List.length_map, three_ends]
  simp only [UInt64.ofNat_add]

/-- Records are offered; those that were accepted are held from now on. -/
theorem offered (balanced : l.Balanced k held) (held' : List Message)
    (answers : List (Message × Except SubmitError Unit))
    (added : held'.Perm ((answers.filter (·.2.isOk)).map Prod.fst ++ held)) :
    Balanced { l with submissions := l.submissions ++ answers }
      (k.offers (answers.countP (·.2.isOk)) (answers.countP (!·.2.isOk))) held' := by
  refine ⟨?_, ?_, balanced.sent, balanced.skipped, balanced.failed, ?_⟩
  · simp only [Metrics.offers, balanced.submitted, List.countP_append, UInt64.ofNat_add]
  · simp only [Metrics.offers, balanced.dropped, List.countP_append, UInt64.ofNat_add]
  · generalize taken : (answers.filter (·.2.isOk)).map Prod.fst = ms at added
    have grown : accepted { l with submissions := l.submissions ++ answers } =
        l.accepted ++ ms := by
      simp only [accepted, List.filter_append, List.map_append, taken]
    rw [grown]
    have joined : (l.accepted ++ ms).Perm
        (l.finished.map Prod.fst ++ (held ++ l.abandoned ++ ms)) := by
      simpa only [List.append_assoc] using balanced.fates.append_right ms
    refine joined.trans (List.Perm.append_left _ ?_)
    calc (held ++ l.abandoned ++ ms).Perm (ms ++ (held ++ l.abandoned)) := List.perm_append_comm
      _ = ms ++ held ++ l.abandoned := (List.append_assoc ..).symm
      List.Perm _ (held' ++ l.abandoned) := added.symm.append_right l.abandoned

/-- One record less is held, and one delivery more has ended. -/
theorem delivered {m : Message} (balanced : l.Balanced k (m :: held)) (outcome : Outcome) :
    Balanced { l with finished := l.finished ++ [(m, outcome)] } (k.finished outcome) held := by
  have fates : l.accepted.Perm
      ((l.finished ++ [(m, outcome)]).map Prod.fst ++ (held ++ l.abandoned)) := by
    simpa using balanced.fates
  cases outcome <;> refine ⟨?_, ?_, ?_, ?_, ?_, fates⟩ <;>
    simp [Metrics.finished, Outcome.fault?, List.countP_append, UInt64.ofNat_add,
      balanced.submitted, balanced.dropped, balanced.sent, balanced.skipped, balanced.failed]

section Queue

variable (q : Queue)

theorem submit (m : Message) (balanced : l.Balanced k (q.held ++ rest)) :
    (l.note q k (.submit m)).Balanced (q.submit m k).2.1 ((q.submit m k).1.held ++ rest) := by
  rw [note, q.submit_eq]
  cases q.hasRoom with
  | true =>
      have taken := balanced.offered (q.held ++ m :: rest) [(m, .ok ())] (by
        simp [Except.isOk, Except.toBool, List.perm_middle])
      simpa [Queue.held, Metrics.offers, Metrics.accepted, Except.isOk, Except.toBool] using taken
  | false =>
      have kept := balanced.offered (q.held ++ rest)
        [(m, .error (if q.cancelled then .closed else .full))]
        (by simp [Except.isOk, Except.toBool])
      simpa [Metrics.offers, Metrics.refused, Except.isOk, Except.toBool] using kept

theorem take (balanced : l.Balanced k (q.held ++ rest)) : l.Balanced k (q.take.held ++ rest) := by
  rcases q.take_cases with ⟨m, waiting, _, idle, next, taken⟩ | same
  · simpa [taken, Queue.held, idle, next] using balanced
  · rwa [same]

theorem finish (outcome : Outcome) (balanced : l.Balanced k (q.held ++ rest)) :
    (l.note q k (.finish outcome)).Balanced (q.finish outcome k).2
      ((q.finish outcome k).1.held ++ rest) := by
  rcases q.finish_cases outcome k with ⟨m, _, busy, freed⟩ | ⟨stuck, same⟩
  · rw [Queue.held, busy] at balanced
    simpa [note, ended, freed, busy, Queue.held] using balanced.delivered outcome
  · have nothing : (if q.inFlight.isNone then q.inFlight.toList.map (·, outcome) else []) = [] := by
      cases q.inFlight <;> rfl
    simpa only [note, ended, same, nothing, List.append_nil] using balanced

theorem halt (balanced : l.Balanced k (q.held ++ rest)) :
    (l.note q k .halt).Balanced k (q.halt.held ++ rest) := by
  cases stopped : q.cancelled with
  | false => simpa [note, Ledger.abandon, Queue.halt, stopped] using balanced
  | true => simpa [note, Queue.halt, Queue.held, stopped] using balanced.abandon

theorem act (a : Action) (balanced : l.Balanced k (q.held ++ rest)) :
    (l.note q k a).Balanced (History.step { queue := q, metrics := k } a).metrics
      ((History.step { queue := q, metrics := k } a).queue.held ++ rest) := by
  cases a with
  | submit m =>
      have noted := balanced.submit q m
      rcases answer : (q.submit m k) with ⟨q', k', _ | _⟩ <;> rw [answer] at noted <;>
        simpa only [History.step, History.submit, answer] using noted
  | take => exact balanced.take q
  | finish outcome => exact balanced.finish q outcome
  | close => exact balanced
  | cancelOwner => exact balanced
  | halt => exact balanced.halt q

end Queue

end Balanced

end Ledger

namespace Fanout

variable {f : Fanout} {id : String}

theorem queue?_eq_none : f.queue? id = none ↔ ∀ r ∈ f.registrations, r.id ≠ id := by
  rw [queue?, Option.map_eq_none_iff, Keyed.find?_eq_none]

theorem modify_absent (absent : f.queue? id = none) (change : Queue → Queue) :
    f.modify id change = f := by
  rw [modify, Keyed.modify_of_absent _ (queue?_eq_none.mp absent)]

theorem queue?_split {q : Queue} (found : f.queue? id = some q) :
    ∃ front rest, f.registrations = front ++ ⟨id, q⟩ :: rest := by
  obtain ⟨r, there, rfl⟩ := Option.map_eq_some_iff.mp found
  obtain ⟨member, rfl⟩ := Keyed.find?_some there
  exact List.append_of_mem member

/-- What a subscriber holds, and what the others hold whatever happens to it. -/
theorem held_modify (distinct : Keyed.Distinct Registration.id f.registrations) {q : Queue}
    (found : f.queue? id = some q) :
    ∃ others, f.held.Perm (q.held ++ others) ∧
      ∀ change, (f.modify id change).held.Perm ((change q).held ++ others) := by
  obtain ⟨front, rest, placed⟩ := queue?_split found
  refine ⟨front.flatMap (·.queue.held) ++ rest.flatMap (·.queue.held), ?_, fun change => ?_⟩
  · simpa [held, placed] using List.perm_append_comm_assoc ..
  · have modified := modify_placed placed distinct change
    simpa [held, modified] using List.perm_append_comm_assoc ..

theorem held_unregister (distinct : Keyed.Distinct Registration.id f.registrations) (id : String) :
    f.held.Perm (f.heldBy id ++ (f.unregister id).1.held) := by
  unfold heldBy queue?
  cases found : Keyed.find? Registration.id id f.registrations with
  | none => simp [held, unregister, Keyed.erase_of_absent found]
  | some r => exact (Keyed.perm_erase distinct found).flatMap_right _

theorem held_register : (f.register id).1.held = f.held := by
  unfold register
  split
  · rfl
  · simp [held, Queue.held, Queue.ofCapacity]

theorem held_cancel : f.cancel.held = f.held := by
  simp [held, cancel, List.flatMap_map, Queue.held, Queue.close]

theorem trigger_held (f : Fanout) (hub : Push.Hub) (token : String) (m : Message) (k : Metrics)
    {x : Message} (member : x ∈ (f.trigger hub token m k).1.held) : x ∈ f.held ∨ x = m := by
  rw [trigger_eq, held, List.mem_flatMap] at member
  obtain ⟨r', there, inside⟩ := member
  obtain ⟨r, known, rfl⟩ := List.mem_map.mp there
  rcases Queue.offered_held inside with before | new
  · exact Or.inl (List.mem_flatMap.mpr ⟨r, known, before⟩)
  · exact Or.inr new

theorem runAll_held {σ : Type} (deliver : String → Subscriber σ) (rs : List Registration)
    (k : Metrics) (s : σ) :
    (runAll deliver rs k s).1.flatMap (·.queue.held) ⊆ rs.flatMap (·.queue.held) := by
  induction rs generalizing k s with
  | nil => exact List.Subset.refl _
  | cons r rest ih =>
      intro m member
      rw [runAll, List.flatMap_cons] at member
      rw [List.flatMap_cons]
      rcases List.mem_append.mp member with own | other
      · exact List.mem_append_left _ (Queue.run_held (deliver r.id) r.queue k s own)
      · exact List.mem_append_right _ (ih _ _ other)

theorem unregister_held (f : Fanout) (id : String) : (f.unregister id).1.held ⊆ f.held := by
  intro m member
  obtain ⟨r, there, inside⟩ := List.mem_flatMap.mp member
  exact List.mem_flatMap.mpr ⟨r, (Keyed.mem_erase.mp there).1, inside⟩

theorem held_offered (m : Message) (rs : List Registration) (k : Metrics) :
    ((rs.map fun r => { r with queue := r.queue.offered m }).flatMap (·.queue.held)).Perm
      (((rs.map fun r => (m, (r.queue.submit m k).2.2)).filter (·.2.isOk)).map Prod.fst ++
        rs.flatMap (·.queue.held)) := by
  induction rs with
  | nil => rfl
  | cons r rest ih =>
      simp only [List.map_cons, List.flatMap_cons, Queue.submit_eq, Queue.offered] at ih ⊢
      -- What `r` takes moves to the front, past what `r` held before.
      have grown := (ih.append_left r.queue.held).trans (List.perm_append_comm_assoc ..)
      cases r.queue.hasRoom with
      | true =>
          have taken := List.perm_middle.trans (grown.cons m)
          simpa [Queue.held, Except.isOk, Except.toBool] using taken
      | false => simpa [Except.isOk, Except.toBool] using grown

end Fanout

namespace Ledger.Balanced

variable {l : Ledger} {w : Relay} {rest : List Message}

theorem getD_map_const {α β : Type} (o : Option α) (b : β) : (o.map fun _ => b).getD b = b := by
  cases o <;> rfl

/-- What one worker does at its queue leaves the other queues as they are. -/
theorem work (distinct : Keyed.Distinct Registration.id w.fanout.registrations) (id : String)
    {change : Queue → Queue} (count : Queue → Metrics) (entry : Queue → Ledger)
    (each : ∀ q others, l.Balanced w.metrics (q.held ++ others) →
      (entry q).Balanced (count q) ((change q).held ++ others))
    (balanced : l.Balanced w.metrics (w.fanout.held ++ rest)) :
    (((w.fanout.queue? id).map entry).getD l).Balanced
      (((w.fanout.queue? id).map count).getD w.metrics)
      ((w.fanout.modify id change).held ++ rest) := by
  cases found : w.fanout.queue? id with
  | none =>
      rw [Fanout.modify_absent found]
      exact balanced
  | some q =>
      obtain ⟨others, before, after⟩ := Fanout.held_modify distinct found
      have placed : l.Balanced w.metrics (q.held ++ (others ++ rest)) := by
        rw [← List.append_assoc]
        exact balanced.perm (before.append_right rest)
      have done := each q (others ++ rest) placed
      rw [← List.append_assoc] at done
      exact done.perm ((after change).symm.append_right rest)

theorem turn (distinct : Keyed.Distinct Registration.id w.fanout.registrations) (t : Turn)
    (balanced : l.Balanced w.metrics (w.fanout.held ++ rest)) :
    (l.noteTurn w.fanout w.metrics t).Balanced (w.move t).metrics
      ((w.move t).fanout.held ++ rest) := by
  cases t with
  | register id =>
      simp only [Relay.move, Fanout.held_register]
      exact balanced
  | unregister id =>
      have apart := balanced.perm ((Fanout.held_unregister distinct id).append_right rest)
      rw [List.append_assoc] at apart
      exact apart.abandon
  | trigger m =>
      have added := (Fanout.held_offered m w.fanout.registrations w.metrics).append_right rest
      rw [List.append_assoc] at added
      have taken := balanced.offered _ _ added
      simp only [List.countP_map, Function.comp_def, Queue.submit_isOk] at taken
      simp only [Relay.move, Fanout.trigger_eq]
      exact taken
  | take id =>
      have taken := balanced.work distinct id (fun _ => w.metrics) (fun _ => l) fun q _ =>
        take q
      rwa [getD_map_const, getD_map_const] at taken
  | finish id outcome => exact balanced.work distinct id _ _ fun q _ => finish q outcome
  | halt id =>
      have left := balanced.work distinct id (fun _ => w.metrics) _ fun q _ => halt q
      rwa [getD_map_const] at left
  | clear => exact balanced.abandon
  | cancel =>
      simp only [Relay.move, Fanout.held_cancel]
      exact balanced

end Ledger.Balanced

end ChatGateway.Delivery

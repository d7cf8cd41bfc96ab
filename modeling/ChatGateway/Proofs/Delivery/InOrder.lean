import ChatGateway.Proofs.Delivery.History

namespace ChatGateway.Delivery.History

theorem finish_busy (h : History) (m : Message) (outcome : Outcome)
    (running : h.queue.cancelled = false) (busy : h.queue.inFlight = some m) :
    (h.finish outcome).queue = { h.queue with inFlight := none } ∧
      (h.finish outcome).metrics = h.metrics.finished outcome := by
  simp [finish, Queue.finish, running, busy]

theorem take_next (h : History) (m : Message) (rest : List Message)
    (running : h.queue.cancelled = false) (idle : h.queue.inFlight = none)
    (next : h.queue.waiting = m :: rest) :
    h.take.queue = { h.queue with waiting := rest, inFlight := some m } ∧
      h.take.metrics = h.metrics := by
  simp [take, Queue.take, running, idle, next]

variable {σ : Type} (deliver : Subscriber σ)

/-- A history that came about by the worker's own actions and ends as the worker leaves the queue
after delivering `ms` in order. -/
def Delivers (h : History) (ms : List Message) (s : σ) : Prop :=
  ∃ work : List Action, (∀ a ∈ work, a.IsWork) ∧
    (h.run work).queue =
      { h.queue with
        inFlight := (Queue.deliverAll deliver ms h.metrics s).1.1
        waiting := (Queue.deliverAll deliver ms h.metrics s).1.2 } ∧
    (h.run work).metrics = (Queue.deliverAll deliver ms h.metrics s).2.1

theorem delivers_held (h : History) (m : Message) (waiting : List Message) (s : σ)
    (busy : h.queue.inFlight = some m) (next : h.queue.waiting = waiting)
    (held : deliver m s = none) : h.Delivers deliver (m :: waiting) s := by
  refine ⟨[], by simp, ?_, ?_⟩
  · simp only [run, List.foldl_nil, Queue.deliverAll, held]
    rw [← busy, ← next]
  · simp only [run, List.foldl_nil, Queue.deliverAll, held]

theorem delivers_busy (waiting : List Message) (h : History) (m : Message) (s : σ)
    (running : h.queue.cancelled = false) (busy : h.queue.inFlight = some m)
    (next : h.queue.waiting = waiting) : h.Delivers deliver (m :: waiting) s := by
  -- On what waits behind the record in flight; each round ends one delivery and takes the next.
  induction waiting generalizing h m s with
  | nil =>
      cases result : deliver m s with
      | none => exact h.delivers_held deliver m [] s busy next result
      | some ended =>
          have freed := h.finish_busy m ended.1 running busy
          refine ⟨[.finish ended.1], by simp [Action.IsWork], ?_, ?_⟩
          · simp only [run, List.foldl_cons, List.foldl_nil, step, freed.1, Queue.deliverAll,
              result]
            rw [← next]
          · simp only [run, List.foldl_cons, List.foldl_nil, step, freed.2, Queue.deliverAll,
              result]
  | cons first rest ih =>
      cases result : deliver m s with
      | none => exact h.delivers_held deliver m (first :: rest) s busy next result
      | some ended =>
          have freed := h.finish_busy m ended.1 running busy
          have taken := (h.finish ended.1).take_next first rest (by rw [freed.1]; exact running)
            (by rw [freed.1]) (by rw [freed.1]; exact next)
          rcases ih (h.finish ended.1).take first ended.2 (by rw [taken.1, freed.1]; exact running)
            (by rw [taken.1]) (by rw [taken.1]) with ⟨work, own, queue, metrics⟩
          refine ⟨.finish ended.1 :: .take :: work, ?_, ?_, ?_⟩
          · simpa [Action.IsWork] using own
          · change ((h.finish ended.1).take.run work).queue = _
            rw [queue, taken.1, taken.2, freed.1, freed.2]
            simp only [Queue.deliverAll, result]
          · change ((h.finish ended.1).take.run work).metrics = _
            rw [metrics, taken.2, freed.2]
            simp only [Queue.deliverAll, result]

theorem delivers_all (h : History) (s : σ) (running : h.queue.cancelled = false) :
    h.Delivers deliver (h.queue.inFlight.toList ++ h.queue.waiting) s := by
  cases busy : h.queue.inFlight with
  | some m => exact h.delivers_busy deliver h.queue.waiting m s running busy rfl
  | none =>
      cases next : h.queue.waiting with
      | nil =>
          refine ⟨[], by simp, ?_, rfl⟩
          simp only [run, List.foldl_nil, Option.toList_none, List.append_nil, Queue.deliverAll]
          rw [← busy, ← next]
      | cons m rest =>
          have taken := h.take_next m rest running busy next
          rcases h.take.delivers_busy deliver rest m s (by rw [taken.1]; exact running)
            (by rw [taken.1]) (by rw [taken.1]) with ⟨work, own, queue, metrics⟩
          refine ⟨.take :: work, ?_, ?_, ?_⟩
          · simpa [Action.IsWork] using own
          · change (h.take.run work).queue = _
            rw [queue, taken.1, taken.2]
            rfl
          · change (h.take.run work).metrics = _
            rw [metrics, taken.2]
            rfl

theorem worker_run_is_work (h : History) (s : σ) :
    ∃ work : List Action, (∀ a ∈ work, a.IsWork) ∧
      (h.run work).queue = (h.queue.run deliver h.metrics s).1 ∧
      (h.run work).metrics = (h.queue.run deliver h.metrics s).2.1 := by
  cases stopped : h.queue.cancelled with
  | true =>
      refine ⟨[.halt], by simp [Action.IsWork], ?_, ?_⟩ <;>
        simp [run, step, Queue.run, stopped]
  | false =>
      have runs : ¬ h.queue.cancelled = true := by simp [stopped]
      rw [Queue.run, if_neg runs]
      exact h.delivers_all deliver s stopped

theorem full_at_capacity (h : History) (m : Message) (k : Metrics)
    (room : h.queue.waiting.length ≤ h.queue.capacity)
    (full : (h.queue.submit m k).2.2 = .error .full) :
    h.queue.waiting.length = h.queue.capacity := by
  rcases h.queue.submit_cases m k with ⟨_, e⟩ | ⟨_, reached, _⟩ | ⟨_, _, e⟩
  · rw [e] at full
    cases full
  · exact Nat.le_antisymm room reached
  · rw [e] at full
    cases full

theorem stopped_submit (h : History) (m : Message) (k : Metrics)
    (stopped : h.queue.cancelled = true) :
    (h.queue.submit m k).2.2 = .error .closed := by
  simp [Queue.submit, stopped]

/-- Every order of actions at a new queue. The first `started.length` records accepted are those
whose delivery began, so none was begun twice or out of turn. -/
theorem records_begin_in_order (capacity : Nat) (stopped : Bool) (actions : List Action) :
    let h := (opened capacity stopped).run actions
    h.started <+: h.accepted ∧ h.done <+: h.started ∧
    h.started.length ≤ h.finished.length + 1 ∧
    (h.queue.cancelled = false →
      h.done ++ h.queue.inFlight.toList ++ h.queue.waiting = h.accepted) ∧
    h.queue.waiting.length ≤ max capacity 1 ∧
    (∀ m k, (h.queue.submit m k).2.2 = .error .full →
      h.queue.waiting.length = max capacity 1) ∧
    (h.queue.cancelled = true ↔ stopped = true ∨ ∃ a ∈ actions, a.Stops) ∧
    (h.queue.cancelled = true → ∀ later,
      (∀ m k, ((h.run later).queue.submit m k).2.2 = .error .closed) ∧
        (h.run later).started = h.started) ∧
    ∀ (σ : Type) (deliver : Subscriber σ) (s : σ), ∃ work : List Action,
      (∀ a ∈ work, a.IsWork) ∧
        (h.run work).queue = (h.queue.run deliver h.metrics s).1 ∧
        (h.run work).metrics = (h.queue.run deliver h.metrics s).2.1 := by
  intro h
  have accounted : h.Accounted :=
    run_accounted _ actions (opened_accounted capacity stopped)
  have bound : h.queue.capacity = max capacity 1 :=
    run_capacity (opened capacity stopped) actions
  have room : h.queue.waiting.length ≤ max capacity 1 := bound ▸ accounted.room
  refine ⟨accounted.prefixStarted, accounted.prefixDone, accounted.oneAtATime,
    accounted.conserved, room, ?_, run_cancelled (opened capacity stopped) actions, ?_, ?_⟩
  · intro m k full
    rw [← bound]
    exact h.full_at_capacity m k accounted.room full
  · intro halted later
    have still : (h.run later).queue.cancelled = true :=
      (h.run_cancelled later).mpr (Or.inl halted)
    refine ⟨?_, h.stopped_run_started later halted⟩
    intro m k
    exact (h.run later).stopped_submit m k still
  · intro σ deliver s
    exact h.worker_run_is_work deliver s

end ChatGateway.Delivery.History

import ChatGateway.Delivery.Queue
import Mathlib.Data.List.Infix

/-!
What becomes of the records handed to one queue. Producers, the worker and those who may stop it
act in any order; the history keeps the records that were accepted, those whose delivery began and
those whose delivery ended. Deliveries begin in the order of acceptance, each at most once, and
none begins after the queue was told to stop.
-/

namespace ChatGateway.Delivery

namespace Queue

theorem submit_cases (q : Queue) (m : Message) (k : Metrics) :
    (q.cancelled = true ∧ q.submit m k = (q, k.refused, .error .closed)) ∨
    (q.cancelled = false ∧ q.capacity ≤ q.waiting.length ∧
      q.submit m k = (q, k.refused, .error .full)) ∨
    (q.cancelled = false ∧ q.waiting.length < q.capacity ∧
      q.submit m k = ({ q with waiting := q.waiting ++ [m] }, k.accepted, .ok ())) := by
  by_cases stopped : q.cancelled = true
  · exact Or.inl ⟨stopped, by simp [submit, stopped]⟩
  · have open' : q.cancelled = false := by simpa using stopped
    by_cases full : q.capacity ≤ q.waiting.length
    · exact Or.inr (Or.inl ⟨open', full, by simp [submit, open', full]⟩)
    · exact Or.inr (Or.inr ⟨open', by omega, by simp [submit, open', full]⟩)

theorem take_cases (q : Queue) :
    (∃ m rest, q.cancelled = false ∧ q.inFlight = none ∧ q.waiting = m :: rest ∧
      q.take = { q with waiting := rest, inFlight := some m }) ∨ q.take = q := by
  unfold take
  split
  · next m rest running idle next => exact Or.inl ⟨m, rest, running, idle, next, rfl⟩
  · exact Or.inr rfl

theorem finish_cases (q : Queue) (outcome : Outcome) (k : Metrics) :
    (∃ m, q.cancelled = false ∧ q.inFlight = some m ∧
      q.finish outcome k = ({ q with inFlight := none }, k.finished outcome)) ∨
    ((q.cancelled = true ∨ q.inFlight = none) ∧ q.finish outcome k = (q, k)) := by
  cases stopped : q.cancelled with
  | true => exact Or.inr ⟨Or.inl rfl, by simp [finish, stopped]⟩
  | false =>
      cases busy : q.inFlight with
      | none => exact Or.inr ⟨Or.inr rfl, by simp [finish, stopped, busy]⟩
      | some m => exact Or.inl ⟨m, rfl, rfl, by simp [finish, stopped, busy]⟩

theorem halt_running (q : Queue) (running : q.cancelled = false) : q.halt = q := by
  simp [halt, running]

end Queue

/-- What can be done at a queue, by whomever. -/
inductive Action where
  | submit (m : Message)
  | take
  | finish (outcome : Outcome)
  | close
  | cancelOwner
  | halt

namespace Action

/-- The worker's own part. -/
def IsWork : Action → Prop
  | take | finish _ | halt => True
  | submit _ | close | cancelOwner => False

/-- Either way of telling the worker to stop. -/
def Stops : Action → Prop
  | close | cancelOwner => True
  | submit _ | take | finish _ | halt => False

end Action

structure History where
  queue : Queue
  metrics : Metrics := {}
  accepted : List Message := []
  started : List Message := []
  finished : List (Message × Outcome) := []

namespace History

/-- A new queue; what it belongs to may have been told to stop before. -/
def opened (capacity : Nat) (stopped : Bool) : History where
  queue := { Queue.ofCapacity capacity with cancelled := stopped }

def done (h : History) : List Message := h.finished.map Prod.fst

/-- A free worker that is busy afterwards has begun a delivery. -/
def take (h : History) : History :=
  let queue := h.queue.take
  { h with
    queue := queue
    started := h.started ++ if h.queue.inFlight.isNone then queue.inFlight.toList else [] }

/-- A busy worker that is free afterwards has ended a delivery. -/
def finish (h : History) (outcome : Outcome) : History :=
  let (queue, metrics) := h.queue.finish outcome h.metrics
  { h with
    queue := queue
    metrics := metrics
    finished := h.finished ++
      if queue.inFlight.isNone then h.queue.inFlight.toList.map (·, outcome) else [] }

def submit (h : History) (m : Message) : History :=
  match h.queue.submit m h.metrics with
  | (queue, metrics, .ok _) =>
    { h with queue := queue, metrics := metrics, accepted := h.accepted ++ [m] }
  | (queue, metrics, .error _) => { h with queue := queue, metrics := metrics }

def step (h : History) : Action → History
  | .submit m => h.submit m
  | .take => h.take
  | .finish outcome => h.finish outcome
  | .close | .cancelOwner => { h with queue := h.queue.close }
  | .halt => { h with queue := h.queue.halt }

def run (h : History) (actions : List Action) : History := actions.foldl step h

/-- What holds of the records at every moment. A worker that was told to stop may leave records
behind; until then none is lost. -/
structure Accounted (h : History) : Prop where
  prefixStarted : h.started <+: h.accepted
  prefixDone : h.done <+: h.started
  oneAtATime : h.started.length ≤ h.finished.length + 1
  begun : h.queue.cancelled = false → h.started = h.done ++ h.queue.inFlight.toList
  conserved : h.queue.cancelled = false →
    h.done ++ h.queue.inFlight.toList ++ h.queue.waiting = h.accepted
  room : h.queue.waiting.length ≤ h.queue.capacity

theorem opened_accounted (capacity : Nat) (stopped : Bool) :
    (opened capacity stopped).Accounted := by
  constructor <;> simp [opened, done, Queue.ofCapacity]

theorem submit_accounted (h : History) (m : Message) (accounted : h.Accounted) :
    (h.submit m).Accounted := by
  rcases h.queue.submit_cases m h.metrics with
    ⟨_, refused⟩ | ⟨_, _, refused⟩ | ⟨running, free, queued⟩
  · simp only [submit, refused]
    exact ⟨accounted.prefixStarted, accounted.prefixDone, accounted.oneAtATime, accounted.begun,
      accounted.conserved, accounted.room⟩
  · simp only [submit, refused]
    exact ⟨accounted.prefixStarted, accounted.prefixDone, accounted.oneAtATime, accounted.begun,
      accounted.conserved, accounted.room⟩
  · simp only [submit, queued]
    refine ⟨?_, accounted.prefixDone, accounted.oneAtATime, accounted.begun, ?_, ?_⟩
    · exact accounted.prefixStarted.trans (List.prefix_append h.accepted [m])
    · intro _
      change h.done ++ h.queue.inFlight.toList ++ (h.queue.waiting ++ [m]) = h.accepted ++ [m]
      rw [← List.append_assoc, accounted.conserved running]
    · simp only [List.length_append, List.length_singleton]
      omega

theorem take_accounted (h : History) (accounted : h.Accounted) : h.take.Accounted := by
  rcases h.queue.take_cases with ⟨m, rest, running, idle, next, taken⟩ | same
  · have begun := accounted.begun running
    have conserved := accounted.conserved running
    simp only [idle, Option.toList_none, List.append_nil] at begun conserved
    -- With no delivery in flight the record taken is the next one accepted.
    have order : h.started ++ [m] ++ rest = h.accepted := by
      rw [begun, ← conserved, next, List.append_assoc, List.singleton_append]
    simp only [take, taken, idle, Option.isNone_none, if_true, Option.toList_some]
    refine ⟨⟨rest, order⟩, ?_, ?_, ?_, ?_, ?_⟩
    · exact accounted.prefixDone.trans (List.prefix_append h.started [m])
    · simp [begun, done]
    · intro _
      change h.started ++ [m] = h.done ++ [m]
      rw [begun]
    · intro _
      change h.done ++ [m] ++ rest = h.accepted
      rw [← begun, order]
    · have room := accounted.room
      simp only [next, List.length_cons] at room
      change rest.length ≤ h.queue.capacity
      omega
  · have nothing : (if h.queue.inFlight.isNone then h.queue.inFlight.toList else []) = [] := by
      cases h.queue.inFlight <;> rfl
    have unchanged : h.take = h := by
      simp only [take, same, nothing, List.append_nil]
    rw [unchanged]
    exact accounted

theorem finish_accounted (h : History) (outcome : Outcome) (accounted : h.Accounted) :
    (h.finish outcome).Accounted := by
  rcases h.queue.finish_cases outcome h.metrics with ⟨m, running, busy, freed⟩ | ⟨stuck, same⟩
  · have begun := accounted.begun running
    have conserved := accounted.conserved running
    simp only [busy, Option.toList_some] at begun conserved
    simp only [finish, freed, Option.isNone_none, if_true, busy, Option.toList_some, List.map_cons,
      List.map_nil]
    have ended : (h.finished ++ [(m, outcome)]).map Prod.fst = h.started := by
      simp [begun, done]
    refine ⟨accounted.prefixStarted, ?_, ?_, ?_, ?_, accounted.room⟩
    · change (h.finished ++ [(m, outcome)]).map Prod.fst <+: h.started
      rw [ended]
    · change h.started.length ≤ (h.finished ++ [(m, outcome)]).length + 1
      rw [← ended, List.length_map]
      omega
    · intro _
      change h.started = (h.finished ++ [(m, outcome)]).map Prod.fst ++ []
      rw [ended, List.append_nil]
    · intro _
      change (h.finished ++ [(m, outcome)]).map Prod.fst ++ [] ++ h.queue.waiting = h.accepted
      rw [ended, List.append_nil, begun, conserved]
  · have nothing : (if h.queue.inFlight.isNone then h.queue.inFlight.toList.map (·, outcome)
        else []) = [] := by
      cases h.queue.inFlight <;> rfl
    have unchanged : h.finish outcome = h := by
      simp only [finish, same, nothing, List.append_nil]
    rw [unchanged]
    exact accounted

theorem close_accounted (h : History) (accounted : h.Accounted) :
    Accounted { h with queue := h.queue.close } := by
  refine ⟨accounted.prefixStarted, accounted.prefixDone, accounted.oneAtATime, ?_, ?_,
    accounted.room⟩ <;> intro running <;> cases running

theorem halt_accounted (h : History) (accounted : h.Accounted) :
    Accounted { h with queue := h.queue.halt } := by
  cases stopped : h.queue.cancelled with
  | false =>
      rw [h.queue.halt_running stopped]
      exact accounted
  | true =>
      simp only [Queue.halt, stopped, if_true]
      refine ⟨accounted.prefixStarted, accounted.prefixDone, accounted.oneAtATime, ?_, ?_, ?_⟩
      · intro running
        simp at running
      · intro running
        simp at running
      · exact Nat.zero_le _

theorem step_accounted (h : History) (a : Action) (accounted : h.Accounted) :
    (h.step a).Accounted := by
  cases a with
  | submit m => exact h.submit_accounted m accounted
  | take => exact h.take_accounted accounted
  | finish outcome => exact h.finish_accounted outcome accounted
  | close => exact h.close_accounted accounted
  | cancelOwner => exact h.close_accounted accounted
  | halt => exact h.halt_accounted accounted

theorem run_accounted (h : History) (actions : List Action) (accounted : h.Accounted) :
    (h.run actions).Accounted := by
  induction actions generalizing h with
  | nil => exact accounted
  | cons a rest ih => exact ih (h.step a) (h.step_accounted a accounted)

theorem step_capacity (h : History) (a : Action) :
    (h.step a).queue.capacity = h.queue.capacity := by
  cases a with
  | submit m =>
      rcases h.queue.submit_cases m h.metrics with ⟨_, e⟩ | ⟨_, _, e⟩ | ⟨_, _, e⟩ <;>
        simp only [step, submit, e]
  | take =>
      rcases h.queue.take_cases with ⟨m, rest, _, _, _, e⟩ | e <;> simp only [step, take, e]
  | finish outcome =>
      rcases h.queue.finish_cases outcome h.metrics with ⟨m, _, _, e⟩ | ⟨_, e⟩ <;>
        simp only [step, finish, e]
  | close => rfl
  | cancelOwner => rfl
  | halt =>
      simp only [step, Queue.halt]
      split <;> rfl

theorem run_capacity (h : History) (actions : List Action) :
    (h.run actions).queue.capacity = h.queue.capacity := by
  induction actions generalizing h with
  | nil => rfl
  | cons a rest ih => exact (ih (h.step a)).trans (h.step_capacity a)

/-- The queue is told to stop by those actions alone, and for good. -/
theorem step_cancelled (h : History) (a : Action) :
    (h.step a).queue.cancelled = true ↔ h.queue.cancelled = true ∨ a.Stops := by
  cases a with
  | submit m =>
      rcases h.queue.submit_cases m h.metrics with ⟨_, e⟩ | ⟨_, _, e⟩ | ⟨_, _, e⟩ <;>
        simp [step, submit, e, Action.Stops]
  | take =>
      rcases h.queue.take_cases with ⟨m, rest, _, _, _, e⟩ | e <;>
        simp [step, take, e, Action.Stops]
  | finish outcome =>
      rcases h.queue.finish_cases outcome h.metrics with ⟨m, _, _, e⟩ | ⟨_, e⟩ <;>
        simp [step, finish, e, Action.Stops]
  | close => simp [step, Queue.close, Action.Stops]
  | cancelOwner => simp [step, Queue.close, Action.Stops]
  | halt =>
      simp only [step, Queue.halt, Action.Stops, or_false]
      split <;> rfl

theorem run_cancelled (h : History) (actions : List Action) :
    (h.run actions).queue.cancelled = true ↔
      h.queue.cancelled = true ∨ ∃ a ∈ actions, a.Stops := by
  induction actions generalizing h with
  | nil => simp [run]
  | cons a rest ih =>
      have later := ih (h.step a)
      rw [step_cancelled] at later
      simpa only [run, List.foldl_cons, List.mem_cons, exists_eq_or_imp, or_assoc] using later

theorem stopped_step_started (h : History) (a : Action) (stopped : h.queue.cancelled = true) :
    (h.step a).started = h.started := by
  cases a with
  | submit m =>
      rcases h.queue.submit_cases m h.metrics with ⟨_, e⟩ | ⟨_, _, e⟩ | ⟨_, _, e⟩ <;>
        simp only [step, submit, e]
  | take =>
      rcases h.queue.take_cases with ⟨m, rest, running, _, _, _⟩ | same
      · simp [running] at stopped
      · simp only [step, take, same]
        cases h.queue.inFlight <;> simp
  | finish outcome => rfl
  | close => rfl
  | cancelOwner => rfl
  | halt => rfl

theorem stopped_run_started (h : History) (actions : List Action)
    (stopped : h.queue.cancelled = true) : (h.run actions).started = h.started := by
  induction actions generalizing h with
  | nil => rfl
  | cons a rest ih =>
      have still : (h.step a).queue.cancelled = true := (h.step_cancelled a).mpr (Or.inl stopped)
      exact (ih (h.step a) still).trans (h.stopped_step_started a stopped)

end History

end ChatGateway.Delivery

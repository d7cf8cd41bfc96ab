import ChatGateway.Proofs.Delivery.InOrder
import ChatGateway.Proofs.Delivery.Relay

namespace ChatGateway.Delivery

namespace Share

/-- The shares after each of some turns. -/
def course (s : Share) : List Turn → List Share
  | [] => []
  | t :: rest => s.step t :: (s.step t).course rest

end Share

namespace Relay

variable (w : Relay) (id : String)

/-- What a subscriber has seen is what its own turns alone would have shown it. -/
theorem run_share (turns : List Turn) :
    (w.run turns).share id = (turns.filter (·.concerns id)).foldl Share.step (w.share id) := by
  induction turns generalizing w with
  | nil => rfl
  | cons t rest ih =>
      change ((w.step t).run rest).share id = _
      rw [ih (w.step t), List.filter_cons]
      cases concerned : t.concerns id with
      | true => rw [w.step_share concerned, if_pos rfl, List.foldl_cons]
      | false => rw [w.step_share_other concerned, if_neg Bool.false_ne_true]

/-- The shares of a subscriber after each turn that concerns it. -/
def course (w : Relay) (id : String) : List Turn → List Share
  | [] => []
  | t :: rest =>
    if t.concerns id then (w.step t).share id :: (w.step t).course id rest
    else (w.step t).course id rest

theorem course_eq (turns : List Turn) :
    w.course id turns = (w.share id).course (turns.filter (·.concerns id)) := by
  induction turns generalizing w with
  | nil => rfl
  | cons t rest ih =>
      rw [course, ih (w.step t), List.filter_cons]
      cases concerned : t.concerns id with
      | true => rw [if_pos rfl, if_pos rfl, w.step_share concerned, Share.course]
      | false =>
          rw [if_neg Bool.false_ne_true, if_neg Bool.false_ne_true, w.step_share_other concerned]

/-- A record is submitted once to every queue and dispatched once to the push connections. The
queues that have room take it, and all are counted. -/
structure TriggersOnce (w : Relay) (m : Message) : Prop where
  submitted : (w.step (.trigger m)).fanout.registrations =
    w.fanout.registrations.map fun r => { r with queue := (r.queue.submit m w.metrics).1 }
  pushed : (w.step (.trigger m)).hub = (w.hub.dispatch w.token m).1
  counted : (w.step (.trigger m)).metrics =
    w.metrics.offers (w.fanout.registrations.countP (·.queue.hasRoom))
      (w.fanout.registrations.countP (!·.queue.hasRoom))
  taken : ∀ id q, w.fanout.queue? id = some q →
    ((w.step (.trigger m)).logs id).accepted =
      (w.logs id).accepted ++ match (q.submit m w.metrics).2.2 with
        | .ok _ => [m]
        | .error _ => []

theorem triggers_once (m : Message) : w.TriggersOnce m := by
  have parts := w.fanout.trigger_eq w.hub w.token m w.metrics
  refine ⟨?_, ?_, ?_, ?_⟩
  · simp only [step, move, parts, Queue.submit_queue]
  · simp only [step, move, parts]
  · simp only [step, move, parts]
  · intro id q found
    have after := w.fanout.queue?_trigger w.hub w.token m w.metrics id
    rw [found, Option.map_some] at after
    simp only [step, move, Log.note, after, found, Log.waiting, Option.map_some, Option.getD_some,
      Queue.submit_eq, Queue.offered]
    cases q.hasRoom with
    | true => simp
    | false => simp

section Workers

variable {w} {front rest : List Registration} {r : Registration}

/-- What a worker does at its queue is a turn of the relay. -/
theorem work_is_turn (placed : w.fanout.registrations = front ++ r :: rest)
    (distinct : Keyed.Distinct Registration.id w.fanout.registrations) {h : History}
    (queue : h.queue = r.queue) (metrics : h.metrics = w.metrics) {a : Action} (own : a.IsWork) :
    ∃ t : Turn, t.IsWork ∧
      (w.step t).fanout =
        { w.fanout with registrations := front ++ ⟨r.id, (h.step a).queue⟩ :: rest } ∧
      (w.step t).metrics = (h.step a).metrics := by
  cases a with
  | take =>
      refine ⟨.take r.id, trivial, ?_, metrics.symm⟩
      simp only [step, move, Fanout.modify_placed placed distinct, History.step, History.take,
        queue]
  | finish outcome =>
      refine ⟨.finish r.id outcome, trivial, ?_, ?_⟩
      · simp only [step, move, Fanout.modify_placed placed distinct, History.step, History.finish,
          queue, metrics]
      · simp only [step, move, Fanout.queue?_placed placed distinct, Option.map_some,
          Option.getD_some, History.step, History.finish, queue, metrics]
  | halt =>
      refine ⟨.halt r.id, trivial, ?_, metrics.symm⟩
      simp only [step, move, Fanout.modify_placed placed distinct, History.step, queue]
  | submit m => cases own
  | close => cases own
  | cancelOwner => cases own

theorem work_is_turns (placed : w.fanout.registrations = front ++ r :: rest)
    (distinct : Keyed.Distinct Registration.id w.fanout.registrations) {h : History}
    (queue : h.queue = r.queue) (metrics : h.metrics = w.metrics) {work : List Action}
    (own : ∀ a ∈ work, a.IsWork) :
    ∃ turns : List Turn, (∀ t ∈ turns, t.IsWork) ∧
      (w.run turns).fanout =
        { w.fanout with registrations := front ++ ⟨r.id, (h.run work).queue⟩ :: rest } ∧
      (w.run turns).metrics = (h.run work).metrics := by
  induction work generalizing w h r with
  | nil =>
      refine ⟨[], by simp, ?_, metrics.symm⟩
      simp only [run, List.foldl_nil, History.run, queue, ← placed]
  | cons a later ih =>
      obtain ⟨t, work, fanout, counted⟩ :=
        work_is_turn placed distinct queue metrics (own a List.mem_cons_self)
      -- The registration stays where it is, with the queue the worker has now.
      have placed' := congrArg Fanout.registrations fanout
      have distinct' : Keyed.Distinct Registration.id (w.step t).fanout.registrations := by
        rw [placed']
        exact Fanout.replaced_distinct (placed ▸ distinct)
      obtain ⟨turns, works, fanout', counted'⟩ := ih (r := ⟨r.id, (h.step a).queue⟩) placed'
        distinct' rfl counted.symm fun b member => own b (List.mem_cons_of_mem a member)
      refine ⟨t :: turns, ?_, ?_, counted'⟩
      · intro t' member
        rcases List.mem_cons.mp member with rfl | member
        · exact work
        · exact works t' member
      · rw [fanout] at fanout'
        exact fanout'

variable {σ : Type} (deliver : String → Subscriber σ)

theorem runAll_is_turns (placed : w.fanout.registrations = front ++ rest)
    (distinct : Keyed.Distinct Registration.id w.fanout.registrations) (s : σ) :
    ∃ turns : List Turn, (∀ t ∈ turns, t.IsWork) ∧
      (w.run turns).fanout =
        { w.fanout with registrations := front ++ (Fanout.runAll deliver rest w.metrics s).1 } ∧
      (w.run turns).metrics = (Fanout.runAll deliver rest w.metrics s).2.1 := by
  induction rest generalizing w front s with
  | nil => exact ⟨[], by simp, by simp only [run, List.foldl_nil, Fanout.runAll, ← placed], rfl⟩
  | cons r rest ih =>
      obtain ⟨work, own, queue, counted⟩ := History.worker_run_is_work (deliver r.id)
        { queue := r.queue, metrics := w.metrics } s
      obtain ⟨first, works, fanout, metrics⟩ :=
        work_is_turns placed distinct (h := { queue := r.queue, metrics := w.metrics }) rfl rfl own
      rw [queue] at fanout
      rw [counted] at metrics
      -- The worker that has run belongs to the front now.
      have placed' : (w.run first).fanout.registrations =
          (front ++ [⟨r.id, (r.queue.run (deliver r.id) w.metrics s).1⟩]) ++ rest := by
        rw [fanout, List.append_assoc, List.singleton_append]
      have distinct' : Keyed.Distinct Registration.id (w.run first).fanout.registrations := by
        rw [fanout]
        exact Fanout.replaced_distinct (placed ▸ distinct)
      obtain ⟨later, works', fanout', metrics'⟩ :=
        ih placed' distinct' (r.queue.run (deliver r.id) w.metrics s).2.2
      have joined : w.run (first ++ later) = (w.run first).run later := List.foldl_append
      refine ⟨first ++ later, ?_, ?_, ?_⟩
      · intro t member
        rcases List.mem_append.mp member with member | member
        · exact works t member
        · exact works' t member
      · rw [joined, fanout', fanout, metrics, List.append_assoc, List.singleton_append]
        rfl
      · rw [joined, metrics', metrics]
        rfl

end Workers

/-- Two fan-outs in which a subscriber has the same share go through turns that agree in what
concerns it. At every point it has the same share in both, so it makes no difference who else is
there, whose queue is full, who stalls and how other deliveries end. Each trigger submits the record
once to every queue and pushes it once. Workers left to themselves do nothing but take turns. -/
theorem subscribers_are_isolated {w w' : Relay} {id : String} (same : w.share id = w'.share id)
    {turns turns' : List Turn}
    (alike : turns.filter (·.concerns id) = turns'.filter (·.concerns id)) :
    (w.run turns).share id = (w'.run turns').share id ∧
    w.course id turns = w'.course id turns' ∧
    (∀ (v : Relay) (t : Turn), t.concerns id = false → (v.step t).share id = v.share id) ∧
    (∀ (v : Relay) (m : Message), v.TriggersOnce m) ∧
    ∀ v : Relay, Keyed.Distinct Registration.id v.fanout.registrations →
      ∀ (σ : Type) (deliver : String → Subscriber σ) (s : σ), ∃ work : List Turn,
        (∀ t ∈ work, t.IsWork) ∧
        (v.run work).fanout = (v.fanout.run deliver v.metrics s).1 ∧
        (v.run work).metrics = (v.fanout.run deliver v.metrics s).2.1 := by
  refine ⟨?_, ?_, fun v _ foreign => v.step_share_other foreign, triggers_once, ?_⟩
  · rw [run_share, run_share, same, alike]
  · rw [course_eq, course_eq, same, alike]
  · intro v distinct σ deliver s
    have placed : v.fanout.registrations = [] ++ v.fanout.registrations := rfl
    exact runAll_is_turns deliver placed distinct s

/-- A neighbour that never takes a record has a full queue at the second trigger. -/
theorem stalled_neighbour_is_unnoticed :
    let m := fun id : String =>
      ({ id := id, timestamp := .epoch, kind := .text, chat := ⟨"1@s.whatsapp.net", ""⟩ } : Message)
    let relay : Relay := { token := "tok", fanout := { capacity := 1 }, hub := {} }
    let together := relay.run [.register "b", .register "a"]
    let alone := relay.run [.register "a"]
    let busy := [.trigger (m "1"), .take "a", .trigger (m "2"), .unregister "b"]
    let calm := [.trigger (m "1"), .take "a", .trigger (m "2")]
    together.share "a" = alone.share "a" ∧
      busy.filter (Turn.concerns "a") = calm.filter (Turn.concerns "a") ∧
      (together.run busy).share "a" = (alone.run calm).share "a" ∧
      ((together.run busy).logs "b").accepted = [m "1"] ∧
      ((together.run busy).logs "a").accepted = [m "1", m "2"] := by
  intro m relay together alone busy calm
  have same : together.share "a" = alone.share "a" := rfl
  have alike : busy.filter (Turn.concerns "a") = calm.filter (Turn.concerns "a") := rfl
  exact ⟨same, alike, (subscribers_are_isolated same alike).1, rfl, rfl⟩

end Relay

end ChatGateway.Delivery

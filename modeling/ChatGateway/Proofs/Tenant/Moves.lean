import ChatGateway.Proofs.Delivery.Relay
import ChatGateway.Proofs.Tenant.Steps

/-!
What is done at a tenant, taken apart. Whatever a tenant is told or does by itself is a sequence of
a few moves, each of which changes one thing; what every move keeps, everything keeps. Most of it
is made of turns, which are the moves that leave the webhooks alone.

Loading and unloading stand aside: a tenant is attached to its stored webhooks when it is loaded,
and gives up everything when it is shut down or logged out for good.
-/

namespace ChatGateway

open Delivery (Fanout Queue Registration)

/-- Whether a session is the one in use or the one listened to. -/
def Tenant.uses (t : Tenant) (id : Session.LinkId) : Prop := t.link = some id ∨ t.pump = some id

theorem Tenant.heard_pump {t : Tenant} {id : Session.LinkId} (hears : t.heard = some id) :
    t.pump = some id := by
  unfold heard at hears
  split at hears
  · cases hears
  · exact hears

namespace Session.Exchange

/-- The session that was in use, if any, is closed. -/
def hangUp (x : Exchange) : Option LinkId → Exchange
  | none => x
  | some id => x.modify id Link.disconnect

end Session.Exchange

namespace Hosted

theorem dropLink_eq (h : Hosted) :
    h.dropLink = { tenant := { h.tenant with link := none }
                   host := { h.host with exchange := h.host.exchange.hangUp h.tenant.link } } := by
  unfold dropLink
  cases used : h.tenant.link with
  | none =>
      obtain ⟨tenant, host⟩ := h
      simp only at used
      simp only [Session.Exchange.hangUp, ← used]
  | some id => rfl

/-- A session is opened, and takes the place of the one in use and the one listened to. -/
theorem start_eq (h : Hosted) :
    h.start.1 = h ∨
    ∃ exchange link, h.host.exchange.connect h.tenant.profile = .ok (exchange, link) ∧
      h.start.1 =
        { tenant := { h.tenant with wid := some link.wid, link := some link.id
                                    pump := some link.id }
          host := { h.host with exchange := exchange.hangUp h.tenant.link } } := by
  unfold start
  cases opened : h.host.exchange.connect h.tenant.profile with
  | error e => exact Or.inl rfl
  | ok result =>
      obtain ⟨exchange, link⟩ := result
      refine Or.inr ⟨exchange, link, rfl, ?_⟩
      simp only [dropLink_eq]

/-- What the worker of one subscriber does: it takes the next record, its delivery ends, or it
leaves because it was told to stop. -/
inductive WorkerStep where
  | take
  | finish (net : Network)
  | halt

/-- The worker of one subscriber takes a step of its own. -/
def work (h : Hosted) (id : String) : WorkerStep → Hosted
  | .take => { h with tenant := { h.tenant with fanout := h.tenant.fanout.modify id Queue.take } }
  | .halt => { h with tenant := { h.tenant with fanout := h.tenant.fanout.modify id Queue.halt } }
  | .finish net =>
    match (h.tenant.fanout.queue? id).bind fun q => if q.cancelled then none else q.inFlight with
    | none => h
    | some m =>
      match Webhook.deliverTo h.host.office net h.tenant.wid id m
          (h.tenant.webhooks, h.host.clock) with
      | none => h
      | some (outcome, webhooks, clock) =>
        { tenant := { h.tenant with
            fanout := h.tenant.fanout.modify id fun q => (q.finish outcome h.host.metrics).1
            webhooks := webhooks }
          host := { h.host with metrics := h.host.metrics.finished outcome, clock := clock } }

/-- One thing that is done at a tenant with its webhooks left alone. -/
inductive Turn (h : Hosted) : Hosted → Prop
  | clock : Turn h { h with host := h.host.now.2 }
  | number : Turn h { h with host := h.host.freshNumber.2 }
  | profile (change : Profile → Profile) (own : ∀ p, (change p).token = p.token) :
      Turn h (h.updateProfile change)
  | status {next : TenantStatus} (allowed : h.tenant.status.allows next = true) :
      Turn h { h with tenant := { h.tenant with status := next } }
  | wid (wid : String) : Turn h (h.setWid wid)
  | letGo : Turn h { h with tenant := { h.tenant with link := none } }
  | deafen : Turn h { h with tenant := { h.tenant with pump := none } }
  | cancel : Turn h { h with tenant := h.tenant.cancel }
  | keep (m : Message) : Turn h (h.keep m).1
  | titles (titles : Cache.Titles) : Turn h { h with tenant := { h.tenant with titles := titles } }
  | forget (id : String) :
      Turn h { h with tenant := { h.tenant with messages := (h.tenant.messages.delete id).1 } }
  | trigger (m : Message) : Turn h (h.trigger m).1
  | session {id : Session.LinkId} {l l' : Session.Link} (own : h.tenant.uses id)
      (found : h.host.exchange.link? id = some l) (same : l'.id = id) :
      Turn h { h with host := { h.host with exchange := h.host.exchange.update l' } }
  | hangUp : Turn h h.dropLink
  | start : Turn h h.start.1

abbrev Turns : Hosted → Hosted → Prop := Relation.ReflTransGen Turn

theorem Turns.foldl {α : Type} {act : Hosted → α → Hosted} (each : ∀ h a, Turns h (act h a))
    (items : List α) (h : Hosted) : Turns h (items.foldl act h) := by
  induction items generalizing h with
  | nil => exact .refl
  | cons a rest ih => exact (each h a).trans (ih (act h a))

/-- One thing that is done at a tenant. -/
inductive Move (h : Hosted) : Hosted → Prop
  | turn {h' : Hosted} (turn : Turn h h') : Move h h'
  | addWebhook (w : Webhook) : Move h (h.addWebhook w).1
  | removeWebhook (url : String) : Move h (h.removeWebhook url).1
  | toggleWebhook (url : String) (option : WebhookOption) : Move h (h.toggleWebhook url option).1
  | work (id : String) (s : WorkerStep) : Move h (h.work id s)

abbrev Moves : Hosted → Hosted → Prop := Relation.ReflTransGen Move

/-- What every move keeps, a sequence of moves keeps. -/
theorem Moves.keep {P : Hosted → Prop} (each : ∀ h h', Move h h' → P h → P h') {h h' : Hosted}
    (moves : Moves h h') (start : P h) : P h' := by
  induction moves with
  | refl => exact start
  | tail _ move ih => exact each _ _ move ih

theorem Turns.moves {h h' : Hosted} (turns : Turns h h') : Moves h h' :=
  Relation.ReflTransGen.mono (fun _ _ turn => Move.turn turn) h h' turns

theorem setStatus_turns (h : Hosted) (next : TenantStatus) : Turns h (h.setStatus next).1 := by
  cases allowed : h.tenant.status.allows next with
  | false =>
      rw [setStatus_refused allowed]
  | true =>
      rw [setStatus_allowed allowed]
      exact .single (.status allowed)

/-- What needs the transport is done on the session, or nothing is. -/
theorem attempt_turns {h : Hosted} {id : Session.LinkId} (own : h.tenant.uses id)
    (change : Session.Link → Session.Link) (kept : ∀ l, (change l).id = l.id) :
    Turns h (h.attempt id (·.whileConnected change)).1 := by
  unfold attempt Session.Exchange.attempt
  cases found : h.host.exchange.link? id with
  | none => exact .refl
  | some l =>
      dsimp only
      cases done : l.whileConnected change with
      | error e => exact .refl
      | ok l' =>
          refine .single (.session own found ?_)
          rw [Session.Link.whileConnected_ok done, kept]
          exact (Keyed.find?_some found).2

theorem store_turns (h : Hosted) (m : Message) : Turns h (h.store m).1 := by
  have kept : Turns h (h.keep m).1 := .single (.keep m)
  unfold store
  dsimp only
  split
  · exact kept.tail (.trigger m)
  · exact kept

theorem withTitle_turns (h : Hosted) (m : Message) : Turns h (h.withTitle m).1 := by
  unfold withTitle
  split
  · split <;> exact .single (.titles _)
  · exact .refl

theorem markRead_turns (h : Hosted) (m : Message) : Turns h (h.markRead m) := by
  unfold markRead
  split
  · next id used => exact attempt_turns (Or.inl used) _ fun _ => rfl
  · exact .refl

theorem ingest_turns (h : Hosted) (m : Message) : Turns h (h.ingest m).1 := by
  unfold ingest
  split
  · exact .refl
  · dsimp only
    have stored := fun m' => (h.withTitle_turns m).trans ((h.withTitle m).1.store_turns m')
    split
    · exact (stored _).trans (markRead_turns _ _)
    · exact stored _

theorem onReceipt_turns (h : Hosted) (chat : Chat) (ids : List String) (timestamp : Instant) :
    Turns h (h.onReceipt chat ids timestamp) := by
  unfold onReceipt
  split
  · exact .refl
  · exact .single (.trigger _)

theorem onCall_turns (h : Hosted) (id : String) (caller : Chat) (timestamp : Instant) :
    Turns h (h.onCall id caller timestamp) := by
  unfold onCall
  dsimp only
  split
  · exact h.ingest_turns _
  · split
    · next link used => exact attempt_turns (Or.inl used) _ fun _ => rfl
    · exact .refl

theorem requestHistory_turns (h : Hosted) : Turns h h.requestHistory := by
  unfold requestHistory
  split
  · exact .refl
  · split
    · exact .refl
    · next link used =>
      have read : Turns h { h with host := h.host.now.2 } := .single .clock
      have own : Tenant.uses { h with host := h.host.now.2 }.tenant link := Or.inl used
      dsimp only
      split
      · exact read
      · exact read.trans (attempt_turns own _ fun _ => rfl)

theorem confirm_turns (h : Hosted) (wid : String) : Turns h (h.confirm wid) :=
  .single (.profile _ fun _ => rfl)

theorem onConnected_turns (h : Hosted) (wid : String) : Turns h (h.onConnected wid) := by
  have named : Turns h (h.setWid wid) := .single (.wid wid)
  have known : Turns h
      (if (h.setWid wid).tenant.profile.identity == some wid &&
          (h.setWid wid).tenant.profile.verified
        then h.setWid wid else (h.setWid wid).confirm wid) := by
    split
    · exact named
    · exact named.trans (confirm_turns _ wid)
  have ready := known.trans (setStatus_turns _ .ready)
  exact ready.trans (requestHistory_turns _)

theorem onLoggedOut_turns (h : Hosted) (reason : String) : Turns h (h.onLoggedOut reason) := by
  cases allowed : h.tenant.status.allows .loggedOut with
  | false => rw [onLoggedOut_refused allowed]
  | true =>
      rw [onLoggedOut, setStatus_allowed allowed]
      have ended : Turns h { h with tenant := { h.tenant with status := .loggedOut } } :=
        .single (.status allowed)
      have unverified := ended.tail (.profile (fun p => { p with verified := false }) fun _ => rfl)
      exact (((unverified.tail .letGo).tail .number).tail .clock).trans (store_turns _ _)

theorem handle_turns (h : Hosted) (e : Session.Event) : Turns h (h.handle e) := by
  cases e with
  | message m => exact h.ingest_turns m
  | receipt chat ids timestamp => exact h.onReceipt_turns chat ids timestamp
  | call id caller timestamp => exact h.onCall_turns id caller timestamp
  | connected wid => exact h.onConnected_turns wid
  | disconnected reason => exact h.setStatus_turns .disconnected
  | loggedOut reason => exact h.onLoggedOut_turns reason
  | history ms =>
      rw [handle]
      split
      · exact Turns.foldl ingest_turns _ h
      · exact .refl

theorem heard_uses {t : Tenant} {id : Session.LinkId} (heard : t.heard = some id) : t.uses id :=
  Or.inr (Tenant.heard_pump heard)

theorem takeEvents_turns (h : Hosted) : Turns h h.takeEvents := by
  unfold takeEvents
  split
  · exact .refl
  · next id heard =>
    have emptied : Turns h { h with host := { h.host with
        exchange := (h.host.exchange.takeEvents id).1 } } := by
      unfold Session.Exchange.takeEvents
      split
      · exact .refl
      · next l found => exact .single (.session (heard_uses heard) found (Keyed.find?_some found).2)
    exact emptied.trans (Turns.foldl handle_turns _ _)

theorem sendOn_turns {h : Hosted} {id : Session.LinkId} (own : h.tenant.uses id) (m : Message) :
    Turns h (h.sendOn id m).1 := by
  have numbered : Turns h { h with host := h.host.freshNumber.2 } := .single .number
  unfold sendOn
  dsimp only
  split
  · exact numbered
  · next l found =>
    split
    · exact numbered
    · next l' sentId done =>
      obtain ⟨_, rfl⟩ := Session.Link.send_ok done
      exact numbered.tail (.session own found (Keyed.find?_some found).2)

theorem readyLink_uses {t : Tenant} {id : Session.LinkId} (ready : t.readyLink = .ok id) :
    t.uses id := by
  unfold Tenant.readyLink at ready
  split at ready
  · cases ready
  · split at ready
    · cases ready
    · next used =>
      cases ready
      exact Or.inl used

theorem sealed_turns (h : Hosted) (m : Message) : Turns h (h.sealed m).1 := by
  unfold sealed
  dsimp only
  split
  · exact .refl
  · exact .single .clock

theorem send_turns (h : Hosted) (m : Message) : Turns h (h.send m).1 := by
  unfold send
  split
  · exact .refl
  · next link ready =>
    have sent := sendOn_turns (readyLink_uses ready) { m with fromMe := true, fromInternal := true }
    dsimp only
    split
    · next result => rw [result] at sent; exact sent
    · next h' id result =>
      rw [result] at sent
      exact (sent.trans (h'.sealed_turns _)).trans (store_turns _ _)

theorem revoke_turns (h : Hosted) (id : String) (byBeginning : Bool) :
    Turns h (h.revoke id byBeginning).1 := by
  have kept : Turns h (h.revoke id byBeginning).1 ∧
      (h.revoke id byBeginning).1.tenant = h.tenant := by
    refine revoke_keeps (P := fun h' => Turns h h' ∧ h'.tenant = h.tenant) ⟨.refl, rfl⟩ ?_
    intro link m h' ready before
    obtain ⟨turns, same⟩ := before
    have own : h'.tenant.uses link := same ▸ readyLink_uses ready
    exact ⟨turns.trans (attempt_turns own _ fun _ => rfl), same⟩
  exact kept.1

/-- The tenant with its queues, its webhooks and what is counted as given. -/
def atWork (h : Hosted) (rs : List Registration) (k : Delivery.Metrics)
    (s : List Webhook × Clock) : Hosted where
  tenant := { h.tenant with
    fanout := { h.tenant.fanout with registrations := rs }, webhooks := s.1 }
  host := { h.host with metrics := k, clock := s.2 }

section Workers

variable {h : Hosted} {front rest : List Registration} {r : Registration} {k : Delivery.Metrics}
  {s : List Webhook × Clock} {net : Network}

theorem atWork_modify (distinct : Keyed.Distinct Registration.id (front ++ r :: rest))
    (change : Queue → Queue) :
    (h.atWork (front ++ r :: rest) k s).tenant.fanout.modify r.id change =
      (h.atWork (front ++ ⟨r.id, change r.queue⟩ :: rest) k s).tenant.fanout :=
  Fanout.modify_placed rfl distinct change

theorem take_move (distinct : Keyed.Distinct Registration.id (front ++ r :: rest)) :
    Move (h.atWork (front ++ r :: rest) k s)
      (h.atWork (front ++ ⟨r.id, r.queue.take⟩ :: rest) k s) := by
  have taken : (h.atWork (front ++ r :: rest) k s).work r.id .take =
      h.atWork (front ++ ⟨r.id, r.queue.take⟩ :: rest) k s := by
    simp only [work, atWork_modify distinct]
    rfl
  exact taken ▸ .work r.id .take

theorem halt_move (distinct : Keyed.Distinct Registration.id (front ++ r :: rest)) :
    Move (h.atWork (front ++ r :: rest) k s)
      (h.atWork (front ++ ⟨r.id, r.queue.halt⟩ :: rest) k s) := by
  have left : (h.atWork (front ++ r :: rest) k s).work r.id .halt =
      h.atWork (front ++ ⟨r.id, r.queue.halt⟩ :: rest) k s := by
    simp only [work, atWork_modify distinct]
    rfl
  exact left ▸ .work r.id .halt

theorem finish_move (distinct : Keyed.Distinct Registration.id (front ++ r :: rest))
    (running : r.queue.cancelled = false) {m : Message} (busy : r.queue.inFlight = some m)
    {outcome : Delivery.Outcome} {s' : List Webhook × Clock}
    (done : Webhook.deliverTo h.host.office net h.tenant.wid r.id m s = some (outcome, s')) :
    Move (h.atWork (front ++ r :: rest) k s)
      (h.atWork (front ++ ⟨r.id, { r.queue with inFlight := none }⟩ :: rest)
        (k.finished outcome) s') := by
  have found : (h.atWork (front ++ r :: rest) k s).tenant.fanout.queue? r.id = some r.queue :=
    Fanout.queue?_placed rfl distinct
  have underway : ((some r.queue).bind fun q => if q.cancelled then none else q.inFlight) =
      some m := by
    rw [Option.bind_some, running, if_neg Bool.false_ne_true, busy]
  have idle : (r.queue.finish outcome k).1 = { r.queue with inFlight := none } := by
    simp only [Queue.finish, running, busy]
  have ended : (h.atWork (front ++ r :: rest) k s).work r.id (.finish net) =
      h.atWork (front ++ ⟨r.id, { r.queue with inFlight := none }⟩ :: rest)
        (k.finished outcome) s' := by
    have changed := atWork_modify (h := h) (k := k) (s := s) distinct
      fun q => (q.finish outcome k).1
    rw [idle] at changed
    change Webhook.deliverTo (h.atWork (front ++ r :: rest) k s).host.office net
      (h.atWork (front ++ r :: rest) k s).tenant.wid r.id m
      ((h.atWork (front ++ r :: rest) k s).tenant.webhooks,
        (h.atWork (front ++ r :: rest) k s).host.clock) = _ at done
    simp only [work, found, underway, done]
    rw [show (h.atWork (front ++ r :: rest) k s).host.metrics = k from rfl, changed]
    rfl
  exact ended ▸ .work r.id (.finish net)

/-- A worker that is not told to stop delivers the records that wait, one after the other. -/
theorem deliverAll_moves {id : String} {capacity : Nat} (ms : List Message) (k : Delivery.Metrics)
    (s : List Webhook × Clock)
    (distinct : ∀ q, Keyed.Distinct Registration.id (front ++ ⟨id, q⟩ :: rest)) :
    Moves (h.atWork (front ++ ⟨id, ⟨capacity, ms, none, false⟩⟩ :: rest) k s)
      (let result := Queue.deliverAll (Webhook.deliverTo h.host.office net h.tenant.wid id) ms k s
       h.atWork (front ++ ⟨id, ⟨capacity, result.1.2, result.1.1, false⟩⟩ :: rest) result.2.1
        result.2.2) := by
  induction ms generalizing k s with
  | nil => exact .refl
  | cons m later ih =>
      have taken : Move (h.atWork (front ++ ⟨id, ⟨capacity, m :: later, none, false⟩⟩ :: rest) k s)
          (h.atWork (front ++ ⟨id, ⟨capacity, later, some m, false⟩⟩ :: rest) k s) :=
        take_move (distinct _)
      unfold Queue.deliverAll
      cases done : Webhook.deliverTo h.host.office net h.tenant.wid id m s with
      | none => exact .single taken
      | some result =>
          have sent := finish_move (k := k) (distinct ⟨capacity, later, some m, false⟩) rfl rfl done
          exact ((Relation.ReflTransGen.single taken).tail sent).trans (ih _ _)

/-- A worker runs until it has nothing left to do, is held, or is told to stop. -/
theorem run_moves (net : Network)
    (distinct : Keyed.Distinct Registration.id (front ++ r :: rest)) :
    Moves (h.atWork (front ++ r :: rest) k s)
      (let result := r.queue.run (Webhook.deliverTo h.host.office net h.tenant.wid r.id) k s
       h.atWork (front ++ ⟨r.id, result.1⟩ :: rest) result.2.1 result.2.2) := by
  obtain ⟨id, capacity, waiting, inFlight, cancelled⟩ := r
  have replaced : ∀ q, Keyed.Distinct Registration.id (front ++ ⟨id, q⟩ :: rest) :=
    fun _ => Fanout.replaced_distinct distinct
  unfold Queue.run
  cases cancelled with
  | true => exact .single (halt_move distinct)
  | false =>
      cases inFlight with
      | none => exact deliverAll_moves waiting k s replaced
      | some m =>
          dsimp only [Option.toList, List.cons_append, List.nil_append]
          unfold Queue.deliverAll
          cases done : Webhook.deliverTo h.host.office net h.tenant.wid id m s with
          | none => exact .refl
          | some result =>
              have sent := finish_move (k := k) distinct rfl rfl done
              exact (Relation.ReflTransGen.single sent).trans
                (deliverAll_moves waiting _ _ replaced)

theorem runAll_moves (net : Network)
    (distinct : Keyed.Distinct Registration.id (front ++ rest)) :
    Moves (h.atWork (front ++ rest) k s)
      (let result := Fanout.runAll (Webhook.deliverTo h.host.office net h.tenant.wid) rest k s
       h.atWork (front ++ result.1) result.2.1 result.2.2) := by
  induction rest generalizing front k s with
  | nil => exact .refl
  | cons r rest ih =>
      have first := run_moves (h := h) (k := k) (s := s) net distinct
      unfold Fanout.runAll
      dsimp only at first ⊢
      generalize r.queue.run (Webhook.deliverTo h.host.office net h.tenant.wid r.id) k s = result
        at first ⊢
      obtain ⟨q, k', s'⟩ := result
      have distinct' := Fanout.replaced_distinct (q := q) distinct
      rw [List.append_cons] at distinct'
      have later := ih (k := k') (s := s') distinct'
      dsimp only at later
      rw [← List.append_cons, ← List.append_cons] at later
      exact first.trans later

end Workers

/-- Deliveries are steps of the workers, one worker after the other. -/
theorem deliver_moves {h : Hosted}
    (distinct : Keyed.Distinct Registration.id h.tenant.fanout.registrations) (net : Network) :
    Moves h (h.deliver net) := by
  have ran : Moves (h.atWork ([] ++ h.tenant.fanout.registrations) h.host.metrics
    (h.tenant.webhooks, h.host.clock)) _ := runAll_moves net distinct
  exact ran

theorem stop_turns (h : Hosted) : Turns h h.stop := by
  have deaf : Turns h { h with tenant := { h.tenant with pump := none } } := .single .deafen
  exact (deaf.tail .hangUp).trans (setStatus_turns _ .disconnected)

theorem pair_turns (h : Hosted) (wid : String) : Turns h (h.pair wid) :=
  ((h.confirm_turns wid).tail (.wid wid)).trans (setStatus_turns _ .ready)

/-- Whether an action leaves the webhooks alone, and the tenant loaded. -/
def Action.Calm : Action → Prop
  | logout | shutdown | attachAll _ => False
  | addWebhook _ | removeWebhook _ | toggleWebhook _ _ | deliver _ => False
  | _ => True

theorem act_turns (h : Hosted) {a : Action} (calm : a.Calm) : Turns h (h.act a) := by
  cases a with
  | start => exact .single .start
  | stop => exact h.stop_turns
  | cancel => exact .single .cancel
  | pair wid => exact h.pair_turns wid
  | event e => exact h.handle_turns e
  | takeEvents => exact h.takeEvents_turns
  | ingest m => exact h.ingest_turns m
  | send m => exact h.send_turns m
  | revoke id byBeginning => exact h.revoke_turns id byBeginning
  | forget id => exact .single (.forget id)
  | _ => cases calm

/-- Whether an action is left to a loaded tenant: it does not load or unload it. -/
def Action.Orderly : Action → Prop
  | logout | shutdown | attachAll _ => False
  | _ => True

theorem Action.Calm.orderly {a : Action} (calm : a.Calm) : a.Orderly := by
  cases a with
  | logout => cases calm
  | shutdown => cases calm
  | attachAll ws => cases calm
  | _ => trivial

theorem act_moves {h : Hosted}
    (distinct : Keyed.Distinct Registration.id h.tenant.fanout.registrations) {a : Action}
    (orderly : a.Orderly) : Moves h (h.act a) := by
  cases a with
  | logout => cases orderly
  | shutdown => cases orderly
  | attachAll ws => cases orderly
  | addWebhook w => exact .single (.addWebhook w)
  | removeWebhook url => exact .single (.removeWebhook url)
  | toggleWebhook url option => exact .single (.toggleWebhook url option)
  | deliver net => exact deliver_moves distinct net
  | _ => exact Turns.moves (h.act_turns trivial)

end Hosted

end ChatGateway

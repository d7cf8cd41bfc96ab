import ChatGateway.Proofs.Tenant.Wiring

/-!
Hushing a session: what waits on it is lost, and it takes no more. A tenant that does not listen to
the session does the same whether it is hushed or not.
-/

namespace ChatGateway

namespace Session

namespace Link

def hushAt (id : LinkId) (l : Link) : Link := if l.id == id then l.stopListening else l

variable (id : LinkId) (l : Link)

@[simp] theorem hushAt_id : (l.hushAt id).id = l.id := by
  unfold hushAt
  split <;> rfl

@[simp] theorem hushAt_connected : (l.hushAt id).connected = l.connected := by
  unfold hushAt
  split <;> rfl

@[simp] theorem hushAt_title? (chat : String) : (l.hushAt id).title? chat = l.title? chat := by
  unfold hushAt
  split <;> rfl

variable {id} {l}

theorem hushAt_other (other : l.id ≠ id) : l.hushAt id = l := by
  simp [hushAt, other]

theorem hushAt_own (own : l.id = id) : l.hushAt id = l.stopListening := by
  simp [hushAt, own]

theorem inject_stopListening (event : Event) :
    (l.stopListening.inject event).1 = l.stopListening := rfl

theorem inject_hushAt (event : Event) :
    ((l.hushAt id).inject event).1 = (l.inject event).1.hushAt id := by
  have same := l.inject_id event
  by_cases own : l.id = id
  · rw [hushAt_own own, hushAt_own (same.trans own), inject_stopListening]
    unfold inject
    split <;> rfl
  · rw [hushAt_other own, hushAt_other (same ▸ own)]

/-- What is done on a session neither needs nor changes what waits there. -/
structure Deaf (act : Link → Except Failure Link) : Prop where
  id : ∀ l l', act l = .ok l' → l'.id = l.id
  hush : ∀ l, act l.stopListening = (act l).map stopListening

theorem whileConnected_deaf {change : Link → Link} (own : ∀ l, (change l).id = l.id)
    (hush : ∀ l, change l.stopListening = (change l).stopListening) :
    Deaf (·.whileConnected change) := by
  refine ⟨fun l l' done => whileConnected_ok done ▸ own l, fun l => ?_⟩
  have same : l.stopListening.connected = l.connected := rfl
  simp only [whileConnected, same, hush]
  cases l.connected <;> rfl

theorem revoke_deaf (m : Message) : Deaf (·.revoke m) :=
  whileConnected_deaf (fun _ => rfl) fun _ => rfl

theorem markRead_deaf (m : Message) : Deaf (·.markRead m) :=
  whileConnected_deaf (fun _ => rfl) fun _ => rfl

theorem rejectCall_deaf (m : Message) : Deaf (·.rejectCall m) :=
  whileConnected_deaf (fun _ => rfl) fun _ => rfl

theorem requestHistory_deaf (anchor : Message) : Deaf (·.requestHistory anchor) :=
  whileConnected_deaf (fun _ => rfl) fun _ => rfl

theorem logout_deaf : Deaf logout :=
  whileConnected_deaf (fun _ => rfl) fun _ => rfl

theorem Deaf.hushAt {act : Link → Except Failure Link} (deaf : Deaf act) (l : Link) :
    act (l.hushAt id) = (act l).map (Link.hushAt id) := by
  by_cases own : l.id = id
  · rw [hushAt_own own, deaf.hush]
    cases done : act l with
    | error e => rfl
    | ok l' => simp [Except.map, hushAt_own ((deaf.id l l' done).trans own)]
  · rw [hushAt_other own]
    cases done : act l with
    | error e => rfl
    | ok l' =>
        have other : l'.id ≠ id := deaf.id l l' done ▸ own
        simp [Except.map, hushAt_other other]

theorem send_hush (l : Link) (m : Message) (freshId : String) :
    (l.hushAt id).send m freshId =
      (l.send m freshId).map fun sent => (sent.1.hushAt id, sent.2) := by
  let sentId := if m.id.isEmpty then freshId else m.id
  have deaf : Deaf
      (·.whileConnected fun l => { l with sent := l.sent ++ [{ m with id := sentId }] }) :=
    whileConnected_deaf (fun _ => rfl) fun _ => rfl
  simp only [send, deaf.hushAt l, sentId]
  cases l.whileConnected _ <;> rfl

end Link

namespace Exchange

def hush (x : Exchange) (id : LinkId) : Exchange := x.modify id Link.stopListening

variable (x : Exchange) (id : LinkId)

theorem hush_eq : x.hush id = { x with links := x.links.map (Link.hushAt id) } := rfl

theorem hush_board : (x.hush id).board = x.board := by
  rw [board, lines, hush_eq, List.map_map]
  congr 1
  apply List.map_congr_left
  intro l _
  simp

theorem link?_hush (j : LinkId) : (x.hush id).link? j = (x.link? j).map (Link.hushAt id) :=
  Keyed.find?_through (Link.hushAt_id id) j x.links

theorem update_hush (l : Link) : (x.hush id).update (l.hushAt id) = (x.update l).hush id := by
  simp only [update, hush_eq, Keyed.put_through (Link.hushAt_id id)]

theorem update_hush_other {l : Link} (other : l.id ≠ id) :
    (x.hush id).update l = (x.update l).hush id := by
  rw [← update_hush, Link.hushAt_other other]

theorem update_found {l : Link} (found : x.link? l.id = some l) : x.update l = x := by
  rw [update, Keyed.put_same found]

theorem disconnect_hush (j : LinkId) :
    (x.hush id).modify j Link.disconnect = (x.modify j Link.disconnect).hush id := by
  have deaf : ∀ l : Link, (l.hushAt id).disconnect = l.disconnect.hushAt id := by
    intro l
    unfold Link.hushAt
    by_cases own : l.id = id <;> simp [own, Link.disconnect, Link.stopListening]
  simp only [modify, hush_eq, Keyed.modify_through (Link.hushAt_id id) deaf]

theorem hush_comm (j : LinkId) : (x.hush id).hush j = (x.hush j).hush id := by
  have deaf : ∀ l : Link, (l.hushAt id).stopListening = l.stopListening.hushAt id := by
    intro l
    unfold Link.hushAt
    by_cases own : l.id = id <;> simp [own, Link.stopListening]
  have same := Keyed.modify_through (Link.hushAt_id id) deaf j x.links
  exact congrArg (fun links => { x with links := links }) same

theorem attempt_hush (j : LinkId) {act : Link → Except Failure Link} (deaf : Link.Deaf act) :
    (x.hush id).attempt j act = ((x.attempt j act).1.hush id, (x.attempt j act).2) := by
  unfold attempt
  rw [link?_hush]
  cases x.link? j with
  | none => rfl
  | some l =>
      rw [Option.map_some]
      simp only [deaf.hushAt]
      cases act l with
      | error e => rfl
      | ok l' => simp [Except.map, update_hush]

variable {id}

theorem takeEvents_hush {j : LinkId} (other : j ≠ id) :
    (x.hush id).takeEvents j = ((x.takeEvents j).1.hush id, (x.takeEvents j).2) := by
  unfold takeEvents
  rw [link?_hush]
  cases found : x.link? j with
  | none => rfl
  | some l =>
      have different : l.id ≠ id := (Keyed.find?_some found).2 ▸ other
      rw [Option.map_some, Link.hushAt_other different]
      have kept : ({ l with mailbox := [] } : Link).id ≠ id := different
      simp [x.update_hush_other id kept]

/-- A session opened later is not the one that is hushed. -/
theorem connect_hush (p : Profile) (older : id < x.nextId) :
    (x.hush id).connect p = (x.connect p).map fun (x', l) => (x'.hush id, l) := by
  unfold connect
  cases p.identity with
  | none => rfl
  | some wid =>
      have fresh : (Link.opened x.nextId wid).id ≠ id := Nat.ne_of_gt older
      simp [Except.map, hush_eq, Link.hushAt_other fresh]

end Exchange

end Session

namespace Hosted

open Session (LinkId)
open Session.Link (Deaf)

def hush (h : Hosted) (id : LinkId) : Hosted :=
  { h with host := { h.host with exchange := h.host.exchange.hush id } }

variable (h : Hosted) (id : LinkId)

@[simp] theorem hush_tenant : (h.hush id).tenant = h.tenant := rfl

@[simp] theorem hush_settings : (h.hush id).host.settings = h.host.settings := rfl

@[simp] theorem hush_options : (h.hush id).options = h.options := rfl

@[simp] theorem hush_admits (m : Message) : (h.hush id).admits m = h.admits m := rfl

@[simp] theorem hush_withSynopsis (m : Message) :
    (h.hush id).withSynopsis m = h.withSynopsis m := rfl

@[simp] theorem hush_marksRead (m : Message) : (h.hush id).marksRead m = h.marksRead m := rfl

theorem attempt_hush (j : LinkId) {act : Session.Link → Except Failure Session.Link}
    (deaf : Deaf act) :
    (h.hush id).attempt j act = ((h.attempt j act).1.hush id, (h.attempt j act).2) := by
  simp only [attempt, hush, Session.Exchange.attempt_hush _ id j deaf]

theorem setStatus_hush (next : TenantStatus) :
    (h.hush id).setStatus next = ((h.setStatus next).1.hush id, (h.setStatus next).2) := rfl

theorem foldl_hush {α : Type} {act : Hosted → α → Hosted}
    (each : ∀ (h : Hosted) a, act (h.hush id) a = (act h a).hush id) (items : List α) :
    items.foldl act (h.hush id) = (items.foldl act h).hush id := by
  induction items generalizing h with
  | nil => rfl
  | cons a rest ih => rw [List.foldl_cons, List.foldl_cons, each, ih]

theorem store_hush (m : Message) :
    (h.hush id).store m = ((h.store m).1.hush id, (h.store m).2) := by
  have kept : (h.hush id).keep m = ((h.keep m).1.hush id, (h.keep m).2) := rfl
  simp only [store, kept, hush_settings]
  split <;> rfl

theorem lookUpTitle_hush (chat : String) : (h.hush id).lookUpTitle chat = h.lookUpTitle chat := by
  have known : ∀ j, ((h.host.exchange.hush id).link? j).bind (·.title? chat) =
      (h.host.exchange.link? j).bind (·.title? chat) := by
    intro j
    rw [Session.Exchange.link?_hush, Option.bind_map]
    simp only [Function.comp_def, Session.Link.hushAt_title?]
  unfold lookUpTitle
  rw [Option.bind_assoc, Option.bind_assoc]
  exact congrArg _ (funext known)

theorem withTitle_hush (m : Message) :
    (h.hush id).withTitle m = ((h.withTitle m).1.hush id, (h.withTitle m).2) := by
  simp only [withTitle, lookUpTitle_hush, hush_tenant]
  split
  · split <;> rfl
  · rfl

theorem markRead_hush (m : Message) : (h.hush id).markRead m = (h.markRead m).hush id := by
  unfold markRead
  rw [hush_tenant]
  split
  · exact congrArg Prod.fst (h.attempt_hush id _ (Session.Link.markRead_deaf m))
  · rfl

theorem ingest_hush (m : Message) :
    (h.hush id).ingest m = ((h.ingest m).1.hush id, (h.ingest m).2) := by
  simp only [ingest, hush_admits, withTitle_hush, hush_withSynopsis, store_hush, hush_marksRead,
    markRead_hush]
  split
  · rfl
  · split <;> rfl

theorem ingestAll_hush (ms : List Message) :
    (h.hush id).ingestAll ms = (h.ingestAll ms).hush id :=
  h.foldl_hush id (fun h m => congrArg Prod.fst (h.ingest_hush id m)) _

theorem onReceipt_hush (chat : Chat) (ids : List String) (timestamp : Instant) :
    (h.hush id).onReceipt chat ids timestamp = (h.onReceipt chat ids timestamp).hush id := by
  unfold onReceipt
  rw [hush_options]
  split <;> rfl

theorem onCall_hush (callId : String) (caller : Chat) (timestamp : Instant) :
    (h.hush id).onCall callId caller timestamp = (h.onCall callId caller timestamp).hush id := by
  unfold onCall
  dsimp only
  rw [hush_options, hush_tenant]
  split
  · rw [ingest_hush]
  · split
    · exact congrArg Prod.fst (h.attempt_hush id _ (Session.Link.rejectCall_deaf _))
    · rfl

theorem requestHistory_hush : (h.hush id).requestHistory = h.requestHistory.hush id := by
  have instant : (h.hush id).host.now.1 = h.host.now.1 := rfl
  have read : (⟨h.tenant, (h.hush id).host.now.2⟩ : Hosted) =
      hush ⟨h.tenant, h.host.now.2⟩ id := rfl
  unfold requestHistory
  rw [hush_options, hush_tenant]
  split
  · rfl
  · split
    · rfl
    · next j _ =>
      dsimp only
      rw [instant]
      split
      · exact read
      · next anchor _ =>
        rw [read, attempt_hush _ id j (Session.Link.requestHistory_deaf anchor)]

theorem onConnected_hush (wid : String) :
    (h.hush id).onConnected wid = (h.onConnected wid).hush id := by
  have set : (h.hush id).setWid wid = (h.setWid wid).hush id := rfl
  unfold onConnected
  dsimp only
  rw [← requestHistory_hush, set, hush_tenant]
  split <;> rfl

theorem onLoggedOut_hush (reason : String) :
    (h.hush id).onLoggedOut reason = (h.onLoggedOut reason).hush id := by
  unfold onLoggedOut
  rw [setStatus_hush]
  cases h.setStatus .loggedOut with
  | mk h done =>
    cases done with
    | false => rfl
    | true =>
      let noted := h.updateProfile fun p => { p with verified := false }
      exact congrArg Prod.fst (store_hush
        ⟨{ noted.tenant with link := none }, noted.host.freshNumber.2.now.2⟩ id _)

theorem handle_hush (e : Session.Event) : (h.hush id).handle e = (h.handle e).hush id := by
  cases e with
  | message m => exact congrArg Prod.fst (h.ingest_hush id m)
  | receipt chat ids timestamp => exact h.onReceipt_hush id chat ids timestamp
  | call callId caller timestamp => exact h.onCall_hush id callId caller timestamp
  | connected wid => exact h.onConnected_hush id wid
  | disconnected reason => exact congrArg Prod.fst (h.setStatus_hush id .disconnected)
  | loggedOut reason => exact h.onLoggedOut_hush id reason
  | history ms =>
      simp only [handle, hush_options, ingestAll_hush]
      split <;> rfl

variable {id}

theorem takeEvents_hush (unheard : h.tenant.heard ≠ some id) :
    (h.hush id).takeEvents = h.takeEvents.hush id := by
  unfold takeEvents
  rw [hush_tenant]
  cases heard : h.tenant.heard with
  | none => rfl
  | some j =>
      have other : j ≠ id := fun same => unheard (same ▸ heard)
      have taken := h.host.exchange.takeEvents_hush other
      dsimp only
      rw [hush, taken]
      exact foldl_hush { h with host := { h.host with
        exchange := (h.host.exchange.takeEvents j).1 } } id (fun h e => h.handle_hush id e) _

variable (id)

theorem sendOn_hush (j : LinkId) (m : Message) :
    (h.hush id).sendOn j m = ((h.sendOn j m).1.hush id, (h.sendOn j m).2) := by
  unfold sendOn
  dsimp only [hush, Host.freshNumber]
  rw [Session.Exchange.link?_hush]
  cases h.host.exchange.link? j with
  | none => rfl
  | some l =>
      rw [Option.map_some]
      simp only [Session.Link.send_hush]
      cases l.send m (Session.messageId h.host.nextId) with
      | error e => rfl
      | ok sent =>
        simp only [Except.map, Session.Exchange.update_hush]

theorem sealed_hush (m : Message) :
    (h.hush id).sealed m = ((h.sealed m).1.hush id, (h.sealed m).2) := by
  unfold sealed
  dsimp only
  split <;> rfl

theorem send_hush (m : Message) : ((h.hush id).send m).1 = (h.send m).1.hush id := by
  unfold send
  rw [hush_tenant]
  split
  · rfl
  · next j _ =>
    dsimp only
    rw [sendOn_hush]
    cases h.sendOn j { m with fromMe := true, fromInternal := true } with
    | mk h' result =>
      cases result with
      | error e => rfl
      | ok sentId =>
        dsimp only
        rw [sealed_hush, store_hush]

theorem collect_hush (j : LinkId) (ms : List Message) (h : Hosted) (r : RevokeReport) :
    (RevokeReport.collect (fun m h => h.attempt j (·.revoke m)) ms (h.hush id) r).1 =
      (RevokeReport.collect (fun m h => h.attempt j (·.revoke m)) ms h r).1.hush id := by
  induction ms generalizing h r with
  | nil => rfl
  | cons m rest ih =>
      rw [RevokeReport.collect_cons, RevokeReport.collect_cons,
        attempt_hush h id j (Session.Link.revoke_deaf m)]
      exact ih _ _

theorem revoke_hush (messageId : String) (byBeginning : Bool) :
    ((h.hush id).revoke messageId byBeginning).1 = (h.revoke messageId byBeginning).1.hush id := by
  unfold revoke revokeOn
  rw [hush_tenant]
  split
  · rfl
  · have known : (h.hush id).revocable messageId byBeginning = h.revocable messageId byBeginning :=
      rfl
    simp only [known, collect_hush]

theorem attach_hush (w : Webhook) : (h.hush id).attach w = (h.attach w).hush id := by
  unfold attach
  dsimp only
  rw [hush_tenant]
  split <;> rfl

theorem attachAll_hush (ws : List Webhook) :
    (h.hush id).attachAll ws = (h.attachAll ws).hush id :=
  h.foldl_hush id (fun h w => h.attach_hush id w) ws

theorem addWebhook_hush (w : Webhook) :
    ((h.hush id).addWebhook w).1 = (h.addWebhook w).1.hush id := by
  unfold addWebhook
  dsimp only
  split
  · rfl
  · exact attach_hush { h with host := { h.host with
      repository := h.host.repository.putWebhook
        { w with url := Text.trim w.url, token := h.tenant.token } } } id _

theorem removeWebhook_hush (url : String) :
    ((h.hush id).removeWebhook url).1 = (h.removeWebhook url).1.hush id := by
  unfold removeWebhook
  dsimp only
  rw [hush_tenant]
  split <;> rfl

theorem toggleWebhook_hush (url : String) (option : WebhookOption) :
    ((h.hush id).toggleWebhook url option).1 = (h.toggleWebhook url option).1.hush id := by
  unfold toggleWebhook
  rw [hush_tenant]
  split <;> rfl

theorem deliver_hush (net : Network) : (h.hush id).deliver net = (h.deliver net).hush id := rfl

theorem work_hush (subscriber : String) (s : WorkerStep) :
    (h.hush id).work subscriber s = (h.work subscriber s).hush id := by
  cases s with
  | take => rfl
  | halt => rfl
  | finish net =>
      unfold work
      dsimp only
      rw [hush_tenant]
      split
      · rfl
      · next m _ =>
        have same : Webhook.deliverTo (h.hush id).host.office net h.tenant.wid subscriber m
            (h.tenant.webhooks, (h.hush id).host.clock) =
          Webhook.deliverTo h.host.office net h.tenant.wid subscriber m
            (h.tenant.webhooks, h.host.clock) := rfl
        rw [same]
        split <;> rfl

theorem dropLink_hush : (h.hush id).dropLink = h.dropLink.hush id := by
  unfold dropLink
  rw [hush_tenant]
  split
  · rfl
  · next j _ =>
    simp only [modifyLink, hush, Session.Exchange.disconnect_hush]

theorem stop_hush : (h.hush id).stop = h.stop.hush id :=
  congrArg (fun h => (h.setStatus .disconnected).1)
    (dropLink_hush { h with tenant := { h.tenant with pump := none } } id)

theorem shutdown_hush : (h.hush id).shutdown = h.shutdown.hush id :=
  dropLink_hush { h with tenant := { h.tenant.cancel with
    fanout := h.tenant.cancel.fanout.clear, webhooks := [] } } id

theorem logout_hush : (h.hush id).logout = h.logout.hush id := by
  unfold logout
  rw [hush_tenant]
  split
  · rw [attempt_hush h id _ Session.Link.logout_deaf, shutdown_hush]
  · exact h.shutdown_hush id

theorem pair_hush (wid : String) : (h.hush id).pair wid = (h.pair wid).hush id := rfl

variable {id}

theorem start_hush (older : id < h.host.exchange.nextId) :
    (h.hush id).start = (h.start.1.hush id, h.start.2) := by
  have connected := h.host.exchange.connect_hush h.tenant.profile older
  unfold start
  rw [hush_tenant, hush, connected]
  cases h.host.exchange.connect h.tenant.profile with
  | error e => rfl
  | ok opened =>
    have dropped := dropLink_hush { h with host := { h.host with exchange := opened.1 } } id
    simp only [Except.map]
    rw [hush] at dropped
    rw [dropped]
    rfl

/-- A tenant that does not listen to a session does not notice that it is hushed. -/
theorem act_hush (older : id < h.host.exchange.nextId) (unheard : h.tenant.heard ≠ some id)
    (a : Action) : (h.hush id).act a = (h.act a).hush id := by
  cases a with
  | start => exact congrArg Prod.fst (h.start_hush older)
  | stop => exact h.stop_hush id
  | logout => exact h.logout_hush id
  | shutdown => exact h.shutdown_hush id
  | cancel => rfl
  | pair wid => exact h.pair_hush id wid
  | event e => exact h.handle_hush id e
  | takeEvents => exact h.takeEvents_hush unheard
  | ingest m => exact congrArg Prod.fst (h.ingest_hush id m)
  | send m => exact h.send_hush id m
  | revoke messageId byBeginning => exact h.revoke_hush id messageId byBeginning
  | forget messageId => rfl
  | attachAll ws => exact h.attachAll_hush id ws
  | addWebhook w => exact h.addWebhook_hush id w
  | removeWebhook url => exact h.removeWebhook_hush id url
  | toggleWebhook url option => exact h.toggleWebhook_hush id url option
  | deliver net => exact h.deliver_hush id net

end Hosted

end ChatGateway

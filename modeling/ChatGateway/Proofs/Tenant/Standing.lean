import ChatGateway.Proofs.Session.Mail
import ChatGateway.Tenant.Lifecycle
import ChatGateway.Tenant.Outgoing
import ChatGateway.Tenant.Settle
import ChatGateway.Tenant.Webhooks

namespace ChatGateway

namespace Host

@[simp] theorem now_repository (h : Host) : h.now.2.repository = h.repository := by
  simp only [now, Clock.read]

@[simp] theorem now_exchange (h : Host) : h.now.2.exchange = h.exchange := by
  simp only [now, Clock.read]

@[simp] theorem save_repository (h : Host) (p : Profile) :
    (h.save p).repository = h.repository.save p h.now.1 := by
  simp only [save, now_repository]

@[simp] theorem save_exchange (h : Host) (p : Profile) : (h.save p).exchange = h.exchange := by
  simp only [save, now_exchange]

end Host

theorem Tenant.readyLink_ready {t : Tenant} {id : Session.LinkId} (ready : t.status.isReady = true)
    (inUse : t.link = some id) : t.readyLink = .ok id := by
  simp only [readyLink, ready, inUse, Bool.not_true, Bool.false_eq_true, if_false]

namespace RevokeReport

/-- A report that also tells how it went with one message. -/
def tell (r : RevokeReport) (id : String) : Except Failure Unit → RevokeReport
  | .ok _ => r.accept id
  | .error f => r.reject id f

theorem collect_cons {σ : Type} (revoke : Message → σ → σ × Except Failure Unit) (m : Message)
    (rest : List Message) (s : σ) (r : RevokeReport) :
    collect revoke (m :: rest) s r =
      collect revoke rest (revoke m s).1 (r.tell m.id (revoke m s).2) := by
  rw [collect]
  rcases revoke m s with ⟨s', answer⟩
  cases answer <;> rfl

end RevokeReport

namespace Hosted

/-- What is known of the session, in memory and in the store. -/
structure Standing where
  profile : Profile
  status : TenantStatus
  wid : Option String
  rows : List Profile

def standing (h : Hosted) : Standing where
  profile := h.tenant.profile
  status := h.tenant.status
  wid := h.tenant.wid
  rows := h.host.repository.tenants

def mail (h : Hosted) : List Session.Event := h.host.exchange.mail

/-- The session stands where it stood, and no event came in. -/
structure Quiet (h h' : Hosted) : Prop where
  standing : h'.standing = h.standing
  mail : h'.mail ⊆ h.mail

namespace Quiet

theorem refl (h : Hosted) : Quiet h h := ⟨rfl, List.Subset.refl _⟩

theorem trans {h₁ h₂ h₃ : Hosted} (first : Quiet h₁ h₂) (second : Quiet h₂ h₃) : Quiet h₁ h₃ :=
  ⟨second.standing.trans first.standing, List.Subset.trans second.mail first.mail⟩

theorem of_eq {h h' : Hosted} (standing : h'.standing = h.standing)
    (exchange : h'.host.exchange = h.host.exchange) : Quiet h h' := by
  refine ⟨standing, ?_⟩
  rw [Hosted.mail, exchange]
  exact List.Subset.refl _

theorem foldl {α : Type} {act : Hosted → α → Hosted} (each : ∀ h a, Quiet h (act h a))
    (items : List α) (h : Hosted) : Quiet h (items.foldl act h) := by
  induction items generalizing h with
  | nil => exact refl h
  | cons a rest ih => exact (each h a).trans (ih (act h a))

end Quiet

/-- What every attempt on the session in use keeps, a revocation keeps. -/
theorem revoke_keeps {P : Hosted → Prop} {h : Hosted} {id : String} {byBeginning : Bool}
    (start : P h)
    (each : ∀ link m h', h.tenant.readyLink = .ok link → P h' →
      P (h'.attempt link (·.revoke m)).1) : P (h.revoke id byBeginning).1 := by
  have collected : ∀ link, h.tenant.readyLink = .ok link →
      ∀ (ms : List Message) (h' : Hosted) (r : RevokeReport), P h' →
        P (RevokeReport.collect (fun m h => h.attempt link (·.revoke m)) ms h' r).1 := by
    intro link ready ms
    induction ms with
    | nil => exact fun _ _ kept => kept
    | cons m rest ih =>
        intro h' r kept
        rw [RevokeReport.collect_cons]
        exact ih _ _ (each link m h' ready kept)
  unfold revoke revokeOn
  split
  · exact start
  · next link ready => exact collected link ready _ h {} start

theorem now_quiet (h : Hosted) : Quiet h { h with host := h.host.now.2 } :=
  Quiet.of_eq (by simp only [standing, Host.now_repository]) (Host.now_exchange _)

theorem trigger_quiet (h : Hosted) (m : Message) : Quiet h (h.trigger m).1 :=
  Quiet.of_eq rfl rfl

theorem attempt_quiet (h : Hosted) (id : Session.LinkId)
    {act : Session.Link → Except Failure Session.Link} (keeps : Session.KeepsMail act) :
    Quiet h (h.attempt id act).1 :=
  ⟨rfl, Session.Exchange.attempt_mail _ id keeps⟩

theorem dropLink_quiet (h : Hosted) : Quiet h h.dropLink := by
  unfold dropLink
  split
  · exact Quiet.refl h
  · exact ⟨rfl, Session.Exchange.modify_mail _ _ fun _ => rfl⟩

theorem store_quiet (h : Hosted) (m : Message) : Quiet h (h.store m).1 := by
  have kept : Quiet h (h.keep m).1 := Quiet.of_eq rfl rfl
  unfold store
  dsimp only
  split
  · exact kept.trans (trigger_quiet _ m)
  · exact kept

theorem withTitle_quiet (h : Hosted) (m : Message) : Quiet h (h.withTitle m).1 := by
  unfold withTitle
  split
  · split <;> exact Quiet.of_eq rfl rfl
  · exact Quiet.refl h

theorem markRead_quiet (h : Hosted) (m : Message) : Quiet h (h.markRead m) := by
  unfold markRead
  split
  · exact attempt_quiet h _ (Session.Link.markRead_mail m)
  · exact Quiet.refl h

theorem ingest_quiet (h : Hosted) (m : Message) : Quiet h (h.ingest m).1 := by
  unfold ingest
  split
  · exact Quiet.refl h
  · dsimp only
    have titled := withTitle_quiet h m
    have stored := fun m' => titled.trans (store_quiet (h.withTitle m).1 m')
    split
    · exact (stored _).trans (markRead_quiet _ _)
    · exact stored _

theorem ingestAll_quiet (h : Hosted) (ms : List Message) : Quiet h (h.ingestAll ms) :=
  Quiet.foldl ingest_quiet _ h

theorem onReceipt_quiet (h : Hosted) (chat : Chat) (ids : List String) (timestamp : Instant) :
    Quiet h (h.onReceipt chat ids timestamp) := by
  unfold onReceipt
  split
  · exact Quiet.refl h
  · exact trigger_quiet h _

theorem onCall_quiet (h : Hosted) (id : String) (caller : Chat) (timestamp : Instant) :
    Quiet h (h.onCall id caller timestamp) := by
  unfold onCall
  dsimp only
  split
  · exact ingest_quiet h _
  · split
    · exact attempt_quiet h _ (Session.Link.rejectCall_mail _)
    · exact Quiet.refl h

theorem requestHistory_quiet (h : Hosted) : Quiet h h.requestHistory := by
  unfold requestHistory
  split
  · exact Quiet.refl h
  · split
    · exact Quiet.refl h
    · dsimp only
      split
      · exact now_quiet h
      · exact (now_quiet h).trans (attempt_quiet _ _ (Session.Link.requestHistory_mail _))

theorem sendOn_quiet (h : Hosted) (id : Session.LinkId) (m : Message) :
    Quiet h (h.sendOn id m).1 := by
  unfold sendOn
  dsimp only
  split
  · exact Quiet.of_eq rfl rfl
  · next link found =>
    split
    · exact Quiet.of_eq rfl rfl
    · next link' sentId done =>
      refine ⟨rfl, Session.Exchange.update_mail_subset found ?_⟩
      rw [Session.Link.send_mail done]
      exact List.Subset.refl _

theorem sealed_quiet (h : Hosted) (m : Message) : Quiet h (h.sealed m).1 := by
  unfold sealed
  dsimp only
  split
  · exact Quiet.refl h
  · exact now_quiet h

theorem send_quiet (h : Hosted) (m : Message) : Quiet h (h.send m).1 := by
  unfold send
  split
  · exact Quiet.refl h
  · next link _ =>
    have sent := sendOn_quiet h link { m with fromMe := true, fromInternal := true }
    dsimp only
    split
    · next result => rw [result] at sent; exact sent
    · next h' id result =>
      rw [result] at sent
      exact (sent.trans (sealed_quiet h' _)).trans (store_quiet _ _)

theorem revoke_quiet (h : Hosted) (id : String) (byBeginning : Bool) :
    Quiet h (h.revoke id byBeginning).1 :=
  revoke_keeps (Quiet.refl h) fun link m h' _ quiet =>
    quiet.trans (attempt_quiet h' link (Session.Link.revoke_mail m))

theorem attach_quiet (h : Hosted) (w : Webhook) : Quiet h (h.attach w) := by
  unfold attach
  dsimp only
  split <;> exact Quiet.of_eq rfl rfl

theorem attachAll_quiet (h : Hosted) (ws : List Webhook) : Quiet h (h.attachAll ws) :=
  Quiet.foldl attach_quiet ws h

theorem attach_link (h : Hosted) (w : Webhook) : (h.attach w).tenant.link = h.tenant.link := by
  unfold attach
  dsimp only
  split <;> rfl

theorem attachAll_link (h : Hosted) (ws : List Webhook) :
    (h.attachAll ws).tenant.link = h.tenant.link := by
  unfold attachAll
  induction ws generalizing h with
  | nil => rfl
  | cons w rest ih => exact (ih (h.attach w)).trans (h.attach_link w)

theorem addWebhook_quiet (h : Hosted) (w : Webhook) : Quiet h (h.addWebhook w).1 := by
  unfold addWebhook
  dsimp only
  split
  · exact Quiet.refl h
  · have written : ∀ w', Quiet h { h with host := { h.host with
        repository := h.host.repository.putWebhook w' } } := fun _ => Quiet.of_eq rfl rfl
    exact (written _).trans (attach_quiet _ _)

theorem removeWebhook_quiet (h : Hosted) (url : String) : Quiet h (h.removeWebhook url).1 := by
  have rows : ∀ (r : Store.Repository) (token : String),
      (r.removeWebhook token url).1.tenants = r.tenants := by
    intro r token
    unfold Store.Repository.removeWebhook
    split <;> rfl
  have cut : Quiet h { h with host := { h.host with
      repository := (h.host.repository.removeWebhook h.tenant.token url).1 } } := by
    refine ⟨?_, List.Subset.refl _⟩
    simp only [standing, rows]
  unfold removeWebhook
  dsimp only
  split
  · exact cut.trans (Quiet.of_eq rfl rfl)
  · exact cut

theorem toggleWebhook_quiet (h : Hosted) (url : String) (option : WebhookOption) :
    Quiet h (h.toggleWebhook url option).1 := by
  unfold toggleWebhook
  split
  · exact Quiet.refl h
  · exact Quiet.of_eq rfl rfl

theorem deliver_quiet (h : Hosted) (net : Network) : Quiet h (h.deliver net) :=
  Quiet.of_eq rfl rfl

theorem shutdown_quiet (h : Hosted) : Quiet h h.shutdown := by
  have cleared : ∀ fanout, Quiet h { h with tenant := { h.tenant.cancel with
      fanout := fanout, webhooks := [] } } := fun _ => Quiet.of_eq rfl rfl
  exact (cleared _).trans (dropLink_quiet _)

theorem logout_quiet (h : Hosted) : Quiet h h.logout := by
  unfold logout
  split
  · exact (attempt_quiet h _ Session.Link.logout_mail).trans (shutdown_quiet _)
  · exact shutdown_quiet h

end Hosted

end ChatGateway

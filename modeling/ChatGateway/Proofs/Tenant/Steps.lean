import ChatGateway.Proofs.Tenant.Standing
import Mathlib.Logic.Relation

/-!
What can become of a tenant's session. Whatever is done at a tenant, the session goes through some
of six steps: it is left alone, opened again, dropped, ended, found as it was known, or confirmed
under an identity.
-/

namespace ChatGateway.Hosted

namespace Standing

/-- The profile is changed at one instant and stored at another. -/
def update (s : Standing) (change : Profile → Profile) (changed stored : Instant) : Standing :=
  { s with
    profile := { change s.profile with updatedAt := changed }
    rows := Keyed.put Profile.token { change s.profile with updatedAt := stored } s.rows }

def confirm (s : Standing) (wid : String) : Instant → Instant → Standing :=
  s.update fun p => { p with wid := some wid, verified := true }

def invalidate (s : Standing) : Instant → Instant → Standing :=
  s.update fun p => { p with verified := false }

theorem update_row (s : Standing) (change : Profile → Profile) (changed stored : Instant)
    (kept : (change s.profile).token = s.profile.token) :
    Keyed.find? Profile.token s.profile.token (s.update change changed stored).rows =
      some { change s.profile with updatedAt := stored } := by
  have put := @Keyed.find?_put_self _ _ _ _ Profile.token
    { change s.profile with updatedAt := stored } s.rows
  rw [← kept]
  exact put

theorem confirm_row (s : Standing) (wid : String) (changed stored : Instant) :
    Keyed.find? Profile.token s.profile.token (s.confirm wid changed stored).rows =
      some { s.profile with wid := some wid, verified := true, updatedAt := stored } :=
  update_row s (fun p => { p with wid := some wid, verified := true }) changed stored rfl

theorem invalidate_row (s : Standing) (changed stored : Instant) :
    Keyed.find? Profile.token s.profile.token (s.invalidate changed stored).rows =
      some { s.profile with verified := false, updatedAt := stored } :=
  update_row s (fun p => { p with verified := false }) changed stored rfl

/-- One thing that may become of a session, where only identities of `ids` are confirmed. -/
inductive Step (ids : String → Prop) (s : Standing) : Standing → Prop
  | same : Step ids s s
  | reopened {wid : String} (paired : s.profile.identity = some wid) :
      Step ids s { s with wid := some wid }
  | dropped (up : s.status = .ready ∨ s.status = .disconnected) :
      Step ids s { s with status := .disconnected }
  | ended (changed stored : Instant)
      (began : s.status = .ready ∨ s.status = .disconnected ∨ s.status = .loggedOut) :
      Step ids s { s.invalidate changed stored with status := .loggedOut }
  | known {wid : String} (reported : ids wid) (paired : s.profile.identity = some wid)
      (verified : s.profile.verified = true) :
      Step ids s { s with wid := some wid, status := .ready }
  | confirmed {wid : String} (reported : ids wid) (changed stored : Instant) :
      Step ids s { s.confirm wid changed stored with wid := some wid, status := .ready }

abbrev Steps (ids : String → Prop) : Standing → Standing → Prop := Relation.ReflTransGen (Step ids)

section Kept

variable {ids : String → Prop} {s s' : Standing}

theorem Step.token (step : Step ids s s') : s'.profile.token = s.profile.token := by
  cases step <;> rfl

theorem Step.others (step : Step ids s s') {token : String} (other : token ≠ s.profile.token) :
    Keyed.find? Profile.token token s'.rows = Keyed.find? Profile.token token s.rows := by
  cases step with
  | ended => exact Keyed.find?_put_ne s.rows other
  | confirmed => exact Keyed.find?_put_ne s.rows other
  | _ => rfl

theorem Step.distinct (step : Step ids s s') (distinct : Keyed.Distinct Profile.token s.rows) :
    Keyed.Distinct Profile.token s'.rows := by
  cases step with
  | ended => exact Keyed.put_distinct _ distinct
  | confirmed => exact Keyed.put_distinct _ distinct
  | _ => exact distinct

/-- What every step keeps, a run keeps. -/
theorem Steps.keep {P : Standing → Prop} (each : ∀ s s', Step ids s s' → P s → P s')
    (steps : Steps ids s s') (start : P s) : P s' := by
  induction steps with
  | refl => exact start
  | tail _ step ih => exact each _ _ step ih

theorem Steps.token (steps : Steps ids s s') : s'.profile.token = s.profile.token :=
  steps.keep (P := fun after => after.profile.token = s.profile.token)
    (fun _ _ step ih => step.token.trans ih) rfl

theorem Steps.others (steps : Steps ids s s') {token : String} (other : token ≠ s.profile.token) :
    Keyed.find? Profile.token token s'.rows = Keyed.find? Profile.token token s.rows := by
  have each : ∀ before after, Step ids before after →
      before.profile.token = s.profile.token ∧
        Keyed.find? Profile.token token before.rows = Keyed.find? Profile.token token s.rows →
      after.profile.token = s.profile.token ∧
        Keyed.find? Profile.token token after.rows = Keyed.find? Profile.token token s.rows := by
    intro before after step kept
    obtain ⟨own, row⟩ := kept
    rw [← own] at other
    exact ⟨step.token.trans own, (step.others other).trans row⟩
  exact (steps.keep each ⟨rfl, rfl⟩).2

theorem Steps.distinct (steps : Steps ids s s') (distinct : Keyed.Distinct Profile.token s.rows) :
    Keyed.Distinct Profile.token s'.rows :=
  steps.keep (fun _ _ step => step.distinct) distinct

end Kept

end Standing

open Standing (Step Steps)

/-- The events that wait confirm no identity outside `ids`. -/
def Hears (ids : String → Prop) (h : Hosted) : Prop := ∀ e ∈ h.mail, e.Names ids

/-- Only steps of a session lead from `h` to `h'`, and the events that wait are of the same kind. -/
structure Leads (ids : String → Prop) (h h' : Hosted) : Prop where
  steps : Steps ids h.standing h'.standing
  hears : h.Hears ids → h'.Hears ids

namespace Leads

variable {ids : String → Prop} {h h₁ h₂ h₃ h' : Hosted}

theorem trans (first : Leads ids h₁ h₂) (second : Leads ids h₂ h₃) : Leads ids h₁ h₃ :=
  ⟨first.steps.trans second.steps, fun before => second.hears (first.hears before)⟩

theorem of_quiet (quiet : Quiet h h') : Leads ids h h' := by
  refine ⟨?_, fun before e waiting => before e (quiet.mail waiting)⟩
  rw [quiet.standing]

theorem of_step (step : Step ids h.standing h'.standing) (mail : h'.mail ⊆ h.mail) :
    Leads ids h h' :=
  ⟨.single step, fun before e waiting => before e (mail waiting)⟩

end Leads

theorem allows_ready (s : TenantStatus) : s.allows .ready = true := by
  cases s <;> rfl

theorem allows_disconnected {s : TenantStatus} (allowed : s.allows .disconnected = true) :
    s = .ready ∨ s = .disconnected := by
  revert allowed
  cases s <;> decide

theorem allows_loggedOut {s : TenantStatus} :
    s.allows .loggedOut = true ↔ s = .ready ∨ s = .disconnected ∨ s = .loggedOut := by
  cases s <;> decide

theorem setStatus_allowed {h : Hosted} {next : TenantStatus}
    (allowed : h.tenant.status.allows next = true) :
    h.setStatus next = ({ h with tenant := { h.tenant with status := next } }, true) := by
  simp only [setStatus, Tenant.setStatus, allowed, if_true]

theorem setStatus_refused {h : Hosted} {next : TenantStatus}
    (refused : h.tenant.status.allows next = false) : h.setStatus next = (h, false) := by
  simp only [setStatus, Tenant.setStatus, refused, Bool.false_eq_true, if_false]

theorem updateProfile_standing (h : Hosted) (change : Profile → Profile) :
    (h.updateProfile change).standing =
      h.standing.update change h.host.now.1 h.host.now.2.now.1 := by
  simp only [updateProfile, standing, Standing.update, Host.save_repository, Host.now_repository,
    Store.Repository.save]

theorem updateProfile_exchange (h : Hosted) (change : Profile → Profile) :
    (h.updateProfile change).host.exchange = h.host.exchange := by
  simp only [updateProfile, Host.save_exchange, Host.now_exchange]

theorem disconnected_leads (ids : String → Prop) (h : Hosted) :
    Leads ids h (h.setStatus .disconnected).1 := by
  cases allowed : h.tenant.status.allows .disconnected with
  | false =>
      rw [setStatus_refused allowed]
      exact .of_quiet (Quiet.refl h)
  | true =>
      rw [setStatus_allowed allowed]
      exact .of_step (.dropped (allows_disconnected allowed)) (List.Subset.refl _)

theorem onConnected_standing (h : Hosted) (wid : String) :
    (h.onConnected wid).standing =
      { if h.tenant.profile.identity = some wid ∧ h.tenant.profile.verified = true then h.standing
        else h.standing.confirm wid h.host.now.1 h.host.now.2.now.1 with
        wid := some wid, status := .ready } := by
  unfold onConnected
  dsimp only
  rw [setStatus_allowed (allows_ready _), (requestHistory_quiet _).standing]
  by_cases known : h.tenant.profile.identity = some wid ∧ h.tenant.profile.verified = true
  · -- The identity in use is set before the profile is asked, which knows its own.
    have test : ((h.setWid wid).tenant.profile.identity == some wid &&
        (h.setWid wid).tenant.profile.verified) = true := by simpa [setWid] using known
    rw [if_pos test, if_pos known]
    rfl
  · have test : ¬((h.setWid wid).tenant.profile.identity == some wid &&
        (h.setWid wid).tenant.profile.verified) = true := by simpa [setWid] using known
    rw [if_neg test, if_neg known]
    change { ((h.setWid wid).confirm wid).standing with status := .ready } = _
    rw [confirm, updateProfile_standing]
    rfl

theorem onConnected_mail (h : Hosted) (wid : String) : (h.onConnected wid).mail ⊆ h.mail := by
  unfold onConnected
  dsimp only
  rw [setStatus_allowed (allows_ready _)]
  refine List.Subset.trans (requestHistory_quiet _).mail ?_
  split
  · exact List.Subset.refl _
  · change ((h.setWid wid).confirm wid).host.exchange.mail ⊆ h.mail
    rw [confirm, updateProfile_exchange]
    exact List.Subset.refl _

theorem onConnected_leads {ids : String → Prop} (h : Hosted) {wid : String} (reported : ids wid) :
    Leads ids h (h.onConnected wid) := by
  refine .of_step ?_ (onConnected_mail h wid)
  rw [onConnected_standing]
  split
  · next known => exact .known reported known.1 known.2
  · exact .confirmed reported _ _

theorem onLoggedOut_refused {h : Hosted} (refused : h.tenant.status.allows .loggedOut = false)
    (reason : String) : h.onLoggedOut reason = h := by
  rw [onLoggedOut, setStatus_refused refused]

theorem onLoggedOut_standing {h : Hosted} (allowed : h.tenant.status.allows .loggedOut = true)
    (reason : String) :
    (h.onLoggedOut reason).standing =
      { h.standing.invalidate h.host.now.1 h.host.now.2.now.1 with status := .loggedOut } := by
  rw [onLoggedOut, setStatus_allowed allowed]
  dsimp only
  rw [(store_quiet _ _).standing]
  simp only [standing, Host.now_repository, Host.freshNumber]
  change (updateProfile { h with tenant := { h.tenant with status := .loggedOut } } _).standing = _
  rw [updateProfile_standing]
  rfl

theorem onLoggedOut_mail (h : Hosted) (reason : String) : (h.onLoggedOut reason).mail ⊆ h.mail := by
  cases allowed : h.tenant.status.allows .loggedOut with
  | false =>
      rw [onLoggedOut_refused allowed]
      exact List.Subset.refl _
  | true =>
      rw [onLoggedOut, setStatus_allowed allowed]
      refine List.Subset.trans (store_quiet _ _).mail ?_
      simp only [mail, updateProfile_exchange]
      exact List.Subset.refl _

theorem onLoggedOut_leads (ids : String → Prop) (h : Hosted) (reason : String) :
    Leads ids h (h.onLoggedOut reason) := by
  refine ⟨?_, fun before e waiting => before e (onLoggedOut_mail h reason waiting)⟩
  cases allowed : h.tenant.status.allows .loggedOut with
  | false => rw [onLoggedOut_refused allowed]
  | true =>
      rw [onLoggedOut_standing allowed]
      exact .single (.ended _ _ (allows_loggedOut.mp allowed))

theorem handle_leads {ids : String → Prop} (h : Hosted) {e : Session.Event} (named : e.Names ids) :
    Leads ids h (h.handle e) := by
  cases e with
  | message m => exact .of_quiet (ingest_quiet h m)
  | receipt chat ids timestamp => exact .of_quiet (onReceipt_quiet h chat ids timestamp)
  | call id caller timestamp => exact .of_quiet (onCall_quiet h id caller timestamp)
  | connected wid => exact onConnected_leads h named
  | disconnected reason => exact disconnected_leads ids h
  | loggedOut reason => exact onLoggedOut_leads ids h reason
  | history ms =>
      rw [handle]
      split
      · exact .of_quiet (ingestAll_quiet h ms)
      · exact .of_quiet (Quiet.refl h)

theorem handleAll_leads {ids : String → Prop} (h : Hosted) {events : List Session.Event}
    (named : ∀ e ∈ events, e.Names ids) : Leads ids h (events.foldl handle h) := by
  induction events generalizing h with
  | nil => exact .of_quiet (Quiet.refl h)
  | cons e rest ih =>
      have first := handle_leads h (named e List.mem_cons_self)
      exact first.trans (ih (h.handle e) fun e' later => named e' (List.mem_cons_of_mem e later))

/-- A paired tenant gets a session of its identity; for another nothing changes. -/
theorem start_cases (h : Hosted) :
    (h.tenant.profile.identity = none ∧ h.start.1 = h) ∨
    ∃ wid id, h.tenant.profile.identity = some wid ∧
      h.start.1.standing = { h.standing with wid := some wid } ∧
      h.start.1.tenant.link = some id ∧
      ∀ e ∈ h.start.1.mail, e = .connected wid ∨ e ∈ h.mail := by
  unfold start
  cases opened : h.host.exchange.connect h.tenant.profile with
  | error e =>
      refine Or.inl ⟨?_, rfl⟩
      exact Session.Exchange.connect_error opened
  | ok result =>
      obtain ⟨exchange, link⟩ := result
      obtain ⟨paired, mail⟩ := Session.Exchange.connect_ok opened
      have dropped := dropLink_quiet { h with host := { h.host with exchange := exchange } }
      refine Or.inr ⟨link.wid, link.id, paired, ?_, rfl, ?_⟩
      · change { (Hosted.dropLink _).standing with wid := some link.wid } = _
        rw [dropped.standing]
        rfl
      · exact fun e waiting => mail e (dropped.mail waiting)

theorem start_steps (ids : String → Prop) (h : Hosted) :
    Steps ids h.standing h.start.1.standing := by
  rcases h.start_cases with ⟨_, same⟩ | ⟨wid, _, paired, standing, _, _⟩
  · rw [same]
  · rw [standing]
    exact .single (.reopened paired)

theorem start_leads {ids : String → Prop} (full : ∀ wid, wid ≠ "" → ids wid) (h : Hosted) :
    Leads ids h h.start.1 := by
  refine ⟨start_steps ids h, fun before e waiting => ?_⟩
  rcases h.start_cases with ⟨_, same⟩ | ⟨wid, _, paired, _, _, mail⟩
  · rw [same] at waiting
    exact before e waiting
  · rcases mail e waiting with rfl | waiting
    · exact full wid (Profile.identity_ne_empty paired)
    · exact before e waiting

theorem stop_leads (ids : String → Prop) (h : Hosted) : Leads ids h h.stop := by
  have deaf : Quiet h { h with tenant := { h.tenant with pump := none } } := Quiet.of_eq rfl rfl
  have closed := deaf.trans (dropLink_quiet _)
  exact (Leads.of_quiet closed).trans (disconnected_leads ids _)

theorem pair_standing (h : Hosted) (wid : String) :
    (h.pair wid).standing = { h.standing.confirm wid h.host.now.1 h.host.now.2.now.1 with
      wid := some wid, status := .ready } := by
  rw [pair, setStatus_allowed (allows_ready _)]
  change { (h.confirm wid).standing with wid := some wid, status := .ready } = _
  rw [confirm, updateProfile_standing]
  rfl

theorem pair_leads {ids : String → Prop} (h : Hosted) {wid : String} (reported : ids wid) :
    Leads ids h (h.pair wid) := by
  refine .of_step ?_ ?_
  · rw [pair_standing]
    exact .confirmed reported _ _
  · rw [pair, setStatus_allowed (allows_ready _)]
    change (h.confirm wid).host.exchange.mail ⊆ h.mail
    rw [confirm, updateProfile_exchange]
    exact List.Subset.refl _

theorem takeEvents_leads {ids : String → Prop} {h : Hosted} (hears : h.Hears ids) :
    Leads ids h h.takeEvents := by
  unfold takeEvents
  split
  · exact .of_quiet (Quiet.refl h)
  · next id _ =>
    have taken := Session.Exchange.takeEvents_mail h.host.exchange id
    have emptied : Quiet h { h with host := { h.host with
      exchange := (h.host.exchange.takeEvents id).1 } } := ⟨rfl, taken.1⟩
    exact (Leads.of_quiet emptied).trans
      (handleAll_leads _ fun e waiting => hears e (taken.2 waiting))

inductive Action where
  | start
  | stop
  | logout
  | shutdown
  | cancel
  | pair (wid : String)
  | event (e : Session.Event)
  | takeEvents
  | ingest (m : Message)
  | send (m : Message)
  | revoke (id : String) (byBeginning : Bool)
  | forget (id : String)
  | attachAll (ws : List Webhook)
  | addWebhook (w : Webhook)
  | removeWebhook (url : String)
  | toggleWebhook (url : String) (option : WebhookOption)
  | deliver (net : Network)

/-- The identity that the action confirms, if any, is one of `ids`. -/
def Action.Names (ids : String → Prop) : Action → Prop
  | pair wid => ids wid
  | event e => e.Names ids
  | _ => True

def act (h : Hosted) : Action → Hosted
  | .start => h.start.1
  | .stop => h.stop
  | .logout => h.logout
  | .shutdown => h.shutdown
  | .cancel => { h with tenant := h.tenant.cancel }
  | .pair wid => h.pair wid
  | .event e => h.handle e
  | .takeEvents => h.takeEvents
  | .ingest m => (h.ingest m).1
  | .send m => (h.send m).1
  | .revoke id byBeginning => (h.revoke id byBeginning).1
  | .forget id => { h with tenant := { h.tenant with messages := (h.tenant.messages.delete id).1 } }
  | .attachAll ws => h.attachAll ws
  | .addWebhook w => (h.addWebhook w).1
  | .removeWebhook url => (h.removeWebhook url).1
  | .toggleWebhook url option => (h.toggleWebhook url option).1
  | .deliver net => h.deliver net

theorem act_leads {ids : String → Prop} (full : ∀ wid, wid ≠ "" → ids wid) {h : Hosted}
    (hears : h.Hears ids) {a : Action} (named : a.Names ids) : Leads ids h (h.act a) := by
  cases a with
  | start => exact start_leads full h
  | stop => exact stop_leads ids h
  | logout => exact .of_quiet (logout_quiet h)
  | shutdown => exact .of_quiet (shutdown_quiet h)
  | cancel => exact .of_quiet (Quiet.of_eq rfl rfl)
  | pair wid => exact pair_leads h named
  | event e => exact handle_leads h named
  | takeEvents => exact takeEvents_leads hears
  | ingest m => exact .of_quiet (ingest_quiet h m)
  | send m => exact .of_quiet (send_quiet h m)
  | revoke id byBeginning => exact .of_quiet (revoke_quiet h id byBeginning)
  | forget id => exact .of_quiet (Quiet.of_eq rfl rfl)
  | attachAll ws => exact .of_quiet (attachAll_quiet h ws)
  | addWebhook w => exact .of_quiet (addWebhook_quiet h w)
  | removeWebhook url => exact .of_quiet (removeWebhook_quiet h url)
  | toggleWebhook url option => exact .of_quiet (toggleWebhook_quiet h url option)
  | deliver net => exact .of_quiet (deliver_quiet h net)

theorem Action.names_any (a : Action) : a.Names fun _ => True := by
  cases a with
  | event e => exact e.names_any
  | _ => trivial

/-- What an action does is done in steps under whatever identities. -/
theorem act_steps (h : Hosted) (a : Action) :
    Steps (fun _ => True) h.standing (h.act a).standing :=
  (act_leads (fun _ _ => trivial) (fun e _ => e.names_any) a.names_any).steps

theorem act_token (h : Hosted) (a : Action) : (h.act a).tenant.token = h.tenant.token :=
  (h.act_steps a).token

end ChatGateway.Hosted

import ChatGateway.Proofs.Tenant.Steps

namespace ChatGateway.Hosted

namespace Standing

variable {ids : String → Prop} {s s' : Standing}

/-- Neither the tenant nor what is stored of it passes for verified. -/
def Unverified (s : Standing) : Prop :=
  s.profile.verified = false ∧
    ∀ row, Keyed.find? Profile.token s.profile.token s.rows = some row → row.verified = false

theorem invalidate_unverified (s : Standing) (changed stored : Instant) :
    (s.invalidate changed stored).Unverified := by
  refine ⟨rfl, ?_⟩
  intro row found
  rw [← Option.some.inj ((invalidate_row s changed stored).symm.trans found)]

/-- Only the network's own word ends a session, so an ended session is never verified. -/
theorem Step.unverified (step : Step ids s s')
    (before : s.status = .loggedOut → s.Unverified) : s'.status = .loggedOut → s'.Unverified := by
  intro ended
  cases step with
  | same => exact before ended
  | reopened paired => exact before ended
  | dropped up => cases ended
  | ended changed stored began => exact invalidate_unverified s changed stored
  | known reported paired verified => cases ended
  | confirmed reported changed stored => cases ended

theorem Step.stays (step : Step (fun _ => False) s s') (ended : s.status = .loggedOut) :
    s'.status = .loggedOut := by
  cases step with
  | same => exact ended
  | reopened paired => exact ended
  | dropped up => rcases up with up | up <;> rw [ended] at up <;> cases up
  | ended changed stored began => rfl
  | known reported => exact reported.elim
  | confirmed reported => exact reported.elim

end Standing

/-- The session was ended, and neither memory nor the store calls it verified. -/
structure LoggedOut (h : Hosted) : Prop where
  status : h.tenant.status = .loggedOut
  memory : h.tenant.profile.verified = false
  stored : ∀ row, h.host.repository.find? h.tenant.token = some row → row.verified = false

/-- The session passes for good under an identity, in memory and in the store. -/
structure Readmitted (token wid : String) (h : Hosted) : Prop where
  status : h.tenant.status = .ready
  identity : h.tenant.wid = some wid
  memory : h.tenant.profile.verified = true
  stored : ∃ row, h.host.repository.find? token = some row ∧ row.wid = some wid ∧
    row.verified = true

/-- A tenant that runs: loaded as it is stored, and then acted on in any way and order, while
anything may happen elsewhere at the host. Nobody but the network ends a session. -/
inductive Reachable : Hosted → Prop
  | loaded (host : Host) (p : Profile) (cancelled : Bool)
      (stored : ∀ row, host.repository.find? p.token = some row → row.verified = p.verified) :
      Reachable ⟨Tenant.ofProfile host.settings p cancelled, host⟩
  | act {h : Hosted} (a : Action) (before : Reachable h) : Reachable (h.act a)
  | setStatus {h : Hosted} {next : TenantStatus} (other : next ≠ .loggedOut)
      (before : Reachable h) : Reachable (h.setStatus next).1
  | elsewhere {h : Hosted} (host : Host)
      (kept : ∀ row, host.repository.find? h.tenant.token = some row →
        h.host.repository.find? h.tenant.token = some row)
      (before : Reachable h) : Reachable ⟨h.tenant, host⟩

theorem initialStatus_loggedOut {p : Profile} (ended : p.initialStatus = .loggedOut) :
    p.verified = false := by
  unfold Profile.initialStatus at ended
  split at ended
  · cases ended
  · cases verified : p.verified with
    | false => rfl
    | true => rw [verified] at ended; cases ended

theorem Reachable.unverified {h : Hosted} (reachable : Reachable h) :
    h.tenant.status = .loggedOut → h.standing.Unverified := by
  induction reachable with
  | loaded host p cancelled stored =>
      intro ended
      have verified := initialStatus_loggedOut ended
      exact ⟨verified, fun row found => (stored row found).trans verified⟩
  | @act h a before ih => exact (h.act_steps a).keep (fun _ _ step => step.unverified) ih
  | @setStatus h next other before ih =>
      cases allowed : h.tenant.status.allows next with
      | false => rw [setStatus_refused allowed]; exact ih
      | true => rw [setStatus_allowed allowed]; exact fun ended => absurd ended other
  | elsewhere host kept before ih =>
      intro ended
      have there := ih ended
      exact ⟨there.1, fun row found => there.2 row (kept row found)⟩

theorem names_none {e : Session.Event} (silent : ∀ wid, e ≠ .connected wid) :
    e.Names fun _ => False := by
  cases e with
  | connected wid => exact silent wid rfl
  | _ => trivial

theorem LoggedOut.handleAll {h : Hosted} (ended : LoggedOut h) {events : List Session.Event}
    (silent : ∀ wid, .connected wid ∉ events) : LoggedOut (events.foldl handle h) := by
  have named : ∀ e ∈ events, e.Names fun _ => False := by
    intro e member
    apply names_none
    intro wid report
    subst report
    exact silent wid member
  have leads := handleAll_leads h named
  have status : (events.foldl handle h).standing.status = .loggedOut :=
    leads.steps.keep (P := fun s => s.status = .loggedOut) (fun _ _ step => step.stays) ended.status
  have unverified := leads.steps.keep (P := fun s => s.status = .loggedOut → s.Unverified)
    (fun _ _ step => step.unverified) (fun _ => ⟨ended.memory, ended.stored⟩) status
  exact ⟨status, unverified.1, unverified.2⟩

theorem LoggedOut.connected {h : Hosted} (ended : LoggedOut h) (wid : String) :
    Readmitted h.tenant.token wid (h.handle (.connected wid)) := by
  have standing := onConnected_standing h wid
  have unknown : ¬(h.tenant.profile.identity = some wid ∧ h.tenant.profile.verified = true) := by
    intro known
    obtain ⟨_, verified⟩ := known
    rw [ended.memory] at verified
    cases verified
  rw [if_neg unknown] at standing
  have rows := congrArg Standing.rows standing
  have written := Standing.confirm_row h.standing wid h.host.now.1 h.host.now.2.now.1
  have found := (congrArg (Keyed.find? Profile.token h.tenant.token) rows).trans written
  constructor
  · exact congrArg Standing.status standing
  · exact congrArg Standing.wid standing
  · exact congrArg (fun s => s.profile.verified) standing
  · exact ⟨_, found, rfl, rfl⟩

theorem handleAll_token (h : Hosted) (events : List Session.Event) :
    (events.foldl handle h).tenant.token = h.tenant.token :=
  (handleAll_leads h fun e _ => e.names_any).steps.token

/-- A tenant that was logged out stays so, throughout, for exactly those events that report no
connection. The first report of a connection makes it ready and verified again. -/
theorem logged_out_until_connection {h : Hosted} (reachable : Reachable h)
    (ended : h.tenant.status = .loggedOut) (events : List Session.Event) :
    ((∀ past, past <+: events → LoggedOut (past.foldl handle h)) ↔
      ∀ wid, .connected wid ∉ events) ∧
    ∀ past wid rest, events = past ++ .connected wid :: rest →
      (∀ earlier, .connected earlier ∉ past) →
        Readmitted h.tenant.token wid ((past ++ [.connected wid]).foldl handle h) := by
  have unverified := reachable.unverified ended
  have start : LoggedOut h := ⟨ended, unverified.1, unverified.2⟩
  refine ⟨⟨?_, ?_⟩, ?_⟩
  · intro throughout wid member
    -- Right after this connection the tenant would be logged out and ready at once.
    obtain ⟨past, rest, split⟩ := List.append_of_mem member
    have before := throughout past ⟨_, split.symm⟩
    have after := throughout (past ++ [.connected wid]) ⟨rest, by simp [split]⟩
    rw [List.foldl_append] at after
    have left : LoggedOut ((past.foldl handle h).handle (.connected wid)) := after
    have ready := (before.connected wid).status
    rw [left.status] at ready
    cases ready
  · intro silent past begins
    exact start.handleAll fun wid member => silent wid (begins.subset member)
  · intro past wid rest _ silent
    rw [List.foldl_append, ← handleAll_token h past]
    exact (start.handleAll silent).connected wid

/-- A paired tenant is logged out, and ready again with the next report of a connection. -/
theorem logged_out_then_connected :
    let host : Host := { settings := {}, office := ⟨""⟩, hub := {}, clock := ⟨.epoch⟩ }
    let p : Profile :=
      { token := "tok", wid := some "5511999990000@s.whatsapp.net", verified := true
        createdAt := .epoch, updatedAt := .epoch }
    let h := handle ⟨Tenant.ofProfile host.settings p false, host⟩ (.loggedOut "revoked")
    Reachable h ∧ h.tenant.status = .loggedOut ∧
      (h.handle (.connected "5511999990000@s.whatsapp.net")).tenant.status = .ready := by
  intro host p h
  have reachable : Reachable h :=
    .act (.event (.loggedOut "revoked")) (.loaded host p false fun row found => by cases found)
  have loaded : (Tenant.ofProfile host.settings p false).status = .disconnected := by decide
  have allowed : (Tenant.ofProfile host.settings p false).status.allows .loggedOut = true := by
    rw [loaded]
    rfl
  have ended : h.tenant.status = .loggedOut :=
    congrArg Standing.status (onLoggedOut_standing
      (h := ⟨Tenant.ofProfile host.settings p false, host⟩) allowed "revoked")
  refine ⟨reachable, ended, ?_⟩
  have left := (logged_out_until_connection reachable ended
    [.connected "5511999990000@s.whatsapp.net"]).2 [] "5511999990000@s.whatsapp.net" [] rfl
      fun earlier member => by cases member
  exact left.status

end ChatGateway.Hosted

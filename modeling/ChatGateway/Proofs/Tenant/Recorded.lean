import ChatGateway.Proofs.Tenant.Steps

namespace ChatGateway

namespace TenantStatus

/-- The status in which a tenant of this status is found again after a restart. -/
def atRest : TenantStatus → TenantStatus
  | ready => disconnected
  | s => s

theorem atRest_iff (s : TenantStatus) :
    (s.atRest = pairing ↔ s = pairing) ∧ (s.atRest = loggedOut ↔ s = loggedOut) ∧
    (s.atRest = unprepared ↔ s = unprepared) ∧
    (s.atRest = disconnected ↔ s = ready ∨ s = disconnected) := by
  cases s <;> decide

end TenantStatus

namespace Profile

/-- Stored, but for the time of the last change. -/
def StoredIn (p : Profile) (rows : List Profile) : Prop :=
  ∃ row, Keyed.find? Profile.token p.token rows = some row ∧
    { row with updatedAt := p.updatedAt } = p

theorem StoredIn.of_row {p : Profile} {rows rows' : List Profile} (stored : p.StoredIn rows)
    (row : Keyed.find? Profile.token p.token rows' = Keyed.find? Profile.token p.token rows) :
    p.StoredIn rows' := by
  obtain ⟨found, there, equal⟩ := stored
  exact ⟨found, row.trans there, equal⟩

theorem initialStatus_unpaired {p : Profile} (unpaired : p.identity = none) :
    p.initialStatus = .unprepared := by
  rw [initialStatus, unpaired]

theorem initialStatus_paired {p : Profile} {wid : String} (paired : p.identity = some wid) :
    p.initialStatus = if p.verified then .disconnected else .loggedOut := by
  rw [initialStatus, paired]

/-- A stored tenant is found ended, never prepared, or merely disconnected. -/
theorem initialStatus_cases (p : Profile) :
    (p.identity = none ∧ p.initialStatus = .unprepared) ∨
    (∃ wid, p.identity = some wid ∧ p.verified = true ∧ p.initialStatus = .disconnected) ∨
    ∃ wid, p.identity = some wid ∧ p.verified = false ∧ p.initialStatus = .loggedOut := by
  cases paired : p.identity with
  | none => exact Or.inl ⟨rfl, initialStatus_unpaired paired⟩
  | some wid =>
      have status := initialStatus_paired paired
      cases verified : p.verified with
      | true => exact Or.inr (Or.inl ⟨wid, rfl, rfl, by rw [status, verified]; rfl⟩)
      | false => exact Or.inr (Or.inr ⟨wid, rfl, rfl, by rw [status, verified]; rfl⟩)

theorem initialStatus_ne_pairing (p : Profile) : p.initialStatus ≠ .pairing := by
  rcases p.initialStatus_cases with ⟨_, status⟩ | ⟨_, _, _, status⟩ | ⟨_, _, _, status⟩ <;>
    rw [status] <;> decide

theorem identity_of_wid {wid : String} {p : Profile} (full : wid ≠ "") (paired : p.wid = some wid) :
    p.identity = some wid := by
  rw [identity, paired]
  simp [Option.filter, full]

end Profile

namespace Hosted.Standing

/-- The four copies of what is known of a session agree. -/
structure Recorded (s : Standing) : Prop where
  stored : s.profile.StoredIn s.rows
  identity : s.wid = s.profile.identity
  status : s.profile.initialStatus = s.status.atRest

theorem Recorded.paired {s : Standing} (recorded : s.Recorded)
    (began : s.status = .ready ∨ s.status = .disconnected ∨ s.status = .loggedOut) :
    ∃ wid, s.profile.identity = some wid := by
  rcases s.profile.initialStatus_cases with ⟨_, status⟩ | ⟨wid, paired, _⟩ | ⟨wid, paired, _⟩
  · rw [recorded.status] at status
    rcases began with began | began | began <;> rw [began] at status <;> cases status
  · exact ⟨wid, paired⟩
  · exact ⟨wid, paired⟩

theorem invalidate_recorded {s : Standing} (recorded : s.Recorded) (changed stored : Instant)
    (began : s.status = .ready ∨ s.status = .disconnected ∨ s.status = .loggedOut) :
    Recorded { s.invalidate changed stored with status := .loggedOut } := by
  obtain ⟨wid, paired⟩ := recorded.paired began
  refine ⟨⟨_, invalidate_row s changed stored, rfl⟩, recorded.identity, ?_⟩
  exact Profile.initialStatus_paired (p := (s.invalidate changed stored).profile) paired

theorem confirm_recorded (s : Standing) {wid : String} (full : wid ≠ "")
    (changed stored : Instant) :
    Recorded { s.confirm wid changed stored with wid := some wid, status := .ready } := by
  have paired : (s.confirm wid changed stored).profile.identity = some wid :=
    Profile.identity_of_wid full rfl
  exact ⟨⟨_, confirm_row s wid changed stored, rfl⟩, paired.symm,
    Profile.initialStatus_paired paired⟩

theorem Step.recorded {s s' : Standing} (step : Step (· ≠ "") s s') (recorded : s.Recorded) :
    s'.Recorded := by
  cases step with
  | same => exact recorded
  | reopened paired => exact ⟨recorded.stored, paired.symm, recorded.status⟩
  | dropped up =>
      refine ⟨recorded.stored, recorded.identity, recorded.status.trans ?_⟩
      rcases up with up | up
      · rw [up]; rfl
      · rw [up]
  | ended changed stored began => exact invalidate_recorded recorded changed stored began
  | known reported paired verified =>
      refine ⟨recorded.stored, paired.symm, ?_⟩
      exact (Profile.initialStatus_paired paired).trans (if_pos verified)
  | confirmed full changed stored => exact confirm_recorded s full changed stored

theorem ofProfile_recorded (settings : Settings) {p : Profile} (cancelled : Bool) (host : Host)
    (stored : p.StoredIn host.repository.tenants) :
    (standing ⟨Tenant.ofProfile settings p cancelled, host⟩).Recorded := by
  refine ⟨stored, rfl, ?_⟩
  change p.initialStatus = p.initialStatus.atRest
  rcases p.initialStatus_cases with ⟨_, status⟩ | ⟨_, _, _, status⟩ | ⟨_, _, _, status⟩ <;>
    rw [status] <;> rfl

theorem Recorded.initialStatus {s : Standing} (recorded : s.Recorded) :
    s.status ≠ .pairing ∧
    (s.profile.initialStatus = .loggedOut ↔ s.status = .loggedOut) ∧
    (s.profile.initialStatus = .unprepared ↔ s.status = .unprepared) ∧
    (s.profile.initialStatus = .disconnected ↔ s.status = .ready ∨ s.status = .disconnected) := by
  obtain ⟨pairing, loggedOut, unprepared, disconnected⟩ := s.status.atRest_iff
  rw [recorded.status]
  refine ⟨?_, loggedOut, unprepared, disconnected⟩
  intro waiting
  exact s.profile.initialStatus_ne_pairing (recorded.status.trans (pairing.mpr waiting))

/-- What holds of a tenant from its loading on, whatever becomes of its session and of the rows of
others, where only identities of `ids` are confirmed. -/
class Lasting (ids : String → Prop) (R : Standing → Prop) : Prop where
  full : ∀ wid, wid ≠ "" → ids wid
  of_row : ∀ {s : Standing} {rows : List Profile},
    Keyed.find? Profile.token s.profile.token rows =
      Keyed.find? Profile.token s.profile.token s.rows → R s → R { s with rows := rows }
  of_step : ∀ {s s' : Standing}, Step ids s s' → R s → R s'
  of_load : ∀ (settings : Settings) {p : Profile} (cancelled : Bool) (host : Host),
    p.StoredIn host.repository.tenants →
      R (standing ⟨Tenant.ofProfile settings p cancelled, host⟩)

theorem Steps.lasting {ids : String → Prop} {R : Standing → Prop} [Lasting ids R] {s s' : Standing}
    (steps : Steps ids s s') (start : R s) : R s' :=
  steps.keep (fun _ _ step => Lasting.of_step step) start

instance : Lasting (· ≠ "") Recorded where
  full _ := id
  of_row row recorded :=
    ⟨recorded.stored.of_row row, recorded.identity, recorded.status⟩
  of_step step recorded := step.recorded recorded
  of_load settings _ cancelled host stored := ofProfile_recorded settings cancelled host stored

/-- The profile is stored, whatever identities are confirmed. -/
abbrev Stored (s : Standing) : Prop := s.profile.StoredIn s.rows

theorem Step.stored {ids : String → Prop} {s s' : Standing} (step : Step ids s s')
    (stored : s.Stored) : s'.Stored := by
  cases step with
  | ended changed time _ => exact ⟨_, invalidate_row s changed time, rfl⟩
  | confirmed _ changed time => exact ⟨_, confirm_row s _ changed time, rfl⟩
  | _ => exact stored

instance : Lasting (fun _ => True) Stored where
  full _ _ := trivial
  of_row row stored := stored.of_row row
  of_step step stored := step.stored stored
  of_load _ _ _ _ stored := stored

end Hosted.Standing

end ChatGateway

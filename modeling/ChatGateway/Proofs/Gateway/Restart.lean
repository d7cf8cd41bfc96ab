import ChatGateway.Proofs.Gateway.Run

namespace ChatGateway

namespace Gateway

theorem load_self (g : Gateway) (p : Profile) :
    ∃ t, Keyed.find? Tenant.token p.token (g.load p).tenants = some t ∧ t.profile = p ∧
      t.status = p.initialStatus ∧ t.link = none := by
  obtain ⟨h, equal, link, quiet⟩ := g.load_eq p
  have profile : h.tenant.profile = p := congrArg Hosted.Standing.profile quiet.standing
  refine ⟨h.tenant, ?_, profile, congrArg Hosted.Standing.status quiet.standing, link⟩
  rw [equal, ← profile]
  exact Keyed.find?_put_self h.tenant _

theorem load_other (g : Gateway) (p : Profile) {token : String} (other : token ≠ p.token) :
    Keyed.find? Tenant.token token (g.load p).tenants =
      Keyed.find? Tenant.token token g.tenants := by
  obtain ⟨h, equal, _, quiet⟩ := g.load_eq p
  have own : h.tenant.token = p.token := congrArg (fun s => s.profile.token) quiet.standing
  rw [equal, ← g.retire_tenants p.token]
  rw [← own] at other
  exact Keyed.find?_put_ne _ other

theorem startTenant_other (g : Gateway) (p : Profile) {token : String} (other : token ≠ p.token) :
    Keyed.find? Tenant.token token (g.startTenant p.token).tenants =
      Keyed.find? Tenant.token token g.tenants := by
  unfold startTenant
  cases found : g.find? p.token with
  | none => rfl
  | some h =>
      obtain ⟨t, _, own, rfl⟩ := find?_loaded found
      have kept : (Hosted.start ⟨t, g.host⟩).1.tenant.token = t.token :=
        (Hosted.start_leads (fun _ => id) ⟨t, g.host⟩).steps.token
      rw [← own, ← kept] at other
      exact Keyed.find?_put_ne _ other

theorem loadAndStart_eq (g : Gateway) (p : Profile) :
    g.loadAndStart p =
      if p.initialStatus = .loggedOut then g.load p else (g.load p).startTenant p.token := by
  obtain ⟨t, found, _, status, _⟩ := g.load_self p
  unfold loadAndStart
  dsimp only
  rw [find?_some found]
  dsimp only
  rw [status]
  rcases p.initialStatus_cases with ⟨_, status⟩ | ⟨_, _, _, status⟩ | ⟨_, _, _, status⟩ <;>
    rw [status] <;> rfl

theorem loadAndStart_other (g : Gateway) (p : Profile) {token : String} (other : token ≠ p.token) :
    Keyed.find? Tenant.token token (g.loadAndStart p).tenants =
      Keyed.find? Tenant.token token g.tenants := by
  rw [loadAndStart_eq]
  split
  · exact g.load_other p other
  · rw [startTenant_other _ p other, g.load_other p other]

/-- A tenant is loaded as its row has it, with a session where the row tells of one that can be
opened. -/
structure Resumed (g : Gateway) (row : Profile) (t : Tenant) : Prop where
  loaded : Keyed.find? Tenant.token row.token g.tenants = some t
  profile : t.profile = row
  status : t.status = row.initialStatus
  session : t.link.isSome = true ↔ row.initialStatus = .disconnected

theorem Resumed.start {g : Gateway} {p : Profile} {t : Tenant}
    (found : Keyed.find? Tenant.token p.token g.tenants = some t) (profile : t.profile = p)
    (status : t.status = p.initialStatus) (link : t.link = none)
    (going : p.initialStatus ≠ .loggedOut) :
    ∃ t', (g.startTenant p.token).Resumed p t' := by
  rw [startTenant, find?_some found]
  dsimp only
  rcases Hosted.start_cases ⟨t, g.host⟩ with ⟨unpaired, same⟩ | ⟨wid, id, paired, standing, up, _⟩
  · rw [same]
    refine ⟨t, ?_, profile, status, ?_⟩
    · rw [← profile]
      exact Keyed.find?_put_self t g.tenants
    · rw [link, ← profile, Profile.initialStatus_unpaired unpaired]
      decide
  · generalize (Hosted.start ⟨t, g.host⟩).1 = h at standing up
    have profile' : h.tenant.profile = p :=
      (congrArg Hosted.Standing.profile standing).trans profile
    refine ⟨h.tenant, ?_, profile', (congrArg Hosted.Standing.status standing).trans status, ?_⟩
    · rw [← profile']
      exact Keyed.find?_put_self h.tenant g.tenants
    · rw [up]
      rcases p.initialStatus_cases with ⟨none, _⟩ | ⟨_, _, _, found⟩ | ⟨_, _, _, found⟩
      · rw [← profile, paired] at none
        cases none
      · simp [found]
      · exact absurd found going

theorem loadAndStart_self (g : Gateway) (p : Profile) : ∃ t, (g.loadAndStart p).Resumed p t := by
  obtain ⟨t, found, profile, status, link⟩ := g.load_self p
  rw [loadAndStart_eq]
  split
  · next ended =>
    refine ⟨t, found, profile, status, ?_⟩
    rw [link, ended]
    decide
  · next going => exact Resumed.start found profile status link going

theorem Resumed.elsewhere {g g' : Gateway} {row : Profile} {t : Tenant} (resumed : g.Resumed row t)
    (kept : Keyed.find? Tenant.token row.token g'.tenants =
      Keyed.find? Tenant.token row.token g.tenants) : g'.Resumed row t :=
  ⟨kept.trans resumed.loaded, resumed.profile, resumed.status, resumed.session⟩

theorem loadEach_other (g : Gateway) {ps : List Profile} {token : String}
    (others : ∀ p ∈ ps, token ≠ p.token) :
    Keyed.find? Tenant.token token (ps.foldl loadAndStart g).tenants =
      Keyed.find? Tenant.token token g.tenants := by
  induction ps generalizing g with
  | nil => rfl
  | cons p rest ih =>
      have later := ih (g.loadAndStart p) fun q member => others q (List.mem_cons_of_mem p member)
      exact later.trans (g.loadAndStart_other p (others p List.mem_cons_self))

theorem loadEach_resumed (g : Gateway) {ps : List Profile}
    (distinct : Keyed.Distinct Profile.token ps) {p : Profile} (member : p ∈ ps) :
    ∃ t, (ps.foldl loadAndStart g).Resumed p t := by
  induction ps generalizing g with
  | nil => cases member
  | cons q rest ih =>
      have split := List.nodup_cons.mp distinct
      rcases List.mem_cons.mp member with rfl | later
      · -- The rows behind it have other tokens and leave the tenant as it is.
        obtain ⟨t, resumed⟩ := g.loadAndStart_self p
        refine ⟨t, resumed.elsewhere ?_⟩
        rw [List.foldl_cons]
        apply loadEach_other
        intro other member same
        exact split.1 (same ▸ List.mem_map_of_mem member)
      · exact ih (g.loadAndStart q) split.2 later

/-- Every row of the store is loaded again, and started unless its session was ended. -/
theorem loadAll_resumed {g : Gateway} (fresh : g.Fresh) {row : Profile}
    (stored : row ∈ g.host.repository.tenants) : ∃ t, g.loadAll.1.Resumed row t := by
  have perm := List.mergeSort_perm g.host.repository.tenants
    fun a b => a.createdAt.notAfter b.createdAt
  have distinct : Keyed.Distinct Profile.token g.host.repository.all :=
    (perm.map Profile.token).nodup_iff.mpr fresh.rows
  exact g.loadEach_resumed distinct (perm.symm.subset stored)

end Gateway

/-- What the store has of a tenant tells where its session stands. -/
structure Tenant.RecordedAs (t : Tenant) (row : Profile) : Prop where
  profile : { row with updatedAt := t.profile.updatedAt } = t.profile
  identity : t.wid = t.profile.identity
  status : row.initialStatus = t.status.atRest
  pairing : t.status ≠ .pairing
  loggedOut : row.initialStatus = .loggedOut ↔ t.status = .loggedOut
  unprepared : row.initialStatus = .unprepared ↔ t.status = .unprepared
  disconnected : row.initialStatus = .disconnected ↔ t.status = .ready ∨ t.status = .disconnected

namespace Gateway

theorem Consistent.recordedAs {g : Gateway} (consistent : g.Consistent) {t : Tenant}
    (loaded : t ∈ g.tenants) :
    ∃ row, g.host.repository.find? t.token = some row ∧ t.RecordedAs row := by
  have recorded := consistent.recorded t loaded
  obtain ⟨row, found, equal⟩ := recorded.stored
  have same : row.initialStatus = t.profile.initialStatus := by
    rw [← show _ = t.profile from equal]
    rfl
  obtain ⟨pairing, loggedOut, unprepared, disconnected⟩ := recorded.initialStatus
  refine ⟨row, found, equal, recorded.identity, same.trans recorded.status, pairing, ?_, ?_, ?_⟩
  · rw [same]
    exact loggedOut
  · rw [same]
    exact unprepared
  · rw [same]
    exact disconnected

/-- However a gateway is used, the store tells where the session of each tenant stands. The next
gateway on the store loads each of them, starts exactly those whose session was not ended, and
opens again the sessions that were up or about to come back. -/
theorem sessions_survive_restart {g : Gateway} (fresh : g.Fresh) {actions : List Action}
    (named : ∀ a ∈ actions, a.Named) {t : Tenant} (loaded : t ∈ (g.run actions).tenants) :
    ∃ row, (g.run actions).host.repository.find? t.token = some row ∧ t.RecordedAs row ∧
      ∀ next : Gateway, next.Fresh → next.host.repository = (g.run actions).host.repository →
        row ∈ next.host.repository.all ∧
        (∀ before : Gateway, before.loadAndStart row =
          if t.status = .loggedOut then before.load row
          else (before.load row).startTenant row.token) ∧
        ∃ t', Keyed.find? Tenant.token t.token next.loadAll.1.tenants = some t' ∧
          t'.profile = row ∧ t'.status = t.status.atRest ∧
          (t'.link.isSome = true ↔ t.status = .ready ∨ t.status = .disconnected) := by
  obtain ⟨row, found, recorded⟩ := (fresh.consistent.run named).recordedAs loaded
  refine ⟨row, found, recorded, ?_⟩
  intro next opened same
  have row' := Keyed.find?_some found
  have stored : row ∈ next.host.repository.tenants := by
    rw [same]
    exact row'.1
  obtain ⟨t', resumed⟩ := loadAll_resumed opened stored
  refine ⟨(List.mergeSort_perm _ _).symm.subset stored, ?_, t', ?_, resumed.profile, ?_, ?_⟩
  · intro before
    rw [loadAndStart_eq]
    simp only [recorded.loggedOut]
  · rw [← row'.2]
    exact resumed.loaded
  · exact resumed.status.trans recorded.status
  · rw [resumed.session]
    exact recorded.disconnected

/-- A stored tenant that is logged out while it runs has no session after the restart. -/
theorem ended_session_stays_closed :
    let p : Profile :=
      { token := "tok", wid := some "5511999990000@s.whatsapp.net", verified := true
        createdAt := .epoch, updatedAt := .epoch }
    let host : Host :=
      { settings := {}, office := ⟨""⟩, hub := {}, clock := ⟨.epoch⟩
        repository := { tenants := [p] } }
    let g := run { host := host } [.loadAll, .atTenant "tok" (.event (.loggedOut "revoked"))]
    let next : Gateway := { host := { host with repository := g.host.repository } }
    ∃ t ∈ g.tenants, t.status = .loggedOut ∧
      ∃ t', Keyed.find? Tenant.token "tok" next.loadAll.1.tenants = some t' ∧
        t'.status = .loggedOut ∧ t'.link.isSome = false := by
  intro p host g next
  have fresh : Fresh { host := host } := ⟨rfl, rfl, List.nodup_singleton _⟩
  have named : ∀ a ∈ [Action.loadAll, .atTenant "tok" (.event (.loggedOut "revoked"))],
      a.Named := by
    intro a member
    rcases List.mem_cons.mp member with rfl | member
    · trivial
    · rw [List.mem_singleton.mp member]
      trivial
  have stored : p ∈ host.repository.tenants := List.mem_singleton_self p
  obtain ⟨t, resumed⟩ := loadAll_resumed fresh stored
  have found := find?_some resumed.loaded
  generalize start : (loadAll { host := host }).1 = g₁ at found
  have ended : g = g₁.put (Hosted.onLoggedOut ⟨t, g₁.host⟩ "revoked") := by
    change (withTenant (loadAll { host := host }).1 "tok" _).1 = _
    rw [start, withTenant, get, found]
    rfl
  have allowed : t.status.allows .loggedOut = true := by
    rw [resumed.status]
    decide
  have standing := Hosted.onLoggedOut_standing (h := ⟨t, g₁.host⟩) allowed "revoked"
  generalize Hosted.onLoggedOut ⟨t, g₁.host⟩ "revoked" = h at ended standing
  have status : h.tenant.status = .loggedOut := congrArg Hosted.Standing.status standing
  have token : h.tenant.token = "tok" := by
    have profile := congrArg (fun s => s.profile.token) standing
    exact profile.trans (congrArg Profile.token resumed.profile)
  have loaded : h.tenant ∈ g.tenants := by
    rw [ended]
    exact (Keyed.find?_some (Keyed.find?_put_self h.tenant g₁.tenants)).1
  obtain ⟨row, _, _, restart⟩ := sessions_survive_restart fresh named loaded
  have opened : next.Fresh := ⟨rfl, rfl, (fresh.consistent.run named).rows⟩
  obtain ⟨_, _, t', found', _, status', session⟩ := restart next opened rfl
  rw [token] at found'
  rw [status] at status' session
  refine ⟨h.tenant, loaded, status, t', found', status', ?_⟩
  simpa using session

end Gateway

end ChatGateway

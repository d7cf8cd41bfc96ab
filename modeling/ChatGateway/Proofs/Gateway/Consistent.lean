import ChatGateway.Gateway.Directory
import ChatGateway.Gateway.Settle
import ChatGateway.Proofs.Tenant.Recorded

namespace ChatGateway

open Hosted (Leads Quiet)
open Hosted.Standing (Lasting)

/-- A proper identity. -/
abbrev Proper (wid : String) : Prop := wid ≠ ""

theorem Hosted.Standing.Lasting.at_host (ids : String → Prop) {R : Hosted.Standing → Prop}
    [lasting : Lasting ids R] {t : Tenant} {host host' : Host}
    (holds : R (Hosted.standing ⟨t, host⟩))
    (row : host'.repository.find? t.token = host.repository.find? t.token) :
    R (Hosted.standing ⟨t, host'⟩) :=
  lasting.of_row (s := Hosted.standing ⟨t, host⟩) row holds

namespace Gateway

/-- The store has each token once, and so has the gateway; `R` holds of each loaded tenant. -/
structure Keeps (ids : String → Prop) (R : Hosted.Standing → Prop) (g : Gateway) : Prop where
  tokens : Keyed.Distinct Tenant.token g.tenants
  rows : Keyed.Distinct Profile.token g.host.repository.tenants
  hears : ∀ e ∈ g.host.exchange.mail, e.Names ids
  recorded : ∀ t ∈ g.tenants, R (Hosted.standing ⟨t, g.host⟩)

/-- Each loaded tenant is recorded in the store. -/
abbrev Consistent (g : Gateway) : Prop := g.Keeps Proper Hosted.Standing.Recorded

theorem find?_loaded {g : Gateway} {token : String} {h : Hosted} (found : g.find? token = some h) :
    ∃ t ∈ g.tenants, t.token = token ∧ h = ⟨t, g.host⟩ := by
  obtain ⟨t, there, rfl⟩ := Option.map_eq_some_iff.mp found
  exact ⟨t, (Keyed.find?_some there).1, (Keyed.find?_some there).2, rfl⟩

theorem find?_unloaded {g : Gateway} {token : String} (missing : g.find? token = none) :
    ∀ t ∈ g.tenants, t.token ≠ token :=
  Keyed.find?_eq_none.mp (Option.map_eq_none_iff.mp missing)

theorem find?_some {g : Gateway} {token : String} {t : Tenant}
    (found : Keyed.find? Tenant.token token g.tenants = some t) :
    g.find? token = some ⟨t, g.host⟩ := by
  rw [find?, found]
  rfl

namespace Keeps

variable {ids : String → Prop} {R : Hosted.Standing → Prop} [Lasting ids R] {g : Gateway}

theorem with_host (keeps : g.Keeps ids R) {host : Host}
    (rows : Keyed.Distinct Profile.token host.repository.tenants)
    (hears : ∀ e ∈ host.exchange.mail, e.Names ids)
    (kept : ∀ t ∈ g.tenants, host.repository.find? t.token = g.host.repository.find? t.token) :
    Keeps ids R { g with host := host } :=
  ⟨keeps.tokens, rows, hears, fun t member =>
    Lasting.at_host ids (keeps.recorded t member) (kept t member)⟩

theorem with_quiet_host (keeps : g.Keeps ids R) {host : Host}
    (rows : host.repository.tenants = g.host.repository.tenants)
    (mail : host.exchange.mail ⊆ g.host.exchange.mail) : Keeps ids R { g with host := host } := by
  apply keeps.with_host
  · rw [rows]
    exact keeps.rows
  · exact fun e waiting => keeps.hears e (mail waiting)
  · intro t _
    rw [Store.Repository.find?, rows, Store.Repository.find?]

/-- A tenant is put back, or loaded anew, after whatever was done at it. -/
theorem put (keeps : g.Keeps ids R) {t : Tenant} {h : Hosted}
    (recorded : R (Hosted.standing ⟨t, g.host⟩)) (leads : Leads ids ⟨t, g.host⟩ h) :
    (g.put h).Keeps ids R := by
  have token : h.tenant.token = t.token := leads.steps.token
  refine ⟨Keyed.put_distinct h.tenant keeps.tokens, leads.steps.distinct keeps.rows,
    leads.hears keeps.hears, ?_⟩
  intro other member
  -- The others are recorded by rows that no step of this tenant touches.
  rcases (Keyed.mem_put keeps.tokens).mp member with rfl | ⟨member, different⟩
  · exact leads.steps.lasting recorded
  · rw [token] at different
    exact Lasting.at_host ids (keeps.recorded other member) (leads.steps.others different)

theorem withTenant {α : Type} (keeps : g.Keeps ids R) (token : String)
    {act : Hosted → Hosted × Except Failure α}
    (leads : ∀ h : Hosted, h.Hears ids → Leads ids h (act h).1) :
    (g.withTenant token act).1.Keeps ids R := by
  unfold Gateway.withTenant Gateway.get
  cases found : g.find? token with
  | none => exact keeps
  | some h =>
      obtain ⟨t, loaded, _, rfl⟩ := find?_loaded found
      exact keeps.put (keeps.recorded t loaded) (leads _ keeps.hears)

theorem forEach (keeps : g.Keeps ids R) {act : Hosted → Hosted}
    (leads : ∀ h : Hosted, h.Hears ids → Leads ids h (act h)) :
    (g.forEach act).Keeps ids R := by
  apply List.foldlRecOn
  · exact keeps
  · intro g keeps t _
    cases found : g.find? t.token with
    | none => exact keeps
    | some h =>
        obtain ⟨t, loaded, _, rfl⟩ := find?_loaded found
        exact keeps.put (keeps.recorded t loaded) (leads _ keeps.hears)

end Keeps

theorem retire_quiet (g : Gateway) (token : String) :
    (g.retire token).host.repository.tenants = g.host.repository.tenants ∧
      (g.retire token).host.exchange.mail ⊆ g.host.exchange.mail := by
  unfold retire
  cases found : g.find? token with
  | none => exact ⟨rfl, List.Subset.refl _⟩
  | some h =>
      obtain ⟨t, _, _, rfl⟩ := find?_loaded found
      have quiet := Hosted.shutdown_quiet ⟨t, g.host⟩
      exact ⟨congrArg Hosted.Standing.rows quiet.standing, quiet.mail⟩

theorem retire_tenants (g : Gateway) (token : String) : (g.retire token).tenants = g.tenants := by
  unfold Gateway.retire
  split <;> rfl

/-- A tenant is loaded as it is stored, with its webhooks attached and without a session. -/
theorem load_eq (g : Gateway) (p : Profile) :
    ∃ h, g.load p = (g.retire p.token).put h ∧ h.tenant.link = none ∧
      Quiet ⟨Tenant.ofProfile (g.retire p.token).host.settings p (g.retire p.token).closing,
        (g.retire p.token).host⟩ h :=
  ⟨_, rfl, Hosted.attachAll_link _ _, Hosted.attachAll_quiet _ _⟩

theorem load_rows (g : Gateway) (p : Profile) :
    (g.load p).host.repository.tenants = g.host.repository.tenants := by
  obtain ⟨h, equal, _, quiet⟩ := g.load_eq p
  rw [equal]
  exact (congrArg Hosted.Standing.rows quiet.standing).trans (g.retire_quiet p.token).1

theorem startTenant_rows (g : Gateway) (token : String) :
    (g.startTenant token).host.repository.tenants = g.host.repository.tenants := by
  unfold startTenant
  cases found : g.find? token with
  | none => rfl
  | some h =>
      obtain ⟨t, _, _, rfl⟩ := find?_loaded found
      rcases Hosted.start_cases ⟨t, g.host⟩ with ⟨_, same⟩ | ⟨_, _, _, standing, _⟩
      · exact congrArg (fun h => h.host.repository.tenants) same
      · exact congrArg Hosted.Standing.rows standing

theorem loadAndStart_rows (g : Gateway) (p : Profile) :
    (g.loadAndStart p).host.repository.tenants = g.host.repository.tenants := by
  unfold loadAndStart
  dsimp only
  split
  · split
    · exact (startTenant_rows _ _).trans (g.load_rows p)
    · exact g.load_rows p
  · exact g.load_rows p

theorem loadEach_rows (g : Gateway) (ps : List Profile) :
    (ps.foldl loadAndStart g).host.repository.tenants = g.host.repository.tenants := by
  induction ps generalizing g with
  | nil => rfl
  | cons p rest ih => exact (ih (g.loadAndStart p)).trans (g.loadAndStart_rows p)

namespace Keeps

variable {ids : String → Prop} {R : Hosted.Standing → Prop} [Lasting ids R] {g : Gateway}

theorem retire (keeps : g.Keeps ids R) (token : String) : (g.retire token).Keeps ids R := by
  obtain ⟨rows, mail⟩ := g.retire_quiet token
  unfold Gateway.retire at rows mail ⊢
  split
  · next found =>
    rw [found] at rows mail
    exact keeps.with_quiet_host rows mail
  · exact keeps

theorem load (keeps : g.Keeps ids R) {p : Profile}
    (stored : p.StoredIn g.host.repository.tenants) : (g.load p).Keeps ids R := by
  obtain ⟨h, equal, _, quiet⟩ := g.load_eq p
  rw [← (g.retire_quiet p.token).1] at stored
  rw [equal]
  exact (keeps.retire p.token).put (Lasting.of_load ids _ _ _ stored) (.of_quiet quiet)

theorem startTenant (keeps : g.Keeps ids R) (token : String) :
    (g.startTenant token).Keeps ids R := by
  unfold Gateway.startTenant
  cases found : g.find? token with
  | none => exact keeps
  | some h =>
      obtain ⟨t, loaded, _, rfl⟩ := find?_loaded found
      exact keeps.put (keeps.recorded t loaded) (Hosted.start_leads (Lasting.full R) _)

theorem loadAndStart (keeps : g.Keeps ids R) {p : Profile}
    (stored : p.StoredIn g.host.repository.tenants) : (g.loadAndStart p).Keeps ids R := by
  have loaded := keeps.load stored
  unfold Gateway.loadAndStart
  dsimp only
  split
  · split
    · exact loaded.startTenant p.token
    · exact loaded
  · exact loaded

omit [Lasting ids R] in
theorem all_stored (keeps : g.Keeps ids R) {p : Profile}
    (member : p ∈ g.host.repository.all) : p.StoredIn g.host.repository.tenants := by
  have row := (List.mergeSort_perm _ _).subset member
  exact ⟨p, (Keyed.find?_eq_some keeps.rows).mpr ⟨row, rfl⟩, rfl⟩

theorem loadEach (keeps : g.Keeps ids R) {ps : List Profile}
    (stored : ∀ p ∈ ps, p.StoredIn g.host.repository.tenants) :
    (ps.foldl Gateway.loadAndStart g).Keeps ids R := by
  induction ps generalizing g with
  | nil => exact keeps
  | cons p rest ih =>
      apply ih (keeps.loadAndStart (stored p List.mem_cons_self))
      intro q later
      rw [g.loadAndStart_rows p]
      exact stored q (List.mem_cons_of_mem p later)

theorem loadAll (keeps : g.Keeps ids R) : g.loadAll.1.Keeps ids R :=
  keeps.loadEach fun _ => keeps.all_stored

theorem findOrCreate (keeps : g.Keeps ids R) {token : String}
    (unloaded : ∀ t ∈ g.tenants, t.token ≠ token) :
    (g.findOrCreate token).1.Keeps ids R ∧
      (g.findOrCreate token).2.StoredIn (g.findOrCreate token).1.host.repository.tenants := by
  unfold Gateway.findOrCreate
  split
  · next p found =>
    have there := Keyed.find?_some found
    exact ⟨keeps, p, (Keyed.find?_eq_some keeps.rows).mpr ⟨there.1, rfl⟩, rfl⟩
  · dsimp only
    have row := @Keyed.find?_put_self _ _ _ _ Profile.token
      { Profile.fresh token g.host.now.1 with updatedAt := g.host.now.2.now.1 }
      g.host.repository.tenants
    constructor
    · apply keeps.with_host
      · simp only [Host.save_repository, Host.now_repository]
        exact Keyed.put_distinct _ keeps.rows
      · simp only [Host.save_exchange, Host.now_exchange]
        exact keeps.hears
      · intro t member
        simp only [Host.save_repository, Host.now_repository]
        exact Keyed.find?_put_ne _ (unloaded t member)
    · simp only [Host.save_repository, Host.now_repository]
      exact ⟨_, row, rfl⟩

theorem ensureLoaded (keeps : g.Keeps ids R) (token : String) :
    (g.ensureLoaded token).Keeps ids R := by
  unfold Gateway.ensureLoaded
  split
  · exact keeps
  · next missing =>
    have unloaded : ∀ t ∈ g.tenants, t.token ≠ token := by
      intro t member same
      exact missing (Keyed.has_iff.mpr ⟨t, member, same⟩)
    obtain ⟨created, stored⟩ := keeps.findOrCreate unloaded
    exact created.load stored

theorem pair (keeps : g.Keeps ids R) (token wid : String) :
    (g.pair token wid).1.Keeps ids R := by
  unfold Gateway.pair
  dsimp only
  split
  · exact keeps
  · split
    · exact keeps
    · next full =>
      split
      · exact keeps
      · apply (keeps.ensureLoaded _).withTenant
        intro h hears
        have proper : Proper (Text.trim wid) := by simpa using full
        have reported : ids (Text.trim wid) := Lasting.full R _ proper
        have paired := Hosted.pair_leads h reported
        exact paired.trans (Hosted.start_leads (Lasting.full R) _)

omit [Lasting ids R] in
theorem remove (keeps : g.Keeps ids R) (token : String) : (g.remove token).Keeps ids R := by
  refine ⟨Keyed.erase_distinct token keeps.tokens, keeps.rows, keeps.hears, ?_⟩
  intro t member
  exact keeps.recorded t (Keyed.mem_erase.mp member).1

theorem deleteRow (keeps : g.Keeps ids R) {token : String}
    (unloaded : ∀ t ∈ g.tenants, t.token ≠ token) :
    Keeps ids R { g with host := { g.host with
      repository := (g.host.repository.delete token).1 } } := by
  apply keeps.with_host
  · exact Keyed.erase_distinct token keeps.rows
  · exact keeps.hears
  · exact fun t member => Keyed.find?_erase_ne _ (unloaded t member)

theorem delete (keeps : g.Keeps ids R) (token : String) : (g.delete token).1.Keeps ids R := by
  unfold Gateway.delete
  cases found : g.find? token with
  | none => exact keeps.deleteRow (find?_unloaded found)
  | some h =>
      obtain ⟨t, _, _, rfl⟩ := find?_loaded found
      have quiet := Hosted.logout_quiet ⟨t, g.host⟩
      have ended := (keeps.remove token).with_quiet_host
        (congrArg Hosted.Standing.rows quiet.standing) quiet.mail
      apply ended.deleteRow
      exact fun other member => (Keyed.mem_erase.mp member).2

theorem shutdown (keeps : g.Keeps ids R) : g.shutdown.Keeps ids R := by
  have each : ∀ before : Host, before.repository.tenants = g.host.repository.tenants ∧
      before.exchange.mail ⊆ g.host.exchange.mail → ∀ t ∈ g.tenants,
      (Hosted.shutdown ⟨t, before⟩).host.repository.tenants = g.host.repository.tenants ∧
        (Hosted.shutdown ⟨t, before⟩).host.exchange.mail ⊆ g.host.exchange.mail := by
    intro before kept t _
    obtain ⟨rows, mail⟩ := kept
    have quiet := Hosted.shutdown_quiet ⟨t, before⟩
    exact ⟨(congrArg Hosted.Standing.rows quiet.standing).trans rows,
      List.Subset.trans quiet.mail mail⟩
  obtain ⟨rows, mail⟩ := List.foldlRecOn
    (motive := fun host : Host => host.repository.tenants = g.host.repository.tenants ∧
      host.exchange.mail ⊆ g.host.exchange.mail)
    g.tenants _ ⟨rfl, List.Subset.refl _⟩ each
  have quiet := keeps.with_quiet_host rows mail
  exact ⟨List.nodup_nil, quiet.rows, quiet.hears, fun t member => by cases member⟩

end Keeps

end Gateway

end ChatGateway

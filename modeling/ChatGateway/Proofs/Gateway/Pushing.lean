import ChatGateway.Proofs.Gateway.Deeds
import ChatGateway.Proofs.Push.Traffic
import ChatGateway.Proofs.Tenant.Entries

namespace ChatGateway

namespace Push

/-- All that is done at a hub is to dispatch records. -/
abbrev Hub.Fed : Hub → Hub → Prop :=
  Relation.ReflTransGen fun hub hub' => ∃ token m, hub' = (hub.dispatch token m).1

theorem Hub.Fed.of_eq {hub hub' : Hub} (same : hub' = hub) : hub.Fed hub' := same ▸ .refl

theorem Traffic.Sound.fed {t : Traffic} {settings : PushSettings} (sound : t.Sound settings)
    {hub : Hub} (fed : t.hub.Fed hub) :
    ∃ t' : Traffic, t'.Sound settings ∧ t'.hub = hub ∧ t'.opened = t.opened ∧
      t'.granted = t.granted := by
  induction fed with
  | refl => exact ⟨t, sound, rfl, rfl, rfl⟩
  | tail _ sent ih =>
      obtain ⟨t', sound', rfl, opened, granted⟩ := ih
      obtain ⟨token, m, rfl⟩ := sent
      exact ⟨t'.step (.dispatch token m), sound'.dispatch token m, rfl, opened, granted⟩

end Push

namespace Hosted

theorem Turn.fed {h h' : Hosted} (turn : Turn h h') : h.host.hub.Fed h'.host.hub := by
  cases turn with
  | clock => exact .of_eq h.host.now_hub
  | profile change own =>
      refine .of_eq ?_
      simp only [updateProfile, Host.save_hub, Host.now_hub]
  | trigger m => exact .single ⟨h.tenant.token, m, rfl⟩
  | hangUp => exact .of_eq (congrArg (·.host.hub) h.dropLink_eq)
  | start =>
      rcases h.start_eq with same | ⟨exchange, link, _, same⟩
      · exact .of_eq (congrArg (·.host.hub) same)
      · exact .of_eq (congrArg (·.host.hub) same)
  | _ => exact .refl

theorem Turns.fed {h h' : Hosted} (turns : Turns h h') : h.host.hub.Fed h'.host.hub := by
  induction turns with
  | refl => exact .refl
  | tail _ turn ih => exact ih.trans turn.fed

theorem act_fed (h : Hosted) (a : Action) : h.host.hub.Fed (h.act a).host.hub := by
  by_cases calm : a.Calm
  · exact (h.act_turns calm).fed
  · exact .of_eq (h.act_apart calm).2.2

theorem work_hub (h : Hosted) (id : String) (s : WorkerStep) :
    (h.work id s).host.hub = h.host.hub := by
  cases s with
  | take => rfl
  | halt => rfl
  | finish net =>
      unfold work
      dsimp only
      split
      · rfl
      · split <;> rfl

end Hosted

namespace Gateway

theorem has_iff {g : Gateway} {token : String} :
    g.has token = true ↔ ∃ t, Keyed.find? Tenant.token token g.tenants = some t := by
  rw [has, Keyed.has_eq_isSome, Option.isSome_iff_exists]

theorem put_has (g : Gateway) (h : Hosted) (token : String) :
    (g.put h).has token = (g.has token || h.tenant.token == token) := by
  rw [has, has, Keyed.has_eq_isSome, Keyed.has_eq_isSome, put]
  by_cases own : token = h.tenant.token
  · rw [own, Keyed.find?_put_self, beq_self_eq_true, Bool.or_true]
    rfl
  · rw [Keyed.find?_put_ne _ own, beq_false_of_ne (Ne.symm own), Bool.or_false]

/-- Records are dispatched, and the tenants that are loaded stay. -/
structure Serves (g g' : Gateway) : Prop where
  fed : g.host.hub.Fed g'.host.hub
  loaded : ∀ token, g.has token = true → g'.has token = true

namespace Serves

variable {g g₁ g₂ g₃ g' : Gateway}

theorem refl (g : Gateway) : Serves g g := ⟨.refl, fun _ here => here⟩

theorem trans (first : Serves g₁ g₂) (second : Serves g₂ g₃) : Serves g₁ g₃ :=
  ⟨first.fed.trans second.fed, fun token here => second.loaded token (first.loaded token here)⟩

theorem of_host {host : Host} (same : host.hub = g.host.hub) : Serves g { g with host := host } :=
  ⟨.of_eq same, fun _ here => here⟩

theorem put {h : Hosted} (fed : g.host.hub.Fed h.host.hub) : Serves g (g.put h) := by
  refine ⟨fed, fun token here => ?_⟩
  rw [put_has, here, Bool.true_or]

theorem withTenant {α : Type} (g : Gateway) (token : String)
    {act : Hosted → Hosted × Except Failure α}
    (fed : ∀ h : Hosted, h.host.hub.Fed (act h).1.host.hub) :
    Serves g (g.withTenant token act).1 := by
  unfold Gateway.withTenant get find?
  cases Keyed.find? Tenant.token token g.tenants with
  | none => exact refl g
  | some t => exact put (fed ⟨t, g.host⟩)

theorem forEach (g : Gateway) {act : Hosted → Hosted}
    (fed : ∀ h : Hosted, h.host.hub.Fed (act h).host.hub) : Serves g (g.forEach act) := by
  apply List.foldlRecOn (motive := Serves g)
  · exact refl g
  · intro g' serves t _
    refine serves.trans ?_
    unfold find?
    cases Keyed.find? Tenant.token t.token g'.tenants with
    | none => exact refl g'
    | some t' => exact put (fed ⟨t', g'.host⟩)

theorem retire (g : Gateway) (token : String) : Serves g (g.retire token) := by
  unfold Gateway.retire
  cases found : g.find? token with
  | none => exact refl g
  | some h =>
      obtain ⟨t, _, _, rfl⟩ := find?_loaded found
      refine of_host ?_
      rw [Hosted.shutdown_host]

theorem load (g : Gateway) (p : Profile) : Serves g (g.load p) := by
  refine (retire g p.token).trans ?_
  unfold Gateway.load
  exact put (.of_eq (congrArg Host.hub (Hosted.attachAll_host _ _)))

theorem startTenant (g : Gateway) (token : String) : Serves g (g.startTenant token) := by
  unfold Gateway.startTenant
  cases found : g.find? token with
  | none => exact refl g
  | some h =>
      obtain ⟨t, _, _, rfl⟩ := find?_loaded found
      exact put (@Hosted.Turn.start ⟨t, g.host⟩).fed

theorem loadAndStart (g : Gateway) (p : Profile) : Serves g (g.loadAndStart p) := by
  have loaded := load g p
  unfold Gateway.loadAndStart
  dsimp only
  split
  · split
    · exact loaded.trans (startTenant _ p.token)
    · exact loaded
  · exact loaded

theorem loadAll (g : Gateway) : Serves g g.loadAll.1 :=
  List.foldlRecOn (motive := Serves g) _ _ (refl g) fun g' serves p _ =>
    serves.trans (loadAndStart g' p)

theorem findOrCreate (g : Gateway) (token : String) : Serves g (g.findOrCreate token).1 := by
  unfold Gateway.findOrCreate
  split
  · exact refl g
  · refine of_host ?_
    simp only [Host.save_hub, Host.now_hub]

theorem ensureLoaded (g : Gateway) (token : String) : Serves g (g.ensureLoaded token) := by
  unfold Gateway.ensureLoaded
  split
  · exact refl g
  · exact (findOrCreate g token).trans (load _ _)

theorem pair (g : Gateway) (token wid : String) : Serves g (g.pair token wid).1 := by
  unfold Gateway.pair
  dsimp only
  split
  · exact refl g
  · split
    · exact refl g
    · split
      · exact refl g
      · refine (ensureLoaded g _).trans (withTenant _ _ fun h => ?_)
        exact Hosted.Turns.fed ((h.pair_turns _).tail .start)

theorem send (g : Gateway) (token : String) (r : Outbound.Request) :
    Serves g (g.send token r).1 :=
  withTenant g token fun h => (h.request_turns r).fed

theorem addWebhook (g : Gateway) (token : String) (w : Webhook) :
    Serves g (g.addWebhook token w).1 := by
  unfold Gateway.addWebhook
  refine withTenant g token fun h => ?_
  have fed := h.act_fed (.addWebhook w)
  rwa [Hosted.act] at fed

theorem removeWebhook (g : Gateway) (token url : String) :
    Serves g (g.removeWebhook token url).1 := by
  unfold Gateway.removeWebhook
  exact withTenant g token fun h => h.act_fed (.removeWebhook url)

theorem toggleWebhook (g : Gateway) (token url : String) (option : WebhookOption) :
    Serves g (g.toggleWebhook token url option).1 :=
  withTenant g token fun h => h.act_fed (.toggleWebhook url option)

theorem atTenant (g : Gateway) (token : String) (a : Hosted.Action) :
    Serves g (g.withTenant token fun h => (h.act a, Except.ok (ε := Failure) ())).1 :=
  withTenant g token fun h => h.act_fed a

theorem inject (g : Gateway) (token : String) (e : Session.Event) :
    Serves g (g.inject token e) := by
  unfold Gateway.inject
  split
  · exact refl g
  · exact of_host rfl

theorem settle (g : Gateway) (net : Network) : Serves g (g.settle net) := by
  have taken := forEach g fun h => h.act_fed .takeEvents
  unfold Gateway.settle
  dsimp only
  refine (taken.trans (of_host ?_)).trans (forEach _ fun h => h.act_fed (.deliver net))
  rfl

theorem work (g : Gateway) (token id : String) (s : Hosted.WorkerStep) :
    Serves g (g.withTenant token fun h => (h.work id s, Except.ok (ε := Failure) ())).1 :=
  withTenant g token fun h => .of_eq (h.work_hub id s)

theorem act (g : Gateway) {a : Action} (stays : ∀ token, a ≠ .delete token) (up : a ≠ .shutdown) :
    Serves g (g.act a) := by
  cases a with
  | loadAll => exact loadAll g
  | pair token wid => exact pair g token wid
  | delete token => exact absurd rfl (stays token)
  | send token r => exact send g token r
  | addWebhook token w => exact addWebhook g token w
  | removeWebhook token url => exact removeWebhook g token url
  | toggleWebhook token url option => exact toggleWebhook g token url option
  | inject token e => exact inject g token e
  | settle net => exact settle g net
  | atTenant token a => exact atTenant g token a
  | shutdown => exact absurd rfl up

end Serves

variable (g : Gateway)

theorem delete_hub (token : String) : (g.delete token).1.host.hub = g.host.hub := by
  unfold Gateway.delete
  cases found : g.find? token with
  | none => rfl
  | some h =>
      obtain ⟨t, _, _, rfl⟩ := find?_loaded found
      obtain ⟨exchange, same⟩ := Hosted.logout_host ⟨t, g.host⟩
      simp only [same]

theorem delete_has (token other : String) :
    (g.delete token).1.has other = (g.has other && other != token) := by
  have tenants : (g.delete token).1.tenants = Keyed.erase Tenant.token token g.tenants := by
    unfold Gateway.delete
    cases found : g.find? token with
    | none => exact (Keyed.erase_of_absent (Option.map_eq_none_iff.mp found)).symm
    | some h => rfl
  rw [has, has, Keyed.has_eq_isSome, Keyed.has_eq_isSome, tenants]
  by_cases own : other = token
  · rw [own, Keyed.find?_erase_self, bne_self_eq_false, Bool.and_false]
    rfl
  · rw [Keyed.find?_erase_ne _ own, bne_iff_ne.mpr own, Bool.and_true]

theorem shutdown_hub : g.shutdown.host.hub = g.host.hub.closeAll := by
  have each : ∀ before : Host, before.hub = g.host.hub → ∀ t ∈ g.tenants,
      (Hosted.shutdown ⟨t, before⟩).host.hub = g.host.hub := by
    intro before same t _
    rw [Hosted.shutdown_host]
    exact same
  have kept := List.foldlRecOn (motive := fun host : Host => host.hub = g.host.hub) g.tenants _ rfl
    each
  exact congrArg Push.Hub.closeAll kept

end Gateway

end ChatGateway

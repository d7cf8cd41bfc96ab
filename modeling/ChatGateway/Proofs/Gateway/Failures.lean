import ChatGateway.Proofs.Gateway.Deeds

namespace ChatGateway

namespace Hosted

/-- Time went by and numbers were drawn, and nothing else happened. -/
def Unmoved (h h' : Hosted) : Prop :=
  ∃ clock number, h' = { h with host := { h.host with clock := clock, nextId := number } }

theorem Unmoved.refl (h : Hosted) : Unmoved h h := ⟨h.host.clock, h.host.nextId, rfl⟩

theorem Unmoved.trans {h h' h'' : Hosted} (first : Unmoved h h') (second : Unmoved h' h'') :
    Unmoved h h'' := by
  obtain ⟨_, _, rfl⟩ := first
  obtain ⟨clock, number, rfl⟩ := second
  exact ⟨clock, number, rfl⟩

variable {h : Hosted} {e : Failure}

/-- A session that refuses a message has not written it down. -/
theorem sendOn_failed {id : Session.LinkId} {m : Message} (failed : (h.sendOn id m).2 = .error e) :
    Unmoved h (h.sendOn id m).1 := by
  have numbered : Unmoved h { h with host := h.host.freshNumber.2 } := ⟨_, _, rfl⟩
  unfold sendOn at failed ⊢
  dsimp only at failed ⊢
  split at failed
  · exact numbered
  · split at failed
    · exact numbered
    · cases failed

theorem send_failed {m : Message} (failed : (h.send m).2 = .error e) : Unmoved h (h.send m).1 := by
  unfold send at failed ⊢
  split at failed
  · exact .refl h
  · next link _ =>
    dsimp only at failed ⊢
    split at failed
    · next h' e' result =>
      have refused : (h.sendOn link { m with fromMe := true, fromInternal := true }).2 =
          .error e' := by rw [result]
      have unmoved := sendOn_failed refused
      rw [result] at unmoved
      exact unmoved
    · cases failed

theorem revoke_failed {id : String} {byBeginning : Bool}
    (failed : (h.revoke id byBeginning).2 = .error e) : (h.revoke id byBeginning).1 = h := by
  unfold revoke revokeOn at failed ⊢
  split at failed
  · rfl
  · cases failed

theorem addWebhook_failed {w : Webhook} (failed : (h.addWebhook w).2 = .error e) :
    (h.addWebhook w).1 = h := by
  cases web : isWebAddress (Text.trim w.url) with
  | false => simp only [addWebhook, web, Bool.not_false, if_true]
  | true => simp only [addWebhook, web, Bool.not_true, Bool.false_eq_true, if_false,
      reduceCtorEq] at failed

theorem toggleWebhook_failed {url : String} {option : WebhookOption}
    (failed : (h.toggleWebhook url option).2 = .error e) :
    (h.toggleWebhook url option).1 = h := by
  unfold toggleWebhook at failed ⊢
  split at failed
  · rfl
  · cases failed

end Hosted

namespace Gateway

/-- Time went by and numbers were drawn, and nothing else happened. -/
def Unmoved (g g' : Gateway) : Prop :=
  ∃ clock number, g' = { g with host := { g.host with clock := clock, nextId := number } }

theorem Unmoved.refl (g : Gateway) : Unmoved g g := ⟨g.host.clock, g.host.nextId, rfl⟩

section Failing

variable {α : Type} {g : Gateway} {token : String} {e : Failure}

/-- Putting back a tenant at which nothing happened is no change. -/
theorem put_unmoved {t : Tenant} (found : Keyed.find? Tenant.token token g.tenants = some t)
    {h : Hosted} (unmoved : Hosted.Unmoved ⟨t, g.host⟩ h) : Unmoved g (g.put h) := by
  obtain ⟨clock, number, rfl⟩ := unmoved
  have own : t.token = token := (Keyed.find?_some found).2
  have same : Keyed.put Tenant.token t g.tenants = g.tenants := Keyed.put_same (own ▸ found)
  refine ⟨clock, number, ?_⟩
  rw [put, same]

theorem withTenant_failed {act : Hosted → Hosted × Except Failure α}
    (each : ∀ h, (act h).2 = .error e → Hosted.Unmoved h (act h).1)
    (failed : (g.withTenant token act).2 = .error e) : Unmoved g (g.withTenant token act).1 := by
  unfold withTenant get find? at failed ⊢
  cases found : Keyed.find? Tenant.token token g.tenants with
  | none => exact .refl g
  | some t =>
      rw [found] at failed
      exact put_unmoved found (each ⟨t, g.host⟩ failed)

theorem ensureLoaded_found (g : Gateway) (token : String) :
    ∃ t, Keyed.find? Tenant.token token (g.ensureLoaded token).tenants = some t := by
  unfold ensureLoaded
  split
  · next there =>
    rw [has, Keyed.has_eq_isSome] at there
    exact Option.isSome_iff_exists.mp there
  · have own : (g.findOrCreate token).2.token = token := by
      unfold findOrCreate
      split
      · next p found => exact (Keyed.find?_some found).2
      · rfl
    exact ⟨_, put_found _ ((Hosted.Spares.attachAll _ _).token.trans own)⟩

/-- Once everything asked of a pairing is in order, it is carried out. -/
theorem pair_failed {wid : String} (failed : (g.pair token wid).2 = .error e) :
    (g.pair token wid).1 = g := by
  unfold pair at failed ⊢
  dsimp only at failed ⊢
  split
  · rfl
  · next named =>
    rw [if_neg named] at failed
    split
    · rfl
    · next paired =>
      rw [if_neg paired] at failed
      split
      · rfl
      · next free =>
        rw [if_neg free] at failed
        obtain ⟨t, found⟩ := g.ensureLoaded_found (Text.trim token)
        simp only [withTenant, get, find?_some found, reduceCtorEq] at failed

theorem send_failed {r : Outbound.Request} (failed : (g.send token r).2 = .error e) :
    Unmoved g (g.send token r).1 := by
  refine withTenant_failed (fun h failed => ?_) failed
  dsimp only at failed ⊢
  split at failed
  · exact .refl h
  · next m _ =>
    have read : Hosted.Unmoved h { h with host := h.host.now.2 } := ⟨_, _, rfl⟩
    exact read.trans (Hosted.send_failed failed)

end Failing

/-- What users ask for and may be refused. -/
inductive Request where
  | send (token : String) (r : Outbound.Request)
  | pair (token wid : String)
  | addWebhook (token : String) (w : Webhook)
  | removeWebhook (token url : String)
  | toggleWebhook (token url : String) (option : WebhookOption)
  | revoke (token id : String) (byBeginning : Bool)

/-- The gateway after something was asked of it, and whether that was carried out. -/
def told {α : Type} (result : Gateway × Except Failure α) : Gateway × Except Failure Unit :=
  (result.1, result.2.map fun _ => ())

theorem told_failed {α : Type} {result : Gateway × Except Failure α} {e : Failure}
    (failed : (told result).2 = .error e) : result.2 = .error e := by
  obtain ⟨g, answer⟩ := result
  cases answer with
  | error e' => exact congrArg Except.error (Except.error.inj failed)
  | ok a => cases failed

def request (g : Gateway) : Request → Gateway × Except Failure Unit
  | .send token r => told (g.send token r)
  | .pair token wid => told (g.pair token wid)
  | .addWebhook token w => told (g.addWebhook token w)
  | .removeWebhook token url => told (g.removeWebhook token url)
  | .toggleWebhook token url option => told (g.toggleWebhook token url option)
  | .revoke token id byBeginning => told (g.withTenant token (·.revoke id byBeginning))

/-- A request that fails changes nothing: no tenant is loaded, unloaded or touched, and the store,
the sessions and the push connections are as they were. Nor does a revocation that fails at a tenant
that is no longer loaded. -/
theorem failed_requests_leave_no_trace (g : Gateway) (e : Failure) :
    (∀ r, (g.request r).2 = .error e → Unmoved g (g.request r).1) ∧
    ∀ t id byBeginning, (Hosted.revoke ⟨t, g.host⟩ id byBeginning).2 = .error e →
      (Hosted.revoke ⟨t, g.host⟩ id byBeginning).1 = ⟨t, g.host⟩ := by
  refine ⟨fun r failed => ?_, fun t id byBeginning => Hosted.revoke_failed⟩
  cases r with
  | send token r => exact send_failed (told_failed failed)
  | pair token wid =>
      have failed : (g.pair token wid).2 = .error e := told_failed failed
      rw [request, told, pair_failed failed]
      exact .refl g
  | addWebhook token w =>
      refine withTenant_failed (fun h failed => ?_) (told_failed failed)
      rw [Hosted.addWebhook_failed failed]
      exact .refl h
  | removeWebhook token url =>
      refine withTenant_failed (fun h failed => ?_) (told_failed failed)
      cases failed
  | toggleWebhook token url option =>
      refine withTenant_failed (fun h failed => ?_) (told_failed failed)
      rw [Hosted.toggleWebhook_failed failed]
      exact .refl h
  | revoke token id byBeginning =>
      refine withTenant_failed (fun h failed => ?_) (told_failed failed)
      rw [Hosted.revoke_failed failed]
      exact .refl h

/-- A tenant asks to be paired with the identity of another, and keeps its own. -/
theorem refused_pairing_is_forgotten :
    let host : Host := { settings := {}, office := ⟨""⟩, hub := {}, clock := ⟨.epoch⟩ }
    let deeds : List Deed :=
      [.act (.pair "a" "1@s.whatsapp.net"), .act (.pair "b" "2@s.whatsapp.net")]
    let g := after { host := host } deeds
    let answer := g.request (.pair "b" " 1@s.whatsapp.net ")
    answer.2 = .error
        (.conflict "wid '1@s.whatsapp.net' is already paired with another tenant") ∧
      Unmoved g answer.1 ∧ g.tenants.map Tenant.wid =
        [some "1@s.whatsapp.net", some "2@s.whatsapp.net"] := by
  intro host deeds g answer
  have refused : answer.2 = .error
      (.conflict "wid '1@s.whatsapp.net' is already paired with another tenant") := by
    decide +kernel
  exact ⟨refused, (failed_requests_leave_no_trace g _).1 _ refused, by decide +kernel⟩

end Gateway

end ChatGateway

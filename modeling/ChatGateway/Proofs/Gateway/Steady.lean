import ChatGateway.Proofs.Gateway.Run
import ChatGateway.Proofs.Tenant.Spares

namespace ChatGateway

namespace Hosted

theorem request_turns (h : Hosted) (r : Outbound.Request) :
    Turns h (match r.message h.host.now.1 with
      | .error e => (h, Except.error e)
      | .ok m => { h with host := h.host.now.2 }.send m).1 := by
  split
  · exact .refl
  · exact (Relation.ReflTransGen.single .clock).trans (send_turns _ _)

end Hosted

namespace Gateway

/-- Whether a session is one of a token's: its tenant uses it, or it is the latest opened for it. -/
def holds (g : Gateway) (token : String) (id : Session.LinkId) : Prop :=
  (∃ t, Keyed.find? Tenant.token token g.tenants = some t ∧ t.uses id) ∨
    g.host.exchange.latest.lookup token = some id

/-- What belongs to other tokens is left alone, and no session passes to this one. -/
structure Spares (token : String) (g g' : Gateway) : Prop where
  host : g.host.Spares token (g.holds token) g'.host
  tenants : ∀ other, other ≠ token →
    Keyed.find? Tenant.token other g'.tenants = Keyed.find? Tenant.token other g.tenants
  sessions : ∀ id, g'.holds token id →
    g.holds token id ∨ g.host.exchange.nextId ≤ id ∧ id < g'.host.exchange.nextId

namespace Spares

variable {g g₁ g₂ g₃ g' : Gateway} {token : String}

theorem trans (first : Spares token g₁ g₂) (second : Spares token g₂ g₃) : Spares token g₁ g₃ := by
  refine ⟨first.host.trans second.host ?_, ?_, ?_⟩
  · exact fun id held => (first.sessions id held).imp_right And.left
  · exact fun other different =>
      (second.tenants other different).trans (first.tenants other different)
  · exact Host.gained_trans first.sessions second.sessions first.host.ids second.host.ids

/-- The tenants stay as they are, and so does the latest session of the token. -/
theorem of_host {host : Host} (spared : g.host.Spares token (g.holds token) host)
    (latest : host.exchange.latest.lookup token = g.host.exchange.latest.lookup token) :
    Spares token g { g with host := host } := by
  refine ⟨spared, fun _ _ => rfl, ?_⟩
  intro id held
  rcases held with used | last
  · exact Or.inl (Or.inl used)
  · exact Or.inl (Or.inr (latest ▸ last))

theorem refl (token : String) (g : Gateway) : Spares token g g :=
  of_host (.of_eq rfl rfl rfl) rfl

theorem holds_other (spares : Spares token g g') {other : String} (different : other ≠ token)
    {id : Session.LinkId} : g'.holds other id ↔ g.holds other id := by
  rw [holds, holds, spares.tenants other different, spares.host.latest other different]

end Spares

theorem holds_loaded {g : Gateway} {token : String} {t : Tenant}
    (found : Keyed.find? Tenant.token token g.tenants = some t) (id : Session.LinkId) :
    g.holds token id ↔ Hosted.holds ⟨t, g.host⟩ id := by
  have own : t.token = token := (Keyed.find?_some found).2
  rw [holds, Hosted.holds, found, own]
  simp

theorem put_found (g : Gateway) {h : Hosted} {token : String} (own : h.tenant.token = token) :
    Keyed.find? Tenant.token token (g.put h).tenants = some h.tenant :=
  own ▸ Keyed.find?_put_self h.tenant g.tenants

/-- A tenant is put in its place, with no sessions but those of its token and new ones. -/
theorem put_spares {g : Gateway} {h : Hosted} {token : String} (own : h.tenant.token = token)
    (host : g.host.Spares token (g.holds token) h.host)
    (sessions : ∀ id, h.holds id →
      g.holds token id ∨ g.host.exchange.nextId ≤ id ∧ id < h.host.exchange.nextId) :
    Spares token g (g.put h) := by
  refine ⟨host, ?_, ?_⟩
  · rw [← own]
    exact fun _ => Keyed.find?_put_ne g.tenants
  · exact fun id held => sessions id ((holds_loaded (g.put_found own) id).mp held)

/-- Every tenant has its webhooks as they are stored, and no session is had by two. -/
structure Sound (g : Gateway) : Prop where
  tokens : Keyed.Distinct Tenant.token g.tenants
  store : g.host.repository.Sound
  attached : ∀ t ∈ g.tenants, t.Attached (g.host.repository.webhooksOf t.token)
  owned : ∀ token token' id, g.holds token id → g.holds token' id → token = token'
  opened : ∀ token id, g.holds token id → id < g.host.exchange.nextId

namespace Sound

variable {g g' : Gateway}

theorem agreed (sound : g.Sound) {t : Tenant} (loaded : t ∈ g.tenants) :
    Hosted.Agreed ⟨t, g.host⟩ :=
  ⟨sound.store, sound.attached t loaded⟩

theorem of_holds (sound : g.Sound) (tokens : Keyed.Distinct Tenant.token g'.tenants)
    (store : g'.host.repository.Sound)
    (attached : ∀ t ∈ g'.tenants, t.Attached (g'.host.repository.webhooksOf t.token))
    (held : ∀ token id, g'.holds token id → g.holds token id)
    (ids : g'.host.exchange.nextId = g.host.exchange.nextId) : g'.Sound :=
  ⟨tokens, store, attached,
    fun token token' id one other => sound.owned token token' id (held _ _ one) (held _ _ other),
    fun token id one => ids ▸ sound.opened token id (held _ _ one)⟩

/-- The host may change where neither webhooks nor sessions are concerned. -/
theorem with_host (sound : g.Sound) (host : Host) (repository : host.repository = g.host.repository)
    (latest : host.exchange.latest = g.host.exchange.latest)
    (ids : host.exchange.nextId = g.host.exchange.nextId) : Sound { g with host := host } := by
  apply sound.of_holds
  · exact sound.tokens
  · exact repository ▸ sound.store
  · exact repository ▸ sound.attached
  · intro token id held
    exact held.imp_right fun last => latest ▸ last
  · exact ids

/-- What is done under one token has to be right for that token alone. -/
theorem spared (sound : g.Sound) {token : String} (spares : g.Spares token g')
    (tokens : Keyed.Distinct Tenant.token g'.tenants) (store : g'.host.repository.Sound)
    (attached : ∀ t, Keyed.find? Tenant.token token g'.tenants = some t →
      t.Attached (g'.host.repository.webhooksOf token)) : g'.Sound := by
  -- A session of this token is an old one of its own or a new one, so none of another's.
  have apart : ∀ other id, other ≠ token → g'.holds token id → g'.holds other id → False := by
    intro other id different own foreign
    have foreign' := (spares.holds_other different).mp foreign
    rcases spares.sessions id own with before | ⟨newer, _⟩
    · exact different (sound.owned other token id foreign' before)
    · exact Nat.not_lt_of_le newer (sound.opened other id foreign')
  refine ⟨tokens, store, ?_, ?_, ?_⟩
  · intro t loaded
    have found := (Keyed.find?_eq_some tokens).mpr ⟨loaded, rfl⟩
    by_cases own : t.token = token
    · rw [own] at found ⊢
      exact attached t found
    · rw [spares.tenants t.token own] at found
      rw [spares.host.webhooks t.token own]
      exact sound.attached t (Keyed.find?_some found).1
  · intro one other id held held'
    by_cases own : one = token
    · by_cases own' : other = token
      · exact own.trans own'.symm
      · exact (apart other id own' (own ▸ held) held').elim
    · by_cases own' : other = token
      · exact (apart one id own (own' ▸ held') held).elim
      · exact sound.owned one other id ((spares.holds_other own).mp held)
          ((spares.holds_other own').mp held')
  · intro other id held
    by_cases own : other = token
    · rw [own] at held
      rcases spares.sessions id held with before | ⟨_, known⟩
      · exact Nat.lt_of_lt_of_le (sound.opened token id before) spares.host.ids
      · exact known
    · have before := (spares.holds_other own).mp held
      exact Nat.lt_of_lt_of_le (sound.opened other id before) spares.host.ids

end Sound

/-- What is done under a token keeps the gateway sound and spares the other tokens. -/
structure Steady (token : String) (g g' : Gateway) : Prop where
  sound : g'.Sound
  spares : g.Spares token g'

namespace Steady

theorem refl {g : Gateway} (sound : g.Sound) (token : String) : Steady token g g :=
  ⟨sound, .refl token g⟩

theorem trans {g₁ g₂ g₃ : Gateway} {token : String} (first : Steady token g₁ g₂)
    (second : g₂.Sound → Steady token g₂ g₃) : Steady token g₁ g₃ :=
  ⟨(second first.sound).sound, first.spares.trans (second first.sound).spares⟩

end Steady

namespace Sound

variable {g : Gateway}

theorem put (sound : g.Sound) {token : String} {t : Tenant} {h : Hosted}
    (found : Keyed.find? Tenant.token token g.tenants = some t)
    (moves : Hosted.Moves ⟨t, g.host⟩ h) : Steady token g (g.put h) := by
  obtain ⟨loaded, rfl⟩ := Keyed.find?_some found
  obtain ⟨agreed, spared⟩ := (sound.agreed loaded).moves_spare moves
  have own : h.tenant.token = t.token := spared.token
  have held : g.holds t.token = Hosted.holds ⟨t, g.host⟩ :=
    funext fun id => propext (holds_loaded found id)
  have spares : Spares t.token g (g.put h) := by
    apply put_spares own
    · exact held ▸ spared.host
    · exact held ▸ spared.sessions
  refine ⟨sound.spared spares ?_ agreed.store ?_, spares⟩
  · exact Keyed.put_distinct h.tenant sound.tokens
  · intro t' found'
    cases (g.put_found own).symm.trans found'
    exact own ▸ agreed.attached

theorem withTenant {α : Type} (sound : g.Sound) (token : String)
    {act : Hosted → Hosted × Except Failure α}
    (moves : ∀ h : Hosted, h.Agreed → Hosted.Moves h (act h).1) :
    Steady token g (g.withTenant token act).1 := by
  unfold Gateway.withTenant get find?
  cases found : Keyed.find? Tenant.token token g.tenants with
  | none => exact .refl sound token
  | some t => exact sound.put found (moves _ (sound.agreed (Keyed.find?_some found).1))

theorem forEach (sound : g.Sound) {act : Hosted → Hosted}
    (moves : ∀ h : Hosted, h.Agreed → Hosted.Moves h (act h)) : (g.forEach act).Sound := by
  apply List.foldlRecOn
  · exact sound
  · intro g sound t _
    unfold find?
    cases found : Keyed.find? Tenant.token t.token g.tenants with
    | none => exact sound
    | some t' => exact (sound.put found (moves _ (sound.agreed (Keyed.find?_some found).1))).sound

theorem retire (sound : g.Sound) (token : String) : Steady token g (g.retire token) := by
  unfold Gateway.retire find?
  cases found : Keyed.find? Tenant.token token g.tenants with
  | none => exact .refl sound token
  | some t =>
      have latest := g.host.exchange.hangUp_latest t.link
      have ids := g.host.exchange.hangUp_nextId t.link
      simp only [Option.map_some, Hosted.shutdown_host]
      refine ⟨sound.with_host _ rfl latest ids, .of_host (.of_exchange ?_ ?_ ?_) ?_⟩
      · exact fun _ _ => latest ▸ rfl
      · intro id _ foreign
        apply Session.Exchange.link?_hangUp_ne
        exact fun used => foreign (Or.inl ⟨t, found, Or.inl used⟩)
      · exact Nat.le_of_eq ids.symm
      · exact latest ▸ rfl

theorem load (sound : g.Sound) (p : Profile) : Steady p.token g (g.load p) := by
  refine (sound.retire p.token).trans fun sound => ?_
  unfold Gateway.load
  dsimp only
  generalize g.retire p.token = g at sound
  generalize tenant : Tenant.ofProfile g.host.settings p g.closing = t
  have token : t.token = p.token := tenant ▸ rfl
  -- A tenant begins without webhooks and without a session.
  have blank : t.Attached [] := tenant ▸ ⟨rfl, rfl⟩
  have idle : ∀ id, ¬t.uses id := by
    rw [← tenant]
    exact fun id used => used.elim nofun nofun
  have distinct := sound.store.urls p.token
  generalize stored : g.host.repository.webhooksOf p.token = ws at distinct
  have attached : (Hosted.attachAll ⟨t, g.host⟩ ws).tenant.Attached ws :=
    Hosted.attachAll_attached (h := ⟨t, g.host⟩) blank distinct
  have spared := Hosted.Spares.attachAll ⟨t, g.host⟩ ws
  have same : (Hosted.attachAll ⟨t, g.host⟩ ws).host = g.host := Hosted.attachAll_host _ ws
  generalize Hosted.attachAll ⟨t, g.host⟩ ws = h at attached spared same
  have own : h.tenant.token = p.token := spared.token.trans token
  have spares : Spares p.token g (g.put h) := by
    refine put_spares own (same ▸ .of_eq rfl rfl rfl) ?_
    intro id held
    refine (spared.sessions id held).imp_left fun before => Or.inr ?_
    exact token ▸ before.resolve_left (idle id)
  refine ⟨sound.spared spares ?_ ?_ ?_, spares⟩
  · exact Keyed.put_distinct h.tenant sound.tokens
  · change h.host.repository.Sound
    rw [same]
    exact sound.store
  · intro t' found'
    cases (g.put_found own).symm.trans found'
    change h.tenant.Attached (h.host.repository.webhooksOf p.token)
    rw [same, stored]
    exact attached

theorem startTenant (sound : g.Sound) (token : String) :
    Steady token g (g.startTenant token) := by
  unfold Gateway.startTenant find?
  cases found : Keyed.find? Tenant.token token g.tenants with
  | none => exact .refl sound token
  | some t => exact sound.put found (.single (.turn .start))

theorem loadAndStart (sound : g.Sound) (p : Profile) : Steady p.token g (g.loadAndStart p) := by
  have loaded := sound.load p
  unfold Gateway.loadAndStart
  dsimp only
  split
  · split
    · exact loaded.trans fun sound => sound.startTenant p.token
    · exact loaded
  · exact loaded

theorem loadAll (sound : g.Sound) : g.loadAll.1.Sound :=
  List.foldlRecOn _ _ sound fun _ sound p _ => (sound.loadAndStart p).sound

theorem save (sound : g.Sound) (p : Profile) :
    Steady p.token g { g with host := g.host.now.2.save p } := by
  have exchange : (g.host.now.2.save p).exchange = g.host.exchange := by
    simp only [Host.save_exchange, Host.now_exchange]
  have rows : (g.host.now.2.save p).repository =
      g.host.repository.save p g.host.now.2.now.1 := by
    simp only [Host.save_repository, Host.now_repository]
  have spared : g.host.Spares p.token (g.holds p.token) (g.host.now.2.save p) := .save g.host p
  generalize g.host.now.2.save p = host at exchange rows spared
  have spares : Spares p.token g { g with host := host } := .of_host spared (exchange ▸ rfl)
  refine ⟨sound.spared spares sound.tokens ?_ ?_, spares⟩
  · simp only [rows]
    exact sound.store.save p _
  · intro t found
    obtain ⟨loaded, own⟩ := Keyed.find?_some found
    simp only [rows]
    exact own ▸ sound.attached t loaded

theorem findOrCreate (sound : g.Sound) (token : String) :
    Steady token g (g.findOrCreate token).1 ∧ (g.findOrCreate token).2.token = token := by
  unfold Gateway.findOrCreate
  split
  · next p found => exact ⟨.refl sound token, (Keyed.find?_some found).2⟩
  · exact ⟨sound.save (Profile.fresh token g.host.now.1), rfl⟩

theorem ensureLoaded (sound : g.Sound) (token : String) :
    Steady token g (g.ensureLoaded token) := by
  obtain ⟨created, own⟩ := sound.findOrCreate token
  unfold Gateway.ensureLoaded
  split
  · exact .refl sound token
  · generalize g.findOrCreate token = made at created own
    rw [← own] at created ⊢
    exact created.trans fun sound => sound.load made.2

theorem pair (sound : g.Sound) (token wid : String) :
    Steady (Text.trim token) g (g.pair token wid).1 := by
  unfold Gateway.pair
  dsimp only
  split
  · exact .refl sound _
  · split
    · exact .refl sound _
    · split
      · exact .refl sound _
      · refine (sound.ensureLoaded _).trans fun sound => sound.withTenant _ fun h _ => ?_
        exact Hosted.Turns.moves ((h.pair_turns _).tail .start)

theorem unload (sound : g.Sound) {t : Tenant} (loaded : t ∈ g.tenants) :
    Steady t.token g { g.remove t.token with host := (Hosted.logout ⟨t, g.host⟩).host } := by
  have found := (Keyed.find?_eq_some sound.tokens).mpr ⟨loaded, rfl⟩
  have missing : Keyed.find? Tenant.token t.token (g.remove t.token).tenants = none :=
    Keyed.find?_erase_self t.token g.tenants
  have held : g.holds t.token = Hosted.holds ⟨t, g.host⟩ :=
    funext fun id => propext (holds_loaded found id)
  have spared := (sound.agreed loaded).logout_spares
  obtain ⟨exchange, same⟩ := Hosted.logout_host ⟨t, g.host⟩
  have spares : Spares t.token g
      { g.remove t.token with host := (Hosted.logout ⟨t, g.host⟩).host } := by
    refine ⟨held ▸ spared.host, fun _ => Keyed.find?_erase_ne g.tenants, ?_⟩
    rintro id (⟨t', found', _⟩ | last)
    · cases missing.symm.trans found'
    · rw [held]
      exact spared.sessions id (Or.inr (spared.token ▸ last))
  refine ⟨sound.spared spares (Keyed.erase_distinct _ sound.tokens) ?_ ?_, spares⟩
  · simp only [same]
    exact sound.store
  · intro t' found'
    cases missing.symm.trans found'

theorem deleteRow (sound : g.Sound) {token : String}
    (missing : Keyed.find? Tenant.token token g.tenants = none) :
    Steady token g { g with host := { g.host with
      repository := (g.host.repository.delete token).1 } } := by
  have spares : Spares token g { g with host := { g.host with
      repository := (g.host.repository.delete token).1 } } := by
    refine .of_host (.of_repository ?_ fun _ => g.host.repository.delete_ne) rfl
    exact fun other => Keyed.find?_erase_ne g.host.repository.tenants
  refine ⟨sound.spared spares sound.tokens (sound.store.delete token) ?_, spares⟩
  intro t found
  cases missing.symm.trans found

theorem delete (sound : g.Sound) (token : String) : Steady token g (g.delete token).1 := by
  unfold Gateway.delete find?
  cases found : Keyed.find? Tenant.token token g.tenants with
  | none => exact sound.deleteRow found
  | some t =>
      obtain ⟨loaded, rfl⟩ := Keyed.find?_some found
      exact (sound.unload loaded).trans fun sound =>
        sound.deleteRow (Keyed.find?_erase_self t.token g.tenants)

theorem shutdown (sound : g.Sound) : g.shutdown.Sound := by
  have each : ∀ before : Host, before.repository = g.host.repository ∧
      before.exchange.latest = g.host.exchange.latest ∧
      before.exchange.nextId = g.host.exchange.nextId → ∀ t ∈ g.tenants,
      (Hosted.shutdown ⟨t, before⟩).host.repository = g.host.repository ∧
        (Hosted.shutdown ⟨t, before⟩).host.exchange.latest = g.host.exchange.latest ∧
        (Hosted.shutdown ⟨t, before⟩).host.exchange.nextId = g.host.exchange.nextId := by
    intro before kept t _
    rw [Hosted.shutdown_host]
    exact ⟨kept.1, (Session.Exchange.hangUp_latest _ _).trans kept.2.1,
      (Session.Exchange.hangUp_nextId _ _).trans kept.2.2⟩
  obtain ⟨repository, latest, ids⟩ := List.foldlRecOn
    (motive := fun host : Host => host.repository = g.host.repository ∧
      host.exchange.latest = g.host.exchange.latest ∧
      host.exchange.nextId = g.host.exchange.nextId) g.tenants _ ⟨rfl, rfl, rfl⟩ each
  apply sound.of_holds
  · exact List.nodup_nil
  · exact repository ▸ sound.store
  · exact fun t member => by cases member
  · rintro token id (⟨t, found, _⟩ | last)
    · cases found
    · exact Or.inr (latest ▸ last)
  · exact ids

theorem inject (sound : g.Sound) (token : String) (e : Session.Event) :
    Steady token g (g.inject token e) := by
  unfold Gateway.inject
  cases found : g.host.exchange.latest? token with
  | none => exact .refl sound token
  | some l =>
      obtain ⟨id, last, there⟩ := Option.bind_eq_some_iff.mp found
      have own : (l.inject e).1.id = id := (l.inject_id e).trans (Keyed.find?_some there).2
      refine ⟨sound.with_host _ rfl rfl rfl, .of_host (.of_exchange ?_ ?_ ?_) rfl⟩
      · exact fun _ _ => rfl
      · intro other _ foreign
        apply Session.Exchange.link?_update_ne
        rintro rfl
        exact foreign (Or.inr (own ▸ last))
      · exact Nat.le_refl _

theorem settle (sound : g.Sound) (net : Network) : (g.settle net).Sound := by
  have taken := sound.forEach fun h _ => h.takeEvents_turns.moves
  unfold Gateway.settle
  dsimp only
  apply Sound.forEach
  · exact taken.with_host _ rfl rfl rfl
  · exact fun h agreed => Hosted.deliver_moves agreed.distinct net

theorem send (sound : g.Sound) (token : String) (r : Outbound.Request) :
    Steady token g (g.send token r).1 :=
  sound.withTenant token fun h _ => (h.request_turns r).moves

end Sound

end Gateway

end ChatGateway

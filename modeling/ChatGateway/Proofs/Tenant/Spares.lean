import ChatGateway.Proofs.Push.Dispatch
import ChatGateway.Proofs.Tenant.Attached

namespace ChatGateway

namespace Session.Exchange

variable {x x' : Exchange}

theorem link?_update_self (x : Exchange) (l : Link) : (x.update l).link? l.id = some l :=
  Keyed.find?_put_self l x.links

theorem link?_update_ne (x : Exchange) {l : Link} {id : LinkId} (other : id ≠ l.id) :
    (x.update l).link? id = x.link? id :=
  Keyed.find?_put_ne x.links other

theorem link?_hangUp_ne (x : Exchange) {used : Option LinkId} {id : LinkId}
    (other : used ≠ some id) : (x.hangUp used).link? id = x.link? id := by
  cases used with
  | none => rfl
  | some own =>
      have different : id ≠ own := fun same => other (congrArg some same.symm)
      rw [link?, hangUp, modify, Keyed.find?_modify_ne _ _ different, link?]
      exact fun _ => rfl

theorem hangUp_latest (x : Exchange) (used : Option LinkId) :
    (x.hangUp used).latest = x.latest := by
  cases used <;> rfl

theorem hangUp_nextId (x : Exchange) (used : Option LinkId) :
    (x.hangUp used).nextId = x.nextId := by
  cases used <;> rfl

/-- A session is opened under a new id, as the latest of its token. -/
theorem connect_eq {p : Profile} {l : Link} (opened : x.connect p = .ok (x', l)) :
    l.id = x.nextId ∧
      x' = { links := x.links ++ [l]
             latest := Keyed.put Prod.fst (p.token, x.nextId) x.latest
             nextId := x.nextId + 1 } := by
  unfold connect at opened
  split at opened
  · cases opened
  · cases opened
    exact ⟨rfl, rfl⟩

theorem connect_link? {p : Profile} {l : Link} (opened : x.connect p = .ok (x', l)) {id : LinkId}
    (older : id < x.nextId) : x'.link? id = x.link? id := by
  obtain ⟨named, rfl⟩ := connect_eq opened
  have different : ¬(l.id == id) = true := by
    rw [named, beq_iff_eq]
    exact Nat.ne_of_gt older
  rw [link?, Keyed.find?_concat, if_neg different, Option.or_none]
  rfl

theorem connect_latest_self {p : Profile} {l : Link} (opened : x.connect p = .ok (x', l)) :
    x'.latest.lookup p.token = some x.nextId := by
  have put := @Keyed.find?_put_self _ _ _ _ Prod.fst (p.token, x.nextId) x.latest
  obtain ⟨_, rfl⟩ := connect_eq opened
  rw [Keyed.lookup_eq, put, Option.map_some]

theorem connect_latest_ne {p : Profile} {l : Link} (opened : x.connect p = .ok (x', l))
    {other : String} (different : other ≠ p.token) :
    x'.latest.lookup other = x.latest.lookup other := by
  obtain ⟨_, rfl⟩ := connect_eq opened
  rw [Keyed.lookup_eq, Keyed.find?_put_ne x.latest different, Keyed.lookup_eq]

end Session.Exchange

namespace Host

@[simp] theorem now_hub (h : Host) : h.now.2.hub = h.hub := by
  simp only [now, Clock.read]

@[simp] theorem save_hub (h : Host) (p : Profile) : (h.save p).hub = h.hub := by
  simp only [save, now_hub]

/-- Sessions that are new in one of two steps are new in both together. -/
theorem gained_trans {mine₁ mine₂ mine₃ : Session.LinkId → Prop} {low middle high : Nat}
    (first : ∀ id, mine₂ id → mine₁ id ∨ low ≤ id ∧ id < middle)
    (second : ∀ id, mine₃ id → mine₂ id ∨ middle ≤ id ∧ id < high)
    (up : low ≤ middle) (up' : middle ≤ high) :
    ∀ id, mine₃ id → mine₁ id ∨ low ≤ id ∧ id < high := by
  intro id held
  rcases second id held with before | ⟨newer, known⟩
  · rcases first id before with earlier | ⟨newer, known⟩
    · exact Or.inl earlier
    · exact Or.inr ⟨newer, Nat.lt_of_lt_of_le known up'⟩
  · exact Or.inr ⟨Nat.le_trans up newer, known⟩

/-- What belongs neither to a token nor to a session of `mine` is left alone. -/
structure Spares (token : String) (mine : Session.LinkId → Prop) (h h' : Host) : Prop where
  rows : ∀ other, other ≠ token → h'.repository.find? other = h.repository.find? other
  webhooks : ∀ other, other ≠ token →
    h'.repository.webhooksOf other = h.repository.webhooksOf other
  latest : ∀ other, other ≠ token →
    h'.exchange.latest.lookup other = h.exchange.latest.lookup other
  links : ∀ id, id < h.exchange.nextId → ¬mine id → h'.exchange.link? id = h.exchange.link? id
  ids : h.exchange.nextId ≤ h'.exchange.nextId
  pool : h'.hub.pool = h.hub.pool
  handles : ∀ id, id ∉ h.hub.pool.boundTo token → h'.hub.handle? id = h.hub.handle? id

namespace Spares

variable {token : String} {mine mine' : Session.LinkId → Prop} {h h₁ h₂ h₃ h' : Host}

theorem of_eq (repository : h'.repository = h.repository) (exchange : h'.exchange = h.exchange)
    (hub : h'.hub = h.hub) : Spares token mine h h' := by
  constructor
  · exact fun _ _ => repository ▸ rfl
  · exact fun _ _ => repository ▸ rfl
  · exact fun _ _ => exchange ▸ rfl
  · exact fun _ _ _ => exchange ▸ rfl
  · exact exchange ▸ Nat.le_refl _
  · exact hub ▸ rfl
  · exact fun _ _ => hub ▸ rfl

theorem of_repository {repository : Store.Repository}
    (rows : ∀ other, other ≠ token → repository.find? other = h.repository.find? other)
    (webhooks : ∀ other, other ≠ token →
      repository.webhooksOf other = h.repository.webhooksOf other) :
    Spares token mine h { h with repository := repository } :=
  ⟨rows, webhooks, fun _ _ => rfl, fun _ _ _ => rfl, Nat.le_refl _, rfl, fun _ _ => rfl⟩

theorem of_exchange {exchange : Session.Exchange}
    (latest : ∀ other, other ≠ token →
      exchange.latest.lookup other = h.exchange.latest.lookup other)
    (links : ∀ id, id < h.exchange.nextId → ¬mine id → exchange.link? id = h.exchange.link? id)
    (ids : h.exchange.nextId ≤ exchange.nextId) :
    Spares token mine h { h with exchange := exchange } :=
  ⟨fun _ _ => rfl, fun _ _ => rfl, latest, links, ids, rfl, fun _ _ => rfl⟩

/-- Sessions that are had later were had before, or were not there yet. -/
theorem trans (first : Spares token mine h₁ h₂) (second : Spares token mine' h₂ h₃)
    (known : ∀ id, mine' id → mine id ∨ h₁.exchange.nextId ≤ id) : Spares token mine h₁ h₃ := by
  constructor
  · exact fun other different => (second.rows other different).trans (first.rows other different)
  · exact fun other different =>
      (second.webhooks other different).trans (first.webhooks other different)
  · exact fun other different =>
      (second.latest other different).trans (first.latest other different)
  · intro id older foreign
    have foreign' : ¬mine' id := fun own => (known id own).elim foreign (Nat.not_le_of_lt older)
    exact (second.links id (Nat.lt_of_lt_of_le older first.ids) foreign').trans
      (first.links id older foreign)
  · exact Nat.le_trans first.ids second.ids
  · exact second.pool.trans first.pool
  · intro id unbound
    exact (second.handles id (first.pool ▸ unbound)).trans (first.handles id unbound)

/-- A profile is stored a moment after the clock was read. -/
theorem save (h : Host) (p : Profile) : Spares p.token mine h (h.now.2.save p) := by
  have rows : (h.now.2.save p).repository = h.repository.save p h.now.2.now.1 := by
    simp only [save_repository, now_repository]
  have exchange : (h.now.2.save p).exchange = h.exchange := by
    simp only [save_exchange, now_exchange]
  have hub : (h.now.2.save p).hub = h.hub := by
    simp only [save_hub, now_hub]
  generalize h.now.2.save p = saved at rows exchange hub
  refine ⟨?_, ?_, fun _ _ => exchange ▸ rfl, fun _ _ _ => exchange ▸ rfl,
    exchange ▸ Nat.le_refl _, hub ▸ rfl, fun _ _ => hub ▸ rfl⟩
  · intro other different
    rw [rows]
    exact Keyed.find?_put_ne h.repository.tenants different
  · intro other _
    rw [rows]
    rfl

end Spares

end Host

namespace Hosted

open Store (Repository)

/-- Whether a session is one of the tenant's: in use, listened to, or the latest of its token. -/
def holds (h : Hosted) (id : Session.LinkId) : Prop :=
  h.tenant.uses id ∨ h.host.exchange.latest.lookup h.tenant.token = some id

/-- What does not belong to the tenant is left alone, and it gets no sessions but new ones. -/
structure Spares (h h' : Hosted) : Prop where
  token : h'.tenant.token = h.tenant.token
  host : h.host.Spares h.tenant.token h.holds h'.host
  sessions : ∀ id, h'.holds id →
    h.holds id ∨ h.host.exchange.nextId ≤ id ∧ id < h'.host.exchange.nextId

namespace Spares

variable {h h₁ h₂ h₃ h' : Hosted}

theorem of_host (token : h'.tenant.token = h.tenant.token)
    (host : h.host.Spares h.tenant.token h.holds h'.host)
    (uses : ∀ id, h'.tenant.uses id → h.tenant.uses id)
    (latest : h'.host.exchange.latest = h.host.exchange.latest) : Spares h h' := by
  refine ⟨token, host, ?_⟩
  intro id held
  rcases held with used | last
  · exact Or.inl (Or.inl (uses id used))
  · rw [latest, token] at last
    exact Or.inl (Or.inr last)

theorem of_eq (token : h'.tenant.token = h.tenant.token)
    (uses : ∀ id, h'.tenant.uses id → h.tenant.uses id)
    (repository : h'.host.repository = h.host.repository)
    (exchange : h'.host.exchange = h.host.exchange) (hub : h'.host.hub = h.host.hub) :
    Spares h h' :=
  of_host token (.of_eq repository exchange hub) uses (congrArg _ exchange)

theorem refl (h : Hosted) : Spares h h := of_eq rfl (fun _ used => used) rfl rfl rfl

theorem trans (first : Spares h₁ h₂) (second : Spares h₂ h₃) : Spares h₁ h₃ := by
  refine ⟨second.token.trans first.token, ?_, ?_⟩
  · have next := second.host
    rw [first.token] at next
    exact first.host.trans next fun id held => (first.sessions id held).imp_right And.left
  · exact Host.gained_trans first.sessions second.sessions first.host.ids second.host.ids

theorem updateProfile (h : Hosted) {change : Profile → Profile}
    (own : ∀ p, (change p).token = p.token) : Spares h (h.updateProfile change) := by
  have token : (h.updateProfile change).tenant.token = h.tenant.token := own h.tenant.profile
  have stored : h.host.Spares (h.updateProfile change).tenant.token h.holds
      (h.updateProfile change).host := .save h.host _
  rw [token] at stored
  exact of_host token stored (fun _ used => used) (congrArg _ (h.updateProfile_exchange change))

theorem trigger (h : Hosted) (m : Message) : Spares h (h.trigger m).1 := by
  refine of_host rfl ?_ (fun _ used => used) rfl
  exact ⟨fun _ _ => rfl, fun _ _ => rfl, fun _ _ => rfl, fun _ _ _ => rfl, Nat.le_refl _, rfl,
    fun _ => h.host.hub.dispatch_other m⟩

theorem session {id : Session.LinkId} {l : Session.Link} (own : h.tenant.uses id)
    (same : l.id = id) :
    Spares h { h with host := { h.host with exchange := h.host.exchange.update l } } := by
  refine of_host rfl (.of_exchange (fun _ _ => rfl) ?_ (Nat.le_refl _)) (fun _ used => used) rfl
  intro other _ foreign
  apply Session.Exchange.link?_update_ne
  rintro rfl
  exact foreign (Or.inl (same ▸ own))

/-- The session in use is closed, whatever else becomes of the tenant. -/
theorem hangUp {t : Tenant} (token : t.token = h.tenant.token)
    (uses : ∀ id, t.uses id → h.tenant.uses id) :
    Spares h ⟨t, { h.host with exchange := h.host.exchange.hangUp h.tenant.link }⟩ := by
  have latest := h.host.exchange.hangUp_latest h.tenant.link
  refine of_host token (.of_exchange (fun _ _ => latest ▸ rfl) ?_ ?_) uses latest
  · intro id _ foreign
    exact Session.Exchange.link?_hangUp_ne _ fun used => foreign (Or.inl (Or.inl used))
  · rw [Session.Exchange.hangUp_nextId]

theorem start (h : Hosted) : Spares h h.start.1 := by
  rcases h.start_eq with same | ⟨exchange, link, opened, same⟩
  · rw [same]
    exact refl h
  · rw [same]
    obtain ⟨named, rest⟩ := Session.Exchange.connect_eq opened
    have next : exchange.nextId = h.host.exchange.nextId + 1 := rest ▸ rfl
    refine ⟨rfl, .of_exchange ?_ ?_ ?_, ?_⟩
    · intro other different
      rw [Session.Exchange.hangUp_latest]
      exact Session.Exchange.connect_latest_ne opened different
    · intro id older foreign
      rw [Session.Exchange.link?_hangUp_ne _ fun used => foreign (Or.inl (Or.inl used))]
      exact Session.Exchange.connect_link? opened older
    · rw [Session.Exchange.hangUp_nextId, next]
      exact Nat.le_succ _
    · intro id held
      -- The new session is in use, listened to and the latest, so there is no other.
      have new : id = h.host.exchange.nextId := by
        rcases held with (used | listened) | last
        · exact (Option.some.inj used).symm.trans named
        · exact (Option.some.inj listened).symm.trans named
        · simp only [Session.Exchange.hangUp_latest] at last
          exact Option.some.inj (last.symm.trans (Session.Exchange.connect_latest_self opened))
      refine Or.inr ⟨Nat.le_of_eq new.symm, ?_⟩
      simp only [Session.Exchange.hangUp_nextId, next, new]
      exact Nat.lt_succ_self _

theorem putWebhook {w : Webhook} (own : w.token = h.tenant.token) :
    Spares h { h with host := { h.host with repository := h.host.repository.putWebhook w } } := by
  refine of_host rfl (.of_repository (fun _ _ => rfl) ?_) (fun _ used => used) rfl
  intro other different
  rw [← own] at different
  exact Repository.putWebhook_ne _ different

theorem attach (h : Hosted) (w : Webhook) : Spares h (h.attach w) := by
  have host := h.attach_host w
  refine of_eq ?_ ?_ (host ▸ rfl) (host ▸ rfl) (host ▸ rfl)
  · exact congrArg Profile.token (h.attach_profile w)
  · intro id used
    unfold Hosted.attach at used
    dsimp only at used
    split at used <;> exact used

theorem attachAll (h : Hosted) (ws : List Webhook) : Spares h (h.attachAll ws) := by
  unfold Hosted.attachAll
  induction ws generalizing h with
  | nil => exact refl h
  | cons w rest ih => exact (attach h w).trans (ih (h.attach w))

theorem addWebhook (h : Hosted) (w : Webhook) : Spares h (h.addWebhook w).1 := by
  unfold Hosted.addWebhook
  dsimp only
  split
  · exact refl h
  · exact (putWebhook rfl).trans (attach _ _)

theorem removeWebhook (h : Hosted) (url : String) : Spares h (h.removeWebhook url).1 := by
  have rows : (h.host.repository.removeWebhook h.tenant.token url).1.tenants =
      h.host.repository.tenants := by
    unfold Repository.removeWebhook
    split <;> rfl
  have cut : h.host.Spares h.tenant.token h.holds { h.host with
      repository := (h.host.repository.removeWebhook h.tenant.token url).1 } := by
    apply Host.Spares.of_repository
    · intro other _
      rw [Repository.find?, rows, Repository.find?]
    · exact fun other => h.host.repository.removeWebhook_ne url
  unfold Hosted.removeWebhook
  dsimp only
  split
  · exact of_host rfl cut (fun _ used => used) rfl
  · exact of_host rfl cut (fun _ used => used) rfl

theorem toggleWebhook (own : ∀ w ∈ h.tenant.webhooks, w.token = h.tenant.token) (url : String)
    (option : WebhookOption) : Spares h (h.toggleWebhook url option).1 := by
  unfold Hosted.toggleWebhook
  split
  · exact refl h
  · next w found =>
    have owned : (w.toggle option).1.token = h.tenant.token :=
      (w.toggle_token option).trans (own w (Keyed.find?_some found).1)
    exact (putWebhook owned).trans (of_eq rfl (fun _ used => used) rfl rfl rfl)

theorem work (h : Hosted) (id : String) (s : WorkerStep) : Spares h (h.work id s) := by
  cases s with
  | take => exact of_eq rfl (fun _ used => used) rfl rfl rfl
  | halt => exact of_eq rfl (fun _ used => used) rfl rfl rfl
  | finish net =>
      unfold Hosted.work
      dsimp only
      split
      · exact refl h
      · split
        · exact refl h
        · exact of_eq rfl (fun _ used => used) rfl rfl rfl

theorem turn (turn : h.Turn h') : Spares h h' := by
  cases turn with
  | clock =>
      exact of_eq rfl (fun _ used => used) h.host.now_repository h.host.now_exchange h.host.now_hub
  | profile change kept => exact updateProfile h kept
  | letGo =>
      refine of_eq rfl (fun _ used => Or.inr ?_) rfl rfl rfl
      exact used.resolve_left fun none => by cases none
  | deafen =>
      refine of_eq rfl (fun _ used => Or.inl ?_) rfl rfl rfl
      exact used.resolve_right fun none => by cases none
  | trigger m => exact trigger h m
  | session own _ same => exact session own same
  | hangUp =>
      rw [dropLink_eq]
      refine hangUp rfl fun _ used => Or.inr ?_
      exact used.resolve_left fun none => by cases none
  | start => exact start h
  | _ => exact of_eq rfl (fun _ used => used) rfl rfl rfl

theorem move (own : ∀ w ∈ h.tenant.webhooks, w.token = h.tenant.token) (move : h.Move h') :
    Spares h h' := by
  cases move with
  | turn t => exact turn t
  | addWebhook w => exact addWebhook h w
  | removeWebhook url => exact removeWebhook h url
  | toggleWebhook url option => exact toggleWebhook own url option
  | work id s => exact work h id s

theorem shutdown (h : Hosted) : Spares h h.shutdown := by
  unfold Hosted.shutdown
  dsimp only
  rw [dropLink_eq]
  refine hangUp rfl fun _ used => Or.inr ?_
  exact used.resolve_left fun none => by cases none

end Spares

theorem shutdown_host (h : Hosted) :
    h.shutdown.host = { h.host with exchange := h.host.exchange.hangUp h.tenant.link } := by
  rw [shutdown, dropLink_eq]
  rfl

theorem logout_host (h : Hosted) :
    ∃ exchange, h.logout.host = { h.host with exchange := exchange } := by
  unfold logout
  split
  · exact ⟨_, shutdown_host _⟩
  · exact ⟨_, shutdown_host h⟩

/-- What is done at a tenant in agreement with its store leaves it so, and spares the others. -/
theorem Agreed.moves_spare {h h' : Hosted} (agreed : h.Agreed) (moves : Moves h h') :
    h'.Agreed ∧ Spares h h' := by
  refine moves.keep (P := fun after => after.Agreed ∧ Spares h after) ?_ ⟨agreed, .refl h⟩
  intro before after move kept
  obtain ⟨agreed, spares⟩ := kept
  have own := agreed.attached.owners (agreed.store.owners before.tenant.token)
  exact ⟨agreed.move move, spares.trans (.move own move)⟩

theorem Agreed.logout_spares {h : Hosted} (agreed : h.Agreed) : Spares h h.logout := by
  unfold logout
  split
  · next id used =>
    have ended : Turns h (h.attempt id Session.Link.logout).1 :=
      attempt_turns (Or.inl used) _ fun _ => rfl
    exact (agreed.moves_spare ended.moves).2.trans (.shutdown _)
  · exact .shutdown h

end Hosted

end ChatGateway

import ChatGateway.Proofs.Tenant.Attached

/-!
How records come to a tenant. Whatever brings one in, it is kept in the cache, or passed on to the
subscribers and the push connections, or first the one and then the other. For every event and every
message sent it is written down which records were kept and passed on, in order; what the tenant
holds afterwards is just what comes of doing that.
-/

namespace ChatGateway

/-- What is done with a record. -/
inductive Passage where
  | kept (m : Message)
  | passed (m : Message)

namespace Passage

def record : Passage → Message
  | kept m | passed m => m

def passed? : Passage → Option Message
  | kept _ => none
  | passed m => some m

end Passage

/-- Where records are held at a tenant, and what the holding depends on. -/
structure Stock where
  token : String
  settings : CacheSettings
  messages : Cache.Messages
  fanout : Delivery.Fanout
  hub : Push.Hub
  metrics : Delivery.Metrics

namespace Stock

def enter (s : Stock) : Passage → Stock
  | .kept m =>
    { s with messages := ((s.messages.put m).1.cleanUp s.settings.maxMessages).1 }
  | .passed m =>
    let (fanout, hub, metrics, _) := s.fanout.trigger s.hub s.token m s.metrics
    { s with fanout := fanout, hub := hub, metrics := metrics }

/-- Whether a record is passed on once it is kept: not if it only repeats what was known. -/
def passes (s : Stock) (m : Message) : Bool :=
  (s.messages.put m).2 || !s.settings.debounceDispatch

def storing (s : Stock) (m : Message) : List Passage :=
  .kept m :: if s.passes m then [.passed m] else []

theorem storing_stock (s : Stock) (m : Message) :
    ((s.storing m).foldl enter s).messages =
        ((s.messages.put m).1.cleanUp s.settings.maxMessages).1 ∧
      ((s.storing m).foldl enter s).settings = s.settings := by
  unfold storing
  split <;> exact ⟨rfl, rfl⟩

end Stock

namespace Hosted

def stock (h : Hosted) : Stock where
  token := h.tenant.token
  settings := h.host.settings.cache
  messages := h.tenant.messages
  fanout := h.tenant.fanout
  hub := h.host.hub
  metrics := h.host.metrics

/-- What is written down about one thing after the other. -/
def trail {α β : Type} (act : Hosted → α → Hosted) (note : Hosted → α → List β) :
    Hosted → List α → List β
  | _, [] => []
  | h, a :: rest => note h a ++ trail act note (act h a) rest

section Trail

variable {α β : Type} {act : Hosted → α → Hosted}

theorem mem_trail {note : Hosted → α → List β} {h : Hosted} {items : List α} {b : β}
    (member : b ∈ trail act note h items) :
    ∃ front a back, items = front ++ a :: back ∧ b ∈ note (front.foldl act h) a := by
  induction items generalizing h with
  | nil => cases member
  | cons a rest ih =>
      rcases List.mem_append.mp member with here | later
      · exact ⟨[], a, rest, rfl, here⟩
      · obtain ⟨front, a', back, rfl, there⟩ := ih later
        exact ⟨a :: front, a', back, rfl, there⟩

theorem trail_map {γ : Type} (note : Hosted → α → List β) (f : β → γ) (h : Hosted)
    (items : List α) :
    (trail act note h items).map f = trail act (fun h a => (note h a).map f) h items := by
  induction items generalizing h with
  | nil => rfl
  | cons a rest ih => rw [trail, trail, List.map_append, ih]

theorem foldl_stock {note : Hosted → α → List Passage}
    (each : ∀ h a, (act h a).stock = (note h a).foldl Stock.enter h.stock) (h : Hosted)
    (items : List α) :
    (items.foldl act h).stock = (trail act note h items).foldl Stock.enter h.stock := by
  induction items generalizing h with
  | nil => rfl
  | cons a rest ih => rw [List.foldl_cons, ih, each, trail, List.foldl_append]

end Trail

variable (h : Hosted)

theorem store_eq (m : Message) :
    (h.store m).1.stock = (h.stock.storing m).foldl Stock.enter h.stock ∧
      (h.store m).2 = h.stock.passes m := by
  cases passes : h.stock.passes m with
  | true =>
      have stored : h.store m = (((h.keep m).1.trigger m).1, true) := if_pos passes
      rw [stored, Stock.storing, if_pos passes]
      exact ⟨rfl, rfl⟩
  | false =>
      have stays := Bool.eq_false_iff.mp passes
      have stored : h.store m = ((h.keep m).1, false) := if_neg stays
      rw [stored, Stock.storing, if_neg stays]
      exact ⟨rfl, rfl⟩

theorem withTitle_stock (m : Message) : (h.withTitle m).1.stock = h.stock := by
  unfold withTitle
  split
  · split <;> rfl
  · rfl

theorem markRead_stock (m : Message) : (h.markRead m).stock = h.stock := by
  unfold markRead
  split <;> rfl

/-- A message as it is taken in: with the title of its chat and a preview of what it replies to. -/
def enriched (m : Message) : Message := (h.withTitle m).1.withSynopsis (h.withTitle m).2

def ingesting (m : Message) : List Passage :=
  if h.admits m then h.stock.storing (h.enriched m) else []

theorem ingest_admitted {m : Message} (admitted : h.admits m = true) :
    (h.ingest m).1.stock = (h.stock.storing (h.enriched m)).foldl Stock.enter h.stock ∧
      (h.ingest m).2 = h.stock.passes (h.enriched m) := by
  obtain ⟨stored, answer⟩ := (h.withTitle m).1.store_eq (h.enriched m)
  rw [withTitle_stock] at stored answer
  unfold ingest
  simp only [admitted, Bool.not_true, Bool.false_eq_true, if_false]
  refine ⟨?_, answer⟩
  split
  · exact (markRead_stock _ _).trans stored
  · exact stored

theorem ingest_refused {m : Message} (refused : h.admits m = false) :
    h.ingest m = (h, false) := by
  unfold ingest
  simp only [refused, Bool.not_false, if_true]

theorem ingest_stock (m : Message) :
    (h.ingest m).1.stock = (h.ingesting m).foldl Stock.enter h.stock := by
  cases admitted : h.admits m with
  | false =>
      rw [ingest_refused h admitted, ingesting, admitted]
      rfl
  | true =>
      rw [(h.ingest_admitted admitted).1, ingesting, if_pos admitted]

theorem setStatus_stock (next : TenantStatus) : (h.setStatus next).1.stock = h.stock := by
  unfold setStatus Tenant.setStatus
  dsimp only
  split <;> rfl

theorem now_stock : stock { h with host := h.host.now.2 } = h.stock := by
  simp only [stock, Host.now, Clock.read]

theorem updateProfile_stock {change : Profile → Profile}
    (own : ∀ p, (change p).token = p.token) : (h.updateProfile change).stock = h.stock := by
  simp only [stock, Tenant.token, updateProfile, own, Host.save, Host.now, Clock.read]

theorem attempt_stock (id : Session.LinkId) (act : Session.Link → Except Failure Session.Link) :
    (h.attempt id act).1.stock = h.stock := rfl

theorem requestHistory_stock : h.requestHistory.stock = h.stock := by
  unfold requestHistory
  split
  · rfl
  · split
    · rfl
    · dsimp only
      split
      · exact h.now_stock
      · exact (attempt_stock _ _ _).trans h.now_stock

theorem onConnected_stock (wid : String) : (h.onConnected wid).stock = h.stock := by
  unfold onConnected
  dsimp only
  rw [requestHistory_stock, setStatus_stock]
  split
  · rfl
  · exact updateProfile_stock _ fun _ => rfl

def receiptNotice (chat : Chat) (ids : List String) (timestamp : Instant) : Message where
  id := Message.readReceiptId
  timestamp := timestamp
  kind := .system
  chat := chat
  text := ",".intercalate ids

def callNotice (id : String) (caller : Chat) (timestamp : Instant) : Message where
  id := id
  timestamp := timestamp
  kind := .call
  chat := caller

def logoutNotices (reason : String) : List Passage :=
  if h.tenant.status.allows .loggedOut then
    h.stock.storing (logoutNotice h.host.nextId h.host.now.2.now.2.now.1 reason)
  else []

theorem onLoggedOut_stock (reason : String) :
    (h.onLoggedOut reason).stock = (h.logoutNotices reason).foldl Stock.enter h.stock := by
  cases allowed : h.tenant.status.allows .loggedOut with
  | false =>
      rw [onLoggedOut_refused allowed, logoutNotices, allowed]
      rfl
  | true =>
      rw [onLoggedOut, setStatus_allowed allowed, logoutNotices, if_pos allowed]
      dsimp only
      rw [(store_eq _ _).1]
      simp only [stock, Tenant.token, updateProfile, Host.save, Host.freshNumber, Host.now,
        Clock.read]

/-- What is done with the records an event brings. -/
def handling : Session.Event → List Passage
  | .message m => h.ingesting m
  | .history ms =>
    if h.options.historySync then
      trail (fun h m => (h.ingest m).1) ingesting h (Message.chronological ms)
    else []
  | .receipt chat ids timestamp =>
    if h.options.readReceipts && !ids.isEmpty then [.passed (receiptNotice chat ids timestamp)]
    else []
  | .call id caller timestamp =>
    if h.options.calls then h.ingesting (callNotice id caller timestamp) else []
  | .loggedOut reason => h.logoutNotices reason
  | .connected _ | .disconnected _ => []

theorem handle_stock (e : Session.Event) :
    (h.handle e).stock = (h.handling e).foldl Stock.enter h.stock := by
  cases e with
  | message m => exact h.ingest_stock m
  | history ms =>
      rw [handle, handling]
      split
      · exact foldl_stock ingest_stock h _
      · rfl
  | receipt chat ids timestamp =>
      rw [handle, handling, onReceipt]
      cases h.options.readReceipts <;> cases ids.isEmpty <;> rfl
  | call id caller timestamp =>
      rw [handle, handling, onCall]
      split
      · exact h.ingest_stock _
      · split <;> rfl
  | connected wid => exact h.onConnected_stock wid
  | disconnected reason => exact h.setStatus_stock .disconnected
  | loggedOut reason => exact h.onLoggedOut_stock reason

theorem sendOn_stock (id : Session.LinkId) (m : Message) : (h.sendOn id m).1.stock = h.stock := by
  unfold sendOn
  dsimp only
  split
  · rfl
  · split <;> rfl

theorem sealed_stock (m : Message) : (h.sealed m).1.stock = h.stock := by
  unfold sealed
  dsimp only
  split
  · rfl
  · exact h.now_stock

def sending (m : Message) : List Passage :=
  match (h.send m).2 with
  | .error _ => []
  | .ok sent => h.stock.storing sent

theorem send_stock (m : Message) :
    (h.send m).1.stock = (h.sending m).foldl Stock.enter h.stock := by
  unfold sending send
  split
  · rfl
  · next link ready =>
    have tried := h.sendOn_stock link { m with fromMe := true, fromInternal := true }
    dsimp only
    split
    · next h' e failed =>
      rw [failed] at tried
      exact tried
    · next h' id sent =>
      rw [sent] at tried
      rw [(store_eq _ _).1, sealed_stock]
      exact congrArg (fun s : Stock => (s.storing _).foldl Stock.enter s) tried

theorem Turn.settings {h h' : Hosted} (turn : Turn h h') : h'.host.settings = h.host.settings := by
  cases turn with
  | clock => simp only [Host.now, Clock.read]
  | profile change own => simp only [updateProfile, Host.save, Host.now, Clock.read]
  | hangUp => rw [dropLink_eq]
  | start =>
      rcases h.start_eq with same | ⟨exchange, link, _, opened⟩
      · rw [same]
      · rw [opened]
  | _ => rfl

theorem Turns.settings {h h' : Hosted} (turns : Turns h h') :
    h'.host.settings = h.host.settings := by
  induction turns with
  | refl => rfl
  | tail _ turn ih => exact turn.settings.trans ih

theorem attach_messages (w : Webhook) :
    (h.attach w).tenant.messages = h.tenant.messages := by
  unfold attach
  dsimp only
  split <;> rfl

theorem attachAll_messages (ws : List Webhook) :
    (h.attachAll ws).tenant.messages = h.tenant.messages := by
  unfold attachAll
  induction ws generalizing h with
  | nil => rfl
  | cons w rest ih => exact (ih (h.attach w)).trans (h.attach_messages w)

/-- An action that is not made of turns touches neither the cache nor the settings nor the push
connections. -/
theorem act_apart {a : Action} (other : ¬a.Calm) :
    (h.act a).tenant.messages = h.tenant.messages ∧ (h.act a).host.settings = h.host.settings ∧
      (h.act a).host.hub = h.host.hub := by
  have closed : ∀ h : Hosted, h.shutdown.tenant.messages = h.tenant.messages ∧
      h.shutdown.host.settings = h.host.settings ∧ h.shutdown.host.hub = h.host.hub := by
    intro h
    rw [shutdown, dropLink_eq]
    exact ⟨rfl, rfl, rfl⟩
  cases a with
  | logout =>
      rw [act, logout]
      split
      · next id used => exact closed (h.attempt id Session.Link.logout).1
      · exact closed h
  | shutdown => exact closed h
  | attachAll ws =>
      have host := h.attachAll_host ws
      exact ⟨h.attachAll_messages ws, congrArg Host.settings host, congrArg Host.hub host⟩
  | addWebhook w =>
      rw [act, addWebhook]
      dsimp only
      split
      · exact ⟨rfl, rfl, rfl⟩
      · rw [attach_messages, attach_host]
        exact ⟨rfl, rfl, rfl⟩
  | removeWebhook url =>
      rw [act, removeWebhook]
      dsimp only
      split <;> exact ⟨rfl, rfl, rfl⟩
  | toggleWebhook url option =>
      rw [act, toggleWebhook]
      split <;> exact ⟨rfl, rfl, rfl⟩
  | deliver net => exact ⟨rfl, rfl, rfl⟩
  | _ => exact absurd trivial other

theorem act_settings (a : Action) : (h.act a).host.settings = h.host.settings := by
  by_cases calm : a.Calm
  · exact (h.act_turns calm).settings
  · exact (h.act_apart calm).2.1

theorem act_options (a : Action) : (h.act a).options = h.options := by
  have each : ∀ s s', Standing.Step (fun _ => True) s s' →
      s.profile.options h.host.settings.defaults = h.options →
      s'.profile.options h.host.settings.defaults = h.options := by
    intro s s' step same
    cases step <;> exact same
  rw [options, act_settings]
  exact (h.act_steps a).keep each rfl

theorem ingest_options (m : Message) : (h.ingest m).1.options = h.options :=
  h.act_options (.ingest m)

theorem handle_options (e : Session.Event) : (h.handle e).options = h.options :=
  h.act_options (.event e)

end Hosted

end ChatGateway

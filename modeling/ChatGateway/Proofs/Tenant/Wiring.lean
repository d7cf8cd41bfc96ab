import ChatGateway.Proofs.Tenant.Spares

namespace ChatGateway

namespace Session

namespace Exchange

/-- Every session opened, and whether it is up. -/
def lines (x : Exchange) : List (LinkId × Bool) := x.links.map fun l => (l.id, l.connected)

/-- What there is to know of sessions but what was said on them. -/
structure Board where
  lines : List (LinkId × Bool)
  latest : List (String × LinkId)
  nextId : LinkId

def board (x : Exchange) : Board := ⟨x.lines, x.latest, x.nextId⟩

namespace Board

def hangUp (b : Board) (used : Option LinkId) : Board :=
  { b with lines := b.lines.map fun line =>
      if used = some line.1 then (line.1, false) else line }

def opened (b : Board) (token : String) : Board where
  lines := b.lines ++ [(b.nextId, true)]
  latest := Keyed.put Prod.fst (token, b.nextId) b.latest
  nextId := b.nextId + 1

end Board

variable {x x' : Exchange}

theorem update_board {id : LinkId} {l l' : Link} (found : x.link? id = some l) (same : l'.id = id)
    (still : l'.connected = l.connected) : (x.update l').board = x.board := by
  subst same
  have own : l.id = l'.id := (Keyed.find?_some found).2
  have lines : (x.update l').lines = x.lines := by
    apply Keyed.map_put found
    rw [own, still]
  rw [board, lines]
  rfl

/-- What needs the transport says something on a session that is up, and leaves it up. -/
theorem attempt_board (id : LinkId) {change : Link → Link} (own : ∀ l, (change l).id = l.id)
    (still : ∀ l, (change l).connected = l.connected) :
    (x.attempt id (·.whileConnected change)).1.board = x.board := by
  unfold attempt
  cases found : x.link? id with
  | none => rfl
  | some l =>
      dsimp only
      cases done : l.whileConnected change with
      | error e => rfl
      | ok l' =>
          rw [Link.whileConnected_ok done]
          exact update_board found ((own l).trans (Keyed.find?_some found).2) (still l)

theorem takeEvents_board (x : Exchange) (id : LinkId) : (x.takeEvents id).1.board = x.board := by
  unfold takeEvents
  split
  · rfl
  · next l found => exact update_board found (Keyed.find?_some found).2 rfl

theorem hangUp_board (x : Exchange) (used : Option LinkId) :
    (x.hangUp used).board = x.board.hangUp used := by
  cases used with
  | none => simp [hangUp, board, Board.hangUp]
  | some id =>
      simp only [hangUp, board, Board.hangUp, lines, modify, Keyed.modify, List.map_map]
      congr 1
      apply List.map_congr_left
      intro l _
      by_cases own : l.id = id
      · simp [own, Link.disconnect]
      · simp [own, Ne.symm own]

/-- A session that was logged out before it is closed is closed all the same. -/
theorem logout_board (x : Exchange) (id : LinkId) :
    ((x.attempt id Link.logout).1.hangUp (some id)).board = (x.hangUp (some id)).board := by
  unfold attempt
  cases found : x.link? id with
  | none => rfl
  | some l =>
      dsimp only
      cases done : l.logout with
      | error e => rfl
      | ok l' =>
          have closed : l' = { l with loggedOut := true, connected := false } :=
            Link.whileConnected_ok done
          obtain rfl := (Keyed.find?_some found).2
          subst closed
          rw [hangUp_board, hangUp_board]
          simp only [board, Board.hangUp, lines, List.map_map]
          congr 1
          exact Keyed.map_put found (by simp)

theorem connect_board {p : Profile} {l : Link} (opened : x.connect p = .ok (x', l)) :
    l.id = x.nextId ∧ x'.board = x.board.opened p.token := by
  unfold connect at opened
  split at opened
  · cases opened
  · cases opened
    simp [board, Board.opened, lines, Link.opened, Link.inject]

end Exchange

end Session

namespace Hosted

structure Wiring where
  link : Option Session.LinkId
  pump : Option Session.LinkId
  cancelled : Bool
  board : Session.Exchange.Board

def wiring (h : Hosted) : Wiring :=
  ⟨h.tenant.link, h.tenant.pump, h.tenant.cancelled, h.host.exchange.board⟩

theorem foldl_wiring {α : Type} {act : Hosted → α → Hosted}
    (each : ∀ h a, (act h a).wiring = h.wiring) (items : List α) (h : Hosted) :
    (items.foldl act h).wiring = h.wiring := by
  induction items generalizing h with
  | nil => rfl
  | cons a rest ih => exact (ih (act h a)).trans (each h a)

variable (h : Hosted)

theorem now_wiring : wiring { h with host := h.host.now.2 } = h.wiring := by
  simp only [wiring, Host.now_exchange]

theorem updateProfile_wiring (change : Profile → Profile) :
    (h.updateProfile change).wiring = h.wiring := by
  unfold updateProfile
  simp only [wiring, Host.save_exchange, Host.now_exchange]

theorem setStatus_wiring (next : TenantStatus) : (h.setStatus next).1.wiring = h.wiring := by
  cases allowed : h.tenant.status.allows next with
  | false => rw [setStatus_refused allowed]
  | true => rw [setStatus_allowed allowed]; rfl

theorem attempt_wiring (id : Session.LinkId) {change : Session.Link → Session.Link}
    (own : ∀ l, (change l).id = l.id) (still : ∀ l, (change l).connected = l.connected) :
    (h.attempt id (·.whileConnected change)).1.wiring = h.wiring := by
  have board := h.host.exchange.attempt_board id own still
  simp only [wiring, attempt, board]

theorem store_wiring (m : Message) : (h.store m).1.wiring = h.wiring := by
  unfold store
  dsimp only
  split <;> rfl

theorem withTitle_wiring (m : Message) : (h.withTitle m).1.wiring = h.wiring := by
  unfold withTitle
  split
  · split <;> rfl
  · rfl

theorem markRead_wiring (m : Message) : (h.markRead m).wiring = h.wiring := by
  unfold markRead
  split
  · exact h.attempt_wiring _ (fun _ => rfl) fun _ => rfl
  · rfl

theorem ingest_wiring (m : Message) : (h.ingest m).1.wiring = h.wiring := by
  unfold ingest
  split
  · rfl
  · dsimp only
    split
    · simp only [markRead_wiring, store_wiring, withTitle_wiring]
    · simp only [store_wiring, withTitle_wiring]

theorem onReceipt_wiring (chat : Chat) (ids : List String) (timestamp : Instant) :
    (h.onReceipt chat ids timestamp).wiring = h.wiring := by
  unfold onReceipt
  split <;> rfl

theorem onCall_wiring (id : String) (caller : Chat) (timestamp : Instant) :
    (h.onCall id caller timestamp).wiring = h.wiring := by
  unfold onCall
  dsimp only
  split
  · exact h.ingest_wiring _
  · split
    · exact h.attempt_wiring _ (fun _ => rfl) fun _ => rfl
    · rfl

theorem requestHistory_wiring : h.requestHistory.wiring = h.wiring := by
  unfold requestHistory
  split
  · rfl
  · split
    · rfl
    · dsimp only
      split
      · exact h.now_wiring
      · rw [← h.now_wiring]
        exact attempt_wiring _ _ (fun _ => rfl) fun _ => rfl

theorem confirm_wiring (wid : String) : (h.confirm wid).wiring = h.wiring :=
  h.updateProfile_wiring _

theorem onConnected_wiring (wid : String) : (h.onConnected wid).wiring = h.wiring := by
  unfold onConnected
  dsimp only
  rw [requestHistory_wiring, setStatus_wiring]
  split
  · rfl
  · exact confirm_wiring _ wid

theorem pair_wiring (wid : String) : (h.pair wid).wiring = h.wiring :=
  (setStatus_wiring _ _).trans (h.confirm_wiring wid)

theorem onLoggedOut_wiring (reason : String) :
    (h.onLoggedOut reason).wiring =
      if h.tenant.status.allows .loggedOut then { h.wiring with link := none } else h.wiring := by
  cases allowed : h.tenant.status.allows .loggedOut with
  | false => simp [onLoggedOut_refused allowed]
  | true =>
      rw [onLoggedOut, setStatus_allowed allowed]
      dsimp only
      rw [store_wiring, if_pos rfl]
      simp only [wiring, Host.now_exchange, Host.freshNumber, updateProfile, Host.save_exchange]

/-- The session that a tenant lets go of when it is told of an event: the one it uses, if that was
logged out by the network. It is not closed. -/
def forsaken? (h : Hosted) : Session.Event → Option Session.LinkId
  | .loggedOut _ => if h.tenant.status.allows .loggedOut then h.tenant.link else none
  | _ => none

/-- The session that a tenant lets go of in the course of some events. -/
def forsakenIn? (h : Hosted) : List Session.Event → Option Session.LinkId
  | [] => none
  | e :: rest => (h.forsaken? e).or ((h.handle e).forsakenIn? rest)

/-- The session that a tenant lets go of when it takes the events that wait. -/
def forsakenWaiting? (h : Hosted) : Option Session.LinkId :=
  h.tenant.heard.bind fun id =>
    forsakenIn? { h with host := { h.host with exchange := (h.host.exchange.takeEvents id).1 } }
      (h.host.exchange.takeEvents id).2

def Wiring.without (w : Wiring) : Option Session.LinkId → Wiring
  | none => w
  | some _ => { w with link := none }

theorem Wiring.without_some (w : Wiring) (id : Session.LinkId) (used : Option Session.LinkId) :
    (w.without (some id)).without used = w.without (some id) := by
  cases used <;> rfl

theorem Wiring.without_board (w : Wiring) (used : Option Session.LinkId) :
    (w.without used).board = w.board := by
  cases used <;> rfl

theorem handle_wiring (e : Session.Event) :
    (h.handle e).wiring = h.wiring.without (h.forsaken? e) := by
  cases e with
  | message m => exact h.ingest_wiring m
  | receipt chat ids timestamp => exact h.onReceipt_wiring chat ids timestamp
  | call id caller timestamp => exact h.onCall_wiring id caller timestamp
  | connected wid => exact h.onConnected_wiring wid
  | disconnected reason => exact h.setStatus_wiring .disconnected
  | history ms =>
      rw [handle]
      split
      · exact foldl_wiring ingest_wiring _ h
      · rfl
  | loggedOut reason =>
      rw [handle, onLoggedOut_wiring, forsaken?]
      split
      · cases used : h.tenant.link <;> simp [wiring, used, Wiring.without]
      · rfl

theorem handleAll_wiring (events : List Session.Event) :
    (events.foldl handle h).wiring = h.wiring.without (h.forsakenIn? events) := by
  induction events generalizing h with
  | nil => rfl
  | cons e rest ih =>
      rw [List.foldl_cons, ih, handle_wiring, forsakenIn?]
      cases h.forsaken? e with
      | none => rfl
      | some id => exact Wiring.without_some _ _ _

theorem takeEvents_wiring : h.takeEvents.wiring = h.wiring.without h.forsakenWaiting? := by
  unfold takeEvents forsakenWaiting?
  cases h.tenant.heard with
  | none => rfl
  | some id =>
      have board := h.host.exchange.takeEvents_board id
      rw [Option.bind_some, handleAll_wiring]
      simp only [wiring, board]

variable {h} {id : Session.LinkId}

theorem forsaken?_used {e : Session.Event} (left : h.forsaken? e = some id) :
    h.tenant.link = some id := by
  cases e with
  | loggedOut reason =>
      rw [forsaken?] at left
      split at left
      · exact left
      · cases left
  | _ => cases left

theorem forsakenIn?_used {events : List Session.Event} (left : h.forsakenIn? events = some id) :
    h.tenant.link = some id := by
  induction events generalizing h with
  | nil => cases left
  | cons e rest ih =>
      rw [forsakenIn?] at left
      cases first : h.forsaken? e with
      | some id' =>
          rw [first, Option.some_or] at left
          exact left ▸ forsaken?_used first
      | none =>
          rw [first, Option.none_or] at left
          have wiring := h.handle_wiring e
          rw [first] at wiring
          exact (congrArg Wiring.link wiring).symm.trans (ih left)

theorem forsakenWaiting?_used (left : h.forsakenWaiting? = some id) : h.tenant.link = some id := by
  obtain ⟨_, _, left⟩ := Option.bind_eq_some_iff.mp left
  have used := forsakenIn?_used left
  exact used

variable (h)

theorem sendOn_wiring (id : Session.LinkId) (m : Message) :
    (h.sendOn id m).1.wiring = h.wiring := by
  unfold sendOn
  dsimp only
  split
  · rfl
  · next l found =>
    split
    · rfl
    · next done =>
      obtain ⟨_, rfl⟩ := Session.Link.send_ok done
      exact congrArg (Wiring.mk _ _ _)
        (Session.Exchange.update_board found (Keyed.find?_some found).2 rfl)

theorem sealed_wiring (m : Message) : (h.sealed m).1.wiring = h.wiring := by
  unfold sealed
  dsimp only
  split
  · rfl
  · exact h.now_wiring

theorem send_wiring (m : Message) : (h.send m).1.wiring = h.wiring := by
  unfold send
  split
  · rfl
  · next link _ =>
    have sent := h.sendOn_wiring link { m with fromMe := true, fromInternal := true }
    dsimp only
    split
    · next result => rwa [result] at sent
    · next result =>
      rw [result] at sent
      rw [store_wiring, sealed_wiring, sent]

theorem revoke_wiring (id : String) (byBeginning : Bool) :
    (h.revoke id byBeginning).1.wiring = h.wiring := by
  refine revoke_keeps (P := fun h' => h'.wiring = h.wiring) rfl ?_
  intro link m h' _ same
  have tried : (h'.attempt link (·.revoke m)).1.wiring = h'.wiring :=
    h'.attempt_wiring _ (fun _ => rfl) fun _ => rfl
  exact tried.trans same

theorem attach_wiring (w : Webhook) : (h.attach w).wiring = h.wiring := by
  unfold attach
  dsimp only
  split <;> rfl

theorem attachAll_wiring (ws : List Webhook) : (h.attachAll ws).wiring = h.wiring :=
  foldl_wiring attach_wiring ws h

theorem addWebhook_wiring (w : Webhook) : (h.addWebhook w).1.wiring = h.wiring := by
  unfold addWebhook
  dsimp only
  split
  · rfl
  · exact attach_wiring _ _

theorem removeWebhook_wiring (url : String) : (h.removeWebhook url).1.wiring = h.wiring := by
  unfold removeWebhook
  dsimp only
  split <;> rfl

theorem toggleWebhook_wiring (url : String) (option : WebhookOption) :
    (h.toggleWebhook url option).1.wiring = h.wiring := by
  unfold toggleWebhook
  split <;> rfl

theorem work_wiring (id : String) (s : WorkerStep) : (h.work id s).wiring = h.wiring := by
  cases s with
  | finish net =>
      unfold work
      dsimp only
      split
      · rfl
      · split <;> rfl
  | _ => rfl

namespace Wiring

/-- A session is opened and listened to, and the one in use is closed. -/
def opened (w : Wiring) (token : String) : Wiring where
  link := some w.board.nextId
  pump := some w.board.nextId
  cancelled := w.cancelled
  board := (w.board.opened token).hangUp w.link

/-- The session in use is closed. -/
def closed (w : Wiring) : Wiring := { w with link := none, board := w.board.hangUp w.link }

end Wiring

theorem dropLink_wiring : h.dropLink.wiring = h.wiring.closed := by
  rw [dropLink_eq]
  simp only [wiring, Session.Exchange.hangUp_board]
  rfl

theorem start_wiring :
    h.start.1.wiring =
      if h.tenant.profile.identity.isSome then h.wiring.opened h.tenant.token else h.wiring := by
  cases opened : h.host.exchange.connect h.tenant.profile with
  | error e =>
      simp [start, opened, Session.Exchange.connect_error opened]
  | ok result =>
      obtain ⟨exchange, link⟩ := result
      obtain ⟨named, board⟩ := Session.Exchange.connect_board opened
      simp only [start, opened, (Session.Exchange.connect_ok opened).1, dropLink_eq, wiring,
        Session.Exchange.hangUp_board, board, named]
      rfl

theorem stop_wiring : h.stop.wiring = { h.wiring.closed with pump := none } := by
  rw [stop, setStatus_wiring, dropLink_wiring]
  rfl

theorem shutdown_wiring : h.shutdown.wiring = { h.wiring.closed with cancelled := true } := by
  unfold shutdown
  rw [dropLink_wiring]
  rfl

theorem logout_wiring : h.logout.wiring = { h.wiring.closed with cancelled := true } := by
  unfold logout
  cases used : h.tenant.link with
  | none => exact h.shutdown_wiring
  | some id =>
      have closed := h.host.exchange.logout_board id
      rw [Session.Exchange.hangUp_board, Session.Exchange.hangUp_board] at closed
      rw [shutdown_wiring]
      simp only [wiring, Wiring.closed, attempt, used, closed]

/-- Whatever is done at a tenant, only opening, closing and letting go of sessions, and being told
to stop, change its wiring. -/
theorem act_wiring (a : Action) :
    (h.act a).wiring = match a with
      | .start =>
        if h.tenant.profile.identity.isSome then h.wiring.opened h.tenant.token else h.wiring
      | .stop => { h.wiring.closed with pump := none }
      | .logout | .shutdown => { h.wiring.closed with cancelled := true }
      | .cancel => { h.wiring with cancelled := true }
      | .event e => h.wiring.without (h.forsaken? e)
      | .takeEvents => h.wiring.without h.forsakenWaiting?
      | _ => h.wiring := by
  cases a with
  | start => exact h.start_wiring
  | stop => exact h.stop_wiring
  | logout => exact h.logout_wiring
  | shutdown => exact h.shutdown_wiring
  | cancel => rfl
  | event e => exact h.handle_wiring e
  | takeEvents => exact h.takeEvents_wiring
  | pair wid => exact h.pair_wiring wid
  | ingest m => exact h.ingest_wiring m
  | send m => exact h.send_wiring m
  | revoke id byBeginning => exact h.revoke_wiring id byBeginning
  | forget id => rfl
  | attachAll ws => exact h.attachAll_wiring ws
  | addWebhook w => exact h.addWebhook_wiring w
  | removeWebhook url => exact h.removeWebhook_wiring url
  | toggleWebhook url option => exact h.toggleWebhook_wiring url option
  | deliver net => rfl

end Hosted

end ChatGateway

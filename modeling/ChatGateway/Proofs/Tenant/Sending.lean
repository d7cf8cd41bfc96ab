import ChatGateway.Proofs.Cache.Newest
import ChatGateway.Proofs.Delivery.Relay
import ChatGateway.Proofs.Outbound.Request
import ChatGateway.Proofs.Tenant.Changes
import ChatGateway.Proofs.Tenant.Spares
import ChatGateway.Proofs.Text.Case

namespace ChatGateway

/-- A message without the bytes of its attachment. -/
def Message.stripped (m : Message) : Message :=
  { m with attachment := m.attachment.map fun a => { a with content := none } }

theorem Message.stripped_content (m : Message) : ∀ a ∈ m.stripped.attachment, a.content = none := by
  intro a carried
  obtain ⟨_, _, rfl⟩ := Option.map_eq_some_iff.mp carried
  rfl

namespace Session

theorem messageId_ne (n : Nat) : messageId n ≠ "" := by
  intro empty
  have chars := congrArg String.toList empty
  simp [messageId] at chars

namespace Link

/-- The id a message is sent under. -/
def sentId (m : Message) (freshId : String) : String := if m.id.isEmpty then freshId else m.id

theorem send_connected {l : Link} (up : l.connected = true) (m : Message) (freshId : String) :
    l.send m freshId =
      .ok ({ l with sent := l.sent ++ [{ m with id := sentId m freshId }] },
        sentId m freshId) := by
  simp only [send, whileConnected, up, if_true]
  rfl

end Link

end Session

namespace Stock

theorem passes_eq (s : Stock) (m : Message) :
    s.passes m = !(s.settings.debounceDispatch &&
      (Keyed.find? Message.key m.key s.messages.entries).any (·.sameContent m)) := by
  rw [passes, Cache.Messages.put_answer, Bool.not_and, Bool.or_comm]

variable {s : Stock} (m : Message)

theorem storing_entries (unbounded : s.settings.maxMessages = 0) :
    ((s.storing m).foldl enter s).messages.entries =
      Cache.Messages.insert m s.messages.entries := by
  rw [(storing_stock s m).1, unbounded, ← Cache.Messages.put_entries]
  rfl

theorem storing_offers :
    (((s.storing m).foldl enter s).fanout.registrations, ((s.storing m).foldl enter s).metrics) =
      if s.passes m then
        (s.fanout.registrations.map fun r => { r with queue := r.queue.offered m },
          s.metrics.offers (s.fanout.registrations.countP (·.queue.hasRoom))
            (s.fanout.registrations.countP (!·.queue.hasRoom)))
      else (s.fanout.registrations, s.metrics) := by
  unfold storing
  split
  · simp only [List.foldl_cons, List.foldl_nil, enter, Delivery.Fanout.trigger_eq]
  · rfl

end Stock

namespace Hosted

variable {h : Hosted}

theorem sealed_message (h : Hosted) (m : Message) :
    (h.sealed m).2 = { m.stripped with
      timestamp := if m.hasTimestamp then m.timestamp else h.host.clock.next } := by
  unfold sealed
  dsimp only
  have same : Message.hasTimestamp { m with
      attachment := m.attachment.map fun a => { a with content := none } } = m.hasTimestamp := rfl
  rw [same]
  split
  · rfl
  · rfl

theorem sealed_exchange (h : Hosted) (m : Message) :
    (h.sealed m).1.host.exchange = h.host.exchange := by
  unfold sealed
  dsimp only
  split
  · rfl
  · exact h.host.now_exchange

theorem store_exchange (h : Hosted) (m : Message) :
    (h.store m).1.host.exchange = h.host.exchange := by
  unfold store
  dsimp only
  split <;> rfl

/-- The id a message is sent under at a host. -/
def sentId (h : Hosted) (m : Message) : String :=
  Session.Link.sentId m (Session.messageId h.host.nextId)

theorem sentId_ne (h : Hosted) (m : Message) : h.sentId m ≠ "" := by
  unfold sentId Session.Link.sentId
  split
  · exact Session.messageId_ne h.host.nextId
  · next given => exact fun empty => given (String.isEmpty_iff.mpr empty)

theorem sentId_given (h : Hosted) (m : Message) (given : m.id ≠ "") : h.sentId m = m.id :=
  if_neg fun empty => given (String.isEmpty_iff.mp empty)

/-- A message as it is kept and passed on once it was sent. -/
def sentForm (h : Hosted) (m : Message) : Message :=
  { m.stripped with
    id := h.sentId m
    timestamp := if m.hasTimestamp then m.timestamp else h.host.clock.next
    fromMe := true
    fromInternal := true }

section Open

variable {id : Session.LinkId} {l : Session.Link}

theorem sendOn_open (found : h.host.exchange.link? id = some l) (up : l.connected = true)
    (m : Message) :
    h.sendOn id m =
      ({ h with host := { h.host with
          nextId := h.host.nextId + 1
          exchange := h.host.exchange.update
            { l with sent := l.sent ++ [{ m with id := h.sentId m }] } } },
        .ok (h.sentId m)) := by
  simp only [sendOn, Host.freshNumber, found, Session.Link.send_connected up]
  rfl

theorem send_open (ready : h.tenant.status.isReady = true) (inUse : h.tenant.link = some id)
    (found : h.host.exchange.link? id = some l) (up : l.connected = true) (m : Message) :
    (h.send m).2 = .ok (h.sentForm m) ∧
      (h.send m).1.host.exchange = h.host.exchange.update
        { l with sent := l.sent ++
            [{ m with id := h.sentId m, fromMe := true, fromInternal := true }] } := by
  have usable : h.tenant.readyLink = .ok id := Tenant.readyLink_ready ready inUse
  simp only [send, usable, sendOn_open found up, store_exchange, sealed_exchange, sealed_message]
  exact ⟨rfl, rfl⟩

end Open

/-- Whether a record is held back: it has the content of what is kept under its key. -/
def holdsBack (h : Hosted) (r : Message) : Bool :=
  h.host.settings.cache.debounceDispatch && (h.tenant.messages.get? r.id).any (·.sameContent r)

theorem send_entered {m r : Message} (sent : (h.send m).2 = .ok r) :
    (h.send m).1.stock = (h.stock.storing r).foldl Stock.enter h.stock := by
  rw [send_stock, sending, sent]

theorem send_offers {m r : Message} (sent : (h.send m).2 = .ok r) :
    ((h.send m).1.tenant.fanout.registrations, (h.send m).1.host.metrics) =
      if h.holdsBack r then (h.tenant.fanout.registrations, h.host.metrics)
      else
        (h.tenant.fanout.registrations.map fun s => { s with queue := s.queue.offered r },
          h.host.metrics.offers (h.tenant.fanout.registrations.countP (·.queue.hasRoom))
            (h.tenant.fanout.registrations.countP (!·.queue.hasRoom))) := by
  have entered := congrArg (fun s : Stock => (s.fanout.registrations, s.metrics))
    (send_entered sent)
  have passes : h.stock.passes r = !h.holdsBack r := h.stock.passes_eq r
  refine entered.trans ((Stock.storing_offers r).trans ?_)
  rw [passes]
  cases h.holdsBack r <;> rfl

theorem send_entries (unbounded : h.host.settings.cache.maxMessages = 0) {m r : Message}
    (sent : (h.send m).2 = .ok r) :
    (h.send m).1.tenant.messages.entries =
      Cache.Messages.insert r h.tenant.messages.entries := by
  have entered := congrArg (·.messages.entries) (send_entered sent)
  exact entered.trans (Stock.storing_entries r unbounded)

/-- A ready tenant with an open session, whose cache has no bound and may hold anything, sends what
a request asks for. The record that is answered has an id, the one asked for if there was one. The
session gets one entry more: the message under that id, with the bytes that its attachment has in
the request. The record is the same without them, and has the time of the request, unless the clock
has not passed the epoch and is read again. In the cache it is found by its id in any case of the
ASCII letters, and under no other key did anything change. Every subscriber is offered the record
once; or none is, where repetitions are held back and what was kept under the key has the same
content. -/
theorem sent_message_is_recorded {request : Outbound.Request} {now : Instant} {m : Message}
    {id : Session.LinkId} {l : Session.Link} (asked : request.message now = .ok m)
    (ready : h.tenant.status.isReady = true) (inUse : h.tenant.link = some id)
    (found : h.host.exchange.link? id = some l) (up : l.connected = true)
    (unbounded : h.host.settings.cache.maxMessages = 0) :
    ∃ h' r, h.send m = (h', .ok r) ∧
      (r.id ≠ "" ∧ (request.id ≠ "" → r.id = request.id)) ∧
      (r.fromMe = true ∧ r.fromInternal = true ∧ ∀ a ∈ r.attachment, a.content = none) ∧
      h'.host.exchange.link? id = some { l with sent := l.sent ++ [{ m with id := r.id }] } ∧
      (∀ a ∈ m.attachment, ∃ bytes,
        Base64.decode (Text.trim request.content).toList = some bytes ∧ a.content = some bytes) ∧
      (m.timestamp = now ∧ r = { m.stripped with
        id := r.id
        timestamp := if Instant.epoch.before now then now else h.host.clock.next }) ∧
      (∀ other, Text.lowerAsciiText other = Text.lowerAsciiText r.id →
        h'.tenant.messages.get? other = some r) ∧
      (∀ k ≠ r.key, Keyed.find? Message.key k h'.tenant.messages.entries =
        Keyed.find? Message.key k h.tenant.messages.entries) ∧
      (h'.tenant.fanout.registrations, h'.host.metrics) =
        if h.holdsBack r then (h.tenant.fanout.registrations, h.host.metrics)
        else
          (h.tenant.fanout.registrations.map fun s => { s with queue := s.queue.offered r },
            h.host.metrics.offers (h.tenant.fanout.registrations.countP (·.queue.hasRoom))
              (h.tenant.fanout.registrations.countP (!·.queue.hasRoom))) := by
  have fields : m.id = request.id ∧ m.timestamp = now ∧ request.attachment = .ok m.attachment ∧
      { m with fromMe := true, fromInternal := true } = m := by
    obtain ⟨_, _, _, _, _, attached, _, rfl⟩ := Outbound.Request.message_ok asked
    exact ⟨rfl, rfl, attached, rfl⟩
  obtain ⟨named, made, attached, own⟩ := fields
  obtain ⟨sent, exchange⟩ := send_open ready inUse found up m
  have entries := send_entries unbounded sent
  refine ⟨(h.send m).1, h.sentForm m, Prod.ext rfl sent,
    ⟨h.sentId_ne m, named ▸ h.sentId_given m⟩, ⟨rfl, rfl, m.stripped_content⟩, ?_, ?_, ?_, ?_, ?_,
    send_offers sent⟩
  · -- The session has the bytes of the attachment, the cache does not.
    have entry : { m with id := h.sentId m, fromMe := true, fromInternal := true } =
        { m with id := h.sentId m } :=
      congrArg (fun m : Message => { m with id := h.sentId m }) own
    have theirs : l.id = id := (Keyed.find?_some found).2
    subst theirs
    rw [exchange, entry]
    exact h.host.exchange.link?_update_self _
  · intro a carried
    rw [Option.mem_def.mp carried] at attached
    exact Outbound.Request.attachment_content attached
  · refine ⟨made, ?_⟩
    rw [← made]
    exact congrArg (fun m : Message => { m.stripped with
      id := h.sentId m
      timestamp := if m.hasTimestamp then m.timestamp else h.host.clock.next }) own
  · intro other sameLetters
    have key : Message.keyOf other = (h.sentForm m).key :=
      Text.upper_eq_of_lowerAsciiText sameLetters
    rw [Cache.Messages.get?, entries, key]
    exact Cache.Messages.find?_insert_self _ _
  · intro k different
    rw [entries]
    exact Cache.Messages.find?_insert_ne different _

/-- A message is sent under an id that another had in small letters. It takes its place, and the
subscriber sees it only if the text is another. -/
theorem sent_in_place_of_another :
    let chat : Chat := ⟨"5511@s.whatsapp.net", ""⟩
    let known : Message :=
      { id := "a1", timestamp := ⟨5, 0⟩, kind := .text, chat := chat, text := "hi" }
    let settings : Settings := {}
    let h : Hosted :=
      { tenant := { Tenant.ofProfile settings (.fresh "tok" .epoch) false with
          status := .ready
          link := some 0
          messages := ⟨[known], 1⟩
          fanout := { capacity := 4, registrations := [⟨"hook", .ofCapacity 4⟩] } }
        host := { settings := settings, office := ⟨""⟩, hub := {}, clock := ⟨⟨9, 0⟩⟩
                  exchange := { links := [.opened 0 "5500"], nextId := 1 } } }
    let made := fun text : String =>
      ({ id := "A1", timestamp := ⟨8, 0⟩, kind := .text, chat := chat, text := text, fromMe := true,
         fromInternal := true } : Message)
    ∀ text ∈ ["hi", "hello"], ∃ h', h.send (made text) = (h', .ok (made text)) ∧
      (h'.host.exchange.link? 0).map Session.Link.sent = some [made text] ∧
      h'.tenant.messages.get? "a1" = some (made text) ∧
      h'.tenant.fanout.registrations.map (·.queue.waiting) =
        [if text = "hi" then [] else [made text]] := by
  intro chat known settings h made text given
  have asked : ({ id := "A1", chatId := "5511", text := text } : Outbound.Request).message ⟨8, 0⟩ =
      .ok (made text) := by
    rcases List.mem_pair.mp given with rfl | rfl <;> rfl
  obtain ⟨h', r, sent, ⟨_, named⟩, _, session, _, ⟨_, record⟩, cached, _, offered⟩ :=
    sent_message_is_recorded (h := h) (l := .opened 0 "5500") asked rfl rfl rfl rfl rfl
  have name : r.id = "A1" := named (show "A1" ≠ "" by decide)
  rw [name] at record
  have form : r = made text := record
  subst form
  have letters : Text.lowerAsciiText "a1" = Text.lowerAsciiText "A1" := by decide
  refine ⟨h', sent, ?_, cached "a1" letters, ?_⟩
  · rw [session]
    rfl
  · have queues : h'.tenant.fanout.registrations = _ := congrArg Prod.fst offered
    rw [queues]
    rcases List.mem_pair.mp given with rfl | rfl
    · decide
    · decide

end Hosted

end ChatGateway

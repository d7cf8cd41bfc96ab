import ChatGateway.Proofs.Push.Traffic
import ChatGateway.Proofs.Tenant.Notices
import ChatGateway.Proofs.Tenant.Sending
import ChatGateway.Proofs.Webhook.Filter

namespace ChatGateway

open Hosted (logoutNotice)

theorem TenantStatus.live_allows {s : TenantStatus} (live : s = ready ∨ s = disconnected) :
    s.allows loggedOut = true := by
  rcases live with rfl | rfl <;> rfl

/-- The ids of notices begin with a capital letter, the one that read receipts have does not. -/
theorem Hosted.logoutNotice_receipt (number : Nat) (now : Instant) (reason : String) :
    (logoutNotice number now reason).isReadReceipt = false := by
  have different : (logoutNotice number now reason).id ≠ Message.readReceiptId := by
    intro same
    have first := congrArg (·.toList.head?) same
    have capital : (logoutNotice number now reason).id.toList.head? = some 'S' := by
      rw [logoutNotice, String.toList_append]
      rfl
    have small : Message.readReceiptId.toList.head? = some 'r' := by decide
    rw [capital, small] at first
    cases first
  rw [Message.isReadReceipt, beq_eq_false_iff_ne.mpr different, Bool.and_false]

theorem Webhook.wants_logoutNotice (w : Webhook) (number : Nat) (now : Instant) (reason : String) :
    w.skipReason? (logoutNotice number now reason) = none := by
  refine skipReason?_eq_none_iff.mpr ⟨rfl, fun f => ?_, rfl⟩
  have uncovered : f.covers (logoutNotice number now reason) = false := by
    cases f with
    | readReceipts => exact Hosted.logoutNotice_receipt number now reason
    | groups => exact Hosted.logoutNotice_fromGroup number now reason
    | broadcasts => exact Hosted.logoutNotice_fromBroadcast number now reason
    | calls => rfl
  rw [blocks, uncovered, Bool.false_and]

namespace Stock

variable {s : Stock} {m : Message}

theorem storing_hub (passes : s.passes m = true) :
    ((s.storing m).foldl enter s).hub = (s.hub.dispatch s.token m).1 := by
  rw [storing, if_pos passes]
  rfl

end Stock

namespace Hosted

theorem loggedOut_passed {h : Hosted}
    (live : h.tenant.status = .ready ∨ h.tenant.status = .disconnected)
    (fresh : h.tenant.messages.get? (logoutNotice h.host.nextId .epoch "").id = none)
    (reason : String) :
    ∃ now, h.stock.passes (logoutNotice h.host.nextId now reason) = true ∧
      (h.handle (.loggedOut reason)).stock =
        (h.stock.storing (logoutNotice h.host.nextId now reason)).foldl Stock.enter h.stock := by
  have unknown : h.clashes (.event (.loggedOut reason)) = false := by
    rw [clashes, fresh]
    rfl
  refine ⟨h.host.now.2.now.2.now.1, h.fresh_passes unknown _, ?_⟩
  rw [h.handle_stock, handling, logoutNotices, if_pos (TenantStatus.live_allows live)]

/-- The network reports the end of the session of a tenant that is ready, or has lost its
connection. The cache may hold anything but the id made for the notice, and have any bound, and
repetitions may be held back or not; the hub has seen any traffic. One notice of kind `system` comes
of it. Every subscriber is offered it once, and it is pushed once to all who are registered and
bound to the tenant, and to no one else. There is no webhook that would skip it. -/
theorem logout_is_heard {h : Hosted} {settings : PushSettings} {events : List Push.Traffic.Event}
    (live : h.tenant.status = .ready ∨ h.tenant.status = .disconnected)
    (fresh : h.tenant.messages.get? (logoutNotice h.host.nextId .epoch "").id = none)
    (reached : h.host.hub = (Push.Traffic.run { hub := { settings := settings } } events).hub)
    (once : (events.filterMap Push.Traffic.Event.opens).Nodup) (reason : String) :
    let h' := h.handle (.loggedOut reason)
    ∃ notice, (notice.kind = .system ∧ ∃ now, notice = logoutNotice h.host.nextId now reason) ∧
      h'.tenant.status = .loggedOut ∧
      (h'.tenant.fanout.registrations, h'.host.metrics) =
        (h.tenant.fanout.registrations.map fun s => { s with queue := s.queue.offered notice },
          h.host.metrics.offers (h.tenant.fanout.registrations.countP (·.queue.hasRoom))
            (h.tenant.fanout.registrations.countP (!·.queue.hasRoom))) ∧
      (h'.host.hub = (h.host.hub.dispatch h.tenant.token notice).1 ∧
        h.host.hub.PushesTo h.tenant.token notice) ∧
      ∀ w : Webhook, w.skipReason? notice = none := by
  intro h'
  obtain ⟨now, passes, stock⟩ := loggedOut_passed live fresh reason
  refine ⟨_, ⟨rfl, now, rfl⟩, ?_, ?_, ⟨?_, ?_⟩, fun w => w.wants_logoutNotice _ _ _⟩
  · exact (h.loggedOut_status reason).trans (if_pos (TenantStatus.live_allows live))
  · have offers := Stock.storing_offers (s := h.stock) (logoutNotice h.host.nextId now reason)
    rw [if_pos passes] at offers
    exact (congrArg (fun s : Stock => (s.fanout.registrations, s.metrics)) stock).trans offers
  · exact (congrArg Stock.hub stock).trans (Stock.storing_hub passes)
  · rw [reached]
    exact (Push.Traffic.pushed_to_bound_connections settings once).1 h.tenant.token _

/-- The cache has room for one message only and holds a later one, and repetitions are held back.
One of two queues has room, one of two connections is bound; they get the notice. -/
theorem heard_at_free_queue :
    let known : Message :=
      { id := "a1", timestamp := ⟨9, 0⟩, kind := .text, chat := ⟨"1@s.whatsapp.net", ""⟩ }
    let settings : Settings := { cache := { maxMessages := 1, debounceDispatch := true } }
    let events : List Push.Traffic.Event := [.connect 0, .connect 1, .bind 1 "tok"]
    let h : Hosted :=
      { tenant := { Tenant.ofProfile settings (.fresh "tok" .epoch) false with
          status := .disconnected
          messages := ⟨[known], 1⟩
          fanout := {
            capacity := 1
            registrations := [⟨"full", { Delivery.Queue.ofCapacity 1 with waiting := [known] }⟩,
              ⟨"free", .ofCapacity 1⟩] } }
        host := { settings := settings, office := ⟨""⟩, clock := ⟨.epoch⟩
                  hub := (Push.Traffic.run { hub := { settings := settings.push } } events).hub } }
    let h' := h.handle (.loggedOut "revoked")
    ∃ notice, notice.kind = .system ∧
      h'.tenant.fanout.registrations.map (·.queue.waiting) = [[known], [notice]] ∧
      h'.host.hub.handles.map (fun c => (c.id, c.buffer)) =
        [(0, []), (1, [.record settings.push.messageTarget notice])] ∧
      ∀ w : Webhook, w.skipReason? notice = none := by
  intro known settings events h h'
  have fresh : h.tenant.messages.get? (logoutNotice h.host.nextId .epoch "").id = none := by
    decide +kernel
  have reached : h.host.hub =
      (Push.Traffic.run { hub := { settings := settings.push } } events).hub := by dsimp only [h]
  obtain ⟨notice, ⟨kind, _⟩, _, offered, ⟨pushed, law⟩, wanted⟩ :=
    logout_is_heard (.inr rfl) fresh reached (by decide) "revoked"
  obtain ⟨queues, -⟩ := Prod.mk.inj offered
  refine ⟨notice, kind, ?_, ?_, wanted⟩
  · rw [queues]
    rfl
  · rw [pushed, law.buffers]
    rfl

end Hosted

end ChatGateway

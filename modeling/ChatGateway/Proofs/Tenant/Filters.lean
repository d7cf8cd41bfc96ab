import ChatGateway.Proofs.Cache.Newest
import ChatGateway.Proofs.Delivery.Ledger
import ChatGateway.Proofs.Push.Dispatch
import ChatGateway.Proofs.Tenant.Changes

/-!
The tenant's own filters over whole runs. Every record that comes to the cache, to a subscriber's
queue or to a push connection is written down with what brought it; whatever is held later was held
at first or is written down, and all that is written down is as the tenant's options have it, which
no run changes.
-/

namespace ChatGateway

namespace Stock

/-- What is held in `s'` was held in `s`, or came with one of the passages. -/
structure Explains (items : List Passage) (s s' : Stock) : Prop where
  cached : ∀ m ∈ s'.messages.entries, m ∈ s.messages.entries ∨ .kept m ∈ items
  queued : ∀ m ∈ s'.fanout.held, m ∈ s.fanout.held ∨ .passed m ∈ items
  pushed : ∀ f, s'.hub.Holds f →
    s.hub.Holds f ∨ ∃ m, .passed m ∈ items ∧ f = .record s.hub.settings.messageTarget m
  target : s'.hub.settings = s.hub.settings

namespace Explains

variable {s s' s₁ s₂ s₃ : Stock} {items items' : List Passage}

theorem shed (cached : s'.messages.entries ⊆ s.messages.entries)
    (queued : s'.fanout.held ⊆ s.fanout.held) (hub : s'.hub = s.hub) : Explains [] s s' :=
  ⟨fun _ member => Or.inl (cached member), fun _ member => Or.inl (queued member),
    fun _ holds => Or.inl (hub ▸ holds), congrArg Push.Hub.settings hub⟩

theorem of_eq (same : s' = s) : Explains [] s s' := by
  rw [same]
  exact shed (List.Subset.refl _) (List.Subset.refl _) rfl

theorem trans (first : Explains items s₁ s₂) (second : Explains items' s₂ s₃) :
    Explains (items ++ items') s₁ s₃ := by
  refine ⟨fun m member => ?_, fun m member => ?_, fun f holds => ?_,
    second.target.trans first.target⟩
  · rcases second.cached m member with before | now
    · exact (first.cached m before).imp_right (List.mem_append_left items')
    · exact Or.inr (List.mem_append_right items now)
  · rcases second.queued m member with before | now
    · exact (first.queued m before).imp_right (List.mem_append_left items')
    · exact Or.inr (List.mem_append_right items now)
  · rcases second.pushed f holds with before | ⟨m, now, rfl⟩
    · rcases first.pushed f before with earlier | ⟨m, there, rfl⟩
      · exact Or.inl earlier
      · exact Or.inr ⟨m, List.mem_append_left items' there, rfl⟩
    · exact Or.inr ⟨m, List.mem_append_right items now, by rw [first.target]⟩

theorem enter (s : Stock) (item : Passage) : Explains [item] s (s.enter item) := by
  cases item with
  | kept m =>
      refine ⟨fun x member => ?_, fun x member => Or.inl member, fun f holds => Or.inl holds, rfl⟩
      have put := Cache.Messages.cleanUp_subset member
      rw [Cache.Messages.put_entries] at put
      rcases Cache.Messages.insert_subset put with rfl | before
      · exact Or.inr List.mem_cons_self
      · exact Or.inl before
  | passed m =>
      refine ⟨fun x member => Or.inl member, fun x member => ?_, fun f holds => ?_, rfl⟩
      · rcases s.fanout.trigger_held s.hub s.token m s.metrics member with before | rfl
        · exact Or.inl before
        · exact Or.inr List.mem_cons_self
      · rcases Push.Hub.dispatch_holds holds with before | rfl
        · exact Or.inl before
        · exact Or.inr ⟨m, List.mem_cons_self, rfl⟩

theorem foldl (s : Stock) (items : List Passage) :
    Explains items s (items.foldl Stock.enter s) := by
  induction items generalizing s with
  | nil => exact of_eq rfl
  | cons item rest ih => exact (enter s item).trans (ih (s.enter item))

end Explains

end Stock

namespace Hosted

/-- What brings a record to a tenant. -/
inductive Cause where
  | event (e : Session.Event)
  | send (m : Message)

namespace Cause

def isSend : Cause → Bool
  | send _ => true
  | event _ => false

def isReceipt : Cause → Bool
  | event (.receipt ..) => true
  | _ => false

def isCall : Cause → Bool
  | event (.call ..) => true
  | _ => false

end Cause

structure Entry where
  cause : Cause
  passage : Passage

/-- What is written down on an event. -/
def noted (h : Hosted) (e : Session.Event) : List Entry := (h.handling e).map (⟨.event e, ·⟩)

/-- What is written down on an action. A message taken in by itself counts as its event. -/
def entries (h : Hosted) : Action → List Entry
  | .event e => h.noted e
  | .ingest m => h.noted (.message m)
  | .takeEvents =>
    match h.tenant.heard with
    | none => []
    | some id =>
      let (exchange, events) := h.host.exchange.takeEvents id
      trail handle noted { h with host := { h.host with exchange := exchange } } events
  | .send m => (h.sending m).map (⟨.send m, ·⟩)
  | _ => []

def run (h : Hosted) (actions : List Action) : Hosted := actions.foldl act h

def log (h : Hosted) (actions : List Action) : List Entry := trail act entries h actions

theorem noted_passages (h : Hosted) (e : Session.Event) :
    (h.noted e).map Entry.passage = h.handling e := by
  rw [noted, List.map_map]
  exact List.map_id _

theorem start_stock (h : Hosted) : h.start.1.stock = h.stock := by
  rcases h.start_eq with same | ⟨exchange, link, _, opened⟩
  · rw [same]
  · rw [opened]
    rfl

theorem stop_stock (h : Hosted) : h.stop.stock = h.stock := by
  rw [stop, setStatus_stock, dropLink_eq]
  rfl

theorem pair_stock (h : Hosted) (wid : String) : (h.pair wid).stock = h.stock := by
  rw [pair, setStatus_stock]
  exact updateProfile_stock h fun _ => rfl

theorem revoke_stock (h : Hosted) (id : String) (byBeginning : Bool) :
    (h.revoke id byBeginning).1.stock = h.stock :=
  revoke_keeps (P := fun h' => h'.stock = h.stock) rfl fun _ _ h' _ same =>
    (h'.attempt_stock _ _).trans same

theorem attach_held (h : Hosted) (w : Webhook) :
    (h.attach w).tenant.fanout.held = h.tenant.fanout.held := by
  unfold attach
  dsimp only
  split
  · rfl
  · exact Delivery.Fanout.held_register

theorem attachAll_held (h : Hosted) (ws : List Webhook) :
    (h.attachAll ws).tenant.fanout.held = h.tenant.fanout.held := by
  unfold attachAll
  induction ws generalizing h with
  | nil => rfl
  | cons w rest ih => exact (ih (h.attach w)).trans (h.attach_held w)

theorem shutdown_held (h : Hosted) : h.shutdown.tenant.fanout.held = [] := by
  rw [shutdown, dropLink_eq]
  rfl

theorem act_held (h : Hosted) {a : Action} (other : ¬a.Calm) :
    (h.act a).tenant.fanout.held ⊆ h.tenant.fanout.held := by
  cases a with
  | logout =>
      rw [act, logout]
      split
      · rw [shutdown_held]
        exact List.nil_subset _
      · rw [shutdown_held]
        exact List.nil_subset _
  | shutdown =>
      rw [act, shutdown_held]
      exact List.nil_subset _
  | attachAll ws =>
      rw [act, attachAll_held]
      exact List.Subset.refl _
  | addWebhook w =>
      rw [act, addWebhook]
      dsimp only
      split
      · exact List.Subset.refl _
      · rw [attach_held]
        exact List.Subset.refl _
  | removeWebhook url =>
      rw [act, removeWebhook]
      dsimp only
      split
      · exact h.tenant.fanout.unregister_held _
      · exact List.Subset.refl _
  | toggleWebhook url option =>
      rw [act, toggleWebhook]
      split <;> exact List.Subset.refl _
  | deliver net => exact Delivery.Fanout.runAll_held _ _ _ _
  | _ => exact absurd trivial other

theorem trail_explained {α : Type} {step : Hosted → α → Hosted} {note : Hosted → α → List Entry}
    (each : ∀ h a, Stock.Explains ((note h a).map Entry.passage) h.stock (step h a).stock)
    (h : Hosted) (items : List α) :
    Stock.Explains ((trail step note h items).map Entry.passage) h.stock
      (items.foldl step h).stock := by
  induction items generalizing h with
  | nil => exact .of_eq rfl
  | cons a rest ih =>
      rw [trail, List.map_append]
      exact (each h a).trans (ih (step h a))

theorem handle_explained (h : Hosted) (e : Session.Event) :
    Stock.Explains ((h.noted e).map Entry.passage) h.stock (h.handle e).stock := by
  rw [noted_passages, handle_stock]
  exact .foldl h.stock _

/-- What an action leaves is what was there and what is written down. -/
theorem act_explained (h : Hosted) (a : Action) :
    Stock.Explains ((h.entries a).map Entry.passage) h.stock (h.act a).stock := by
  by_cases calm : a.Calm
  · cases a with
    | start => exact .of_eq h.start_stock
    | stop => exact .of_eq h.stop_stock
    | cancel =>
        refine .shed (List.Subset.refl _) ?_ rfl
        change h.tenant.fanout.cancel.held ⊆ h.tenant.fanout.held
        rw [Delivery.Fanout.held_cancel]
        exact List.Subset.refl _
    | pair wid => exact .of_eq (h.pair_stock wid)
    | event e => exact h.handle_explained e
    | takeEvents =>
        cases heard : h.tenant.heard with
        | none =>
            simp only [act, takeEvents, entries, heard]
            exact .of_eq rfl
        | some id =>
            simp only [act, takeEvents, entries, heard]
            exact trail_explained handle_explained
              { h with host := { h.host with exchange := (h.host.exchange.takeEvents id).1 } } _
    | ingest m => exact h.handle_explained (.message m)
    | send m =>
        have passages : (h.entries (.send m)).map Entry.passage = h.sending m := by
          rw [entries, List.map_map]
          exact List.map_id _
        rw [act, send_stock, passages]
        exact .foldl h.stock _
    | revoke id byBeginning => exact .of_eq (h.revoke_stock id byBeginning)
    | forget id =>
        refine .shed ?_ (List.Subset.refl _) rfl
        exact fun m member => Cache.Messages.delete_subset member
    | _ => cases calm
  · obtain ⟨messages, _, hub⟩ := h.act_apart calm
    have nothing : h.entries a = [] := by
      cases a with
      | logout | shutdown | attachAll | addWebhook | removeWebhook | toggleWebhook | deliver => rfl
      | _ => exact absurd trivial calm
    have cached : (h.act a).stock.messages = h.stock.messages := messages
    rw [nothing]
    exact .shed (by rw [cached]; exact List.Subset.refl _) (h.act_held calm) hub

/-- The filters do not apply to what is sent, nor to the notice of a read receipt. -/
def Entry.Exempt (e : Entry) : Prop :=
  e.cause.isSend = true ∨ e.cause.isReceipt = true ∧ e.passage.record.isReadReceipt = true

structure Entry.Lawful (o : TenantOptions) (e : Entry) : Prop where
  groups : o.groups = false → e.passage.record.fromGroup = true → e.Exempt
  broadcasts : o.broadcasts = false → e.passage.record.fromBroadcast = true → e.Exempt
  /-- The notice of a read receipt is never kept. -/
  receipts : e.cause.isReceipt = true → o.readReceipts = true ∧ ∃ m, e.passage = .passed m
  calls : e.cause.isCall = true → o.calls = true

theorem foldl_options {α : Type} {step : Hosted → α → Hosted}
    (each : ∀ h a, (step h a).options = h.options) (h : Hosted) (items : List α) :
    (items.foldl step h).options = h.options := by
  induction items generalizing h with
  | nil => rfl
  | cons a rest ih => exact (ih (step h a)).trans (each h a)

theorem admits_iff (h : Hosted) (m : Message) :
    h.admits m = true ↔ (m.fromGroup = true → h.options.groups = true) ∧
      (m.fromBroadcast = true → h.options.broadcasts = true) := by
  unfold admits
  cases m.fromGroup <;> cases m.fromBroadcast <;> simp

theorem admits_enriched (h : Hosted) (m : Message) : h.admits (h.enriched m) = h.admits m := by
  obtain ⟨_, _, chat, _⟩ := Message.agree_of_bare (h.enriched_bare m)
  simp only [admits, Message.fromGroup, Message.fromBroadcast, Chat.isGroup, Chat.isBroadcast, chat]

theorem logoutNotice_fromGroup (number : Nat) (now : Instant) (reason : String) :
    (logoutNotice number now reason).fromGroup = false :=
  show Chat.isGroup ⟨"system", "Internal System Message"⟩ = false by decide

theorem logoutNotice_fromBroadcast (number : Nat) (now : Instant) (reason : String) :
    (logoutNotice number now reason).fromBroadcast = false :=
  show Chat.isBroadcast ⟨"system", "Internal System Message"⟩ = false by decide

theorem logoutNotice_admitted (h : Hosted) (number : Nat) (now : Instant) (reason : String) :
    h.admits (logoutNotice number now reason) = true := by
  rw [admits, logoutNotice_fromGroup, logoutNotice_fromBroadcast]
  rfl

theorem storing_record {s : Stock} {m : Message} {item : Passage} (member : item ∈ s.storing m) :
    item.record = m := by
  rcases List.mem_cons.mp member with rfl | passed
  · rfl
  · split at passed
    · rw [List.mem_singleton.mp passed]
      rfl
    · cases passed

theorem ingesting_admitted {h : Hosted} {m : Message} {item : Passage}
    (member : item ∈ h.ingesting m) : h.admits item.record = true := by
  unfold ingesting at member
  split at member
  · next admitted => rw [storing_record member, admits_enriched, admitted]
  · cases member

/-- What the filters let in is as the options have it, whatever event brought it but a receipt. -/
theorem Entry.Lawful.of_admitted {h : Hosted} {e : Entry}
    (admitted : h.admits e.passage.record = true) (other : e.cause.isReceipt = false)
    (calls : e.cause.isCall = true → h.options.calls = true) : e.Lawful h.options := by
  obtain ⟨groups, broadcasts⟩ := (h.admits_iff _).mp admitted
  refine ⟨fun off found => ?_, fun off found => ?_, fun receipt => ?_, calls⟩
  · rw [groups found] at off
    cases off
  · rw [broadcasts found] at off
    cases off
  · rw [other] at receipt
    cases receipt

theorem noted_lawful (h : Hosted) (e : Session.Event) : ∀ x ∈ h.noted e, x.Lawful h.options := by
  intro x member
  obtain ⟨item, handled, rfl⟩ := List.mem_map.mp member
  cases e with
  | message m => exact .of_admitted (ingesting_admitted handled) rfl (absurd · Bool.false_ne_true)
  | history ms =>
      rw [handling] at handled
      split at handled
      · obtain ⟨front, m, back, _, there⟩ := mem_trail handled
        have lawful := Entry.Lawful.of_admitted (e := ⟨.event (.history ms), item⟩)
          (ingesting_admitted there) rfl (absurd · Bool.false_ne_true)
        rwa [foldl_options ingest_options] at lawful
      · cases handled
  | receipt chat ids timestamp =>
      rw [handling] at handled
      split at handled
      · next wanted =>
        rw [List.mem_singleton.mp handled]
        rw [Bool.and_eq_true] at wanted
        have notice : (receiptNotice chat ids timestamp).isReadReceipt = true := rfl
        exact ⟨fun _ _ => Or.inr ⟨rfl, notice⟩, fun _ _ => Or.inr ⟨rfl, notice⟩,
          fun _ => ⟨wanted.1, _, rfl⟩, (absurd · Bool.false_ne_true)⟩
      · cases handled
  | call id caller timestamp =>
      rw [handling] at handled
      split at handled
      · next wanted => exact .of_admitted (ingesting_admitted handled) rfl fun _ => wanted
      · cases handled
  | loggedOut reason =>
      rw [handling, logoutNotices] at handled
      split at handled
      · refine .of_admitted ?_ rfl (absurd · Bool.false_ne_true)
        rw [storing_record handled]
        exact logoutNotice_admitted h _ _ reason
      · cases handled
  | connected wid => cases handled
  | disconnected reason => cases handled

theorem entries_lawful (h : Hosted) (a : Action) : ∀ e ∈ h.entries a, e.Lawful h.options := by
  intro e member
  cases a with
  | event e => exact h.noted_lawful e _ member
  | ingest m => exact h.noted_lawful (.message m) _ member
  | takeEvents =>
      rw [entries] at member
      split at member
      · cases member
      · obtain ⟨front, event, back, _, there⟩ := mem_trail member
        have lawful := noted_lawful _ event e there
        rw [foldl_options handle_options] at lawful
        exact lawful
  | send m =>
      obtain ⟨item, _, rfl⟩ := List.mem_map.mp member
      exact ⟨fun _ _ => Or.inl rfl, fun _ _ => Or.inl rfl, (absurd · Bool.false_ne_true),
        (absurd · Bool.false_ne_true)⟩
  | _ => cases member

/-- A tenant is acted on in any way and order. Its options stay as they are; whatever its cache, the
queues of its subscribers and the push connections hold was there before or is written down; and all
that is written down is as the options have it. -/
theorem filters_hold_over_runs (h : Hosted) (actions : List Action) :
    (h.run actions).options = h.options ∧
    Stock.Explains ((h.log actions).map Entry.passage) h.stock (h.run actions).stock ∧
    ∀ e ∈ h.log actions, e.Lawful h.options := by
  refine ⟨foldl_options act_options h actions, trail_explained act_explained h actions, ?_⟩
  intro e member
  obtain ⟨front, a, back, _, there⟩ := mem_trail member
  have lawful := entries_lawful _ a e there
  rwa [foldl_options act_options h front] at lawful

/-- Without groups and calls, of a message, a receipt and a call in a group the receipt alone is
passed on. -/
theorem only_receipts_of_groups :
    let settings : Settings :=
      { defaults := { groups := .off, readReceipts := .on, calls := .off } }
    let host : Host := { settings := settings, office := ⟨""⟩, hub := {}, clock := ⟨.epoch⟩ }
    let h : Hosted := ⟨Tenant.ofProfile settings (.fresh "tok" .epoch) false, host⟩
    let group : Chat := ⟨"1@g.us", ""⟩
    let m : Message := { id := "a", timestamp := ⟨1, 0⟩, kind := .text, chat := group }
    let receipt : Session.Event := .receipt group ["a"] ⟨2, 0⟩
    let notice : Entry := ⟨.event receipt, .passed (receiptNotice group ["a"] ⟨2, 0⟩)⟩
    h.log [.event (.message m), .event receipt, .event (.call "b" group ⟨3, 0⟩)] = [notice] ∧
      notice.Exempt := by
  intro settings host h group m receipt notice
  have outside : h.admits m = false := by decide
  have silent : h.noted (.message m) = [] := by
    rw [noted, handling, ingesting, outside]
    rfl
  have same : h.act (.event (.message m)) = h := congrArg Prod.fst (h.ingest_refused outside)
  have unheard : (h.handle receipt).noted (.call "b" group ⟨3, 0⟩) = [] := by
    rw [noted, handling, handle_options]
    rfl
  have logged : h.log [.event (.message m), .event receipt, .event (.call "b" group ⟨3, 0⟩)] =
      [notice] := by
    rw [log, trail, same, entries, silent, trail, trail, entries, act, entries, unheard]
    rfl
  have lawful := (h.filters_hold_over_runs _).2.2 notice (logged ▸ List.mem_cons_self)
  exact ⟨logged, lawful.groups rfl (by decide)⟩

end Hosted

end ChatGateway

import ChatGateway.Proofs.Gateway.Wired

namespace ChatGateway

open Session (LinkId)

namespace Gateway

/-- The session that the tenant of a token lets go of in the course of an action. -/
def forsakenAt (g : Gateway) (token : String) (a : Hosted.Action) : List LinkId :=
  ((g.find? token).bind (·.forsakenBy? a)).toList

/-- The sessions let go of while tenants take the events that wait, one tenant after the other. -/
def forsakenEach (g : Gateway) : List Tenant → List LinkId
  | [] => []
  | t :: rest =>
    g.forsakenAt t.token .takeEvents ++ (g.act (.atTenant t.token .takeEvents)).forsakenEach rest

def forsakenBy (g : Gateway) : Deed → List LinkId
  | .act (.atTenant token a) => g.forsakenAt token a
  | .act (.settle _) => g.forsakenEach g.tenants
  | _ => []

/-- The sessions let go of in the course of some deeds. -/
def forsaken (g : Gateway) : List Deed → List LinkId
  | [] => []
  | d :: rest => g.forsakenBy d ++ (g.perform d).forsaken rest

/-- The latest session of a token is up only if its tenant uses it. -/
def Tidy (g : Gateway) : Prop :=
  ∀ token l, g.host.exchange.latest? token = some l → l.connected = true →
    ∃ t, Keyed.find? Tenant.token token g.tenants = some t ∧ t.link = some l.id

variable {g : Gateway} {lost : List LinkId} {token : String} {id : LinkId}

theorem atTenant_missing (missing : Keyed.find? Tenant.token token g.tenants = none)
    (a : Hosted.Action) : g.act (.atTenant token a) = g := by
  simp [act, withTenant, get, find?, missing]

theorem atTenant_loaded {t : Tenant}
    (found : Keyed.find? Tenant.token token g.tenants = some t) (a : Hosted.Action) :
    g.act (.atTenant token a) = g.put (Hosted.act ⟨t, g.host⟩ a) := by
  simp [act, withTenant, get, find?, found]

theorem atTenant_eq (g : Gateway) (token : String) (a : Hosted.Action) :
    g.act (.atTenant token a) = match g.find? token with
      | none => g
      | some h => g.put (h.act a) := by
  simp only [act, withTenant, get]
  cases g.find? token <;> rfl

theorem forEach_eq (g : Gateway) (a : Hosted.Action) :
    g.forEach (·.act a) = g.tenants.foldl (fun g t => g.act (.atTenant t.token a)) g := by
  unfold forEach
  congr 1
  funext g t
  rw [atTenant_eq]
  cases g.find? t.token <;> rfl

theorem dropUnheard_board (x : Session.Exchange) (heard : LinkId → Bool) :
    (x.dropUnheard heard).board = x.board := by
  simp only [Session.Exchange.dropUnheard, Session.Exchange.board, Session.Exchange.lines,
    List.map_map]
  congr 1
  apply List.map_congr_left
  intro l _
  rw [Function.comp_apply]
  split <;> rfl

namespace Wired

theorem atTenant (wired : g.Wired lost) (token : String) (a : Hosted.Action) :
    (g.act (.atTenant token a)).Wired (lost ++ g.forsakenAt token a) := by
  unfold forsakenAt find?
  cases found : Keyed.find? Tenant.token token g.tenants with
  | none =>
      rw [atTenant_missing found]
      exact wired.add_nil
  | some t =>
      rw [atTenant_loaded found]
      exact wired.put_act found a

theorem takeEach (wired : g.Wired lost) (ts : List Tenant) :
    (ts.foldl (fun g t => g.act (.atTenant t.token .takeEvents)) g).Wired
      (lost ++ g.forsakenEach ts) := by
  induction ts generalizing g lost with
  | nil => exact wired.add_nil
  | cons t rest ih =>
      have first := ih (wired.atTenant t.token .takeEvents)
      rwa [List.append_assoc] at first

theorem deliverEach (wired : g.Wired lost) (net : Network) :
    (g.forEach (·.deliver net)).Wired lost := by
  change (g.forEach (Hosted.act · (.deliver net))).Wired lost
  rw [forEach_eq]
  refine List.foldlRecOn (motive := (Wired · lost)) _ _ wired fun g wired t _ => ?_
  have delivered := wired.atTenant t.token (.deliver net)
  have none : g.forsakenAt t.token (.deliver net) = [] := by
    unfold forsakenAt
    cases g.find? t.token <;> rfl
  rwa [none, List.append_nil] at delivered

theorem settle (wired : g.Wired lost) (net : Network) :
    (g.settle net).Wired (lost ++ g.forsakenEach g.tenants) := by
  have taken := wired.takeEach g.tenants
  rw [← g.forEach_eq .takeEvents] at taken
  exact (taken.with_host (dropUnheard_board _ _)).deliverEach net

theorem perform (wired : g.Wired lost) (d : Deed) :
    (g.perform d).Wired (lost ++ g.forsakenBy d) := by
  cases d with
  | act a =>
      cases a with
      | atTenant token a => exact wired.atTenant token a
      | settle net => exact wired.settle net
      | loadAll => exact wired.loadAll.add_nil
      | pair token wid => exact (wired.pair token wid).add_nil
      | delete token => exact (wired.delete token).add_nil
      | send token r => exact (wired.send token r).add_nil
      | inject token e => exact (wired.inject token e).add_nil
      | shutdown => exact wired.shutdown.add_nil
      | addWebhook token w =>
          exact add_nil (wired.withTenant_kept token (fun h => (h.addWebhook_quiet w).token)
            fun h => h.addWebhook_wiring w)
      | removeWebhook token url =>
          exact add_nil (wired.withTenant_kept token (fun h => (h.removeWebhook_quiet url).token)
            fun h => h.removeWebhook_wiring url)
      | toggleWebhook token url option =>
          exact add_nil (wired.withTenant_kept token
            (fun h => (h.toggleWebhook_quiet url option).token)
            fun h => h.toggleWebhook_wiring url option)
  | work token id s =>
      exact add_nil (wired.withTenant_kept token (fun h => (Hosted.Spares.work h id s).token)
        fun h => h.work_wiring id s)
  | push change => exact add_nil (wired.with_host rfl)

theorem after (wired : g.Wired lost) (deeds : List Deed) :
    (g.after deeds).Wired (lost ++ g.forsaken deeds) := by
  induction deeds generalizing g lost with
  | nil => exact wired.add_nil
  | cons d rest ih =>
      have later := ih (wired.perform d)
      rwa [List.append_assoc] at later

/-- The latest session of a token is up if its tenant uses it, or if it is a lost one. -/
theorem connected_iff (wired : g.Wired lost) {l : Session.Link}
    (last : g.host.exchange.latest? token = some l) :
    l.connected = true ↔ g.switchboard.inUse token = some l.id ∨ l.id ∈ lost := by
  obtain ⟨id, latest, found⟩ := Option.bind_eq_some_iff.mp last
  obtain ⟨member, rfl⟩ := Keyed.find?_some found
  have line : (l.id, l.connected) ∈ g.switchboard.board.lines :=
    List.mem_map_of_mem (f := fun l : Session.Link => (l.id, l.connected)) member
  have up : l.connected = true ↔ g.switchboard.board.Up l.id := by
    refine ⟨fun connected => ?_, fun up => ?_⟩
    · rwa [connected] at line
    · have distinct : (g.switchboard.board.lines.map Prod.fst).Nodup :=
        wired.sound.numbered ▸ List.nodup_range
      exact congrArg Prod.snd (List.inj_on_of_nodup_map distinct line up rfl)
  rw [up, wired.sound.up]
  refine or_congr_left ⟨?_, fun used => ⟨token, used⟩⟩
  rintro ⟨other, used⟩
  rwa [wired.sound.apart token other l.id latest (wired.sound.latest other l.id used)]

/-- A lost session that is the latest of its token is up without being used. -/
theorem untidy (wired : g.Wired lost) (member : id ∈ lost)
    (last : g.host.exchange.latest.lookup token = some id) : ¬g.Tidy := by
  intro tidy
  obtain ⟨l, up, same⟩ := List.mem_map.mp ((wired.sound.up id).mpr (Or.inr member))
  have opened : (g.host.exchange.link? id).isSome = true := by
    rw [Session.Exchange.link?, ← Keyed.has_eq_isSome]
    exact Keyed.has_iff.mpr ⟨l, up, congrArg Prod.fst same⟩
  obtain ⟨l, found⟩ := Option.isSome_iff_exists.mp opened
  have own : l.id = id := (Keyed.find?_some found).2
  have latest : g.host.exchange.latest? token = some l := by
    rw [Session.Exchange.latest?, last]
    exact found
  have connected := (wired.connected_iff latest).mpr (Or.inr (own ▸ member))
  obtain ⟨t, loaded, link⟩ := tidy token l latest connected
  exact wired.sound.unused token id member ((inUse_loaded loaded).trans (own ▸ link))

end Wired

section

variable {a : Hosted.Action} (kept : ∀ h, (Hosted.act h a).wiring.board = h.wiring.board)

include kept

theorem atTenant_board (g : Gateway) (token : String) :
    (g.act (.atTenant token a)).host.exchange.board = g.host.exchange.board := by
  cases found : Keyed.find? Tenant.token token g.tenants with
  | none => rw [atTenant_missing found]
  | some t =>
      rw [atTenant_loaded found]
      exact kept ⟨t, g.host⟩

theorem forEach_board (g : Gateway) :
    (g.forEach (Hosted.act · a)).host.exchange.board = g.host.exchange.board := by
  rw [forEach_eq]
  refine List.foldlRecOn (motive := fun g' : Gateway =>
    g'.host.exchange.board = g.host.exchange.board) _ _ rfl fun g' same t _ => ?_
  exact (atTenant_board kept g' t.token).trans same

end

theorem event_board (e : Session.Event) (h : Hosted) :
    (h.act (.event e)).wiring.board = h.wiring.board :=
  (congrArg Hosted.Wiring.board (h.handle_wiring e)).trans (Hosted.Wiring.without_board _ _)

theorem takeEvents_board (h : Hosted) : (h.act .takeEvents).wiring.board = h.wiring.board :=
  (congrArg Hosted.Wiring.board h.takeEvents_wiring).trans (Hosted.Wiring.without_board _ _)

theorem settle_board (g : Gateway) (net : Network) :
    (g.settle net).host.exchange.board = g.host.exchange.board := by
  have delivered := forEach_board (a := .deliver net) (fun _ => rfl)
    { g.forEach (·.takeEvents) with host := { (g.forEach (·.takeEvents)).host with
        exchange := (g.forEach (·.takeEvents)).host.exchange.dropUnheard
          (g.forEach (·.takeEvents)).hears } }
  exact delivered.trans ((dropUnheard_board _ _).trans (forEach_board takeEvents_board g))

theorem forsakenAt_used {a : Hosted.Action} (left : id ∈ g.forsakenAt token a) :
    g.switchboard.inUse token = some id ∧
      (g.act (.atTenant token a)).host.exchange.board = g.host.exchange.board := by
  obtain ⟨h, loaded, left⟩ := Option.bind_eq_some_iff.mp (Option.mem_toList.mp left)
  obtain ⟨t, found, rfl⟩ := Option.map_eq_some_iff.mp loaded
  rw [inUse_loaded found]
  cases a with
  | event e => exact ⟨Hosted.forsaken?_used left, atTenant_board (event_board e) g token⟩
  | takeEvents =>
      exact ⟨Hosted.forsakenWaiting?_used left, atTenant_board takeEvents_board g token⟩
  | _ => cases left

theorem inUse_takeEvents {other : String}
    (used : (g.act (.atTenant token .takeEvents)).switchboard.inUse other = some id) :
    g.switchboard.inUse other = some id := by
  cases found : Keyed.find? Tenant.token token g.tenants with
  | none => rwa [atTenant_missing found] at used
  | some t =>
      have own : (Hosted.takeEvents ⟨t, g.host⟩).tenant.token = token :=
        (Hosted.act_token _ .takeEvents).trans (Keyed.find?_some found).2
      have wiring := Hosted.takeEvents_wiring ⟨t, g.host⟩
      rw [atTenant_loaded found] at used
      change (g.put (Hosted.takeEvents ⟨t, g.host⟩)).switchboard.inUse other = some id at used
      rw [put_switchboard own] at used
      dsimp only at used
      rw [Function.update_apply] at used
      split at used
      · next same =>
        rw [same, inUse_loaded found]
        cases left : Hosted.forsakenWaiting? ⟨t, g.host⟩ with
        | none =>
            rw [left] at wiring
            exact (congrArg Hosted.Wiring.link wiring).symm.trans used
        | some id' =>
            rw [left] at wiring
            cases (congrArg Hosted.Wiring.link wiring).symm.trans used
      · exact used

theorem forsakenEach_used {ts : List Tenant} (left : id ∈ g.forsakenEach ts) :
    ∃ token, g.switchboard.inUse token = some id := by
  induction ts generalizing g with
  | nil => cases left
  | cons t rest ih =>
      rcases List.mem_append.mp left with here | later
      · exact ⟨t.token, (forsakenAt_used here).1⟩
      · obtain ⟨token, used⟩ := ih later
        exact ⟨token, inUse_takeEvents used⟩

theorem forsakenBy_used {d : Deed} (left : id ∈ g.forsakenBy d) :
    (∃ token, g.switchboard.inUse token = some id) ∧
      (g.perform d).host.exchange.board = g.host.exchange.board := by
  cases d with
  | act a =>
      cases a with
      | settle net => exact ⟨forsakenEach_used left, g.settle_board net⟩
      | atTenant token a =>
          obtain ⟨used, board⟩ := forsakenAt_used left
          exact ⟨⟨token, used⟩, board⟩
      | _ => cases left
  | _ => cases left

theorem forsaken_append (g : Gateway) (before later : List Deed) :
    g.forsaken (before ++ later) = g.forsaken before ++ (g.after before).forsaken later := by
  induction before generalizing g with
  | nil => rfl
  | cons d rest ih =>
      rw [List.cons_append, forsaken, forsaken, ih, List.append_assoc]
      rfl

theorem mem_forsaken {deeds : List Deed} (left : id ∈ g.forsaken deeds) :
    ∃ before d later, deeds = before ++ d :: later ∧ id ∈ (g.after before).forsakenBy d := by
  induction deeds generalizing g with
  | nil => cases left
  | cons d rest ih =>
      rcases List.mem_append.mp left with here | there
      · exact ⟨[], d, rest, rfl, here⟩
      · obtain ⟨before, d', later, rfl, here⟩ := ih there
        exact ⟨d :: before, d', later, rfl, here⟩

/-- A gateway that has loaded nobody and opened no session yet. -/
structure Idle (g : Gateway) : Prop where
  tenants : g.tenants = []
  exchange : g.host.exchange = {}

theorem Idle.wired (idle : g.Idle) : g.Wired [] := by
  refine ⟨idle.tenants ▸ List.nodup_nil, ?_⟩
  rw [switchboard, idle.tenants, idle.exchange]
  refine ⟨rfl, ?_, ?_, ?_, ?_, ?_, ?_⟩ <;>
    simp [Session.Exchange.board, Session.Exchange.lines, Session.Exchange.Board.Up, Keyed.find?]

/-- However a gateway is used, the latest session of a token is up exactly if its loaded tenant uses
it, or if the tenant once let go of it on the report of a logout. So the sessions that nobody uses
are closed, throughout, exactly as long as no tenant that uses one takes such a report. -/
theorem unused_sessions_are_closed (idle : g.Idle) (deeds : List Deed) :
    (∀ token l, (g.after deeds).host.exchange.latest? token = some l →
      (l.connected = true ↔
        (∃ t, Keyed.find? Tenant.token token (g.after deeds).tenants = some t ∧
          t.link = some l.id) ∨ l.id ∈ g.forsaken deeds)) ∧
    ((∀ before, before <+: deeds → (g.after before).Tidy) ↔ g.forsaken deeds = []) := by
  have wired (before : List Deed) : (g.after before).Wired (g.forsaken before) :=
    idle.wired.after before
  have used : ∀ (g : Gateway) token id, g.switchboard.inUse token = some id ↔
      ∃ t, Keyed.find? Tenant.token token g.tenants = some t ∧ t.link = some id :=
    fun _ _ _ => Option.bind_eq_some_iff
  refine ⟨fun token l last => ?_, fun tidy => ?_, fun none before part => ?_⟩
  · rw [← used]
    exact (wired deeds).connected_iff last
  · apply List.eq_nil_iff_forall_not_mem.mpr
    intro id left
    obtain ⟨before, d, later, rfl, here⟩ := mem_forsaken left
    obtain ⟨⟨token, inUse⟩, board⟩ := forsakenBy_used here
    -- The session was the latest of its token while it was used, and still is.
    have last : ((g.after before).perform d).host.exchange.latest.lookup token = some id :=
      (congrArg (fun b => b.latest.lookup token) board).trans
        ((wired before).sound.latest token id inUse)
    have part : before ++ [d] <+: before ++ d :: later := ⟨later, by simp⟩
    have tidied := tidy _ part
    rw [after, List.foldl_append] at tidied
    exact ((wired before).perform d).untidy (List.mem_append_right _ here) last tidied
  · intro token l last connected
    obtain ⟨later, rfl⟩ := part
    rw [forsaken_append, List.append_eq_nil_iff] at none
    have held := ((wired before).connected_iff last).mp connected
    rw [none.1] at held
    exact (used _ _ _).mp (held.resolve_right List.not_mem_nil)

/-- The session of a tenant that was logged out is still up when the tenant was deleted. -/
theorem session_outlives_its_tenant :
    let host : Host := { settings := {}, office := ⟨""⟩, hub := {}, clock := ⟨.epoch⟩ }
    let deeds : List Deed :=
      [.act (.pair "tok" "1@s.whatsapp.net"), .act (.inject "tok" (.loggedOut "revoked")),
        .act (.settle Network.down), .act (.delete "tok")]
    let g := after { host := host } deeds
    Idle { host := host } ∧ g.has "tok" = false ∧
      (∃ l, g.host.exchange.latest? "tok" = some l ∧ l.connected = true) ∧
      ¬∀ before, before <+: deeds → (after { host := host } before).Tidy := by
  intro host deeds g
  have idle : Idle { host := host } := ⟨rfl, rfl⟩
  have lost : forsaken { host := host } deeds = [0] := by decide +kernel
  have latest : (g.host.exchange.latest? "tok").map Session.Link.id = some 0 := by decide +kernel
  obtain ⟨l, last, own⟩ := Option.map_eq_some_iff.mp latest
  have closed := unused_sessions_are_closed idle deeds
  refine ⟨idle, by decide +kernel, ⟨l, last, ?_⟩, fun tidy => ?_⟩
  · exact (closed.1 "tok" l last).mpr (Or.inr (by rw [lost, own]; simp))
  · rw [closed.2.mp tidy] at lost
    cases lost

end Gateway

end ChatGateway

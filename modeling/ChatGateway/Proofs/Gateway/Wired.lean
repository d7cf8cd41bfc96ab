import ChatGateway.Proofs.Gateway.Deeds
import ChatGateway.Proofs.Gateway.Switchboard

namespace ChatGateway

open Session (LinkId)

namespace Hosted

theorem Quiet.token {h h' : Hosted} (quiet : Quiet h h') : h'.tenant.token = h.tenant.token :=
  congrArg (fun s => s.profile.token) quiet.standing

/-- The session that a tenant lets go of without closing it, in the course of an action. -/
def forsakenBy? (h : Hosted) : Action → Option LinkId
  | .event e => h.forsaken? e
  | .takeEvents => h.forsakenWaiting?
  | _ => none

end Hosted

namespace Gateway

def switchboard (g : Gateway) : Switchboard where
  inUse token := (Keyed.find? Tenant.token token g.tenants).bind (·.link)
  board := g.host.exchange.board

/-- The sessions that are up are those in use and those of `lost`. -/
structure Wired (g : Gateway) (lost : List LinkId) : Prop where
  tokens : Keyed.Distinct Tenant.token g.tenants
  sound : g.switchboard.Sound lost

section

variable {g : Gateway} {token : String} {t : Tenant} {h : Hosted}

theorem inUse_loaded (found : Keyed.find? Tenant.token token g.tenants = some t) :
    g.switchboard.inUse token = t.link := by
  simp [switchboard, found]

theorem put_switchboard (own : h.tenant.token = token) :
    (g.put h).switchboard =
      ⟨Function.update g.switchboard.inUse token h.tenant.link, h.host.exchange.board⟩ := by
  subst own
  rw [switchboard, Switchboard.mk.injEq]
  refine ⟨?_, rfl⟩
  funext other
  by_cases same : other = h.tenant.token
  · rw [same, put_found g rfl, Function.update_self]
    rfl
  · rw [Function.update_of_ne same, put, Keyed.find?_put_ne g.tenants same]
    rfl

theorem retire_board (g : Gateway) (token : String) :
    (g.retire token).host.exchange.board =
      g.host.exchange.board.hangUp (g.switchboard.inUse token) := by
  unfold retire find?
  cases found : Keyed.find? Tenant.token token g.tenants with
  | none => simp [switchboard, found, Session.Exchange.Board.hangUp_none]
  | some t =>
      rw [inUse_loaded found]
      exact congrArg Hosted.Wiring.board (Hosted.shutdown_wiring ⟨t, g.host⟩)

/-- A tenant is loaded without a session, and one loaded before gives its own up. -/
theorem load_switchboard (g : Gateway) (p : Profile) :
    (g.load p).switchboard = g.switchboard.closed p.token := by
  have board := g.retire_board p.token
  have tenants := g.retire_tenants p.token
  unfold load
  dsimp only
  generalize g.retire p.token = g' at board tenants
  generalize g'.host.repository.webhooksOf p.token = ws
  have wiring := Hosted.attachAll_wiring
    ⟨Tenant.ofProfile g'.host.settings p g'.closing, g'.host⟩ ws
  have own : (Hosted.attachAll ⟨Tenant.ofProfile g'.host.settings p g'.closing, g'.host⟩
      ws).tenant.token = p.token := Hosted.act_token _ (.attachAll ws)
  generalize Hosted.attachAll _ ws = h at wiring own
  have link : h.tenant.link = none := congrArg Hosted.Wiring.link wiring
  have same : h.host.exchange.board = g'.host.exchange.board :=
    congrArg Hosted.Wiring.board wiring
  have inUse : g'.switchboard.inUse = g.switchboard.inUse := by
    simp only [switchboard, tenants]
  rw [put_switchboard own, Switchboard.closed, inUse, link, same, board]
  rfl

end

namespace Wired

variable {g : Gateway} {lost : List LinkId} {token : String} {t : Tenant} {h : Hosted}

theorem add_nil (wired : g.Wired lost) : g.Wired (lost ++ []) := by
  rwa [List.append_nil]

theorem with_host (wired : g.Wired lost) {host : Host}
    (board : host.exchange.board = g.host.exchange.board) : Wired { g with host := host } lost := by
  refine ⟨wired.tokens, ?_⟩
  rw [switchboard, board]
  exact wired.sound

theorem put_kept (wired : g.Wired lost)
    (found : Keyed.find? Tenant.token token g.tenants = some t) (own : h.tenant.token = token)
    (link : h.tenant.link = t.link) (board : h.host.exchange.board = g.host.exchange.board) :
    (g.put h).Wired lost := by
  refine ⟨Keyed.put_distinct _ wired.tokens, ?_⟩
  rw [put_switchboard own, link, ← inUse_loaded found, Function.update_eq_self, board]
  exact wired.sound

theorem put_closed (wired : g.Wired lost)
    (found : Keyed.find? Tenant.token token g.tenants = some t) (own : h.tenant.token = token)
    (link : h.tenant.link = none)
    (board : h.host.exchange.board = g.host.exchange.board.hangUp t.link) :
    (g.put h).Wired lost := by
  refine ⟨Keyed.put_distinct _ wired.tokens, ?_⟩
  have closed := wired.sound.closed token
  rw [Switchboard.closed, inUse_loaded found] at closed
  rw [put_switchboard own, link, board]
  exact closed

theorem put_opened (wired : g.Wired lost)
    (found : Keyed.find? Tenant.token token g.tenants = some t) (own : h.tenant.token = token)
    (wiring : h.wiring = (Hosted.wiring ⟨t, g.host⟩).opened token) : (g.put h).Wired lost := by
  refine ⟨Keyed.put_distinct _ wired.tokens, ?_⟩
  have opened := wired.sound.opened token
  rw [Switchboard.opened, inUse_loaded found] at opened
  have link : h.tenant.link = some g.host.exchange.nextId := congrArg Hosted.Wiring.link wiring
  have board : h.host.exchange.board =
      (g.host.exchange.board.opened token).hangUp t.link := congrArg Hosted.Wiring.board wiring
  rw [put_switchboard own, link, board]
  exact opened

theorem put_started (wired : g.Wired lost)
    (found : Keyed.find? Tenant.token token g.tenants = some t) (own : h.tenant.token = token)
    (wiring : h.wiring = Hosted.wiring ⟨t, g.host⟩) : (g.put h.start.1).Wired lost := by
  have own' : h.start.1.tenant.token = token := (h.act_token .start).trans own
  have started := h.start_wiring
  rw [wiring, own] at started
  split at started
  · exact wired.put_opened found own' started
  · exact wired.put_kept found own' (congrArg Hosted.Wiring.link started)
      (congrArg Hosted.Wiring.board started)

theorem put_released (wired : g.Wired lost) {left : Option LinkId}
    (found : Keyed.find? Tenant.token token g.tenants = some t) (own : h.tenant.token = token)
    (wiring : h.wiring = (Hosted.wiring ⟨t, g.host⟩).without left)
    (used : ∀ id, left = some id → t.link = some id) : (g.put h).Wired (lost ++ left.toList) := by
  have link := congrArg Hosted.Wiring.link wiring
  have board := congrArg Hosted.Wiring.board wiring
  cases left with
  | none => exact add_nil (wired.put_kept found own link board)
  | some id =>
      refine ⟨Keyed.put_distinct _ wired.tokens, ?_⟩
      have forsaken := wired.sound.forsaken ((inUse_loaded found).trans (used id rfl))
      have link : h.tenant.link = none := link
      have board : h.host.exchange.board = g.host.exchange.board := board
      rw [put_switchboard own, link, board]
      exact forsaken

theorem put_act (wired : g.Wired lost)
    (found : Keyed.find? Tenant.token token g.tenants = some t) (a : Hosted.Action) :
    (g.put (Hosted.act ⟨t, g.host⟩ a)).Wired
      (lost ++ (Hosted.forsakenBy? ⟨t, g.host⟩ a).toList) := by
  have own : (Hosted.act ⟨t, g.host⟩ a).tenant.token = token :=
    (Hosted.act_token _ a).trans (Keyed.find?_some found).2
  have wiring := Hosted.act_wiring ⟨t, g.host⟩ a
  have closed {w : Hosted.Wiring} (wiring : (Hosted.act ⟨t, g.host⟩ a).wiring = w)
      (link : w.link = none) (board : w.board = g.host.exchange.board.hangUp t.link) :
      (g.put (Hosted.act ⟨t, g.host⟩ a)).Wired (lost ++ []) :=
    add_nil (wired.put_closed found own ((congrArg Hosted.Wiring.link wiring).trans link)
      ((congrArg Hosted.Wiring.board wiring).trans board))
  have kept {w : Hosted.Wiring} (wiring : (Hosted.act ⟨t, g.host⟩ a).wiring = w)
      (link : w.link = t.link) (board : w.board = g.host.exchange.board) :
      (g.put (Hosted.act ⟨t, g.host⟩ a)).Wired (lost ++ []) :=
    add_nil (wired.put_kept found own ((congrArg Hosted.Wiring.link wiring).trans link)
      ((congrArg Hosted.Wiring.board wiring).trans board))
  cases a with
  | start => exact add_nil (wired.put_started found (Keyed.find?_some found).2 rfl)
  | stop => exact closed wiring rfl rfl
  | logout => exact closed wiring rfl rfl
  | shutdown => exact closed wiring rfl rfl
  | cancel => exact kept wiring rfl rfl
  | event e => exact wired.put_released found own wiring fun _ => Hosted.forsaken?_used
  | takeEvents => exact wired.put_released found own wiring fun _ => Hosted.forsakenWaiting?_used
  | _ => exact kept wiring rfl rfl

theorem withTenant {α : Type} (wired : g.Wired lost) (token : String)
    {act : Hosted → Hosted × Except Failure α}
    (each : ∀ t, Keyed.find? Tenant.token token g.tenants = some t →
      (g.put (act ⟨t, g.host⟩).1).Wired lost) : (g.withTenant token act).1.Wired lost := by
  unfold Gateway.withTenant get find?
  cases found : Keyed.find? Tenant.token token g.tenants with
  | none => exact wired
  | some t => exact each t found

theorem withTenant_kept {α : Type} (wired : g.Wired lost) (token : String)
    {act : Hosted → Hosted × Except Failure α}
    (own : ∀ h : Hosted, (act h).1.tenant.token = h.tenant.token)
    (wiring : ∀ h : Hosted, (act h).1.wiring = h.wiring) :
    (g.withTenant token act).1.Wired lost :=
  wired.withTenant token fun _ found =>
    wired.put_kept found ((own _).trans (Keyed.find?_some found).2)
      (congrArg Hosted.Wiring.link (wiring _)) (congrArg Hosted.Wiring.board (wiring _))

theorem load (wired : g.Wired lost) (p : Profile) : (g.load p).Wired lost := by
  refine ⟨?_, load_switchboard g p ▸ wired.sound.closed p.token⟩
  unfold Gateway.load
  exact Keyed.put_distinct _ (g.retire_tenants p.token ▸ wired.tokens)

theorem startTenant (wired : g.Wired lost) (token : String) : (g.startTenant token).Wired lost := by
  unfold Gateway.startTenant find?
  cases found : Keyed.find? Tenant.token token g.tenants with
  | none => exact wired
  | some t => exact wired.put_started found (Keyed.find?_some found).2 rfl

theorem loadAndStart (wired : g.Wired lost) (p : Profile) : (g.loadAndStart p).Wired lost := by
  have loaded := wired.load p
  unfold Gateway.loadAndStart
  dsimp only
  split
  · split
    · exact loaded.startTenant p.token
    · exact loaded
  · exact loaded

theorem loadAll (wired : g.Wired lost) : g.loadAll.1.Wired lost :=
  List.foldlRecOn (motive := (Wired · lost)) _ _ wired fun _ wired p _ => wired.loadAndStart p

theorem ensureLoaded (wired : g.Wired lost) (token : String) :
    (g.ensureLoaded token).Wired lost := by
  unfold Gateway.ensureLoaded
  split
  · exact wired
  · apply load
    split
    · exact wired
    · apply wired.with_host
      simp only [Host.save_exchange, Host.now_exchange]

theorem pair (wired : g.Wired lost) (token wid : String) : (g.pair token wid).1.Wired lost := by
  unfold Gateway.pair
  dsimp only
  split
  · exact wired
  · split
    · exact wired
    · split
      · exact wired
      · have loaded := wired.ensureLoaded (Text.trim token)
        refine loaded.withTenant _ fun t found => ?_
        exact loaded.put_started found
          ((Hosted.act_token _ (.pair _)).trans (Keyed.find?_some found).2) (Hosted.pair_wiring _ _)

theorem unload (wired : g.Wired lost) {host : Host} {tenants : List Tenant}
    (found : Keyed.find? Tenant.token token g.tenants = some t)
    (tokens : Keyed.Distinct Tenant.token tenants)
    (gone : Keyed.find? Tenant.token token tenants = none)
    (others : ∀ other, other ≠ token →
      Keyed.find? Tenant.token other tenants = Keyed.find? Tenant.token other g.tenants)
    (board : host.exchange.board = g.host.exchange.board.hangUp t.link) :
    Wired { g with tenants := tenants, host := host } lost := by
  refine ⟨tokens, ?_⟩
  have closed := wired.sound.closed token
  rw [Switchboard.closed, inUse_loaded found] at closed
  have inUse : (fun other => (Keyed.find? Tenant.token other tenants).bind (·.link)) =
      Function.update g.switchboard.inUse token none := by
    funext other
    by_cases same : other = token
    · simp [same, gone]
    · simp [same, others other same, switchboard]
  rw [switchboard, board, inUse]
  exact closed

theorem delete (wired : g.Wired lost) (token : String) : (g.delete token).1.Wired lost := by
  unfold Gateway.delete find?
  cases found : Keyed.find? Tenant.token token g.tenants with
  | none => exact wired.with_host rfl
  | some t =>
      refine with_host
        (g := { g.remove token with host := (Hosted.logout ⟨t, g.host⟩).host }) ?_ rfl
      apply wired.unload found
      · exact Keyed.erase_distinct _ wired.tokens
      · exact Keyed.find?_erase_self token g.tenants
      · exact fun _ => Keyed.find?_erase_ne g.tenants
      · exact congrArg Hosted.Wiring.board (Hosted.logout_wiring ⟨t, g.host⟩)

theorem shutdown (wired : g.Wired lost) : g.shutdown.Wired lost := by
  obtain ⟨host, tenants, closing⟩ := g
  suffices emptied : Wired
      ⟨tenants.foldl (fun host t => (Hosted.shutdown ⟨t, host⟩).host) host, [], closing⟩ lost by
    exact ⟨List.nodup_nil, (emptied.with_host rfl).sound⟩
  induction tenants generalizing host with
  | nil => exact wired
  | cons t rest ih =>
      apply ih
      have split := List.nodup_cons.mp wired.tokens
      have gone : Keyed.find? Tenant.token t.token rest = none :=
        Keyed.find?_eq_none.mpr fun other member same =>
          split.1 (same ▸ List.mem_map_of_mem member)
      have first : Keyed.find? Tenant.token t.token (t :: rest) = some t := by
        simp [Keyed.find?]
      refine wired.unload first split.2 gone ?_ ?_
      · intro other different
        simp [Keyed.find?, Ne.symm different]
      · exact congrArg Hosted.Wiring.board (Hosted.shutdown_wiring ⟨t, host⟩)

theorem inject (wired : g.Wired lost) (token : String) (e : Session.Event) :
    (g.inject token e).Wired lost := by
  unfold Gateway.inject
  cases last : g.host.exchange.latest? token with
  | none => exact wired
  | some l =>
      obtain ⟨id, _, found⟩ := Option.bind_eq_some_iff.mp last
      apply wired.with_host
      apply Session.Exchange.update_board found
      · exact (l.inject_id e).trans (Keyed.find?_some found).2
      · unfold Session.Link.inject
        split <;> rfl

theorem send (wired : g.Wired lost) (token : String) (r : Outbound.Request) :
    (g.send token r).1.Wired lost := by
  refine wired.withTenant_kept token (fun h => (h.request_turns r).untouched.token) fun h => ?_
  dsimp only
  split
  · rfl
  · exact (Hosted.send_wiring _ _).trans h.now_wiring

end Wired

end Gateway

end ChatGateway

import ChatGateway.Proofs.Gateway.Pumps
import ChatGateway.Proofs.Gateway.Switchboard

namespace ChatGateway

open Session (LinkId)

namespace Engine

/-- The tenants of some numbers, where each is known by its token. -/
structure Registry (made : List Tenant) (loaded : List (String × Nat)) : Prop where
  tokens : Keyed.Distinct Prod.fst loaded
  known : ∀ token n, (token, n) ∈ loaded → ∃ t, made[n]? = some t ∧ t.token = token

def tenants (made : List Tenant) (loaded : List (String × Nat)) : List Tenant :=
  loaded.filterMap fun l => made[l.2]?

namespace Registry

variable {made : List Tenant} {loaded : List (String × Nat)} {token : String} {n : Nat} {t : Tenant}

theorem tail {l : String × Nat} (registry : Registry made (l :: loaded)) :
    Registry made loaded :=
  ⟨(List.nodup_cons.mp registry.tokens).2, fun token n member =>
    registry.known token n (List.mem_cons_of_mem _ member)⟩

theorem keys (registry : Registry made loaded) :
    (tenants made loaded).map Tenant.token = loaded.map Prod.fst := by
  induction loaded with
  | nil => rfl
  | cons l rest ih =>
      obtain ⟨t, found, own⟩ := registry.known l.1 l.2 List.mem_cons_self
      rw [tenants, List.filterMap_cons, found]
      exact congrArg₂ List.cons own (ih registry.tail)

theorem tenants_cons {rest : List (String × Nat)} (found : made[n]? = some t) :
    tenants made ((token, n) :: rest) = t :: tenants made rest := by
  rw [tenants, List.filterMap_cons, found]
  rfl

theorem find? (registry : Registry made loaded) (token : String) :
    Keyed.find? Tenant.token token (tenants made loaded) =
      (loaded.lookup token).bind (made[·]?) := by
  have distinct : Keyed.Distinct Tenant.token (tenants made loaded) := by
    rw [Keyed.Distinct, registry.keys]
    exact registry.tokens
  ext t
  rw [Keyed.find?_eq_some distinct, Option.bind_eq_some_iff, tenants, List.mem_filterMap]
  constructor
  · rintro ⟨⟨⟨token', n⟩, member, found⟩, rfl⟩
    obtain ⟨t', found', rfl⟩ := registry.known token' n member
    cases found.symm.trans found'
    exact ⟨n, (Keyed.lookup_eq_some registry.tokens).mpr member, found⟩
  · rintro ⟨n, own, found⟩
    have member := (Keyed.lookup_eq_some registry.tokens).mp own
    obtain ⟨t', found', own'⟩ := registry.known token n member
    cases found.symm.trans found'
    exact ⟨⟨(token, n), member, found⟩, own'⟩

theorem other (registry : Registry made loaded) (member : (token, n) ∈ loaded) {token' : String}
    {n' : Nat} (member' : (token', n') ∈ loaded) (different : token' ≠ token) : n ≠ n' := by
  rintro rfl
  obtain ⟨t, found, own⟩ := registry.known token n member
  obtain ⟨t', found', own'⟩ := registry.known token' n member'
  cases found.symm.trans found'
  exact different (own'.symm.trans own)

theorem tenants_congr {made made' : List Tenant}
    (same : ∀ token n, (token, n) ∈ loaded → made'[n]? = made[n]?) :
    tenants made' loaded = tenants made loaded :=
  List.filterMap_congr fun l member => same l.1 l.2 member

theorem set (registry : Registry made loaded) (member : (token, n) ∈ loaded)
    (own : t.token = token) :
    tenants (made.set n t) loaded = Keyed.put Tenant.token t (tenants made loaded) := by
  obtain ⟨t₀, found, own₀⟩ := registry.known token n member
  have within := (List.getElem?_eq_some_iff.mp found).1
  induction loaded with
  | nil => cases member
  | cons l rest ih =>
      obtain ⟨token', n'⟩ := l
      have apart := (List.nodup_cons.mp registry.tokens).1
      rcases List.mem_cons.mp member with here | there
      · cases here
        have rest' : tenants (made.set n t) rest = tenants made rest := by
          refine tenants_congr fun token' n' later => List.getElem?_set_ne ?_
          refine registry.other member (List.mem_cons_of_mem _ later) ?_
          rintro rfl
          exact apart (List.mem_map.mpr ⟨_, later, rfl⟩)
        rw [tenants_cons (List.getElem?_set_self within), tenants_cons found]
        simp only [Keyed.put, own, own₀, beq_self_eq_true, if_true]
        exact congrArg _ rest'
      · have different : token' ≠ token := by
          rintro rfl
          exact apart (List.mem_map.mpr ⟨_, there, rfl⟩)
        obtain ⟨t', found', own'⟩ := registry.known token' n' List.mem_cons_self
        have elsewhere := registry.other member List.mem_cons_self different
        rw [tenants_cons ((List.getElem?_set_ne elsewhere).trans found'), tenants_cons found']
        simp only [Keyed.put, own, own', beq_iff_eq, different, if_false]
        exact congrArg _ (ih registry.tail there)

theorem append (registry : Registry made loaded) (t : Tenant) :
    tenants (made ++ [t]) loaded = tenants made loaded := by
  refine tenants_congr fun token n member => ?_
  obtain ⟨t', found, _⟩ := registry.known token n member
  exact List.getElem?_append_left (List.getElem?_eq_some_iff.mp found).1

theorem add (registry : Registry made loaded) (own : t.token = token) :
    tenants (made ++ [t]) (Keyed.put Prod.fst (token, made.length) loaded) =
      Keyed.put Tenant.token t (tenants made loaded) := by
  induction loaded with
  | nil => simp [tenants, Keyed.put]
  | cons l rest ih =>
      obtain ⟨token', n'⟩ := l
      obtain ⟨t', found, own'⟩ := registry.known token' n' List.mem_cons_self
      have within := (List.getElem?_eq_some_iff.mp found).1
      rw [tenants_cons found, Keyed.put, Keyed.put, own, own']
      by_cases same : token' = token
      · simp only [same, beq_self_eq_true, if_true]
        rw [← registry.tail.append t]
        simp [tenants]
      · simp only [beq_iff_eq, same, if_false]
        rw [← ih registry.tail,
          tenants_cons ((List.getElem?_append_left within).trans found)]

theorem erase (registry : Registry made loaded) (token : String) :
    tenants made (Keyed.erase Prod.fst token loaded) =
      Keyed.erase Tenant.token token (tenants made loaded) := by
  rw [tenants, Keyed.erase, List.filterMap_filter, Keyed.erase, tenants, List.filter_filterMap]
  refine List.filterMap_congr fun l member => ?_
  obtain ⟨t, found, own⟩ := registry.known l.1 l.2 member
  simp only [found, Option.filter_some, own]

end Registry

/-- The loaded tenants are known by their tokens, and only they were not told to stop. The sessions
have the numbers of the pumps. -/
structure Kept (e : Engine) : Prop where
  registry : Registry e.made e.loaded
  dismissed : ∀ (n : Nat) t, e.made[n]? = some t → t.cancelled = false → (t.token, n) ∈ e.loaded
  numbered : e.host.exchange.board.Numbered
  piped : e.pumps.map Pump.session = List.range e.host.exchange.nextId

namespace Kept

variable {e : Engine} {n : Nat} {t t' : Tenant} {host : Host}

theorem with_host (kept : e.Kept) (board : host.exchange.board = e.host.exchange.board) :
    Kept { e with host := host } := by
  refine ⟨kept.registry, kept.dismissed, board ▸ kept.numbered, ?_⟩
  exact kept.piped.trans (congrArg (fun b => List.range b.nextId) board.symm)

theorem set (kept : e.Kept) (found : e.made[n]? = some t) (own : t'.token = t.token)
    (told : t'.cancelled = false → t.cancelled = false) {pumps : List Pump}
    (numbered : host.exchange.board.Numbered)
    (piped : pumps.map Pump.session = List.range host.exchange.nextId) :
    Kept { e with host := host, made := e.made.set n t', pumps := pumps } := by
  obtain ⟨⟨tokens, known⟩, dismissed, _, _⟩ := kept
  refine ⟨⟨tokens, ?_⟩, ?_, numbered, piped⟩
  · grind
  · grind

end Kept

theorem act_loaded (e : Engine) (n : Nat) (a : Hosted.Action) :
    (e.act n a).loaded = e.loaded := by
  unfold act
  split <;> rfl

theorem act_closing (e : Engine) (n : Nat) (a : Hosted.Action) :
    (e.act n a).closing = e.closing := by
  unfold act
  split <;> rfl

theorem atLoaded_loaded (e : Engine) (token : String) (a : Hosted.Action) :
    (e.atLoaded token a).loaded = e.loaded := by
  unfold atLoaded
  split
  · rfl
  · exact e.act_loaded _ a

theorem act_numbered (h : Hosted) (numbered : h.host.exchange.board.Numbered) (a : Hosted.Action) :
    (h.act a).host.exchange.board.Numbered := by
  have board : (h.act a).host.exchange.board = _ := congrArg Hosted.Wiring.board (h.act_wiring a)
  have without (used : Option LinkId) : (h.wiring.without used).board.Numbered :=
    (h.wiring.without_board used).symm ▸ numbered
  rw [board]
  cases a with
  | start =>
      dsimp only
      split
      · exact (numbered.opened _).hangUp _
      · exact numbered
  | stop => exact numbered.hangUp _
  | logout => exact numbered.hangUp _
  | shutdown => exact numbered.hangUp _
  | event e => exact without _
  | takeEvents => exact without _
  | _ => exact numbered

theorem after_sessions (h : Hosted) {pumps : List Pump}
    (piped : pumps.map Pump.session = List.range h.host.exchange.nextId) (n : Nat)
    (a : Hosted.Action) :
    (Pump.after pumps n h a).map Pump.session = List.range (h.act a).host.exchange.nextId := by
  have ids : (h.act a).host.exchange.nextId = _ := congrArg (·.2.2) (h.act_ear a)
  rw [ids]
  cases a with
  | start =>
      cases result : h.start.2 with
      | ok =>
          have starts : h.starts = true := congrArg Except.isOk result
          simp only [Pump.after, result, starts, if_true, List.map_append, Pump.quit_sessions,
            piped, List.range_succ, List.map_cons, List.map_nil]
      | error failure =>
          have starts : h.starts = false := congrArg Except.isOk result
          simp only [Pump.after, result, starts, piped]
          rfl
  | stop => exact (Pump.quit_sessions _ _).trans piped
  | _ => exact piped

namespace Kept

variable {e : Engine} {n : Nat} {t : Tenant}

theorem act (kept : e.Kept) (n : Nat) (a : Hosted.Action) : (e.act n a).Kept := by
  unfold Engine.act
  cases found : e.made[n]? with
  | none => exact kept
  | some t =>
      exact kept.set found (Hosted.act_token _ a) (Hosted.act_active ⟨t, e.host⟩)
        (act_numbered ⟨t, e.host⟩ kept.numbered a) (after_sessions ⟨t, e.host⟩ kept.piped n a)

theorem work (kept : e.Kept) (n : Nat) (subscriber : String) (s : Hosted.WorkerStep) :
    (e.work n subscriber s).Kept := by
  unfold Engine.work
  cases found : e.made[n]? with
  | none => exact kept
  | some t =>
      have wiring := Hosted.work_wiring ⟨t, e.host⟩ subscriber s
      have board : (Hosted.work ⟨t, e.host⟩ subscriber s).host.exchange.board = _ :=
        congrArg Hosted.Wiring.board wiring
      have told : (Hosted.work ⟨t, e.host⟩ subscriber s).tenant.cancelled = t.cancelled :=
        congrArg Hosted.Wiring.cancelled wiring
      refine kept.set found (Hosted.Spares.work ⟨t, e.host⟩ subscriber s).token
        (fun active => told ▸ active) (board ▸ kept.numbered) ?_
      exact kept.piped.trans (congrArg (fun b => List.range b.nextId) board.symm)

theorem atLoaded (kept : e.Kept) (token : String) (a : Hosted.Action) :
    (e.atLoaded token a).Kept := by
  unfold Engine.atLoaded
  split
  · exact kept
  · exact kept.act _ a

theorem retired (kept : e.Kept) (token : String) (a : Hosted.Action)
    (tells : ∀ h : Hosted, (h.act a).tenant.cancelled = true) (n : Nat) (t : Tenant)
    (found : (e.atLoaded token a).made[n]? = some t) (active : t.cancelled = false) :
    t.token ≠ token := by
  rintro rfl
  have own := (kept.atLoaded t.token a).dismissed n t found active
  rw [atLoaded_loaded] at own
  unfold Engine.atLoaded at found
  rw [(Keyed.lookup_eq_some kept.registry.tokens).mpr own] at found
  obtain ⟨t', known, _⟩ := kept.registry.known t.token n own
  have within := (List.getElem?_eq_some_iff.mp known).1
  simp only [Engine.act, known, List.getElem?_set_self within, Option.some.injEq] at found
  rw [← found, tells] at active
  cases active

theorem load (kept : e.Kept) (p : Profile) (ws : List Webhook) : (e.load p ws).Kept := by
  have retired := kept.retired p.token .shutdown fun h =>
    congrArg Hosted.Wiring.cancelled h.shutdown_wiring
  have kept := kept.atLoaded p.token .shutdown
  unfold Engine.load
  dsimp only
  generalize e.atLoaded p.token .shutdown = e at kept retired
  have wiring := Hosted.attachAll_wiring
    ⟨Tenant.ofProfile e.host.settings p e.closing, e.host⟩ ws
  have own : (Hosted.attachAll ⟨Tenant.ofProfile e.host.settings p e.closing, e.host⟩
      ws).tenant.token = p.token := Hosted.act_token _ (.attachAll ws)
  generalize Hosted.attachAll _ ws = h at wiring own
  have board : h.host.exchange.board = e.host.exchange.board := congrArg Hosted.Wiring.board wiring
  refine ⟨⟨Keyed.put_distinct _ kept.registry.tokens, ?_⟩, ?_, board ▸ kept.numbered, ?_⟩
  · intro token n member
    have known := kept.registry.known
    rcases (Keyed.mem_put kept.registry.tokens).mp member with here | ⟨there, _⟩
    · grind
    · grind
  · intro n t found active
    have dismissed := kept.dismissed
    refine (Keyed.mem_put kept.registry.tokens).mpr ?_
    grind
  · exact kept.piped.trans (congrArg (fun b => List.range b.nextId) board.symm)

theorem unload (kept : e.Kept) (token : String) : (e.unload token).Kept := by
  have retired := kept.retired token .logout fun h =>
    congrArg Hosted.Wiring.cancelled h.logout_wiring
  have kept := kept.atLoaded token .logout
  unfold Engine.unload
  dsimp only
  generalize e.atLoaded token .logout = e at kept retired
  refine ⟨⟨Keyed.erase_distinct _ kept.registry.tokens, ?_⟩, ?_, kept.numbered, kept.piped⟩
  · intro token' n member
    exact kept.registry.known token' n (Keyed.mem_erase.mp member).1
  · intro n t found active
    exact Keyed.mem_erase.mpr ⟨kept.dismissed n t found active, retired n t found active⟩

theorem close (kept : e.Kept) : e.close.Kept := by
  refine ⟨⟨List.nodup_nil, nofun⟩, fun n t found active => ?_, kept.numbered, kept.piped⟩
  unfold Engine.close at found
  rw [List.getElem?_map, Option.map_eq_some_iff] at found
  obtain ⟨t', _, rfl⟩ := found
  cases active

theorem inject (kept : e.Kept) (id : LinkId) (event : Session.Event) :
    (e.inject id event).Kept := by
  unfold Engine.inject
  split
  · exact kept
  · next l found =>
    apply kept.with_host
    apply Session.Exchange.update_board found
    · exact (l.inject_id event).trans (Keyed.find?_some found).2
    · unfold Session.Link.inject
      split <;> rfl

theorem start {host : Host} (unused : host.exchange = {}) : Kept { host := host } := by
  refine ⟨⟨List.nodup_nil, fun _ _ member => ?_⟩, fun n t found => ?_, ?_, ?_⟩
  · cases member
  · cases List.getElem?_nil.symm.trans found
  · rw [unused]
    rfl
  · rw [unused]
    rfl

theorem step (kept : e.Kept) (s : Step) : (e.step s).Kept := by
  cases s with
  | act n a => exact kept.act n a
  | load p ws => exact kept.load p ws
  | unload token => exact kept.unload token
  | close => exact kept.close
  | work n subscriber s => exact kept.work n subscriber s
  | tick => exact kept.with_host (congrArg Session.Exchange.board e.host.now_exchange)
  | save p => exact kept.with_host (congrArg Session.Exchange.board (e.host.save_exchange p))
  | erase token => exact kept.with_host rfl
  | push change => exact kept.with_host rfl
  | inject id event => exact kept.inject id event
  | turn id =>
      exact turn_keeps (P := Kept) (fun board kept => kept.with_host board)
        (fun n event kept => kept.act n (.event event)) kept id

end Kept

end Engine

end ChatGateway

import ChatGateway.Proofs.Gateway.Engine

namespace ChatGateway

open Session (LinkId)

namespace Hosted

/-- The session listened to, whether the tenant was told to stop, and the next session. -/
def Wiring.ear (w : Wiring) : Option LinkId × Bool × LinkId := (w.pump, w.cancelled, w.board.nextId)

theorem Wiring.without_ear (w : Wiring) (used : Option LinkId) : (w.without used).ear = w.ear := by
  cases used <;> rfl

def starts (h : Hosted) : Bool := h.start.2.isOk

theorem starts_eq (h : Hosted) : h.starts = h.tenant.profile.identity.isSome := by
  unfold starts start Session.Exchange.connect
  cases h.tenant.profile.identity <;> rfl

/-- What a tenant listens to changes when it opens a session, is stopped, or is told to stop. -/
theorem act_ear (h : Hosted) (a : Action) :
    (h.act a).wiring.ear = match a with
      | .start =>
        if h.starts then
          (some h.host.exchange.nextId, h.tenant.cancelled, h.host.exchange.nextId + 1)
        else h.wiring.ear
      | .stop => (none, h.tenant.cancelled, h.host.exchange.nextId)
      | .logout | .shutdown | .cancel => (h.tenant.pump, true, h.host.exchange.nextId)
      | _ => h.wiring.ear := by
  rw [act_wiring]
  cases a with
  | start => exact starts_eq h ▸ apply_ite Wiring.ear _ _ _
  | event e => exact Wiring.without_ear _ _
  | takeEvents => exact Wiring.without_ear _ _
  | _ => rfl

theorem act_nextId (h : Hosted) (a : Action) :
    h.host.exchange.nextId ≤ (h.act a).host.exchange.nextId := by
  have ids : (h.act a).host.exchange.nextId = _ := congrArg (·.2.2) (h.act_ear a)
  rw [ids]
  cases a with
  | start =>
      dsimp only
      split
      · exact Nat.le_succ _
      · exact Nat.le_refl _
  | _ => exact Nat.le_refl _

theorem act_active (h : Hosted) {a : Action} (active : (h.act a).tenant.cancelled = false) :
    h.tenant.cancelled = false := by
  have told : (h.act a).tenant.cancelled = _ := congrArg (·.2.1) (h.act_ear a)
  rw [told] at active
  cases a with
  | start =>
      dsimp only at active
      split at active <;> exact active
  | logout => cases active
  | shutdown => cases active
  | cancel => cases active
  | _ => exact active

/-- Whether an action ends the session that the tenant listens to. -/
def parts (h : Hosted) : Action → Bool
  | .start => h.starts
  | .stop | .logout | .shutdown | .cancel => true
  | _ => false

/-- What a tenant hears after an action it heard before, unless it has just opened the session. -/
theorem act_heard (h : Hosted) (a : Action) {id : LinkId}
    (hears : (h.act a).tenant.heard = some id) :
    (h.tenant.heard = some id ∧ h.parts a = false) ∨ id = h.host.exchange.nextId := by
  have ear := h.act_ear a
  have pump : (h.act a).tenant.pump = _ := congrArg Prod.fst ear
  have cancelled : (h.act a).tenant.cancelled = _ := congrArg (·.2.1) ear
  unfold Tenant.heard at hears ⊢
  rw [pump, cancelled] at hears
  cases a with
  | start =>
      cases starts : h.starts with
      | true =>
          simp only [starts, if_true] at hears
          split at hears
          · cases hears
          · exact Or.inr (Option.some.inj hears).symm
      | false =>
          simp only [starts, Bool.false_eq_true, if_false] at hears
          exact Or.inl ⟨hears, starts⟩
  | stop =>
      dsimp only at hears
      split at hears <;> cases hears
  | logout => cases hears
  | shutdown => cases hears
  | cancel => cases hears
  | _ => exact Or.inl ⟨hears, rfl⟩

end Hosted

namespace Pump

variable {pumps : List Pump} {session : Option LinkId} {p : Pump}

theorem quit_sessions (pumps : List Pump) (session : Option LinkId) :
    (pumps.map (quit session)).map Pump.session = pumps.map Pump.session := by
  rw [List.map_map]
  apply List.map_congr_left
  intro p _
  rw [Function.comp_apply, quit]
  split <;> rfl

theorem mem_quit (working : p.stopped = false) :
    p ∈ pumps.map (quit session) ↔ p ∈ pumps ∧ session ≠ some p.session := by
  rw [List.mem_map]
  constructor
  · rintro ⟨q, member, rfl⟩
    unfold quit at working ⊢
    split at working
    · cases working
    · next other =>
      rw [if_neg other]
      exact ⟨member, other⟩
  · rintro ⟨member, other⟩
    exact ⟨p, member, if_neg other⟩

end Pump

namespace Engine

/-- The session that the tenant of a number opens in a step. -/
def opens (e : Engine) (n : Nat) : Step → Option LinkId
  | .act m .start =>
    if m = n ∧ e.made[n]?.any (fun t => Hosted.starts ⟨t, e.host⟩) then some e.host.exchange.nextId
    else none
  | _ => none

/-- The session that the tenant of a number opens last in a run. -/
def lastOpened (e : Engine) (n : Nat) : List Step → Option LinkId
  | [] => none
  | s :: rest => ((e.step s).lastOpened n rest).or (e.opens n s)

/-- In its turn, a pump does no more than hand on an event and empty a session. -/
theorem turn_keeps {P : Engine → Prop}
    (with_host : ∀ {e : Engine} {host : Host},
      host.exchange.board = e.host.exchange.board → P e → P { e with host := host })
    (event : ∀ {e : Engine} n event, P e → P (e.act n (.event event))) {e : Engine} (start : P e)
    (id : LinkId) : P (e.turn id) := by
  unfold turn receive
  split
  · exact start
  · split
    · split
      · exact start
      · next found =>
        split
        · exact start
        · refine event _ _ (with_host ?_ start)
          exact Session.Exchange.update_board found (Keyed.find?_some found).2 rfl
    · exact with_host (Session.Exchange.hush_board _ _) start

/-- A tenant listens to the session it opened last, if to any, and that is the session of the one
pump of the tenant that goes on. -/
structure Sound (e : Engine) (last : Nat → Option LinkId) : Prop where
  apart : (e.pumps.map Pump.session).Nodup
  older : ∀ id ∈ e.pumps.map Pump.session, id < e.host.exchange.nextId
  manned : ∀ n t id, e.made[n]? = some t → t.pump = some id → ⟨id, n, false⟩ ∈ e.pumps
  latest : ∀ n t id, e.made[n]? = some t → t.pump = some id → last n = some id
  heard : ∀ p ∈ e.pumps, p.stopped = false →
    ∃ t, e.made[p.tenant]? = some t ∧ t.pump = some p.session

/-- The pumps of a tenant that were not told to stop. -/
def livePumps (e : Engine) (n : Nat) : List Pump :=
  e.pumps.filter fun p => p.tenant == n && e.live p

namespace Sound

variable {e : Engine} {last : Nat → Option LinkId} {n : Nat} {t t' : Tenant} {host : Host}

theorem same (sound : e.Sound last) {p q : Pump} (here : p ∈ e.pumps) (there : q ∈ e.pumps)
    (session : p.session = q.session) : p = q :=
  List.inj_on_of_nodup_map sound.apart here there session

theorem with_host (sound : e.Sound last) (ids : host.exchange.nextId = e.host.exchange.nextId) :
    Sound { e with host := host } last := by
  obtain ⟨apart, older, manned, latest, heard⟩ := sound
  exact ⟨apart, ids ▸ older, manned, latest, heard⟩

/-- The tenant of a number still listens to what it did. -/
theorem kept (sound : e.Sound last) (found : e.made[n]? = some t) (pump : t'.pump = t.pump)
    (ids : host.exchange.nextId = e.host.exchange.nextId) :
    Sound { e with host := host, made := e.made.set n t' } last := by
  obtain ⟨apart, older, manned, latest, heard⟩ := sound.with_host ids
  refine ⟨apart, older, ?_, ?_, ?_⟩
  all_goals grind

theorem stopped (sound : e.Sound last) (found : e.made[n]? = some t) (pump : t'.pump = none)
    (ids : host.exchange.nextId = e.host.exchange.nextId) :
    Sound { e with host := host, made := e.made.set n t'
                   pumps := e.pumps.map (Pump.quit t.pump) } last := by
  have sessions := Pump.quit_sessions e.pumps t.pump
  have others {m t₀ id} (there : (e.made.set n t')[m]? = some t₀) (slot : t₀.pump = some id) :
      m ≠ n ∧ e.made[m]? = some t₀ := by
    grind
  refine ⟨sessions ▸ sound.apart, ?_, ?_, ?_, ?_⟩
  · rw [sessions, ids]
    exact sound.older
  · intro m t₀ id there slot
    obtain ⟨other, before⟩ := others there slot
    have working := sound.manned m t₀ id before slot
    refine (Pump.mem_quit rfl).mpr ⟨working, fun used => other ?_⟩
    exact congrArg Pump.tenant (sound.same working (sound.manned n t id found used) rfl)
  · intro m t₀ id there slot
    exact sound.latest m t₀ id (others there slot).2 slot
  · intro p member working
    obtain ⟨before, other⟩ := (Pump.mem_quit working).mp member
    obtain ⟨t₀, there, slot⟩ := sound.heard p before working
    have elsewhere : n ≠ p.tenant := by
      rintro rfl
      cases found.symm.trans there
      exact other slot
    exact ⟨t₀, (List.getElem?_set_ne elsewhere).trans there, slot⟩

theorem opened (sound : e.Sound last) (found : e.made[n]? = some t) (idle : t.pump = none)
    (pump : t'.pump = some e.host.exchange.nextId)
    (ids : host.exchange.nextId = e.host.exchange.nextId + 1) :
    Sound { e with
      host := host, made := e.made.set n t'
      pumps := e.pumps ++ [{ session := e.host.exchange.nextId, tenant := n }] }
      (Function.update last n (some e.host.exchange.nextId)) := by
  obtain ⟨apart, older, manned, latest, heard⟩ := sound
  refine ⟨?_, ?_, ?_, ?_, ?_⟩
  all_goals grind

/-- A tenant opens a session in place of the one it listened to. -/
theorem started (sound : e.Sound last) (found : e.made[n]? = some t)
    (pump : t'.pump = some e.host.exchange.nextId)
    (ids : host.exchange.nextId = e.host.exchange.nextId + 1) :
    Sound { e with
      host := host, made := e.made.set n t'
      pumps := e.pumps.map (Pump.quit t.pump) ++
        [{ session := e.host.exchange.nextId, tenant := n }] }
      (Function.update last n (some e.host.exchange.nextId)) := by
  have within := (List.getElem?_eq_some_iff.mp found).1
  have quit : Sound { e with
      made := e.made.set n { t with pump := none }
      pumps := e.pumps.map (Pump.quit t.pump) } last := sound.stopped found rfl rfl
  have opened := quit.opened (List.getElem?_set_self within) rfl pump ids
  rwa [List.set_set] at opened

theorem start (host : Host) : Sound { host := host } fun _ => none := by
  refine ⟨List.nodup_nil, ?_, ?_, ?_, ?_⟩ <;> simp

theorem act (sound : e.Sound last) (n : Nat) (a : Hosted.Action) :
    (e.act n a).Sound fun m => (e.opens m (.act n a)).or (last m) := by
  unfold Engine.act
  cases found : e.made[n]? with
  | none =>
      have none : ∀ m, e.opens m (.act n a) = none := by
        intro m
        cases a with
        | start =>
            refine if_neg fun ⟨own, starts⟩ => ?_
            rw [← own, found] at starts
            cases starts
        | _ => rfl
      simp only [none, Option.none_or]
      exact sound
  | some t =>
      dsimp only
      have ear := Hosted.act_ear ⟨t, e.host⟩ a
      have pump : (Hosted.act ⟨t, e.host⟩ a).tenant.pump = _ := congrArg Prod.fst ear
      have ids : (Hosted.act ⟨t, e.host⟩ a).host.exchange.nextId = _ := congrArg (·.2.2) ear
      cases a with
      | start =>
        cases result : (Hosted.start ⟨t, e.host⟩).2 with
        | ok =>
          have starts : Hosted.starts ⟨t, e.host⟩ = true := congrArg Except.isOk result
          simp only [starts, if_true] at pump ids
          have opened := sound.started found pump ids
          have latest : (fun m => (e.opens m (.act n .start)).or (last m)) =
              Function.update last n (some e.host.exchange.nextId) := by
            funext m
            simp only [opens, Function.update_apply]
            grind
          rw [latest, Pump.after, result]
          exact opened
        | error failure =>
          have starts : Hosted.starts ⟨t, e.host⟩ = false := congrArg Except.isOk result
          simp only [starts] at pump ids
          have none (m : Nat) : e.opens m (.act n .start) = none := by
            refine if_neg fun ⟨own, starts'⟩ => ?_
            rw [← own, found, Option.any_some, starts] at starts'
            cases starts'
          simp only [none, Option.none_or]
          rw [Pump.after, result]
          exact sound.kept found pump ids
      | stop => exact sound.stopped found pump ids
      | _ => exact sound.kept found pump ids

theorem atLoaded (sound : e.Sound last) (token : String) {a : Hosted.Action}
    (quiet : ∀ n m, e.opens m (.act n a) = none) : (e.atLoaded token a).Sound last := by
  unfold Engine.atLoaded
  cases e.loaded.lookup token with
  | none => exact sound
  | some n =>
      have acted := sound.act n a
      simpa only [quiet, Option.none_or] using acted

theorem work (sound : e.Sound last) (n : Nat) (subscriber : String) (s : Hosted.WorkerStep) :
    (e.work n subscriber s).Sound last := by
  unfold Engine.work
  cases found : e.made[n]? with
  | none => exact sound
  | some t =>
      have wiring := Hosted.work_wiring ⟨t, e.host⟩ subscriber s
      exact sound.kept found (congrArg Hosted.Wiring.pump wiring)
        (congrArg (fun w => w.board.nextId) wiring)

theorem load (sound : e.Sound last) (p : Profile) (ws : List Webhook) :
    (e.load p ws).Sound last := by
  have retired := sound.atLoaded p.token (a := .shutdown) fun _ _ => rfl
  unfold Engine.load
  dsimp only
  generalize e.atLoaded p.token .shutdown = e at retired
  have wiring := Hosted.attachAll_wiring
    ⟨Tenant.ofProfile e.host.settings p e.closing, e.host⟩ ws
  generalize Hosted.attachAll _ ws = h at wiring
  have pump : h.tenant.pump = none := congrArg Hosted.Wiring.pump wiring
  have ids : h.host.exchange.nextId = e.host.exchange.nextId :=
    congrArg (fun w => w.board.nextId) wiring
  obtain ⟨apart, older, manned, latest, heard⟩ := retired.with_host ids
  refine ⟨apart, older, ?_, ?_, ?_⟩
  all_goals grind

theorem unload (sound : e.Sound last) (token : String) : (e.unload token).Sound last := by
  have retired := sound.atLoaded token (a := .logout) fun _ _ => rfl
  exact ⟨retired.apart, retired.older, retired.manned, retired.latest, retired.heard⟩

theorem close (sound : e.Sound last) : e.close.Sound last := by
  have pump (t : Tenant) : t.cancel.pump = t.pump := rfl
  obtain ⟨apart, older, manned, latest, heard⟩ := sound
  unfold Engine.close
  refine ⟨apart, older, ?_, ?_, ?_⟩
  all_goals grind

theorem inject (sound : e.Sound last) (id : LinkId) (event : Session.Event) :
    (e.inject id event).Sound last := by
  unfold Engine.inject
  split
  · exact sound
  · exact sound.with_host rfl

theorem turn (sound : e.Sound last) (id : LinkId) : (e.turn id).Sound last :=
  turn_keeps (P := (Sound · last)) (fun board sound => sound.with_host (congrArg (·.nextId) board))
    (fun n event sound => sound.act n (.event event)) sound id

theorem step (sound : e.Sound last) (s : Step) :
    (e.step s).Sound fun n => (e.opens n s).or (last n) := by
  cases s with
  | act n a => exact sound.act n a
  | load p ws => exact sound.load p ws
  | unload token => exact sound.unload token
  | close => exact sound.close
  | work n subscriber s => exact sound.work n subscriber s
  | tick => exact sound.with_host rfl
  | save p => exact sound.with_host rfl
  | erase token => exact sound.with_host rfl
  | push change => exact sound.with_host rfl
  | inject id event => exact sound.inject id event
  | turn id => exact sound.turn id

theorem run (sound : e.Sound last) (steps : List Step) :
    (e.run steps).Sound fun n => (e.lastOpened n steps).or (last n) := by
  induction steps generalizing e last with
  | nil => exact sound
  | cons s rest ih =>
      have later := ih (sound.step s)
      simp only [← Option.or_assoc] at later
      exact later

/-- A session is heard by no tenant but the one that opened it. -/
theorem hears_own (sound : e.Sound last) {p : Pump} (member : p ∈ e.pumps) {n : Nat} {t : Tenant}
    (found : e.made[n]? = some t) (hears : t.heard = some p.session) : n = p.tenant := by
  have slot := Tenant.heard_pump hears
  exact congrArg Pump.tenant (sound.same (sound.manned n t _ found slot) member rfl)

theorem live_iff (sound : e.Sound last) {p : Pump} (member : p ∈ e.pumps) :
    e.live p = true ↔ ∃ t, e.made[p.tenant]? = some t ∧ t.heard = some p.session := by
  unfold live Tenant.heard
  constructor
  · intro live
    rw [Bool.and_eq_true, Bool.not_eq_true', Option.any_eq_true] at live
    obtain ⟨working, t, found, active⟩ := live
    obtain ⟨t', found', slot⟩ := sound.heard p member working
    cases found.symm.trans found'
    refine ⟨t, found, ?_⟩
    rw [Bool.not_eq_true'] at active
    simp [active, slot]
  · rintro ⟨t, found, hears⟩
    split at hears
    · cases hears
    · next active =>
      have working : p.stopped = false := congrArg Pump.stopped
        (sound.same member (sound.manned p.tenant t p.session found hears) rfl)
      simp [working, found, active]

/-- The one pump at work for a tenant is that of the session it hears. -/
theorem livePumps (sound : e.Sound last) (found : e.made[n]? = some t) :
    e.livePumps n = (t.heard.map fun id => { session := id, tenant := n }).toList := by
  have working (p : Pump) : p ∈ e.livePumps n ↔
      p ∈ e.pumps ∧ p.tenant = n ∧ t.heard = some p.session := by
    rw [Engine.livePumps, List.mem_filter]
    refine and_congr_right fun member => ?_
    rw [Bool.and_eq_true, beq_iff_eq]
    refine and_congr_right fun own => ?_
    rw [sound.live_iff member, own]
    simp [found]
  have nodup : (e.livePumps n).Nodup := (sound.apart.of_map _).filter _
  cases hears : t.heard with
  | none =>
      apply List.eq_nil_iff_forall_not_mem.mpr
      intro p member
      cases hears.symm.trans ((working p).mp member).2.2
  | some id =>
      have own := sound.manned n t id found (Tenant.heard_pump hears)
      apply List.perm_singleton.mp
      rw [List.perm_ext_iff_of_nodup nodup (List.nodup_singleton _)]
      intro p
      rw [working, List.mem_singleton]
      constructor
      · rintro ⟨member, _, hears'⟩
        exact sound.same member own (Option.some.inj (hears'.symm.trans hears))
      · rintro rfl
        exact ⟨own, rfl, hears⟩

end Sound

end Engine

end ChatGateway

import ChatGateway.Proofs.Gateway.Refinement

namespace ChatGateway

open Session (LinkId)

namespace Engine

/-- The step ends the session that the tenant of a number listens to. -/
def parts (e : Engine) (n : Nat) : Step → Prop
  | .act m a => m = n ∧ e.made[n]?.any fun t => Hosted.parts ⟨t, e.host⟩ a
  | .load p _ => e.loaded.lookup p.token = some n
  | .unload token => e.loaded.lookup token = some n
  | .close => True
  | _ => False

/-- The step ends a session. -/
def Ends (e : Engine) (s : Step) (id : LinkId) : Prop :=
  ∃ p ∈ e.pumps, p.session = id ∧ e.parts p.tenant s

/-- Nobody listens to a session any longer. -/
structure Dead (e : Engine) (id : LinkId) : Prop where
  older : id < e.host.exchange.nextId
  unheard : ∀ (n : Nat) t, e.made[n]? = some t → t.heard ≠ some id

def Step.injects (id : LinkId) : Step → Bool
  | .inject j _ => j == id
  | _ => false

variable {e : Engine} {last : Nat → Option LinkId} {id : LinkId}

namespace Dead

theorem with_host (dead : e.Dead id) {host : Host}
    (ids : host.exchange.nextId = e.host.exchange.nextId) : Dead { e with host := host } id :=
  ⟨ids ▸ dead.older, dead.unheard⟩

theorem set (dead : e.Dead id) {n : Nat} {t : Tenant} {host : Host} (unheard : t.heard ≠ some id)
    (ids : e.host.exchange.nextId ≤ host.exchange.nextId) (pumps : List Pump) :
    Dead { e with host := host, made := e.made.set n t, pumps := pumps } id := by
  obtain ⟨older, unheard'⟩ := dead
  refine ⟨Nat.lt_of_lt_of_le older ids, ?_⟩
  grind

theorem act (dead : e.Dead id) (n : Nat) (a : Hosted.Action) : (e.act n a).Dead id := by
  unfold Engine.act
  cases found : e.made[n]? with
  | none => exact dead
  | some t =>
      refine dead.set (fun hears => ?_) (Hosted.act_nextId ⟨t, e.host⟩ a) _
      rcases Hosted.act_heard _ a hears with ⟨before, _⟩ | opened
      · exact dead.unheard n t found before
      · exact Nat.ne_of_lt dead.older opened

theorem atLoaded (dead : e.Dead id) (token : String) (a : Hosted.Action) :
    (e.atLoaded token a).Dead id := by
  unfold Engine.atLoaded
  split
  · exact dead
  · exact dead.act _ a

theorem work (dead : e.Dead id) (n : Nat) (subscriber : String) (s : Hosted.WorkerStep) :
    (e.work n subscriber s).Dead id := by
  unfold Engine.work
  cases found : e.made[n]? with
  | none => exact dead
  | some t =>
      have wiring := Hosted.work_wiring ⟨t, e.host⟩ subscriber s
      have same : (Hosted.work ⟨t, e.host⟩ subscriber s).tenant.heard = t.heard :=
        congrArg (fun w => if w.cancelled then none else w.pump) wiring
      have ids : (Hosted.work ⟨t, e.host⟩ subscriber s).host.exchange.nextId = _ :=
        congrArg (fun w => w.board.nextId) wiring
      exact dead.set (same ▸ dead.unheard n t found) (Nat.le_of_eq ids.symm) _

theorem of_retired {p : Profile} (retired : (e.atLoaded p.token .shutdown).Dead id)
    (ws : List Webhook) : (e.load p ws).Dead id := by
  unfold Engine.load
  dsimp only
  generalize e.atLoaded p.token .shutdown = e at retired
  have wiring := Hosted.attachAll_wiring
    ⟨Tenant.ofProfile e.host.settings p e.closing, e.host⟩ ws
  generalize Hosted.attachAll _ ws = h at wiring
  have unheard : h.tenant.heard = none := by
    have pump : h.tenant.pump = none := congrArg Hosted.Wiring.pump wiring
    simp [Tenant.heard, pump]
  have ids : h.host.exchange.nextId = e.host.exchange.nextId :=
    congrArg (fun w => w.board.nextId) wiring
  obtain ⟨older, unheard'⟩ := retired.with_host ids
  refine ⟨older, ?_⟩
  grind

theorem of_loggedOut {token : String} (retired : (e.atLoaded token .logout).Dead id) :
    (e.unload token).Dead id :=
  ⟨retired.older, retired.unheard⟩

theorem of_close (older : id < e.host.exchange.nextId) : e.close.Dead id := by
  refine ⟨older, fun n t found => ?_⟩
  unfold Engine.close at found
  rw [List.getElem?_map, Option.map_eq_some_iff] at found
  obtain ⟨t', _, rfl⟩ := found
  exact nofun

theorem step (dead : e.Dead id) (s : Step) : (e.step s).Dead id := by
  cases s with
  | act n a => exact dead.act n a
  | load p ws => exact of_retired (dead.atLoaded p.token .shutdown) ws
  | unload token => exact of_loggedOut (dead.atLoaded token .logout)
  | close => exact of_close dead.older
  | work n subscriber s => exact dead.work n subscriber s
  | tick => exact dead.with_host rfl
  | save p => exact dead.with_host rfl
  | erase token => exact dead.with_host rfl
  | push change => exact dead.with_host rfl
  | inject j event =>
      change (e.inject j event).Dead id
      unfold Engine.inject
      split
      · exact dead
      · exact dead.with_host rfl
  | turn j =>
      exact turn_keeps (P := (Dead · id))
        (fun board dead => dead.with_host (congrArg (·.nextId) board))
        (fun n event dead => dead.act n (.event event)) dead j

end Dead

namespace Sound

variable {p : Pump}

theorem act_ends (sound : e.Sound last) (member : p ∈ e.pumps) {a : Hosted.Action}
    (parts : ∀ t, e.made[p.tenant]? = some t → Hosted.parts ⟨t, e.host⟩ a = true) :
    (e.act p.tenant a).Dead p.session := by
  have older := sound.older _ (List.mem_map_of_mem member)
  unfold Engine.act
  cases found : e.made[p.tenant]? with
  | none =>
      refine ⟨older, fun n t there hears => ?_⟩
      rw [sound.hears_own member there hears, found] at there
      cases there
  | some t =>
      have ids := Hosted.act_nextId ⟨t, e.host⟩ a
      refine ⟨Nat.lt_of_lt_of_le older ids, fun n t' there hears => ?_⟩
      by_cases own : p.tenant = n
      · obtain rfl : Hosted.tenant (Hosted.act ⟨t, e.host⟩ a) = t' := by
          grind
        rcases Hosted.act_heard ⟨t, e.host⟩ a hears with ⟨_, goesOn⟩ | opened
        · cases goesOn.symm.trans (parts t found)
        · exact Nat.ne_of_lt older opened
      · rw [List.getElem?_set_ne own] at there
        exact own (sound.hears_own member there hears).symm

theorem atLoaded_ends (sound : e.Sound last) (member : p ∈ e.pumps) {token : String}
    {a : Hosted.Action} (own : e.loaded.lookup token = some p.tenant)
    (parts : ∀ h : Hosted, h.parts a = true) : (e.atLoaded token a).Dead p.session := by
  unfold Engine.atLoaded
  rw [own]
  exact sound.act_ends member fun t _ => parts ⟨t, e.host⟩

theorem ends (sound : e.Sound last) {s : Step} (ends : e.Ends s id) : (e.step s).Dead id := by
  obtain ⟨p, member, rfl, parts⟩ := ends
  cases s with
  | act n a =>
      obtain ⟨rfl, parts⟩ := parts
      refine sound.act_ends member fun t found => ?_
      rwa [found] at parts
  | load q ws => exact .of_retired (sound.atLoaded_ends member parts fun _ => rfl) ws
  | unload token => exact .of_loggedOut (sound.atLoaded_ends member parts fun _ => rfl)
  | close => exact .of_close (sound.older _ (List.mem_map_of_mem member))
  | _ => cases parts

end Sound

theorem after_hush (pumps : List Pump) (n : Nat) (h : Hosted)
    (older : id < h.host.exchange.nextId) (a : Hosted.Action) :
    Pump.after pumps n (h.hush id) a = Pump.after pumps n h a := by
  cases a with
  | start =>
      have started := congrArg Prod.snd (h.start_hush older)
      simp only [Pump.after, started]
      rfl
  | _ => rfl

section

variable (e : Engine) (id : LinkId)

theorem hush_made : (e.hush id).made = e.made := rfl

theorem hush_loaded : (e.hush id).loaded = e.loaded := rfl

theorem hush_pumps : (e.hush id).pumps = e.pumps := rfl

theorem hush_link? (j : LinkId) : (e.hush id).host.exchange.link? j =
    (e.host.exchange.link? j).map (Session.Link.hushAt id) :=
  e.host.exchange.link?_hush id j

theorem hush_hosted (t : Tenant) :
    (⟨t, (e.hush id).host⟩ : Hosted) = Hosted.hush ⟨t, e.host⟩ id := rfl

end

theorem act_hush (dead : e.Dead id) (n : Nat) (a : Hosted.Action) :
    (e.hush id).act n a = (e.act n a).hush id := by
  unfold act
  rw [hush_made]
  cases found : e.made[n]? with
  | none => rfl
  | some t =>
      dsimp only
      rw [hush_hosted, Hosted.act_hush ⟨t, e.host⟩ dead.older (dead.unheard n t found) a,
        after_hush _ n ⟨t, e.host⟩ dead.older a]
      rfl

theorem atLoaded_hush (dead : e.Dead id) (token : String) (a : Hosted.Action) :
    (e.hush id).atLoaded token a = (e.atLoaded token a).hush id := by
  unfold atLoaded
  rw [hush_loaded]
  cases e.loaded.lookup token with
  | none => rfl
  | some n => exact act_hush dead n a

theorem work_hush (e : Engine) (id : LinkId) (n : Nat) (subscriber : String)
    (s : Hosted.WorkerStep) :
    (e.hush id).work n subscriber s = (e.work n subscriber s).hush id := by
  unfold work
  rw [hush_made]
  cases e.made[n]? with
  | none => rfl
  | some t =>
      dsimp only
      rw [hush_hosted, Hosted.work_hush]
      rfl

theorem load_hush (dead : e.Dead id) (p : Profile) (ws : List Webhook) :
    (e.hush id).load p ws = (e.load p ws).hush id := by
  unfold load
  dsimp only
  rw [atLoaded_hush dead]
  generalize e.atLoaded p.token .shutdown = e
  rw [hush_hosted, Hosted.attachAll_hush]
  rfl

theorem inject_hush (e : Engine) (id j : LinkId) (event : Session.Event) :
    (e.hush id).inject j event = (e.inject j event).hush id := by
  unfold inject
  rw [hush_link?]
  cases e.host.exchange.link? j with
  | none => rfl
  | some l =>
      have updated := e.host.exchange.update_hush id (l.inject event).1
      rw [← Session.Link.inject_hushAt] at updated
      exact congrArg e.withExchange updated

/-- What is sent on a session that takes no more is lost. -/
theorem inject_hushed (e : Engine) (id : LinkId) (event : Session.Event) :
    (e.hush id).inject id event = e.hush id := by
  unfold inject
  cases found : (e.hush id).host.exchange.link? id with
  | none => rfl
  | some l =>
      rw [hush_link?, Option.map_eq_some_iff] at found
      obtain ⟨l', known, rfl⟩ := found
      have own : l'.id = id := (Keyed.find?_some known).2
      have there : (e.host.exchange.hush id).link? l'.stopListening.id = some l'.stopListening := by
        change (e.host.exchange.hush id).link? l'.id = _
        rw [own, Session.Exchange.link?_hush, known, Option.map_some, Session.Link.hushAt_own own]
      dsimp only
      rw [Session.Link.hushAt_own own, Session.Link.inject_stopListening]
      exact congrArg e.withExchange (Session.Exchange.update_found _ there)

theorem receive_hush (dead : e.Dead id) {p : Pump} (other : p.session ≠ id) :
    (e.hush id).receive p = (e.receive p).hush id := by
  unfold receive
  rw [hush_link?]
  cases found : e.host.exchange.link? p.session with
  | none => rfl
  | some l =>
      have different : l.id ≠ id := (Keyed.find?_some found).2 ▸ other
      rw [Option.map_some, Session.Link.hushAt_other different]
      cases waiting : l.mailbox with
      | nil => simp only [waiting]
      | cons event rest =>
        simp only [waiting]
        have kept : ({ l with mailbox := rest } : Session.Link).id ≠ id := different
        have updated := e.host.exchange.update_hush_other id kept
        have taken : (e.withExchange (e.host.exchange.update { l with mailbox := rest })).Dead id :=
          dead.with_host rfl
        rw [← act_hush taken]
        exact congrArg (fun x => (e.withExchange x).act p.tenant (.event event)) updated

theorem turn_hush (sound : e.Sound last) (dead : e.Dead id) (j : LinkId) :
    (e.hush id).turn j = (e.turn j).hush id := by
  unfold turn
  rw [hush_pumps]
  cases found : Keyed.find? Pump.session j e.pumps with
  | none => rfl
  | some p =>
      have same : (e.hush id).live p = e.live p := rfl
      dsimp only
      rw [same]
      cases live : e.live p with
      | false => exact congrArg e.withExchange (e.host.exchange.hush_comm id j)
      | true =>
        obtain ⟨t, made, hears⟩ := (sound.live_iff (Keyed.find?_some found).1).mp live
        have other : p.session ≠ id := fun own => dead.unheard _ t made (own ▸ hears)
        exact receive_hush dead other

theorem step_hush (sound : e.Sound last) (dead : e.Dead id) (s : Step) :
    (e.hush id).step s = (e.step s).hush id := by
  cases s with
  | act n a => exact act_hush dead n a
  | load p ws => exact load_hush dead p ws
  | unload token =>
      exact congrArg (fun e => { e with loaded := Keyed.erase Prod.fst token e.loaded })
        (atLoaded_hush dead token .logout)
  | inject j event => exact inject_hush e id j event
  | turn j => exact turn_hush sound dead j
  | work n subscriber s => exact work_hush e id n subscriber s
  | _ => rfl

theorem run_hush (sound : e.Sound last) (dead : e.Dead id) (steps : List Step) :
    (e.run steps).hush id = (e.hush id).run (steps.filter (!·.injects id)) := by
  induction steps generalizing e last with
  | nil => rfl
  | cons s rest ih =>
      have later := ih (sound.step s) (dead.step s)
      rw [← step_hush sound dead] at later
      change ((e.step s).run rest).hush id = _
      rw [later, List.filter_cons]
      split
      · rfl
      · next silent =>
        cases s with
        | inject j event =>
            obtain rfl : j = id := by
              simpa [Step.injects] using silent
            exact congrArg (run · _) (inject_hushed e j event)
        | _ => cases silent rfl

/-- Whatever is done at a gateway is done in steps of its engine. However an engine is used, a
tenant has at most one pump at work, the pump of the session it hears, and that session is the one
it opened last. Once a session has ended, it makes no difference what waited on it or is sent on it,
whatever is done afterwards. -/
theorem ended_sessions_are_never_heard (host : Host) :
    let e : Engine := { host := host }
    (host.exchange = {} → ∀ deeds, ∃ steps,
      (e.run steps).gateway = Gateway.after { host := host } deeds) ∧
    ∀ before : List Step,
      (∀ (n : Nat) t, (e.run before).made[n]? = some t →
        ((e.run before).livePumps n).map Pump.session = t.heard.toList ∧
          ∀ p ∈ (e.run before).livePumps n, e.lastOpened n before = some p.session) ∧
      ∀ s id, (e.run before).Ends s id → ∀ rest,
        (((e.run before).step s).run rest).hush id =
          (((e.run before).step s).hush id).run (rest.filter (!·.injects id)) := by
  intro e
  refine ⟨plays_deeds, fun before => ?_⟩
  have sound := (Sound.start host).run before
  simp only [Option.or_none] at sound
  refine ⟨fun n t found => ?_, fun s id ends rest => ?_⟩
  · rw [sound.livePumps found]
    cases hears : t.heard with
    | none => exact ⟨rfl, nofun⟩
    | some id =>
        refine ⟨rfl, fun p only => ?_⟩
        obtain rfl := List.mem_singleton.mp only
        exact sound.latest n t id found (Tenant.heard_pump hears)
  · exact run_hush (sound.step s) (sound.ends ends) rest

/-- A logout that is reported while another session takes over, and once more afterwards. -/
theorem late_logout_is_lost :
    let host : Host := { settings := {}, office := ⟨""⟩, hub := {}, clock := ⟨.epoch⟩ }
    let p : Profile := { Profile.fresh "tok" .epoch with wid := some "1@s.whatsapp.net" }
    let before : List Step := [.load p [], .act 0 .start, .turn 0, .inject 0 (.loggedOut "revoked")]
    let e := run { host := host } before
    let e' := (e.step (.act 0 .start)).run [.turn 0, .inject 0 (.loggedOut "again"), .turn 1]
    e.Ends (.act 0 .start) 0 ∧ (e.livePumps 0).map Pump.session = [0] ∧
      e'.made.map Tenant.status = [.ready] ∧ e'.made.map Tenant.heard = [some 1] := by
  intro host p before e e'
  have working : (⟨0, 0, false⟩ : Pump) ∈ e.pumps := by decide +kernel
  have paired : (e.made[0]?.any fun t => Hosted.parts ⟨t, e.host⟩ .start) = true := by
    decide +kernel
  have ends : e.Ends (.act 0 .start) 0 := Exists.intro _ ⟨working, rfl, And.intro rfl paired⟩
  have lost := ((ended_sessions_are_never_heard host).2 before).2 (.act 0 .start) 0 ends
    [.turn 0, .inject 0 (.loggedOut "again"), .turn 1]
  have made := congrArg Engine.made lost
  rw [hush_made] at made
  refine ⟨ends, by decide +kernel, ?_, ?_⟩
  · refine (congrArg (List.map Tenant.status) made).trans ?_
    decide +kernel
  · refine (congrArg (List.map Tenant.heard) made).trans ?_
    decide +kernel

end Engine

end ChatGateway

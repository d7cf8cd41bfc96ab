import ChatGateway.Proofs.Gateway.Forsaken
import ChatGateway.Proofs.Gateway.Registry

namespace ChatGateway

open Session (LinkId)

namespace Engine

/-- The gateway that is seen from outside. -/
def gateway (e : Engine) : Gateway where
  host := e.host
  tenants := tenants e.made e.loaded
  closing := e.closing

/-- What holds of an engine at work. -/
structure Running (e : Engine) : Prop where
  kept : e.Kept
  sound : ∃ last, e.Sound last

theorem Running.run {e : Engine} (running : e.Running) (steps : List Step) :
    (e.run steps).Running := by
  obtain ⟨kept, last, sound⟩ := running
  exact ⟨List.foldlRecOn _ _ kept fun e kept s _ => kept.step s, _, sound.run steps⟩

/-- What is done at a gateway is done in steps of its engine. -/
def Plays (op : Gateway → Gateway) : Prop :=
  ∀ e : Engine, e.Running → ∃ steps, (e.run steps).gateway = op e.gateway

namespace Plays

variable {op op' : Gateway → Gateway}

theorem of_step (s : Engine → Step)
    (same : ∀ e : Engine, e.Running → (e.step (s e)).gateway = op e.gateway) : Plays op :=
  fun e running => ⟨[s e], same e running⟩

theorem nothing : Plays fun g => g := fun _ _ => ⟨[], rfl⟩

theorem next (first : Plays op) (second : Plays op') : Plays fun g => op' (op g) := by
  intro e running
  obtain ⟨steps, done⟩ := first e running
  obtain ⟨more, rest⟩ := second (e.run steps) (running.run steps)
  refine ⟨steps ++ more, ?_⟩
  rw [run, List.foldl_append]
  exact rest.trans (congrArg op' done)

theorem foldl {α : Type} {op : Gateway → α → Gateway} (each : ∀ a, Plays (op · a))
    (items : List α) : Plays fun g => items.foldl op g := by
  induction items with
  | nil => exact nothing
  | cons a rest ih => exact (each a).next ih

end Plays

namespace Running

variable {e : Engine}

theorem set (running : e.Running) {token : String} {n : Nat} {h : Hosted}
    (own : e.loaded.lookup token = some n) (token' : h.tenant.token = token) (pumps : List Pump) :
    gateway { e with host := h.host, made := e.made.set n h.tenant, pumps := pumps } =
      e.gateway.put h := by
  have member := (Keyed.lookup_eq_some running.kept.registry.tokens).mp own
  exact congrArg (fun tenants => (⟨h.host, tenants, e.closing⟩ : Gateway))
    (running.kept.registry.set member token')

/-- A tenant is loaded under its number or not at all. -/
theorem found (running : e.Running) (token : String) :
    (e.loaded.lookup token = none ∧ Keyed.find? Tenant.token token e.gateway.tenants = none) ∨
    ∃ n t, e.loaded.lookup token = some n ∧ e.made[n]? = some t ∧ t.token = token ∧
      Keyed.find? Tenant.token token e.gateway.tenants = some t := by
  have found := running.kept.registry.find? token
  cases own : e.loaded.lookup token with
  | none =>
      rw [own] at found
      exact Or.inl ⟨rfl, found⟩
  | some n =>
      have member := (Keyed.lookup_eq_some running.kept.registry.tokens).mp own
      obtain ⟨t, made, token'⟩ := running.kept.registry.known token n member
      rw [own, Option.bind_some, made] at found
      exact Or.inr ⟨n, t, rfl, made, token', found⟩

theorem atLoaded (running : e.Running) (token : String) (a : Hosted.Action) :
    (e.atLoaded token a).gateway = e.gateway.act (.atTenant token a) := by
  unfold Engine.atLoaded
  rcases running.found token with ⟨unloaded, missing⟩ | ⟨n, t, own, made, token', found⟩
  · rw [unloaded]
    exact (Gateway.atTenant_missing missing a).symm
  · rw [own, Gateway.atTenant_loaded found]
    simp only [Engine.act, made]
    exact running.set own ((Hosted.act_token _ a).trans token') _

end Running

theorem plays_atTenant (token : String) (a : Hosted.Action) :
    Plays (·.act (.atTenant token a)) := by
  intro e running
  have acted := running.atLoaded token a
  unfold Engine.atLoaded at acted
  cases own : e.loaded.lookup token with
  | none =>
      rw [own] at acted
      exact ⟨[], acted⟩
  | some n =>
      rw [own] at acted
      exact ⟨[.act n a], acted⟩

theorem plays_host (change : Host → Host) (s : Step)
    (same : ∀ e : Engine, e.step s = { e with host := change e.host }) :
    Plays fun g => { g with host := change g.host } :=
  .of_step (fun _ => s) fun e _ => congrArg gateway (same e)

section

variable (g : Gateway) (token : String) (a : Hosted.Action)

theorem retire_eq :
    g.retire token = { g with host := (g.act (.atTenant token .shutdown)).host } := by
  rw [Gateway.atTenant_eq]
  unfold Gateway.retire
  cases g.find? token <;> rfl

theorem atTenant_closing : (g.act (.atTenant token a)).closing = g.closing := by
  rw [Gateway.atTenant_eq]
  cases g.find? token <;> rfl

/-- What becomes of a tenant is not seen once another one has taken its place. -/
theorem put_atTenant {t : Tenant} (own : t.token = token) :
    Keyed.put Tenant.token t (g.act (.atTenant token a)).tenants =
      Keyed.put Tenant.token t g.tenants := by
  cases found : Keyed.find? Tenant.token token g.tenants with
  | none => rw [Gateway.atTenant_missing found]
  | some t' =>
      rw [Gateway.atTenant_loaded found]
      apply Keyed.put_put
      rw [Hosted.act_token, own]
      exact (Keyed.find?_some found).2

end

/-- A tenant as it is made at a host. -/
def fresh (host : Host) (closing : Bool) (p : Profile) (ws : List Webhook) : Hosted :=
  Hosted.attachAll ⟨Tenant.ofProfile host.settings p closing, host⟩ ws

theorem fresh_token (host : Host) (closing : Bool) (p : Profile) (ws : List Webhook) :
    (fresh host closing p ws).tenant.token = p.token :=
  Hosted.act_token _ (.attachAll ws)

theorem load_eq (g : Gateway) (p : Profile) :
    let g' := g.act (.atTenant p.token .shutdown)
    g.load p = g'.put (fresh g'.host g'.closing p (g'.host.repository.webhooksOf p.token)) := by
  intro g'
  have present := put_atTenant g p.token .shutdown
    (fresh_token g'.host g'.closing p (g'.host.repository.webhooksOf p.token))
  unfold Gateway.load Gateway.put
  rw [retire_eq, present, atTenant_closing]
  rfl

/-- The webhooks are those stored at that moment. -/
theorem plays_load (p : Profile) : Plays (·.load p) := by
  refine .of_step (fun e => .load p
    ((e.gateway.act (.atTenant p.token .shutdown)).host.repository.webhooksOf p.token))
    fun e running => ?_
  have retired := running.atLoaded p.token .shutdown
  have registry := (running.kept.atLoaded p.token .shutdown).registry
  rw [load_eq, ← retired]
  unfold step load
  dsimp only
  generalize e.atLoaded p.token .shutdown = e' at registry
  have own := fresh_token e'.host e'.closing p (e'.host.repository.webhooksOf p.token)
  have added := registry.add own
  exact congrArg (fun tenants => (⟨_, tenants, e'.closing⟩ : Gateway)) added

theorem plays_startTenant (token : String) : Plays (·.startTenant token) := by
  have same (g : Gateway) : g.startTenant token = g.act (.atTenant token .start) :=
    (g.atTenant_eq token .start).symm
  simp only [same]
  exact plays_atTenant token .start

theorem plays_startLoaded (token : String) :
    Plays fun g => if (g.find? token).any (·.tenant.status.startsItself) then g.startTenant token
      else g := by
  intro e running
  dsimp only
  split
  · exact plays_startTenant token e running
  · exact ⟨[], rfl⟩

theorem plays_loadAndStart (p : Profile) : Plays (·.loadAndStart p) := by
  have same (g : Gateway) : g.loadAndStart p =
      if ((g.load p).find? p.token).any (·.tenant.status.startsItself) then
        (g.load p).startTenant p.token
      else g.load p := by
    unfold Gateway.loadAndStart
    dsimp only
    cases (g.load p).find? p.token <;> rfl
  simp only [same]
  exact (plays_load p).next (plays_startLoaded p.token)

theorem plays_loadAll : Plays fun g => g.loadAll.1 := fun e running =>
  Plays.foldl plays_loadAndStart e.gateway.host.repository.all e running

theorem plays_ensureLoaded (token : String) : Plays (·.ensureLoaded token) := by
  intro e running
  dsimp only
  unfold Gateway.ensureLoaded
  split
  · exact ⟨[], rfl⟩
  · dsimp only [Gateway.findOrCreate]
    split
    · exact plays_load _ e running
    · let p := Profile.fresh token e.gateway.host.now.1
      have saved := (plays_host (·.now.2) .tick fun _ => rfl).next
        (plays_host (·.save p) (.save p) fun _ => rfl)
      exact saved.next (plays_load p) e running

theorem plays_withTenant {α : Type} (token : String) (a : Hosted.Action)
    {act : Hosted → Hosted × Except Failure α} (same : ∀ h, (act h).1 = h.act a) :
    Plays fun g => (g.withTenant token act).1 := by
  have acted (g : Gateway) : (g.withTenant token act).1 = g.act (.atTenant token a) := by
    rw [Gateway.atTenant_eq]
    unfold Gateway.withTenant Gateway.get
    cases g.find? token with
    | none => rfl
    | some h => exact congrArg g.put (same h)
  simp only [acted]
  exact plays_atTenant token a

theorem atTenant_twice (g : Gateway) (token : String) (a b : Hosted.Action) :
    (g.act (.atTenant token a)).act (.atTenant token b) = match g.find? token with
      | none => g
      | some h => g.put ((h.act a).act b) := by
  unfold Gateway.find?
  cases found : Keyed.find? Tenant.token token g.tenants with
  | none =>
      rw [Gateway.atTenant_missing found, Gateway.atTenant_missing found]
      rfl
  | some t =>
      have own : (Hosted.act ⟨t, g.host⟩ a).tenant.token = token :=
        (Hosted.act_token _ a).trans (Keyed.find?_some found).2
      have again := Hosted.act_token (Hosted.act ⟨t, g.host⟩ a) b
      rw [Gateway.atTenant_loaded found, Gateway.atTenant_loaded (Gateway.put_found g own)]
      exact congrArg (fun tenants => (⟨_, tenants, g.closing⟩ : Gateway))
        (Keyed.put_put again.symm g.tenants)

theorem plays_pair (token wid : String) : Plays fun g => (g.pair token wid).1 := by
  intro e running
  dsimp only
  unfold Gateway.pair
  dsimp only
  split
  · exact ⟨[], rfl⟩
  · split
    · exact ⟨[], rfl⟩
    · split
      · exact ⟨[], rfl⟩
      · let paired := (plays_ensureLoaded (Text.trim token)).next
          ((plays_atTenant (Text.trim token) (.pair (Text.trim wid))).next
            (plays_atTenant (Text.trim token) .start))
        obtain ⟨steps, done⟩ := paired e running
        refine ⟨steps, done.trans ((atTenant_twice _ _ _ _).trans ?_)⟩
        unfold Gateway.withTenant Gateway.get
        cases (e.gateway.ensureLoaded (Text.trim token)).find? (Text.trim token) <;> rfl

theorem plays_unload (token : String) : Plays fun g => match g.find? token with
    | some h => { g.remove token with host := h.logout.host }
    | none => g := by
  refine .of_step (fun _ => .unload token) fun e running => ?_
  have retired := running.atLoaded token .logout
  have registry := (running.kept.atLoaded token .logout).registry
  have erased : (e.unload token).gateway = (e.atLoaded token .logout).gateway.remove token :=
    congrArg (fun tenants => (⟨_, tenants, _⟩ : Gateway)) (registry.erase token)
  refine erased.trans ?_
  rw [retired]
  unfold Gateway.find?
  cases found : Keyed.find? Tenant.token token e.gateway.tenants with
  | none =>
      rw [Gateway.atTenant_missing found]
      exact congrArg (fun tenants => (⟨_, tenants, _⟩ : Gateway)) (Keyed.erase_of_absent found)
  | some t =>
      have own : (Hosted.act ⟨t, e.gateway.host⟩ .logout).tenant.token = token :=
        (Hosted.act_token _ .logout).trans (Keyed.find?_some found).2
      rw [Gateway.atTenant_loaded found]
      exact congrArg (fun tenants => (⟨_, tenants, _⟩ : Gateway)) (Keyed.erase_put own _)

theorem plays_delete (token : String) : Plays fun g => (g.delete token).1 :=
  (plays_unload token).next
    (plays_host (fun host => { host with repository := (host.repository.delete token).1 })
      (.erase token) fun _ => rfl)

theorem plays_send (token : String) (r : Outbound.Request) : Plays fun g => (g.send token r).1 := by
  intro e running
  dsimp only
  unfold Gateway.send Gateway.withTenant Gateway.get Gateway.find?
  cases found : Keyed.find? Tenant.token token e.gateway.tenants with
  | none => exact ⟨[], rfl⟩
  | some t =>
      dsimp only [Option.map_some]
      split
      · refine ⟨[], ?_⟩
        obtain rfl := (Keyed.find?_some found).2
        exact (congrArg (fun tenants => (⟨e.host, tenants, e.closing⟩ : Gateway))
          (Keyed.put_same found)).symm
      · next m _ =>
        obtain ⟨steps, done⟩ := (plays_host (·.now.2) .tick fun _ => rfl).next
          (plays_atTenant token (.send m)) e running
        refine ⟨steps, done.trans ((Gateway.atTenant_eq _ _ _).trans ?_)⟩
        dsimp only [Gateway.find?]
        rw [found]
        dsimp only [Option.map_some, Hosted.act, Gateway.put]

theorem plays_inject (token : String) (event : Session.Event) : Plays (·.inject token event) := by
  intro e running
  dsimp only
  unfold Gateway.inject
  cases last : e.gateway.host.exchange.latest? token with
  | none => exact ⟨[], rfl⟩
  | some l =>
      obtain ⟨id, _, found⟩ := Option.bind_eq_some_iff.mp last
      refine ⟨[.inject id event], ?_⟩
      change (e.inject id event).gateway = _
      unfold inject
      have found : e.host.exchange.link? id = some l := found
      rw [found]
      rfl

theorem plays_work (token id : String) (s : Hosted.WorkerStep) :
    Plays (·.perform (.work token id s)) := by
  intro e running
  dsimp only [Gateway.perform, Gateway.withTenant, Gateway.get, Gateway.find?]
  rcases running.found token with ⟨_, missing⟩ | ⟨n, t, own, made, token', found⟩
  · rw [missing]
    exact ⟨[], rfl⟩
  · rw [found]
    refine ⟨[.work n id s], ?_⟩
    change (e.work n id s).gateway = _
    simp only [Engine.work, made]
    exact running.set own ((Hosted.Spares.work _ id s).token.trans token') _

theorem shutdown_cancel_host (t : Tenant) (host : Host) :
    (Hosted.shutdown ⟨t.cancel, host⟩).host = (Hosted.shutdown ⟨t, host⟩).host := by
  simp only [Hosted.shutdown, Hosted.dropLink_eq, Tenant.cancel]

theorem shutdownEach_host {made : List Tenant} {loaded : List (String × Nat)}
    (registry : Registry made loaded) (e : Engine)
    (told : ∀ token n, (token, n) ∈ loaded → e.made[n]? = made[n]?.map Tenant.cancel) :
    (loaded.foldl (fun e l => e.act l.2 .shutdown) e).host =
      (tenants made loaded).foldl (fun host t => (Hosted.shutdown ⟨t, host⟩).host) e.host := by
  induction loaded generalizing e with
  | nil => rfl
  | cons l rest ih =>
      obtain ⟨token, n⟩ := l
      obtain ⟨t, found, _⟩ := registry.known token n List.mem_cons_self
      have here := told token n List.mem_cons_self
      rw [found, Option.map_some] at here
      have host : (e.act n .shutdown).host = (Hosted.shutdown ⟨t, e.host⟩).host := by
        rw [← shutdown_cancel_host]
        simp only [act, here]
        rfl
      rw [Registry.tenants_cons found, List.foldl_cons, List.foldl_cons, ← host]
      refine ih registry.tail _ fun token' n' later => ?_
      have elsewhere : n ≠ n' := by
        refine registry.other List.mem_cons_self (List.mem_cons_of_mem _ later) ?_
        rintro rfl
        exact (List.nodup_cons.mp registry.tokens).1 (List.mem_map.mpr ⟨_, later, rfl⟩)
      rw [← told token' n' (List.mem_cons_of_mem _ later)]
      simp only [act, here, List.getElem?_set_ne elsewhere]

theorem plays_shutdown : Plays Gateway.shutdown := by
  intro e running
  let acts := e.loaded.map fun l => Step.act l.2 .shutdown
  refine ⟨.close :: acts ++ [.push Push.Hub.closeAll], ?_⟩
  have host := shutdownEach_host running.kept.registry e.close fun _ _ _ => List.getElem?_map
  let ended := e.loaded.foldl (fun e l => e.act l.2 .shutdown) e.close
  have emptied : ended.loaded = [] ∧ ended.closing = true :=
    List.foldlRecOn (motive := fun e : Engine => e.loaded = [] ∧ e.closing = true) _ _ ⟨rfl, rfl⟩
      fun e emptied l _ => by rwa [act_loaded, act_closing]
  have done : acts.foldl step e.close = ended := List.foldl_map
  rw [run, List.cons_append, List.foldl_cons, List.foldl_append]
  change (step (acts.foldl step e.close) (.push Push.Hub.closeAll)).gateway = _
  rw [done]
  change (⟨{ ended.host with hub := ended.host.hub.closeAll }, tenants ended.made ended.loaded,
    ended.closing⟩ : Gateway) = _
  rw [emptied.1, emptied.2, host]
  rfl

theorem plays_forEach (a : Hosted.Action) : Plays (·.forEach (·.act a)) := by
  intro e running
  dsimp only
  rw [Gateway.forEach_eq]
  exact Plays.foldl (fun t => plays_atTenant t.token a) e.gateway.tenants e running

/-- Pumps that were told to stop leave one after the other. -/
theorem run_turns {ids : List LinkId} {e : Engine}
    (dead : ∀ id ∈ ids, ∃ p, Keyed.find? Pump.session id e.pumps = some p ∧ e.live p = false) :
    e.run (ids.map .turn) = ids.foldl hush e := by
  induction ids generalizing e with
  | nil => rfl
  | cons id rest ih =>
      obtain ⟨p, found, stopped⟩ := dead id List.mem_cons_self
      have left : e.turn id = e.hush id := by
        unfold turn
        rw [found]
        simp only [stopped]
        rfl
      have later := ih (e := e.hush id) fun id' member =>
        dead id' (List.mem_cons_of_mem _ member)
      rw [List.foldl_cons, ← later, ← left]
      rfl

theorem foldl_hush (ids : List LinkId) (e : Engine) :
    ids.foldl hush e = e.withExchange { e.host.exchange with
      links := e.host.exchange.links.map fun l => if l.id ∈ ids then l.stopListening else l } := by
  induction ids generalizing e with
  | nil => simp [withExchange]
  | cons id rest ih =>
      have both (l : Session.Link) : (if (l.hushAt id).id ∈ rest then (l.hushAt id).stopListening
          else l.hushAt id) = if l.id ∈ id :: rest then l.stopListening else l := by
        by_cases own : l.id = id
        · rw [Session.Link.hushAt_own own]
          simp [own, Session.Link.stopListening]
        · rw [Session.Link.hushAt_other own]
          simp [own]
      rw [List.foldl_cons, ih]
      simp only [hush, withExchange, Session.Exchange.hush_eq, List.map_map, Function.comp_def,
        both]

theorem Running.hears_iff {e : Engine} (running : e.Running) {p : Pump} (member : p ∈ e.pumps) :
    e.gateway.hears p.session = true ↔ e.live p = true := by
  obtain ⟨kept, last, sound⟩ := running
  rw [sound.live_iff member]
  simp only [Gateway.hears, gateway, tenants, List.any_eq_true, List.mem_filterMap, beq_iff_eq]
  constructor
  · rintro ⟨t, ⟨l, _, found⟩, hears⟩
    exact ⟨t, sound.hears_own member found hears ▸ found, hears⟩
  · rintro ⟨t, found, hears⟩
    have active : t.cancelled = false := by
      refine Bool.eq_false_iff.mpr fun told => ?_
      rw [Tenant.heard, if_pos told] at hears
      cases hears
    exact ⟨t, ⟨_, kept.dismissed _ t found active, found⟩, hears⟩

theorem Kept.pump {e : Engine} (kept : e.Kept) {l : Session.Link}
    (opened : l ∈ e.host.exchange.links) : ∃ p ∈ e.pumps, p.session = l.id := by
  have numbered : e.host.exchange.board.lines.map Prod.fst = List.range e.host.exchange.nextId :=
    kept.numbered
  have line : (l.id, l.connected) ∈ e.host.exchange.board.lines :=
    List.mem_map_of_mem (f := fun l : Session.Link => (l.id, l.connected)) opened
  have member : l.id ∈ e.pumps.map Pump.session := by
    rw [kept.piped, ← numbered]
    exact List.mem_map.mpr ⟨_, line, rfl⟩
  exact List.mem_map.mp member

theorem plays_drop : Plays fun g =>
    { g with host := { g.host with exchange := g.host.exchange.dropUnheard g.hears } } := by
  intro e running
  obtain ⟨last, sound⟩ := running.sound
  let gone := (e.pumps.filter fun p => !e.live p).map Pump.session
  have mem_gone (id : LinkId) : id ∈ gone ↔ ∃ p ∈ e.pumps, e.live p = false ∧ p.session = id := by
    simp [gone, and_assoc]
  refine ⟨gone.map .turn, ?_⟩
  rw [run_turns, foldl_hush]
  · have links : ∀ l ∈ e.host.exchange.links, (if l.id ∈ gone then l.stopListening else l) =
        if e.gateway.hears l.id then l else l.stopListening := by
      intro l opened
      obtain ⟨p, member, own⟩ := running.kept.pump opened
      have hears := running.hears_iff member
      rw [own] at hears
      cases live : e.live p with
      | true =>
          have stays : l.id ∉ gone := by
            rw [mem_gone]
            rintro ⟨q, there, stopped, same⟩
            cases sound.same member there (own.trans same.symm)
            cases live.symm.trans stopped
          rw [if_neg stays, if_pos (hears.mpr live)]
      | false =>
          have unheard : ¬e.gateway.hears l.id = true := by
            rw [hears, live]
            exact Bool.false_ne_true
          rw [if_pos ((mem_gone l.id).mpr ⟨p, member, live, own⟩), if_neg unheard]
    have dropped := List.map_congr_left links
    exact congrArg (fun links => ({ e.gateway with host := { e.host with
      exchange := { e.host.exchange with links := links } } } : Gateway)) dropped
  · intro id left
    obtain ⟨p, member, stopped, own⟩ := (mem_gone id).mp left
    exact ⟨p, (Keyed.find?_eq_some sound.apart).mpr ⟨member, own⟩, stopped⟩

theorem plays_settle (net : Network) : Plays (·.settle net) :=
  (plays_forEach .takeEvents).next (plays_drop.next (plays_forEach (.deliver net)))

/-- Whatever happens at a gateway happens in steps of its engine. -/
theorem plays_deed (d : Gateway.Deed) : Plays (·.perform d) := by
  cases d with
  | act a =>
      cases a with
      | loadAll => exact plays_loadAll
      | pair token wid => exact plays_pair token wid
      | delete token => exact plays_delete token
      | send token r => exact plays_send token r
      | addWebhook token w => exact plays_withTenant token (.addWebhook w) fun _ => rfl
      | removeWebhook token url => exact plays_withTenant token (.removeWebhook url) fun _ => rfl
      | toggleWebhook token url option =>
          exact plays_withTenant token (.toggleWebhook url option) fun _ => rfl
      | inject token event => exact plays_inject token event
      | settle net => exact plays_settle net
      | atTenant token a => exact plays_atTenant token a
      | shutdown => exact plays_shutdown
  | work token id s => exact plays_work token id s
  | push change =>
      exact plays_host (fun host => { host with hub := change host.hub }) (.push change)
        fun _ => rfl

theorem plays_after (deeds : List Gateway.Deed) : Plays (·.after deeds) :=
  Plays.foldl plays_deed deeds

/-- A gateway that is opened on sessions of its own goes on in steps of an engine. -/
theorem plays_deeds {host : Host} (unused : host.exchange = {}) (deeds : List Gateway.Deed) :
    ∃ steps, (run { host := host } steps).gateway = Gateway.after { host := host } deeds := by
  have running : Running { host := host } := ⟨.start unused, _, .start host⟩
  obtain ⟨steps, done⟩ := plays_after deeds _ running
  exact ⟨steps, done⟩

end Engine

end ChatGateway

import ChatGateway.Proofs.Gateway.Deeds
import ChatGateway.Proofs.Tenant.Courses
import ChatGateway.Proofs.Webhook.Lineage

/-!
Requests to toggle options of one webhook, all at once. Each takes the webhook as it is live and
advances an option of its copy, stores the copy, and gives its settings to the live webhook.
-/

namespace ChatGateway

open Store (Repository)

namespace Webhook

/-- Each option is advanced some number of times. -/
def advance (w : Webhook) (n : WebhookOption → Nat) : Webhook :=
  { w with
    groups := nextFilter^[n .groups] w.groups
    broadcasts := nextFilter^[n .broadcasts] w.broadcasts
    readReceipts := nextFilter^[n .readReceipts] w.readReceipts
    calls := nextFilter^[n .calls] w.calls
    forwardInternal := not^[n .forwardInternal] w.forwardInternal }

variable (w : Webhook) (n : WebhookOption → Nat) (option : WebhookOption)

theorem toggle_settings : (w.toggle option).1.settings = (w.settings.toggle option).1 := by
  cases option <;> rfl

theorem toggle_advance :
    ((w.advance n).toggle option).1 = w.advance (Function.update n option (n option + 1)) := by
  cases option <;> simp [toggle, advance, Function.iterate_succ_apply']

theorem applySettings_settings {v w : Webhook} (owner : v.token = w.token)
    (address : v.url = w.url) : (v.applySettings w).settings = w.settings := by
  simp [applySettings, settings, owner, address]

end Webhook

section

variable {ι : Type} (asked : ι → WebhookOption)

/-- How often some requests ask for each option. -/
def tally (requests : Finset ι) (option : WebhookOption) : Nat :=
  (requests.filter (asked · = option)).card

theorem tally_insert [DecidableEq ι] {requests : Finset ι} {i : ι} (new : i ∉ requests) :
    tally asked (insert i requests) =
      Function.update (tally asked requests) (asked i) (tally asked requests (asked i) + 1) := by
  funext option
  by_cases own : asked i = option
  · subst own
    simp [tally, Finset.filter_insert, new]
  · simp [tally, Finset.filter_insert, own, Ne.symm own]

theorem tally_univ [Fintype ι] {requests : Finset ι} :
    tally asked requests = tally asked Finset.univ ↔ requests = Finset.univ := by
  refine ⟨fun same => ?_, fun full => full ▸ rfl⟩
  ext i
  have among : requests.filter (asked · = asked i) ⊆ Finset.univ.filter (asked · = asked i) :=
    Finset.filter_subset_filter _ (Finset.subset_univ requests)
  have all := Finset.eq_of_subset_of_card_le among (congrFun same (asked i)).ge
  have member : i ∈ requests.filter (asked · = asked i) := by simp [all]
  simpa using member

/-- A tenant at its host, and requests to toggle options of one of its webhooks. -/
structure Toggling (ι : Type) where
  hosted : Hosted
  phase : ι → Phase Webhook := fun _ => .waiting

namespace Toggling

variable (url : String)

section

variable [DecidableEq ι]

/-- The next section of a request. A request that finds no webhook is over at once. -/
def turn (g : Toggling ι) (i : ι) : Toggling ι :=
  let h := g.hosted
  match g.phase i with
  | .waiting =>
    match h.tenant.webhook? url with
    | none => { g with phase := Function.update g.phase i .done }
    | some w => { g with phase := Function.update g.phase i (.read (w.toggle (asked i)).1) }
  | .read copy =>
    { hosted := { h with host := { h.host with repository := h.host.repository.putWebhook copy } }
      phase := Function.update g.phase i (.written copy) }
  | .written copy =>
    { hosted := { h with tenant := { h.tenant with
        webhooks := Keyed.modify Webhook.url url (·.applySettings copy) h.tenant.webhooks } }
      phase := Function.update g.phase i .done }
  | .done => g

def run (g : Toggling ι) (schedule : List ι) : Toggling ι := schedule.foldl (turn asked url) g

/-- A request that has its sections one after the other toggles an option. -/
theorem toggleWebhook_eq_run (h : Hosted) (i : ι) :
    (h.toggleWebhook url (asked i)).1 =
      (run asked url ⟨h, fun _ => .waiting⟩ [i, i, i]).hosted := by
  cases found : h.tenant.webhook? url <;>
    simp [Hosted.toggleWebhook, run, turn, found]

end

/-- The webhook, live and stored, and the copies have the toggles of their lineages. -/
structure Tracks (w : Webhook) (g : Toggling ι) (l : Lineage ι) : Prop where
  owner : w.token = g.hosted.tenant.token
  live : (g.hosted.tenant.webhook? url).map Webhook.settings =
    some (w.advance (tally asked l.live)).settings
  stored : (g.hosted.stored? url).map Webhook.settings =
    some (w.advance (tally asked l.stored)).settings
  phases : ∀ i, (g.phase i).map Webhook.settings =
    (l.phase i).map fun requests => (w.advance (tally asked requests)).settings

variable {asked url} {w : Webhook} {g : Toggling ι} {l : Lineage ι}

namespace Tracks

/-- A copy belongs to the tenant, under the address of the webhook. -/
theorem copy_own (tracks : Tracks asked url w g l) (address : w.url = url) {copy : Webhook}
    {requests : Finset ι} (worth : copy.settings = (w.advance (tally asked requests)).settings) :
    copy.token = g.hosted.tenant.token ∧ copy.url = url :=
  ⟨(congrArg Webhook.token worth).trans tracks.owner, (congrArg Webhook.url worth).trans address⟩

/-- Where the webhook was, there are the settings of the copy. -/
theorem settled (tracks : Tracks asked url w g l) (address : w.url = url) {v copy : Webhook}
    {before after : Finset ι} (was : v.settings = (w.advance (tally asked before)).settings)
    (worth : copy.settings = (w.advance (tally asked after)).settings) :
    (v.applySettings copy).settings = (w.advance (tally asked after)).settings := by
  have old := tracks.copy_own address was
  have new := tracks.copy_own address worth
  rw [Webhook.applySettings_settings (old.1.trans new.1.symm) (old.2.trans new.2.symm), worth]

theorem write (tracks : Tracks asked url w g l) (address : w.url = url) {copy : Webhook}
    {requests : Finset ι} (worth : copy.settings = (w.advance (tally asked requests)).settings) :
    (Hosted.stored? { g.hosted with host := { g.hosted.host with
        repository := g.hosted.host.repository.putWebhook copy } } url).map Webhook.settings =
      some (w.advance (tally asked requests)).settings := by
  obtain ⟨owner, here⟩ := tracks.copy_own address worth
  obtain ⟨v, found, was⟩ := Option.map_eq_some_iff.mp tracks.stored
  have settled := tracks.settled address was worth
  subst here
  simp only [Hosted.stored?] at found ⊢
  rw [Repository.putWebhook_own _ owner, Repository.find?_upsert_self, found]
  simp [settled]

theorem apply (tracks : Tracks asked url w g l) (address : w.url = url) {copy : Webhook}
    {requests : Finset ι} (worth : copy.settings = (w.advance (tally asked requests)).settings) :
    (Keyed.find? Webhook.url url (Keyed.modify Webhook.url url (·.applySettings copy)
        g.hosted.tenant.webhooks)).map Webhook.settings =
      some (w.advance (tally asked requests)).settings := by
  obtain ⟨v, found, was⟩ := Option.map_eq_some_iff.mp tracks.live
  rw [Tenant.webhook?] at found
  rw [Keyed.find?_modify_self fun v => v.applySettings_url copy, found]
  simp [tracks.settled address was worth]

theorem start {h : Hosted} (agreed : h.Agreed) (found : h.tenant.webhook? url = some w) :
    Tracks asked url w ⟨h, fun _ => .waiting⟩ {} := by
  have unasked : w.advance (tally asked ∅) = w := rfl
  have stored : (h.stored? url).map Webhook.settings = some w.settings := by
    rw [Hosted.stored?, ← agreed.attached.find?, found]
    rfl
  refine ⟨?_, ?_, ?_, fun _ => rfl⟩
  · exact agreed.attached.owners (agreed.store.owners h.tenant.token) w (Keyed.find?_some found).1
  · simp [found, unasked]
  · rw [stored]
    rfl

variable [DecidableEq ι]

theorem read (tracks : Tracks asked url w g l) {i : ι} (new : i ∉ l.live)
    {v : Webhook} (found : g.hosted.tenant.webhook? url = some v) :
    (v.toggle (asked i)).1.settings = (w.advance (tally asked (insert i l.live))).settings := by
  have live : v.settings = (w.advance (tally asked l.live)).settings := by
    simpa [found] using tracks.live
  calc
    _ = (v.settings.toggle (asked i)).1 := v.toggle_settings _
    _ = ((w.advance (tally asked l.live)).toggle (asked i)).1.settings := by
      rw [live, Webhook.toggle_settings]
    _ = _ := by rw [Webhook.toggle_advance, tally_insert asked new]

theorem phases_update (tracks : Tracks asked url w g l) (i : ι) {p : Phase Webhook}
    {q : Phase (Finset ι)} (same : p.map Webhook.settings =
      q.map fun requests => (w.advance (tally asked requests)).settings) (j : ι) :
    (Function.update g.phase i p j).map Webhook.settings =
      (Function.update l.phase i q j).map
        fun requests => (w.advance (tally asked requests)).settings := by
  by_cases own : j = i
  · subst own
    simpa using same
  · simpa [own] using tracks.phases j

theorem turn (tracks : Tracks asked url w g l) (address : w.url = url) (sound : l.Sound) (i : ι) :
    Tracks asked url w (g.turn asked url i) (l.turn i) := by
  have phase := tracks.phases i
  cases at_phase : g.phase i with
  | waiting =>
      cases at_phase' : l.phase i <;>
        simp only [at_phase, at_phase', Phase.map, reduceCtorEq] at phase
      obtain ⟨v, found, _⟩ := Option.map_eq_some_iff.mp tracks.live
      have new : i ∉ l.live := by
        intro member
        simp [sound.live i member] at at_phase'
      have copied := tracks.phases_update i (p := .read _) (q := .read _)
        (congrArg Phase.read (tracks.read new found))
      simp only [Toggling.turn, Lineage.turn, at_phase, at_phase', found]
      exact ⟨tracks.owner, tracks.live, tracks.stored, copied⟩
  | read copy =>
      cases at_phase' : l.phase i <;>
        simp only [at_phase, at_phase', Phase.map, reduceCtorEq, Phase.read.injEq] at phase
      next requests =>
      have written := tracks.phases_update i (p := .written copy) (q := .written requests)
        (congrArg Phase.written phase)
      simp only [Toggling.turn, Lineage.turn, at_phase, at_phase']
      exact ⟨tracks.owner, tracks.live, tracks.write address phase, written⟩
  | written copy =>
      cases at_phase' : l.phase i <;>
        simp only [at_phase, at_phase', Phase.map, reduceCtorEq, Phase.written.injEq] at phase
      next requests =>
      have ended := tracks.phases_update i (p := .done) (q := .done) rfl
      simp only [Toggling.turn, Lineage.turn, at_phase, at_phase']
      exact ⟨tracks.owner, tracks.apply address phase, tracks.stored, ended⟩
  | done =>
      cases at_phase' : l.phase i <;>
        simp only [at_phase, at_phase', Phase.map, reduceCtorEq] at phase
      simp only [Toggling.turn, Lineage.turn, at_phase, at_phase']
      exact tracks

theorem run (tracks : Tracks asked url w g {}) (address : w.url = url) (schedule : List ι) :
    Tracks asked url w (g.run asked url schedule) (Lineage.ofSchedule schedule) := by
  induction schedule using List.reverseRecOn with
  | nil => exact tracks
  | append_singleton before i ih =>
      rw [Lineage.ofSchedule_concat, Toggling.run, List.foldl_append]
      exact ih.turn address (Lineage.sound before) i

end Tracks

end Toggling

end

namespace Gateway

/-- However the sections of some requests are mixed, the live and the stored settings of a webhook
are those it had, with the toggles of their lineages. After all of them the two are the same and
have every toggle just if no request began while another was underway. -/
theorem toggles_add_up_iff_apart {g : Gateway} (opened : g.Opened) {deeds : List Deed}
    (orderly : ∀ d ∈ deeds, d.Orderly) {t : Tenant} (loaded : t ∈ (g.after deeds).tenants)
    {url : String} {w : Webhook} (found : t.webhook? url = some w) {n : Nat}
    (asked : Fin n → WebhookOption) {schedule : List (Fin n)}
    (complete : ∀ i, 3 ≤ schedule.count i) :
    let h := (Toggling.run asked url ⟨⟨t, (g.after deeds).host⟩, fun _ => .waiting⟩ schedule).hosted
    let lineage := Lineage.ofSchedule schedule
    ∃ live stored, h.tenant.webhook? url = some live ∧ h.stored? url = some stored ∧
      live.settings = (w.advance (tally asked lineage.live)).settings ∧
      stored.settings = (w.advance (tally asked lineage.stored)).settings ∧
      (live.settings = stored.settings ∧
          tally asked lineage.live = tally asked Finset.univ ↔ Apart schedule) := by
  intro h lineage
  have agreed := (opened.sound.after orderly).agreed loaded
  have start : Toggling.Tracks asked url w ⟨⟨t, (g.after deeds).host⟩, fun _ => .waiting⟩ {} :=
    .start agreed found
  have tracks := start.run (Keyed.find?_some found).2 schedule
  obtain ⟨live, here, hasLive⟩ := Option.map_eq_some_iff.mp tracks.live
  obtain ⟨stored, there, hasStored⟩ := Option.map_eq_some_iff.mp tracks.stored
  refine ⟨live, stored, here, there, hasLive, hasStored, ?_⟩
  rw [tally_univ, Lineage.full_iff_apart complete]
  refine ⟨And.right, fun apart => ⟨?_, apart⟩⟩
  rw [hasLive, hasStored, Lineage.stored_eq_live complete apart]

/-- Groups are toggled while a request to toggle calls is underway, and are as they were before. -/
theorem toggle_is_undone :
    let host : Host := { settings := {}, office := ⟨""⟩, hub := {}, clock := ⟨.epoch⟩ }
    let deeds : List Deed :=
      [.act (.pair "tok" "1@s.whatsapp.net"), .act (.addWebhook "tok" { url := "http://one" })]
    let asked : Fin 2 → WebhookOption := fun i => if i = 0 then .calls else .groups
    let schedule : List (Fin 2) := [0, 1, 1, 1, 0, 0]
    let g := after { host := host } deeds
    (∀ i, 3 ≤ schedule.count i) ∧
      ∃ t ∈ g.tenants, (t.webhook? "http://one").map (·.groups) = some none ∧
        ∃ live stored,
          (Toggling.run asked "http://one" ⟨⟨t, g.host⟩, fun _ => .waiting⟩
            schedule).hosted.tenant.webhook? "http://one" = some live ∧
          (Toggling.run asked "http://one" ⟨⟨t, g.host⟩, fun _ => .waiting⟩
            schedule).hosted.stored? "http://one" = some stored ∧
          live.calls = some true ∧ live.groups = none ∧ stored.groups = none ∧
          ¬Apart schedule := by
  intro host deeds asked schedule g
  have opened : Opened { host := host } := ⟨rfl, rfl, .empty⟩
  have orderly : ∀ d ∈ deeds, d.Orderly := by
    intro d member
    simp only [deeds, List.mem_cons, List.not_mem_nil, or_false] at member
    rcases member with rfl | rfl <;> trivial
  have complete : ∀ i, 3 ≤ schedule.count i := by decide
  have loaded : (Keyed.find? Tenant.token "tok" g.tenants).isSome = true := by decide +kernel
  obtain ⟨t, there⟩ := Option.isSome_iff_exists.mp loaded
  have known : ((Keyed.find? Tenant.token "tok" g.tenants).bind (·.webhook? "http://one")).map
      (fun w => (w.groups, w.calls)) = some (none, none) := by decide +kernel
  rw [there, Option.bind_some] at known
  obtain ⟨w, found, options⟩ := Option.map_eq_some_iff.mp known
  obtain ⟨groups, calls⟩ := Prod.mk.inj options
  have member := (Keyed.find?_some there).1
  obtain ⟨live, stored, here, kept, hasLive, hasStored, apart⟩ :=
    toggles_add_up_iff_apart opened orderly member found asked complete
  have once : tally asked (Lineage.ofSchedule schedule).live .calls = 1 := by decide +kernel
  have never : tally asked (Lineage.ofSchedule schedule).live .groups = 0 ∧
      tally asked (Lineage.ofSchedule schedule).stored .groups = 0 := by decide +kernel
  refine ⟨complete, t, member, by simp [found, groups], live, stored, here, kept, ?_, ?_, ?_, ?_⟩
  · have same : live.calls = nextFilter^[_] w.calls := congrArg Webhook.calls hasLive
    rw [same, once, calls]
    rfl
  · have same : live.groups = nextFilter^[_] w.groups := congrArg Webhook.groups hasLive
    rw [same, never.1, groups]
    rfl
  · have same : stored.groups = nextFilter^[_] w.groups := congrArg Webhook.groups hasStored
    rw [same, never.2, groups]
    rfl
  · intro serial
    have all := congrFun (apart.mpr serial).2 .groups
    rw [never.1] at all
    revert all
    decide +kernel

end Gateway

end ChatGateway

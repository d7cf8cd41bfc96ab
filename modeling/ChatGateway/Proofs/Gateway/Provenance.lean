import ChatGateway.Proofs.Gateway.Deeds
import ChatGateway.Proofs.Tenant.Courses
import Mathlib.Data.List.Induction

namespace ChatGateway.Gateway

open Webhook (Course Incident)

/-- Tenants are loaded by pairing and unloaded by deleting alone, and delivered to one step of a
worker at a time. -/
def Deed.Single : Deed → Prop
  | act .loadAll | act (.settle _) | act .shutdown => False
  | act (.atTenant _ a) => a.Calm
  | _ => True

theorem Deed.Single.orderly {d : Deed} (single : d.Single) : d.Orderly := by
  cases d with
  | act a =>
      cases a with
      | atTenant token a => exact Hosted.Action.Calm.orderly single
      | _ => trivial
  | _ => trivial

def webhook? (g : Gateway) (token url : String) : Option Webhook :=
  (Keyed.find? Tenant.token token g.tenants).bind (·.webhook? url)

def stored? (g : Gateway) (token url : String) : Option Webhook :=
  Keyed.find? Webhook.url url (g.host.repository.webhooksOf token)

/-- What a deed is to the webhook of a token and address, if it is anything. A request for a webhook
that is there already is nothing. -/
def incident? (g : Gateway) (token url : String) : Deed → Option Incident
  | .act (.addWebhook owner w) =>
    if owner = token ∧ g.has token = true ∧ Hosted.isWebAddress (Text.trim w.url) = true ∧
        Text.trim w.url = url ∧ (g.webhook? token url).isNone then some (.added w.times)
    else none
  | .act (.removeWebhook owner address) =>
    if owner = token ∧ address = url then some .removed else none
  | .act (.delete owner) => if owner = token then some .removed else none
  | .work owner id (.finish net) =>
    if owner = token ∧ id = Webhook.subscriberId url then
      ((g.find? token).bind (·.attempted? net url)).map .attempted
    else none
  | _ => none

/-- The course of the webhook of a token and address after some more deeds. -/
def courseFrom (g : Gateway) (token url : String) (c : Option Course) : List Deed → Option Course
  | [] => c
  | d :: rest =>
    (g.perform d).courseFrom token url ((g.incident? token url d).elim c (·.next c)) rest

/-- What became, in the end, of the webhook of a token and address. -/
def course (g : Gateway) (token url : String) (deeds : List Deed) : Option Course :=
  g.courseFrom token url none deeds

/-- The webhook has the times that its course tells, live and as stored; a tenant that is not loaded
has no webhooks. -/
structure Follows (g : Gateway) (token url : String) (c : Option Course) : Prop where
  live : (g.webhook? token url).map Webhook.times = c.map Course.times
  stored : (g.stored? token url).map Webhook.times = c.map Course.given
  unloaded : Keyed.find? Tenant.token token g.tenants = none →
    g.host.repository.webhooksOf token = []

namespace Follows

variable {g g' : Gateway} {token url : String} {c : Option Course}

theorem of_eq (follows : g.Follows token url c)
    (tenants : Keyed.find? Tenant.token token g'.tenants = Keyed.find? Tenant.token token g.tenants)
    (rows : g'.host.repository.webhooksOf token = g.host.repository.webhooksOf token) :
    g'.Follows token url c := by
  refine ⟨?_, ?_, ?_⟩
  · rw [webhook?, tenants]
    exact follows.live
  · rw [stored?, rows]
    exact follows.stored
  · rw [tenants, rows]
    exact follows.unloaded

theorem other (follows : g.Follows token url c) {owner : String} (different : token ≠ owner)
    (spares : g.Spares owner g') : g'.Follows token url c :=
  follows.of_eq (spares.tenants token different) (spares.host.webhooks token different)

theorem missing (follows : g.Follows token url c)
    (unloaded : Keyed.find? Tenant.token token g.tenants = none) : c = none := by
  have live := follows.live
  rw [webhook?, unloaded] at live
  exact Option.map_eq_none_iff.mp live.symm

theorem at_tenant (follows : g.Follows token url c) {t : Tenant}
    (found : Keyed.find? Tenant.token token g.tenants = some t) :
    Hosted.Follows ⟨t, g.host⟩ url c := by
  obtain rfl := (Keyed.find?_some found).2
  have live := follows.live
  rw [webhook?, found] at live
  exact ⟨live, follows.stored⟩

theorem put {h : Hosted} (own : h.tenant.token = token) (follows : h.Follows url c) (g : Gateway) :
    (g.put h).Follows token url c := by
  have found := g.put_found own
  refine ⟨?_, ?_, ?_⟩
  · rw [webhook?, found]
    exact follows.live
  · exact own ▸ follows.stored
  · intro unloaded
    cases found.symm.trans unloaded

theorem withTenant {α : Type} (follows : g.Follows token url c) {c' : Option Course}
    {act : Hosted → Hosted × Except Failure α}
    (step : ∀ t, Keyed.find? Tenant.token token g.tenants = some t →
      (act ⟨t, g.host⟩).1.tenant.token = token ∧ (act ⟨t, g.host⟩).1.Follows url c')
    (unloaded : Keyed.find? Tenant.token token g.tenants = none → c' = none) :
    (g.withTenant token act).1.Follows token url c' := by
  unfold Gateway.withTenant get find?
  cases found : Keyed.find? Tenant.token token g.tenants with
  | none =>
      rw [unloaded found, ← follows.missing found]
      exact follows
  | some t =>
      obtain ⟨own, follows'⟩ := step t found
      exact put own follows' g

theorem withTurns {α : Type} (follows : g.Follows token url c)
    {act : Hosted → Hosted × Except Failure α} (turns : ∀ h : Hosted, h.Turns (act h).1) :
    (g.withTenant token act).1.Follows token url c := by
  refine follows.withTenant (fun t found => ?_) follows.missing
  have untouched := (turns ⟨t, g.host⟩).untouched
  exact ⟨untouched.token.trans (Keyed.find?_some found).2,
    (follows.at_tenant found).of_untouched untouched⟩

theorem findOrCreate (follows : g.Follows token url c) (owner : String) :
    (g.findOrCreate owner).1.Follows token url c := by
  unfold Gateway.findOrCreate
  split
  · exact follows
  · apply follows.of_eq
    · rfl
    · simp only [Host.save_repository, Host.now_repository]
      rfl

/-- A tenant is loaded that was not: it has no webhooks. -/
theorem load (follows : g.Follows token url c) {p : Profile} (own : p.token = token)
    (unloaded : Keyed.find? Tenant.token token g.tenants = none) :
    (g.load p).Follows token url c := by
  have quiet : g.retire p.token = g := by
    rw [retire, find?, own, unloaded]
    rfl
  have live := follows.missing unloaded
  have stored := follows.stored
  rw [Gateway.load, quiet, own, follows.unloaded unloaded]
  refine put (h := ⟨Tenant.ofProfile g.host.settings p g.closing, g.host⟩) own ⟨?_, ?_⟩ g
  · rw [live]
    rfl
  · have same : (Tenant.ofProfile g.host.settings p g.closing).token = token := own
    rw [Hosted.stored?, same]
    exact stored

theorem ensureLoaded (sound : g.Sound) (follows : g.Follows token url c) :
    (g.ensureLoaded token).Follows token url c := by
  unfold Gateway.ensureLoaded
  split
  · exact follows
  · next missing =>
    have unloaded : Keyed.find? Tenant.token token g.tenants = none := by
      rwa [Bool.not_eq_true, has, Keyed.has_eq_false] at missing
    have tenants : (g.findOrCreate token).1.tenants = g.tenants := by
      unfold Gateway.findOrCreate
      split <;> rfl
    apply (follows.findOrCreate token).load (sound.findOrCreate token).2
    rw [tenants]
    exact unloaded

theorem pair (sound : g.Sound) (follows : g.Follows (Text.trim token) url c) (wid : String) :
    (g.pair token wid).1.Follows (Text.trim token) url c := by
  unfold Gateway.pair
  dsimp only
  split
  · exact follows
  · split
    · exact follows
    · split
      · exact follows
      · exact (follows.ensureLoaded sound).withTurns fun h => (h.pair_turns _).tail .start

theorem delete (g : Gateway) (token url : String) :
    (g.delete token).1.Follows token url none := by
  have rows : (g.delete token).1.host.repository.webhooksOf token = [] := by
    unfold Gateway.delete
    exact Store.Repository.delete_self _ token
  have unloaded : Keyed.find? Tenant.token token (g.delete token).1.tenants = none := by
    unfold Gateway.delete find?
    cases found : Keyed.find? Tenant.token token g.tenants with
    | none => exact found
    | some t => exact Keyed.find?_erase_self token g.tenants
  refine ⟨?_, ?_, fun _ => rows⟩
  · rw [webhook?, unloaded]
    rfl
  · rw [stored?, rows]
    rfl

theorem incident?_other {d : Deed} (other : d.addressee ≠ some token) :
    g.incident? token url d = none := by
  have apart : ∀ {owner : String}, d.addressee = some owner → owner ≠ token := by
    rintro owner addressed rfl
    exact other addressed
  cases d with
  | act a =>
      cases a with
      | addWebhook owner w => exact if_neg fun test => apart rfl test.1
      | removeWebhook owner address => exact if_neg fun test => apart rfl test.1
      | delete owner => exact if_neg (apart rfl)
      | _ => rfl
  | work owner id s =>
      cases s with
      | finish net => exact if_neg fun test => apart rfl test.1
      | _ => rfl
  | push change => rfl

theorem addWebhook (follows : g.Follows token url c) (w : Webhook) :
    (g.perform (.act (.addWebhook token w))).Follows token url
      ((g.incident? token url (.act (.addWebhook token w))).elim c (·.next c)) := by
  refine follows.withTenant ?_ ?_
  · intro t found
    have token := (Keyed.find?_some found).2
    refine ⟨(Hosted.Spares.addWebhook ⟨t, g.host⟩ w).token.trans token, ?_⟩
    have before := follows.at_tenant found
    have present : g.has t.token = true := Keyed.has_of_find? (token ▸ found)
    have here : g.webhook? t.token url = t.webhook? url := by
      rw [webhook?, token, found]
      rfl
    have after := before.addWebhook w
    rw [← token]
    rw [incident?, present, here]
    by_cases asked : Hosted.isWebAddress (Text.trim w.url) = true ∧ Text.trim w.url = url
    · rw [if_pos asked] at after
      cases c with
      | none =>
          have missing : t.webhook? url = none := before.live_none.mpr rfl
          rw [if_pos ⟨rfl, rfl, asked.1, asked.2, Option.isNone_iff_eq_none.mpr missing⟩]
          exact after
      | some c =>
          rw [if_neg]
          · exact after
          · rintro ⟨_, _, _, _, missing⟩
            cases before.live_none.mp (Option.isNone_iff_eq_none.mp missing)
    · rw [if_neg asked] at after
      rw [if_neg]
      · exact after
      · exact fun test => asked ⟨test.2.2.1, test.2.2.2.1⟩
  · intro unloaded
    have absent : g.has token = false := Keyed.has_eq_false.mpr unloaded
    simpa [incident?, absent] using follows.missing unloaded

theorem removeWebhook (follows : g.Follows token url c) (address : String) :
    (g.perform (.act (.removeWebhook token address))).Follows token url
      ((g.incident? token url (.act (.removeWebhook token address))).elim c (·.next c)) := by
  refine follows.withTenant ?_ ?_
  · intro t found
    refine ⟨(Hosted.Spares.removeWebhook ⟨t, g.host⟩ address).token.trans
      (Keyed.find?_some found).2, ?_⟩
    have after := (follows.at_tenant found).removeWebhook address
    by_cases here : address = url
    · rw [if_pos here] at after
      rw [incident?, if_pos ⟨rfl, here⟩]
      exact after
    · rw [if_neg here] at after
      rw [incident?, if_neg fun test => here test.2]
      exact after
  · intro unloaded
    rw [follows.missing unloaded]
    by_cases here : address = url <;> simp [incident?, here, Incident.next]

theorem work (follows : g.Follows token url c) (id : String) (s : Hosted.WorkerStep) :
    (g.perform (.work token id s)).Follows token url
      ((g.incident? token url (.work token id s)).elim c (·.next c)) := by
  refine follows.withTenant ?_ ?_
  · intro t found
    refine ⟨(Hosted.Spares.work ⟨t, g.host⟩ id s).token.trans (Keyed.find?_some found).2, ?_⟩
    have before := follows.at_tenant found
    cases s with
    | take => exact before.of_untouched ⟨rfl, rfl, rfl, Delivery.Fanout.modify_ids _ _ _⟩
    | halt => exact before.of_untouched ⟨rfl, rfl, rfl, Delivery.Fanout.modify_ids _ _ _⟩
    | finish net =>
        have after := before.finish net id
        by_cases here : id = Webhook.subscriberId url
        · rw [if_pos here] at after
          rw [incident?, if_pos ⟨rfl, here⟩, find?_some found, Option.bind_some]
          cases tried : Hosted.attempted? ⟨t, g.host⟩ net url with
          | none => simpa [tried] using after
          | some a => simpa [tried, Incident.next] using after
        · rw [if_neg here] at after
          rw [incident?, if_neg fun test => here test.2]
          exact after
  · intro unloaded
    rw [follows.missing unloaded]
    cases s with
    | finish net => simp [incident?, find?, unloaded]
    | _ => rfl

theorem perform_own (sound : g.Sound) (follows : g.Follows token url c) {d : Deed}
    (single : d.Single) (addressed : d.addressee = some token) :
    (g.perform d).Follows token url ((g.incident? token url d).elim c (·.next c)) := by
  cases d with
  | act a =>
      cases a with
      | pair owner wid =>
          cases addressed
          exact follows.pair sound wid
      | delete owner =>
          cases addressed
          rw [incident?, if_pos rfl]
          exact delete g token url
      | send owner r =>
          cases addressed
          exact follows.withTurns fun h => h.request_turns r
      | inject owner e =>
          apply follows.of_eq <;> simp only [Gateway.perform, act, Gateway.inject] <;> split <;> rfl
      | addWebhook owner w =>
          cases addressed
          exact follows.addWebhook w
      | removeWebhook owner address =>
          cases addressed
          exact follows.removeWebhook address
      | toggleWebhook owner address option =>
          cases addressed
          refine follows.withTenant (fun t found => ?_) follows.missing
          obtain ⟨loaded, own⟩ := Keyed.find?_some found
          have agreed := sound.agreed loaded
          have owners := agreed.attached.owners (agreed.store.owners t.token)
          exact ⟨(Hosted.Spares.toggleWebhook owners address option).token.trans own,
            (follows.at_tenant found).toggleWebhook owners address option⟩
      | atTenant owner a =>
          cases addressed
          exact follows.withTurns fun h => h.act_turns single
      | _ => cases addressed
  | work owner id s =>
      cases addressed
      exact follows.work id s
  | push change => cases addressed

/-- A deed changes the course of a webhook as it says, and the times with the course. -/
theorem perform (sound : g.Sound) (follows : g.Follows token url c) {d : Deed}
    (single : d.Single) :
    (g.perform d).Follows token url ((g.incident? token url d).elim c (·.next c)) := by
  by_cases own : d.addressee = some token
  · exact follows.perform_own sound single own
  · rw [incident?_other own]
    cases addressed : d.addressee with
    | some owner =>
        have different : token ≠ owner := by
          rintro rfl
          exact own addressed
        exact follows.other different (sound.perform_steady single.orderly addressed).spares
    | none =>
        cases d with
        | act a =>
            cases a with
            | loadAll => cases single
            | settle net => cases single
            | shutdown => cases single
            | _ => cases addressed
        | work owner id s => cases addressed
        | push change => exact follows.of_eq rfl rfl

theorem after (sound : g.Sound) (follows : g.Follows token url c) {deeds : List Deed}
    (single : ∀ d ∈ deeds, d.Single) :
    (g.after deeds).Follows token url (g.courseFrom token url c deeds) := by
  induction deeds generalizing g c with
  | nil => exact follows
  | cons d rest ih =>
      have first := single d List.mem_cons_self
      exact ih (sound.perform first.orderly) (follows.perform sound first) fun e later =>
        single e (List.mem_cons_of_mem d later)

end Follows

variable {g : Gateway} {token url : String}

theorem Opened.follows (opened : g.Opened)
    (empty : ∀ token, g.host.repository.webhooksOf token = []) (token url : String) :
    g.Follows token url none := by
  refine ⟨?_, ?_, fun _ => empty token⟩
  · rw [webhook?, opened.tenants]
    rfl
  · rw [stored?, empty]
    rfl

theorem courseFrom_append (c : Option Course) (first second : List Deed) :
    g.courseFrom token url c (first ++ second) =
      (g.after first).courseFrom token url (g.courseFrom token url c first) second := by
  induction first generalizing g c with
  | nil => rfl
  | cons d rest ih => exact ih _

theorem course_concat (before : List Deed) (d : Deed) :
    g.course token url (before ++ [d]) =
      ((g.after before).incident? token url d).elim (g.course token url before)
        (·.next (g.course token url before)) :=
  courseFrom_append none before [d]

/-- The webhook of a token and address, live and as stored, has no times but those of attempts. -/
def Owns (g : Gateway) (token url : String) (c : Option Course) : Prop :=
  ∀ w, g.webhook? token url = some w ∨ g.stored? token url = some w →
    ∃ course, c = some course ∧ course.Owns w

theorem Follows.owns {c : Option Course} (follows : g.Follows token url c)
    (bare : ∀ course, c = some course → course.given = (none, none)) : g.Owns token url c := by
  rintro w (live | stored)
  · have told := follows.live
    rw [live] at told
    obtain ⟨course, known, same⟩ := Option.map_eq_some_iff.mp told.symm
    exact ⟨course, known, Course.owns_of_times (bare course known) same.symm⟩
  · have told := follows.stored
    rw [stored] at told
    obtain ⟨course, known, same⟩ := Option.map_eq_some_iff.mp told.symm
    exact ⟨course, known, Course.owns_of_bare (same.symm.trans (bare course known))⟩

/-- A webhook that was just added has the times of its request. -/
theorem Follows.given_bare {given : Option Instant × Option Instant}
    (follows : g.Follows token url (some ⟨given, []⟩))
    (owns : g.Owns token url (some ⟨given, []⟩)) : given = (none, none) := by
  obtain ⟨w, live, told⟩ := Option.map_eq_some_iff.mp follows.live
  rw [Course.times_untried] at told
  obtain ⟨course, known, owned⟩ := owns w (Or.inl live)
  obtain rfl := Option.some.inj known
  rw [← told]
  exact owned.untried

/-- However a gateway that began without webhooks is used, the live times of each webhook are those
of the attempts to post to it since it was added and, where these say nothing, of the request that
added it; the stored times are those of the request. So all of them are the gateway's own, exactly
as long as no request adds a webhook with times. -/
theorem webhook_times_have_causes (opened : g.Opened)
    (empty : ∀ token, g.host.repository.webhooksOf token = []) {deeds : List Deed}
    (single : ∀ d ∈ deeds, d.Single) (token url : String) :
    (∀ before, before <+: deeds →
      ((g.after before).webhook? token url).map Webhook.times =
          (g.course token url before).map Course.times ∧
        ((g.after before).stored? token url).map Webhook.times =
          (g.course token url before).map Course.given) ∧
    ((∀ before, before <+: deeds → (g.after before).Owns token url (g.course token url before)) ↔
      ∀ before d given, before ++ [d] <+: deeds →
        (g.after before).incident? token url d = some (.added given) → given = (none, none)) := by
  have follows : ∀ before, before <+: deeds →
      (g.after before).Follows token url (g.course token url before) := fun before part =>
    (opened.follows empty token url).after opened.sound fun d member =>
      single d (part.subset member)
  refine ⟨fun before part => ⟨(follows before part).live, (follows before part).stored⟩, ?_, ?_⟩
  · intro owns before d given part added
    have course : g.course token url (before ++ [d]) = _ := course_concat before d
    rw [added] at course
    have after := follows _ part
    have owned := owns _ part
    rw [course] at after owned
    exact after.given_bare owned
  · intro bare before part
    apply (follows before part).owns
    induction before using List.reverseRecOn with
    | nil =>
        intro course none
        cases none
    | append_singleton before d ih =>
        have start := ih ((List.prefix_append before [d]).trans part)
        intro course known
        rw [course_concat] at known
        cases incident : (g.after before).incident? token url d with
        | none =>
            rw [incident] at known
            exact start course known
        | some i =>
            rw [incident] at known
            rcases Incident.next_given known with rfl | ⟨c, before, same⟩
            · exact bare _ d _ part incident
            · exact same.trans (start c before)

/-- A webhook is added with times of its own; then an attempt to post to it fails. -/
theorem outage_before_any_attempt :
    let host : Host := { settings := {}, office := ⟨""⟩, hub := {}, clock := ⟨.epoch⟩ }
    let m : Message :=
      { id := "m", timestamp := .epoch, kind := .text, chat := ⟨"1@s.whatsapp.net", ""⟩
        text := "hello" }
    let long : Instant := ⟨-3600, 0⟩
    let deeds : List Deed :=
      [.act (.pair "tok" "1@s.whatsapp.net"),
        .act (.addWebhook "tok"
          { url := "http://one", failure := some long, success := some long }),
        .act (.atTenant "tok" (.ingest m)), .work "tok" "webhook:http://one" .take,
        .work "tok" "webhook:http://one" (.finish Network.down)]
    let g := after { host := host } deeds
    let c := course { host := host } "tok" "http://one" deeds
    c = some ⟨(some long, some long), [⟨⟨0, 4000⟩, false⟩]⟩ ∧
      (g.webhook? "tok" "http://one").map Webhook.times = some (some long, some long) ∧
      c.map Course.outage = some (some ⟨0, 4000⟩) ∧
      ¬∀ before, before <+: deeds → (after { host := host } before).Owns "tok" "http://one"
        (course { host := host } "tok" "http://one" before) := by
  intro host m long deeds g c
  have opened : Opened { host := host } := ⟨rfl, rfl, .empty⟩
  have single : ∀ d ∈ deeds, d.Single := by
    intro d member
    simp only [deeds, List.mem_cons, List.not_mem_nil, or_false] at member
    rcases member with rfl | rfl | rfl | rfl | rfl <;> trivial
  obtain ⟨told, owned⟩ := webhook_times_have_causes opened (fun _ => rfl) single "tok" "http://one"
  have known : c = some ⟨(some long, some long), [⟨⟨0, 4000⟩, false⟩]⟩ := by decide +kernel
  refine ⟨known, ?_, ?_, fun always => ?_⟩
  · exact ((told deeds (List.prefix_refl deeds)).1.trans (congrArg _ known)).trans (by decide)
  · exact (congrArg _ known).trans (by decide)
  · have bare := owned.mp always (deeds.take 1) _ (some long, some long)
      (List.take_prefix 2 deeds) (by decide +kernel)
    cases bare

end ChatGateway.Gateway

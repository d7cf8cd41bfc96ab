import ChatGateway.Proofs.Tenant.Attached

/-!
Where the times of a webhook come from. A webhook begins with the times of the request that added
it; from then on the live times follow the attempts to post to it, and the stored ones stay.
-/

namespace ChatGateway

namespace Webhook

/-- When the current outage began, and when a record was last posted. -/
def times (w : Webhook) : Option Instant × Option Instant := (w.failure, w.success)

structure Attempt where
  time : Instant
  arrived : Bool
  deriving DecidableEq

/-- What became of a webhook since it was added: the times that came with it, and the attempts to
post to it, the latest in front. -/
structure Course where
  given : Option Instant × Option Instant
  attempts : List Attempt := []
  deriving DecidableEq

namespace Course

def arrival (c : Course) : Option Instant := (c.attempts.find? (·.arrived)).map (·.time)

/-- The first failure since the latest arrival. -/
def outage (c : Course) : Option Instant :=
  (c.attempts.takeWhile (!·.arrived)).getLast?.map (·.time)

/-- The attempts go before what was given. -/
def times (c : Course) : Option Instant × Option Instant :=
  (if c.arrival.isSome then c.outage else c.given.1.or c.outage, c.arrival.or c.given.2)

/-- The times of the webhook are those of attempts. -/
structure Owns (c : Course) (w : Webhook) : Prop where
  failure : ∀ t, w.failure = some t → c.outage = some t
  success : ∀ t, w.success = some t → c.arrival = some t

def note (c : Course) (a : Attempt) : Course := { c with attempts := a :: c.attempts }

theorem times_untried (given : Option Instant × Option Instant) :
    times ⟨given, []⟩ = given := by
  simp [times, arrival, outage]

variable (c : Course) (t : Instant)

theorem arrival_note (a : Attempt) :
    (c.note a).arrival = if a.arrived then some a.time else c.arrival := by
  cases arrived : a.arrived <;> simp [arrival, note, arrived]

theorem outage_note (a : Attempt) :
    (c.note a).outage = if a.arrived then none else some (c.outage.getD a.time) := by
  cases arrived : a.arrived with
  | true => simp [outage, note, arrived]
  | false =>
      simp only [outage, note, List.takeWhile_cons, arrived, Bool.not_false, if_true,
        List.getLast?_cons, Option.map_some, Bool.false_eq_true, if_false]
      cases (c.attempts.takeWhile (!·.arrived)).getLast? <;> rfl

theorem times_arrived : (c.note ⟨t, true⟩).times = (none, some t) := by
  simp [times, arrival_note, outage_note]

theorem times_failed :
    (c.note ⟨t, false⟩).times = (some (c.times.1.getD t), c.times.2) := by
  have given : (c.note ⟨t, false⟩).given = c.given := rfl
  simp only [times, arrival_note, outage_note, given, Bool.false_eq_true, if_false]
  congr 1
  split
  · rfl
  · cases c.given.1 <;> rfl

theorem owns_of_times {c : Course} {w : Webhook} (bare : c.given = (none, none))
    (same : w.times = c.times) : c.Owns w := by
  have failure : w.failure = c.times.1 := congrArg Prod.fst same
  have success : w.success = c.times.2 := congrArg Prod.snd same
  constructor
  · intro t known
    rw [failure, times, bare] at known
    simpa using known
  · intro t known
    rw [success, times, bare] at known
    simpa using known

theorem owns_of_bare {c : Course} {w : Webhook} (bare : w.times = (none, none)) : c.Owns w := by
  have failure : w.failure = none := congrArg Prod.fst bare
  have success : w.success = none := congrArg Prod.snd bare
  constructor
  · intro t known
    cases failure.symm.trans known
  · intro t known
    cases success.symm.trans known

theorem Owns.untried {given : Option Instant × Option Instant} {w : Webhook}
    (owns : Owns ⟨given, []⟩ w) : w.times = (none, none) := by
  have failure : w.failure = none := by
    cases set : w.failure with
    | none => rfl
    | some t => cases owns.failure t set
  have success : w.success = none := by
    cases set : w.success with
    | none => rfl
    | some t => cases owns.success t set
  exact Prod.ext failure success

end Course

/-- Something that happens to a webhook of an address. -/
inductive Incident where
  | added (given : Option Instant × Option Instant)
  | removed
  | attempted (a : Attempt)
  deriving DecidableEq

def Incident.next : Incident → Option Course → Option Course
  | added given, _ => some ⟨given, []⟩
  | removed, _ => none
  | attempted a, c => c.map (·.note a)

theorem Incident.next_given {i : Incident} {c : Option Course} {course : Course}
    (next : i.next c = some course) :
    i = added course.given ∨ ∃ c', c = some c' ∧ course.given = c'.given := by
  cases i with
  | added given =>
      cases next
      exact Or.inl rfl
  | removed => cases next
  | attempted a =>
      obtain ⟨c', before, rfl⟩ := Option.map_eq_some_iff.mp next
      exact Or.inr ⟨c', before, rfl⟩

/-- The attempt that a delivery makes, unless the record is kept back. It is answered by 200 or it
has failed. -/
def attempt? (w : Webhook) (office : PostOffice) (net : Network) (wid : Option String)
    (m : Message) (clock : Clock) : Option Attempt :=
  if (w.skipReason? m).isSome then none
  else some ⟨clock.read.1,
    net ⟨w.url, wid.getD "", office.userAgent, w.body m⟩ == .status 200⟩

theorem fault?_eq_none {reply : PostReply} : reply.fault? = none ↔ reply = .status 200 := by
  cases reply <;> simp [PostReply.fault?]

theorem deliver_times {w : Webhook} {c : Course} (same : w.times = c.times) (office : PostOffice)
    (net : Network) (wid : Option String) (m : Message) (clock : Clock) :
    (w.deliver office net wid m clock).2.1.times =
      ((w.attempt? office net wid m clock).elim c c.note).times := by
  have failure : w.failure = c.times.1 := congrArg Prod.fst same
  have success : w.success = c.times.2 := congrArg Prod.snd same
  unfold deliver attempt?
  cases skipped : w.skipReason? m with
  | some reason => exact same
  | none =>
      dsimp only
      generalize net ⟨w.url, wid.getD "", office.userAgent, w.body m⟩ = reply
      cases fault : reply.fault? with
      | none =>
          rw [fault?_eq_none.mp fault]
          exact (c.times_arrived _).symm
      | some _ =>
          have lost : (reply == .status 200) = false := by
            rw [beq_eq_false_iff_ne]
            intro arrived
            cases (fault?_eq_none.mpr arrived).symm.trans fault
          rw [lost]
          refine Eq.trans ?_ (c.times_failed _).symm
          simp only [times, failedAt, failure, success]

theorem applySettings_times (v w : Webhook) : (v.applySettings w).times = v.times := rfl

/-- A delivery changes the webhook of the subscriber, and no other. -/
theorem deliverTo_find? {office : PostOffice} {net : Network} {wid : Option String} {id : String}
    {m : Message} {before after : List Webhook × Clock} {outcome : Delivery.Outcome}
    (done : deliverTo office net wid id m before = some (outcome, after)) (url : String) :
    Keyed.find? Webhook.url url after.1 =
      if id = subscriberId url then
        (Keyed.find? Webhook.url url before.1).map (·.deliver office net wid m before.2 |>.2.1)
      else Keyed.find? Webhook.url url before.1 := by
  obtain ⟨webhooks, clock⟩ := before
  unfold deliverTo at done
  dsimp only at done ⊢
  split at done
  · next missing =>
    cases done
    split
    · next own =>
      rw [own, find?_subscriber] at missing
      rw [missing, Option.map_none]
    · rfl
  · next w found =>
    cases done
    have here : subscriberId w.url = id := by simpa using List.find?_some found
    have address := w.deliver_url office net wid m clock
    split
    · next own =>
      rw [own, find?_subscriber] at found
      have same : (w.deliver office net wid m clock).2.1.url = url :=
        address.trans (subscriberId_inj.mp (here.trans own))
      rw [found, Option.map_some]
      exact same ▸ Keyed.find?_put_self _ webhooks
    · next other =>
      apply Keyed.find?_put_ne
      rw [address]
      rintro rfl
      exact other here.symm

end Webhook

namespace Store.Repository

theorem find?_upsert_self (w : Webhook) (ws : List Webhook) :
    Keyed.find? Webhook.url w.url (upsert w ws) =
      some ((Keyed.find? Webhook.url w.url ws).elim w (·.applySettings w)) := by
  induction ws with
  | nil => simp [upsert, Keyed.find?]
  | cons v rest ih =>
      by_cases here : v.url = w.url
      · simp [upsert, Keyed.find?, here, Webhook.applySettings]
      · simpa [upsert, Keyed.find?, here] using ih

theorem find?_upsert_ne {url : String} {w : Webhook} (different : url ≠ w.url)
    (ws : List Webhook) :
    Keyed.find? Webhook.url url (upsert w ws) = Keyed.find? Webhook.url url ws := by
  induction ws with
  | nil => simp [upsert, Keyed.find?, different.symm]
  | cons v rest ih =>
      by_cases here : v.url = w.url
      · simp [upsert, Keyed.find?, here, Webhook.applySettings, different.symm]
      · by_cases own : v.url = url
        · simp [upsert, Keyed.find?, own, different]
        · simpa [upsert, Keyed.find?, here, own] using ih

end Store.Repository

namespace Hosted

open Store (Repository)
open Webhook (Attempt Course Incident)

def stored? (h : Hosted) (url : String) : Option Webhook :=
  Keyed.find? Webhook.url url (h.host.repository.webhooksOf h.tenant.token)

theorem removeWebhook_webhooks (h : Hosted) (address : String) :
    (h.removeWebhook address).1.tenant.webhooks =
      Keyed.erase Webhook.url address h.tenant.webhooks := by
  unfold removeWebhook
  dsimp only
  split
  · rfl
  · next missing =>
    rw [Bool.not_eq_true, Keyed.has_eq_false] at missing
    exact (Keyed.erase_of_absent missing).symm

theorem removeWebhook_stored? (h : Hosted) (address url : String) :
    (h.removeWebhook address).1.stored? url = Keyed.find? Webhook.url url
      (Keyed.erase Webhook.url address (h.host.repository.webhooksOf h.tenant.token)) := by
  have own : (h.removeWebhook address).1.tenant.token = h.tenant.token := by
    unfold removeWebhook
    dsimp only
    split <;> rfl
  rw [stored?, own, removeWebhook_rows]

/-- The record that a subscriber has in delivery and was not told to leave. -/
def underway? (h : Hosted) (id : String) : Option Message :=
  (h.tenant.fanout.queue? id).bind fun q => if q.cancelled then none else q.inFlight

/-- The attempt that ends the delivery of a webhook, if there is one. -/
def attempted? (h : Hosted) (net : Network) (url : String) : Option Attempt :=
  (h.underway? (Webhook.subscriberId url)).bind fun m => (h.tenant.webhook? url).bind fun w =>
    w.attempt? h.host.office net h.tenant.wid m h.host.clock

/-- The webhook of an address, live and as stored, has the times that its course tells. -/
structure Follows (h : Hosted) (url : String) (c : Option Course) : Prop where
  live : (h.tenant.webhook? url).map Webhook.times = c.map Course.times
  stored : (h.stored? url).map Webhook.times = c.map Course.given

namespace Follows

variable {h h' : Hosted} {url : String} {c : Option Course}

theorem of_untouched (follows : h.Follows url c) (untouched : Untouched h h') :
    h'.Follows url c := by
  constructor
  · rw [Tenant.webhook?, untouched.webhooks]
    exact follows.live
  · rw [stored?, Repository.webhooksOf, untouched.stored, untouched.token]
    exact follows.stored

theorem live_none (follows : h.Follows url c) : h.tenant.webhook? url = none ↔ c = none := by
  rw [← Option.map_eq_none_iff, follows.live, Option.map_eq_none_iff]

/-- Attaching a webhook does what storing it does, seen by address. -/
theorem attach_webhook? (h : Hosted) (w : Webhook) (url : String) :
    (h.attach w).tenant.webhook? url =
      Keyed.find? Webhook.url url (Repository.upsert w h.tenant.webhooks) := by
  have address : ∀ v : Webhook, (v.applySettings w).url = v.url := fun v => v.applySettings_url w
  unfold attach Tenant.webhook?
  dsimp only
  by_cases here : url = w.url
  · rw [here, Repository.find?_upsert_self]
    split
    · next present =>
      rw [Keyed.has_eq_isSome, Option.isSome_iff_exists] at present
      obtain ⟨v, found⟩ := present
      rw [Keyed.find?_modify_self address, found]
      rfl
    · next missing =>
      rw [Bool.not_eq_true, Keyed.has_eq_false] at missing
      simp [Keyed.find?_concat, missing]
  · rw [Repository.find?_upsert_ne here]
    split
    · exact Keyed.find?_modify_ne address _ here
    · simp [Keyed.find?_concat, Ne.symm here]

theorem storeAndAttach_stored? {w : Webhook} (own : w.token = h.tenant.token) (url : String) :
    (Hosted.attach { h with host := { h.host with
      repository := h.host.repository.putWebhook w } } w).stored? url =
      Keyed.find? Webhook.url url
        (Repository.upsert w (h.host.repository.webhooksOf h.tenant.token)) := by
  rw [stored?, attach_host, Tenant.token, attach_profile, ← h.host.repository.putWebhook_own own]
  rfl

/-- The course of an address after a webhook is added, there or elsewhere. -/
theorem upsert_times {ws : List Webhook} {f : Course → Option Instant × Option Instant}
    (same : (Keyed.find? Webhook.url url ws).map Webhook.times = c.map f) (w : Webhook)
    (start : f ⟨w.times, []⟩ = w.times) :
    (Keyed.find? Webhook.url url (Repository.upsert w ws)).map Webhook.times =
      (if w.url = url then some (c.getD ⟨w.times, []⟩) else c).map f := by
  by_cases here : w.url = url
  · subst here
    rw [if_pos rfl, Repository.find?_upsert_self]
    cases c with
    | none =>
        rw [Option.map_none, Option.map_eq_none_iff] at same
        rw [same, Option.map_some, Option.getD_none, Option.map_some, start, Option.elim_none]
    | some c =>
        obtain ⟨v, there, told⟩ := Option.map_eq_some_iff.mp same
        rw [there, Option.elim_some, Option.map_some, v.applySettings_times, told,
          Option.getD_some, Option.map_some]
  · rw [if_neg here, Repository.find?_upsert_ne (Ne.symm here)]
    exact same

theorem storeAndAttach (follows : h.Follows url c) {w : Webhook} (own : w.token = h.tenant.token) :
    (Hosted.attach { h with host := { h.host with
      repository := h.host.repository.putWebhook w } } w).Follows url
      (if w.url = url then some (c.getD ⟨w.times, []⟩) else c) := by
  obtain ⟨live, stored⟩ := follows
  constructor
  · rw [attach_webhook?]
    exact upsert_times live w (Course.times_untried _)
  · rw [storeAndAttach_stored? own]
    exact upsert_times stored w rfl

theorem addWebhook (follows : h.Follows url c) (w : Webhook) :
    (h.addWebhook w).1.Follows url
      (if isWebAddress (Text.trim w.url) = true ∧ Text.trim w.url = url then
        some (c.getD ⟨w.times, []⟩) else c) := by
  unfold Hosted.addWebhook
  cases valid : isWebAddress (Text.trim w.url) with
  | false => simpa [valid] using follows
  | true =>
      simp only [valid, true_and, Bool.not_true, Bool.false_eq_true, if_false]
      exact follows.storeAndAttach (w := { w with url := Text.trim w.url, token := _ }) rfl

theorem erase_times {ws : List Webhook} {f : Course → Option Instant × Option Instant}
    (same : (Keyed.find? Webhook.url url ws).map Webhook.times = c.map f) (address : String) :
    (Keyed.find? Webhook.url url (Keyed.erase Webhook.url address ws)).map Webhook.times =
      (if address = url then none else c).map f := by
  split
  · next here => rw [here, Keyed.find?_erase_self, Option.map_none, Option.map_none]
  · next other =>
    rw [Keyed.find?_erase_ne _ (Ne.symm other)]
    exact same

theorem removeWebhook (follows : h.Follows url c) (address : String) :
    (h.removeWebhook address).1.Follows url (if address = url then none else c) := by
  obtain ⟨live, stored⟩ := follows
  constructor
  · rw [Tenant.webhook?, removeWebhook_webhooks]
    exact erase_times live address
  · rw [removeWebhook_stored?]
    exact erase_times stored address

theorem toggleWebhook (follows : h.Follows url c)
    (owners : ∀ w ∈ h.tenant.webhooks, w.token = h.tenant.token) (address : String)
    (option : WebhookOption) : (h.toggleWebhook address option).1.Follows url c := by
  obtain ⟨live, stored⟩ := follows
  unfold Hosted.toggleWebhook
  split
  · exact ⟨live, stored⟩
  · next w found =>
    obtain ⟨member, here⟩ := Keyed.find?_some found
    have own := (w.toggle_token option).trans (owners w member)
    have same := (w.toggle_url option).trans here
    dsimp only
    generalize (w.toggle option).1 = w' at own same
    subst same
    have rows := h.host.repository.putWebhook_own own
    have left : stored? ⟨{ h.tenant with
        webhooks := Keyed.modify Webhook.url w'.url (·.applySettings w') h.tenant.webhooks },
        { h.host with repository := h.host.repository.putWebhook w' }⟩ url =
        Keyed.find? Webhook.url url
          (Repository.upsert w' (h.host.repository.webhooksOf h.tenant.token)) := by
      rw [← rows]
      rfl
    have address : ∀ v : Webhook, (v.applySettings w').url = v.url := fun v =>
      v.applySettings_url w'
    -- The webhook is there, so its address has a course.
    have kept : (if w'.url = url then some (c.getD ⟨w'.times, []⟩) else c) = c := by
      split
      · next here =>
        rw [← here, found] at live
        cases c with
        | none => cases live
        | some c => rfl
      · rfl
    constructor
    · by_cases here : url = w'.url
      · rw [Tenant.webhook?, here, Keyed.find?_modify_self address, Option.map_map, ← here]
        exact live
      · rw [Tenant.webhook?, Keyed.find?_modify_ne address _ here]
        exact live
    · rw [left, ← kept]
      exact upsert_times stored w' rfl

theorem finish_idle {id : String} (idle : h.underway? id = none) (net : Network) :
    h.work id (.finish net) = h := by
  rw [underway?] at idle
  simp only [work, idle]

theorem finish_busy {id : String} {m : Message} (busy : h.underway? id = some m) (net : Network) :
    ∃ outcome after, Webhook.deliverTo h.host.office net h.tenant.wid id m
        (h.tenant.webhooks, h.host.clock) = some (outcome, after) ∧
      (h.work id (.finish net)).tenant.webhooks = after.1 ∧
      (h.work id (.finish net)).stored? = h.stored? := by
  obtain ⟨⟨outcome, after⟩, done⟩ : ∃ result, Webhook.deliverTo h.host.office net h.tenant.wid id m
      (h.tenant.webhooks, h.host.clock) = some result := by
    unfold Webhook.deliverTo
    dsimp only
    split <;> exact ⟨_, rfl⟩
  refine ⟨outcome, after, done, ?_⟩
  rw [underway?] at busy
  simp only [work, busy, done]
  exact ⟨trivial, rfl⟩

/-- Only the subscriber's own webhook is concerned, and only if an attempt was made. -/
theorem finish (follows : h.Follows url c) (net : Network) (id : String) :
    (h.work id (.finish net)).Follows url
      (if id = Webhook.subscriberId url then
        c.map fun c => (h.attempted? net url).elim c c.note else c) := by
  cases busy : h.underway? id with
  | none =>
      rw [finish_idle busy]
      split
      · next own =>
        simpa [attempted?, ← own, busy] using follows
      · exact follows
  | some m =>
      obtain ⟨outcome, after, done, webhooks, rows⟩ := finish_busy busy net
      have found := Webhook.deliverTo_find? done url
      obtain ⟨live, stored⟩ := follows
      constructor
      · rw [Tenant.webhook?, webhooks, found]
        split
        · next own =>
          cases c with
          | none =>
              rw [Option.map_none, Option.map_eq_none_iff, Tenant.webhook?] at live
              rw [live]
              rfl
          | some c =>
              obtain ⟨w, there, told⟩ := Option.map_eq_some_iff.mp live
              have posted := w.deliver_times told h.host.office net h.tenant.wid m h.host.clock
              rw [attempted?, ← own, busy, Option.bind_some, there, Option.bind_some]
              rw [Tenant.webhook?] at there
              rw [there]
              exact congrArg some posted
        · exact live
      · rw [rows, stored]
        split
        · cases c with
          | none => rfl
          | some c => cases h.attempted? net url <;> rfl
        · rfl

end Follows

end Hosted

end ChatGateway

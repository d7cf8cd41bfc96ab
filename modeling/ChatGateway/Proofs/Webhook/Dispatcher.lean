import ChatGateway.Proofs.Tenant.Courses

/-!
One webhook while records are posted to it and its settings are changed. A delivery is made with the
settings as they are when it begins. Any number of deliveries may be underway at once, and any
number of updates may come before a delivery ends.
-/

namespace ChatGateway.Webhook

namespace Course

variable {given : Option Instant × Option Instant} {attempts : List Attempt}

theorem times_lost (lost : ∀ a ∈ attempts, a.arrived = false) :
    times ⟨given, attempts.reverse⟩ = (given.1.or (attempts.head?.map (·.time)), given.2) := by
  have none : attempts.reverse.find? (·.arrived) = none := by
    simpa using lost
  have every : attempts.reverse.takeWhile (!·.arrived) = attempts.reverse := by
    have through : (attempts.reverse ++ []).takeWhile (!·.arrived) =
        attempts.reverse ++ [].takeWhile (!·.arrived) :=
      List.takeWhile_append_of_pos (by simpa using lost)
    simpa using through
  simp [times, arrival, outage, none, every]

theorem times_arrival (past : List Attempt) {a : Attempt} (arrived : a.arrived = true)
    (lost : ∀ b ∈ attempts, b.arrived = false) :
    times ⟨given, (past ++ a :: attempts).reverse⟩ =
      (attempts.head?.map (·.time), some a.time) := by
  have latest : (past ++ a :: attempts).reverse = attempts.reverse ++ a :: past.reverse := by
    simp
  have found : (attempts.reverse ++ a :: past.reverse).find? (·.arrived) = some a := by
    have none : attempts.reverse.find? (·.arrived) = none := by
      simpa using lost
    rw [List.find?_append, none]
    simp [arrived]
  have since : (attempts.reverse ++ a :: past.reverse).takeWhile (!·.arrived) =
      attempts.reverse := by
    rw [List.takeWhile_append_of_pos (by simpa using lost)]
    simp [arrived]
  simp [times, arrival, outage, latest, found, since]

end Course

/-- A webhook with the posts that were made for it and are not answered yet. -/
structure Dispatcher where
  office : PostOffice
  webhook : Webhook
  underway : List Post := []

namespace Dispatcher

inductive Event where
  /-- A delivery begins, and ends at once if the record is kept back. -/
  | begin (wid : Option String) (m : Message)
  | answer (place : Nat) (net : Network) (now : Instant)
  | update (settings : Webhook)

def step (d : Dispatcher) : Event → Dispatcher
  | .begin wid m =>
    if (d.webhook.skipReason? m).isSome then d
    else
      let post := ⟨d.webhook.url, wid.getD "", d.office.userAgent, d.webhook.body m⟩
      { d with underway := d.underway ++ [post] }
  | .answer place net now =>
    match d.underway[place]? with
    | none => d
    | some post =>
      { d with
        webhook := match (net post).fault? with
          | none => d.webhook.succeededAt now
          | some _ => d.webhook.failedAt now
        underway := d.underway.eraseIdx place }
  | .update settings => { d with webhook := d.webhook.applySettings settings }

def run (d : Dispatcher) (events : List Event) : Dispatcher := events.foldl step d

/-- A delivery that is not disturbed is a post that is answered next. -/
theorem deliver_eq_run (w : Webhook) (office : PostOffice) (net : Network) (wid : Option String)
    (m : Message) (clock : Clock) :
    (w.deliver office net wid m clock).2.1 =
      (run ⟨office, w, []⟩ [.begin wid m, .answer 0 net clock.read.1]).webhook := by
  cases skipped : w.skipReason? m with
  | some reason => simp [deliver, run, step, skipped]
  | none =>
      simp only [deliver, run, List.foldl_cons, List.foldl_nil, step, skipped, Option.isSome_none,
        Bool.false_eq_true, if_false, List.nil_append, List.getElem?_cons_zero]
      cases (net ⟨w.url, wid.getD "", office.userAgent, w.body m⟩).fault? <;> rfl

def attempt? (d : Dispatcher) : Event → Option Attempt
  | .answer place net now =>
    d.underway[place]?.map fun post => ⟨now, net post == .status 200⟩
  | _ => none

/-- The posts that were answered, in the order of the answers. -/
def attempts (d : Dispatcher) : List Event → List Attempt
  | [] => []
  | e :: rest => (d.attempt? e).toList ++ (d.step e).attempts rest

def updates (events : List Event) : List Webhook :=
  events.filterMap fun
    | .update settings => some settings
    | _ => none

variable (d : Dispatcher)

theorem step_times {c : Course} (same : d.webhook.times = c.times) (e : Event) :
    (d.step e).webhook.times = ((d.attempt? e).elim c c.note).times := by
  cases e with
  | begin wid m =>
      simp only [step, attempt?, Option.elim_none]
      split <;> exact same
  | update settings => exact same
  | answer place net now =>
      simp only [step, attempt?]
      cases d.underway[place]? with
      | none => exact same
      | some post =>
          have failure : d.webhook.failure = c.times.1 := congrArg Prod.fst same
          have success : d.webhook.success = c.times.2 := congrArg Prod.snd same
          simp only [Option.map_some, Option.elim_some]
          cases fault : (net post).fault? with
          | none =>
              have arrived : (net post == .status 200) = true := by
                simp [fault?_eq_none.mp fault]
              rw [arrived, Course.times_arrived]
              rfl
          | some text =>
              have lost : (net post == .status 200) = false := by
                apply beq_eq_false_iff_ne.mpr
                intro arrived
                simp [fault?_eq_none.mpr arrived] at fault
              rw [lost, Course.times_failed]
              simp [times, failedAt, failure, success]

theorem run_times {c : Course} (same : d.webhook.times = c.times) (events : List Event) :
    (d.run events).webhook.times =
      Course.times { c with attempts := (d.attempts events).reverse ++ c.attempts } := by
  induction events generalizing d c with
  | nil => simpa [run, attempts] using same
  | cons e rest ih =>
      have later := ih (d.step e) (d.step_times same e)
      change ((d.step e).run rest).webhook.times = _
      rw [later]
      cases tried : d.attempt? e with
      | none => simp [attempts, tried]
      | some a => simp [attempts, tried, Course.note]

/-- The webhook with the settings of the last update, or the one given at first. -/
def wanted (events : List Event) : Webhook := (updates events).getLast?.getD d.webhook

theorem wanted_concat (before : List Event) (e : Event) :
    d.wanted (before ++ [e]) = (updates [e]).getLast?.getD (d.wanted before) := by
  cases e <;> simp [wanted, updates]

theorem step_settings (e : Event) :
    (d.step e).webhook.settings = (d.webhook.applySettings (d.wanted [e])).settings := by
  cases e with
  | begin wid m =>
      simp only [step]
      split <;> rfl
  | update settings => rfl
  | answer place net now =>
      simp only [step]
      split
      · rfl
      · split <;> rfl

theorem run_settings (events : List Event) :
    (d.run events).webhook.settings = (d.webhook.applySettings (d.wanted events)).settings := by
  induction events using List.reverseRecOn with
  | nil => rfl
  | append_singleton before e ih =>
      have last : d.run (before ++ [e]) = (d.run before).step e := by
        simp [run]
      have now : (d.run before).wanted [e] = (updates [e]).getLast?.getD (d.run before).webhook :=
        rfl
      rw [last, step_settings, now, wanted_concat]
      cases (updates [e]).getLast? with
      | none => exact ih
      | some settings =>
          -- An update leaves nothing of the settings before it but the owner and the address.
          rw [Option.getD_some, Option.getD_some, ← settings_applySettings, ih,
            settings_applySettings]
          rfl

/-- In whatever order deliveries begin and end and settings are updated, the times are those of the
answered posts alone. The outage began with the first failure since the last arrival; without an
arrival it began when it had begun before, if it had. The settings are those of the last update, or
the first ones, whatever was answered; the address and the owner are never another. -/
theorem times_and_settings_are_apart (events : List Event) :
    ((∀ a ∈ d.attempts events, a.arrived = false) →
      (d.run events).webhook.failure =
          d.webhook.failure.or ((d.attempts events).head?.map (·.time)) ∧
        (d.run events).webhook.success = d.webhook.success) ∧
    (∀ past a lost, d.attempts events = past ++ a :: lost → a.arrived = true →
      (∀ b ∈ lost, b.arrived = false) →
      (d.run events).webhook.failure = lost.head?.map (·.time) ∧
        (d.run events).webhook.success = some a.time) ∧
    ((d.run events).webhook.forwardInternal = (d.wanted events).forwardInternal ∧
      (d.run events).webhook.trackId = (d.wanted events).trackId ∧
      (d.run events).webhook.extra = (d.wanted events).extra ∧
      (d.run events).webhook.groups = (d.wanted events).groups ∧
      (d.run events).webhook.broadcasts = (d.wanted events).broadcasts ∧
      (d.run events).webhook.readReceipts = (d.wanted events).readReceipts ∧
      (d.run events).webhook.calls = (d.wanted events).calls) ∧
    (d.run events).webhook.url = d.webhook.url ∧
    (d.run events).webhook.token = d.webhook.token := by
  have times := d.run_times (c := ⟨d.webhook.times, []⟩) (Course.times_untried _).symm events
  simp only [List.append_nil] at times
  have settings := d.run_settings events
  simp only [Webhook.settings, applySettings, Webhook.mk.injEq, and_true] at settings
  obtain ⟨token, url, asked⟩ := settings
  refine ⟨fun lost => ?_, fun past a lost split arrived since => ?_, asked, url, token⟩
  · rw [Course.times_lost lost] at times
    exact Prod.ext_iff.mp times
  · rw [split, Course.times_arrival past arrived since] at times
    exact Prod.ext_iff.mp times

/-- Two updates come while two posts are underway, of which one arrives and one fails. The first
update is of no account any more. -/
theorem update_during_deliveries :
    let m : Message :=
      { id := "m", timestamp := .epoch, kind := .text, chat := ⟨"1@g.us", ""⟩, text := "hello" }
    let w : Webhook := { url := "http://one", failure := some .epoch }
    let d : Dispatcher := ⟨⟨""⟩, w, []⟩
    let events : List Event :=
      [.begin none m, .begin none m, .update { url := "http://two", trackId := "crm" },
        .update { url := "http://two", groups := some false },
        .answer 1 (fun _ => .status 200) ⟨1, 0⟩, .begin none m, .answer 0 Network.down ⟨2, 0⟩]
    d.attempts events = [⟨⟨1, 0⟩, true⟩, ⟨⟨2, 0⟩, false⟩] ∧
      (d.run events).webhook.failure = some ⟨2, 0⟩ ∧
      (d.run events).webhook.success = some ⟨1, 0⟩ ∧
      (d.run events).webhook.groups = some false ∧ (d.run events).webhook.trackId = "" ∧
      (d.run events).webhook.url = "http://one" := by
  intro m w d events
  have tried : d.attempts events = [⟨⟨1, 0⟩, true⟩, ⟨⟨2, 0⟩, false⟩] := by decide +kernel
  obtain ⟨_, since, ⟨_, trackId, _, groups, _⟩, url, _⟩ := d.times_and_settings_are_apart events
  have times := since [] _ _ tried rfl (by simp)
  exact ⟨tried, times.1, times.2, groups, trackId, url⟩

end Dispatcher

end ChatGateway.Webhook

import ChatGateway.Proofs.Tenant.Filters

namespace ChatGateway.Hosted

/-- What comes to a tenant from the network, and the pairings. -/
inductive Visit where
  | event (e : Session.Event)
  | pair (wid : String)

def Visit.action : Visit → Action
  | event e => .event e
  | pair wid => .pair wid

def reportsLogout : Action → Bool
  | .event (.loggedOut _) => true
  | _ => false

namespace Entry

/-- Whether a report of a logout brought the record. -/
def isNotice (e : Entry) : Bool :=
  match e.cause with
  | .event (.loggedOut _) => true
  | _ => false

def keepsNotice (e : Entry) : Bool := e.isNotice && e.passage.passed?.isNone

def passesNotice (e : Entry) : Bool := e.isNotice && e.passage.passed?.isSome

end Entry

/-- How often a test is met when an action begins. -/
def tally (test : Hosted → Action → Bool) (h : Hosted) (actions : List Action) : Nat :=
  (trail act (fun h a => [test h a]) h actions).count true

/-- The status becomes logged out, and was not before. -/
def ends (h : Hosted) (a : Action) : Bool :=
  h.tenant.status != .loggedOut && (h.act a).tenant.status == .loggedOut

/-- A logout is reported that has taken place already. -/
def repeats (h : Hosted) (a : Action) : Bool :=
  reportsLogout a && h.tenant.status == .loggedOut

/-- The id made for the notice of a logout is that of a message already kept. -/
def clashes (h : Hosted) (a : Action) : Bool :=
  reportsLogout a && (h.tenant.messages.get? (logoutNotice h.host.nextId .epoch "").id).isSome

section Tally

variable {test : Hosted → Action → Bool} {h : Hosted}

theorem tally_cons (a : Action) (rest : List Action) :
    h.tally test (a :: rest) = (test h a).toNat + (h.act a).tally test rest := by
  rw [tally, trail, List.count_append]
  cases test h a <;> rfl

theorem tally_eq_zero {actions : List Action} :
    h.tally test actions = 0 ↔
      ∀ past a rest, actions = past ++ a :: rest → test (h.run past) a = false := by
  induction actions generalizing h with
  | nil => exact ⟨fun _ past a rest split => by simp at split, fun _ => rfl⟩
  | cons b later ih =>
      rw [tally_cons, Nat.add_eq_zero_iff, ih]
      constructor
      · rintro ⟨first, others⟩ past a rest split
        cases past with
        | nil =>
            obtain ⟨rfl, -⟩ := List.cons_eq_cons.mp split
            exact Bool.toNat_eq_zero.mp first
        | cons c before =>
            obtain ⟨rfl, later⟩ := List.cons_eq_cons.mp (split.trans (List.cons_append ..))
            exact others before a rest later
      · intro none
        refine ⟨Bool.toNat_eq_zero.mpr (none [] b later rfl), fun past a rest split => ?_⟩
        exact none (b :: past) a rest (congrArg (b :: ·) split)

end Tally

variable (h : Hosted)

theorem handle_status {e : Session.Event} (other : reportsLogout (.event e) = false) :
    (h.handle e).tenant.status = .loggedOut → h.tenant.status = .loggedOut := by
  have quiet : ∀ {h' : Hosted}, Quiet h h' → h'.tenant.status = h.tenant.status :=
    fun same => congrArg Standing.status same.standing
  cases e with
  | message m => exact (quiet (h.ingest_quiet m)).symm.trans
  | receipt chat ids timestamp => exact (quiet (h.onReceipt_quiet chat ids timestamp)).symm.trans
  | call id caller timestamp => exact (quiet (h.onCall_quiet id caller timestamp)).symm.trans
  | history ms =>
      rw [handle]
      split
      · exact (quiet (h.ingestAll_quiet ms)).symm.trans
      · exact id
  | connected wid =>
      intro ended
      have ready := congrArg Standing.status (onConnected_standing h wid)
      cases ended.symm.trans ready
  | disconnected reason =>
      intro ended
      cases allowed : h.tenant.status.allows .disconnected with
      | false => rwa [handle, setStatus_refused allowed] at ended
      | true => rw [handle, setStatus_allowed allowed] at ended; cases ended
  | loggedOut reason => cases other

theorem loggedOut_status (reason : String) :
    (h.handle (.loggedOut reason)).tenant.status =
      if h.tenant.status.allows .loggedOut then .loggedOut else h.tenant.status := by
  cases allowed : h.tenant.status.allows .loggedOut with
  | false => rw [handle, onLoggedOut_refused allowed]; rfl
  | true => exact congrArg Standing.status (onLoggedOut_standing allowed reason)

/-- A report of a logout is heeded if it ends the session, or repeats an earlier one. -/
theorem heeded_cases (reason : String) :
    (h.tenant.status.allows .loggedOut).toNat =
      (h.ends (.event (.loggedOut reason))).toNat +
        (h.repeats (.event (.loggedOut reason))).toNat := by
  have after := h.loggedOut_status reason
  unfold ends repeats
  rw [act, after]
  cases h.tenant.status <;> rfl

theorem ends_reported {e : Session.Event} (other : reportsLogout (.event e) = false) :
    h.ends (.event e) = false := by
  have status := h.handle_status other
  rw [ends, act, Bool.and_eq_false_imp, bne_iff_ne]
  intro before
  rw [beq_eq_false_iff_ne]
  exact fun after => before (status after)

theorem pair_ends (wid : String) : h.ends (.pair wid) = false := by
  have ready : (h.pair wid).tenant.status = .ready :=
    congrArg Standing.status (h.pair_standing wid)
  rw [ends, act, ready]
  exact Bool.and_false _

theorem noted_quiet {e : Session.Event} (other : reportsLogout (.event e) = false) {x : Entry}
    (member : x ∈ h.noted e) : x.isNotice = false := by
  obtain ⟨item, _, rfl⟩ := List.mem_map.mp member
  cases e with
  | loggedOut reason => cases other
  | _ => rfl

/-- Whatever is counted of the notices, an event counts for it only if it reports a logout. -/
theorem noted_none {e : Session.Event} (other : reportsLogout (.event e) = false)
    {p : Entry → Bool} (notice : ∀ x, p x = true → x.isNotice = true) :
    (h.noted e).countP p = 0 := by
  refine List.countP_eq_zero.mpr fun x member counted => ?_
  have quiet := h.noted_quiet other member
  rw [notice x counted] at quiet
  cases quiet

theorem repeats_reported {a : Action} (other : reportsLogout a = false) :
    h.repeats a = false := by
  rw [repeats, other, Bool.false_and]

/-- A notice under an id that is not taken is passed on. -/
theorem fresh_passes {reason : String} (fresh : h.clashes (.event (.loggedOut reason)) = false)
    (now : Instant) : h.stock.passes (logoutNotice h.host.nextId now reason) = true := by
  have absent : h.tenant.messages.get? (logoutNotice h.host.nextId .epoch "").id = none :=
    Option.not_isSome_iff_eq_none.mp (Bool.eq_false_iff.mp fresh)
  have unknown : Keyed.find? Message.key (logoutNotice h.host.nextId now reason).key
      h.stock.messages.entries = none := absent
  rw [Stock.passes, Cache.Messages.put_answer, unknown]
  rfl

theorem noted_kept (e : Session.Event) :
    (h.noted e).countP Entry.keepsNotice =
      (h.ends (.event e)).toNat + (h.repeats (.event e)).toNat := by
  cases reported : reportsLogout (.event e) with
  | false =>
      have none := h.noted_none reported (p := Entry.keepsNotice)
        fun x kept => (Bool.and_eq_true_iff.mp kept).1
      rw [none, h.ends_reported reported, h.repeats_reported reported]
      rfl
  | true =>
      cases e with
      | loggedOut reason =>
          rw [← heeded_cases, noted, handling, logoutNotices]
          cases h.tenant.status.allows .loggedOut with
          | false => rfl
          | true =>
              rw [if_pos rfl, Stock.storing]
              split <;> rfl
      | _ => cases reported

theorem noted_passed {e : Session.Event} (fresh : h.clashes (.event e) = false) :
    (h.noted e).countP Entry.passesNotice =
      (h.ends (.event e)).toNat + (h.repeats (.event e)).toNat := by
  cases reported : reportsLogout (.event e) with
  | false =>
      have none := h.noted_none reported (p := Entry.passesNotice)
        fun x passed => (Bool.and_eq_true_iff.mp passed).1
      rw [none, h.ends_reported reported, h.repeats_reported reported]
      rfl
  | true =>
      cases e with
      | loggedOut reason =>
          rw [← heeded_cases, noted, handling, logoutNotices]
          cases h.tenant.status.allows .loggedOut with
          | false => rfl
          | true => rw [if_pos rfl, Stock.storing, if_pos (h.fresh_passes fresh _)]; rfl
      | _ => cases reported

theorem log_cons (a : Action) (rest : List Action) :
    h.log (a :: rest) = h.entries a ++ (h.act a).log rest := rfl

theorem visit_kept (v : Visit) :
    (h.entries v.action).countP Entry.keepsNotice =
      (h.ends v.action).toNat + (h.repeats v.action).toNat := by
  cases v with
  | event e => exact h.noted_kept e
  | pair wid => rw [Visit.action, pair_ends]; rfl

theorem visit_passed {v : Visit} (fresh : h.clashes v.action = false) :
    (h.entries v.action).countP Entry.passesNotice =
      (h.ends v.action).toNat + (h.repeats v.action).toNat := by
  cases v with
  | event e => exact h.noted_passed fresh
  | pair wid => rw [Visit.action, pair_ends]; rfl

theorem log_kept (visits : List Visit) :
    (h.log (visits.map Visit.action)).countP Entry.keepsNotice =
      h.tally ends (visits.map Visit.action) + h.tally repeats (visits.map Visit.action) := by
  induction visits generalizing h with
  | nil => rfl
  | cons v rest ih =>
      rw [List.map_cons, log_cons, List.countP_append, visit_kept, ih, tally_cons, tally_cons]
      omega

theorem log_passed {visits : List Visit} (fresh : h.tally clashes (visits.map Visit.action) = 0) :
    (h.log (visits.map Visit.action)).countP Entry.passesNotice =
      h.tally ends (visits.map Visit.action) + h.tally repeats (visits.map Visit.action) := by
  induction visits generalizing h with
  | nil => rfl
  | cons v rest ih =>
      rw [List.map_cons, tally_cons, Nat.add_eq_zero_iff] at fresh
      obtain ⟨first, later⟩ := fresh
      rw [List.map_cons, log_cons, List.countP_append, h.visit_passed (Bool.toNat_eq_zero.mp first),
        ih _ later, tally_cons, tally_cons]
      omega

theorem visit_stock (v : Visit) :
    (h.act v.action).stock =
      ((h.entries v.action).map Entry.passage).foldl Stock.enter h.stock := by
  cases v with
  | event e =>
      rw [Visit.action, entries, noted_passages]
      exact h.handle_stock e
  | pair wid => exact h.pair_stock wid

theorem log_stock (visits : List Visit) :
    (h.run (visits.map Visit.action)).stock =
      ((h.log (visits.map Visit.action)).map Entry.passage).foldl Stock.enter h.stock := by
  induction visits generalizing h with
  | nil => rfl
  | cons v rest ih =>
      rw [List.map_cons, log_cons, List.map_append, List.foldl_append, ← visit_stock, ← ih]
      rfl

theorem repeats_iff {a : Action} : h.repeats a = true ↔
    (∃ reason, a = .event (.loggedOut reason)) ∧ h.tenant.status = .loggedOut := by
  rw [repeats, Bool.and_eq_true, beq_iff_eq]
  refine and_congr_left fun _ => ⟨fun reported => ?_, fun ⟨reason, same⟩ => by rw [same]; rfl⟩
  cases a with
  | event e =>
      cases e with
      | loggedOut reason => exact ⟨reason, rfl⟩
      | _ => cases reported
  | _ => cases reported

theorem no_repeats_iff (actions : List Action) :
    h.tally repeats actions = 0 ↔
      ∀ past reason rest, actions = past ++ .event (.loggedOut reason) :: rest →
        (h.run past).tenant.status ≠ .loggedOut := by
  rw [tally_eq_zero]
  constructor
  · intro never past reason rest split ended
    have repeated := (repeats_iff _).mpr ⟨⟨reason, rfl⟩, ended⟩
    rw [never past _ rest split] at repeated
    cases repeated
  · intro other past a rest split
    rw [Bool.eq_false_iff, ne_eq, repeats_iff]
    rintro ⟨⟨reason, rfl⟩, ended⟩
    exact other past reason rest split ended

theorem notice_record (e : Session.Event) {x : Entry} (member : x ∈ h.noted e)
    (notice : x.isNotice = true) :
    ∃ number now reason, x.passage.record = logoutNotice number now reason := by
  cases e with
  | loggedOut reason =>
      obtain ⟨item, handled, rfl⟩ := List.mem_map.mp member
      rw [handling, logoutNotices] at handled
      split at handled
      · exact ⟨_, _, _, storing_record handled⟩
      · cases handled
  | _ => rw [h.noted_quiet rfl member] at notice; cases notice

theorem log_notice {visits : List Visit} {x : Entry}
    (member : x ∈ h.log (visits.map Visit.action)) (notice : x.isNotice = true) :
    ∃ number now reason, x.passage.record = logoutNotice number now reason := by
  obtain ⟨front, a, back, split, there⟩ := mem_trail member
  obtain ⟨v, _, rfl⟩ := List.mem_map.mp (split ▸ List.mem_append_right front List.mem_cons_self)
  cases v with
  | event e => exact notice_record _ e there notice
  | pair wid => cases there

theorem store_nextId (m : Message) : (h.store m).1.host.nextId = h.host.nextId := by
  unfold store
  dsimp only
  split <;> rfl

theorem onLoggedOut_nextId (reason : String)
    (allowed : h.tenant.status.allows .loggedOut = true) :
    (h.onLoggedOut reason).host.nextId = h.host.nextId + 1 := by
  rw [onLoggedOut, setStatus_allowed allowed]
  dsimp only
  rw [store_nextId]
  simp only [updateProfile, Host.save, Host.now, Clock.read, Host.freshNumber]

/-- A report that leaves the status as it is leaves all as it is, unless it repeats an earlier
one. -/
theorem loggedOut_idle {reason : String}
    (still : (h.handle (.loggedOut reason)).tenant.status = h.tenant.status) :
    h.handle (.loggedOut reason) = h ↔ h.tenant.status ≠ .loggedOut := by
  rw [loggedOut_status] at still
  constructor
  · intro same ended
    have allowed : h.tenant.status.allows .loggedOut = true := by rw [ended]; rfl
    have counted := h.onLoggedOut_nextId reason allowed
    rw [show h.onLoggedOut reason = h from same] at counted
    omega
  · intro other
    refine onLoggedOut_refused (Bool.eq_false_iff.mpr fun allowed => ?_) reason
    rw [if_pos allowed] at still
    exact other still.symm

/-- A tenant is visited by events and pairings in any order, and the ids made for notices are new.
The records that come are all there is to what is held; those that reports of logouts bring are
notices. There are as many of them, kept and passed on, as the status came to be logged out and
reports came to a tenant that was logged out already. So every logout has just one notice if, and
only if, no report comes to a tenant that is logged out; and just then a report without effect on
the status has none at all. -/
theorem notices_of_logouts {h : Hosted} {visits : List Visit}
    (fresh : h.tally clashes (visits.map Visit.action) = 0) :
    let actions := visits.map Visit.action
    let log := h.log actions
    (h.run actions).stock = (log.map Entry.passage).foldl Stock.enter h.stock ∧
    (∀ e ∈ log, e.isNotice = true →
      ∃ number now reason, e.passage.record = logoutNotice number now reason) ∧
    log.countP Entry.keepsNotice = h.tally ends actions + h.tally repeats actions ∧
    log.countP Entry.passesNotice = h.tally ends actions + h.tally repeats actions ∧
    (log.countP Entry.keepsNotice = h.tally ends actions ∧
        log.countP Entry.passesNotice = h.tally ends actions ↔
      ∀ past reason rest, actions = past ++ .event (.loggedOut reason) :: rest →
        (h.run past).tenant.status ≠ .loggedOut) ∧
    ∀ past reason rest, actions = past ++ .event (.loggedOut reason) :: rest →
      let before := h.run past
      (before.handle (.loggedOut reason)).tenant.status = before.tenant.status →
        (before.handle (.loggedOut reason) = before ↔ before.tenant.status ≠ .loggedOut) := by
  intro actions log
  have kept : log.countP Entry.keepsNotice = h.tally ends actions + h.tally repeats actions :=
    h.log_kept visits
  have passed : log.countP Entry.passesNotice = h.tally ends actions + h.tally repeats actions :=
    h.log_passed fresh
  refine ⟨h.log_stock visits, fun e => h.log_notice, kept, passed, ?_, ?_⟩
  · rw [← no_repeats_iff]
    constructor
    · rintro ⟨once, -⟩
      omega
    · exact fun never => ⟨by omega, by omega⟩
  · intro past reason rest _ before still
    exact before.loggedOut_idle still

/-- A paired tenant hears of its logout twice: it ends once, and two notices go out. -/
theorem second_report_second_notice :
    let host : Host := { settings := {}, office := ⟨""⟩, hub := {}, clock := ⟨.epoch⟩ }
    let p : Profile :=
      { token := "tok", wid := some "1@s.whatsapp.net", verified := true
        createdAt := .epoch, updatedAt := .epoch }
    let h : Hosted := ⟨Tenant.ofProfile host.settings p false, host⟩
    let visits : List Visit := [.event (.loggedOut "revoked"), .event (.loggedOut "revoked")]
    let actions := visits.map Visit.action
    h.tally clashes actions = 0 ∧ h.tally ends actions = 1 ∧
      (h.log actions).countP Entry.keepsNotice = 2 ∧
      (h.log actions).countP Entry.passesNotice = 2 := by
  intro host p h visits actions
  have status : h.tenant.status = .disconnected := by decide
  have fresh : h.tally clashes actions = 0 := by decide
  have told := notices_of_logouts fresh
  have once : h.tally ends actions = 1 := by decide
  have again : h.tally repeats actions = 1 := by decide
  refine ⟨fresh, once, ?_, ?_⟩
  · rw [told.2.2.1, once, again]
  · rw [told.2.2.2.1, once, again]

end ChatGateway.Hosted

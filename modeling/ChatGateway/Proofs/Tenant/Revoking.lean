import ChatGateway.Proofs.Cache.Refinement
import ChatGateway.Proofs.Tenant.Standing

namespace ChatGateway

theorem Json.insertMember_perm {α : Type} {name : String} {members : List (String × α)}
    (fresh : name ∉ members.map Prod.fst) (value : α) :
    (insertMember name value members).Perm ((name, value) :: members) := by
  induction members with
  | nil => exact List.Perm.refl _
  | cons m rest ih =>
      rw [List.map_cons, List.mem_cons, not_or] at fresh
      obtain ⟨different, behind⟩ := fresh
      rw [insertMember, if_neg different]
      split
      · exact List.Perm.refl _
      · exact ((ih behind).cons m).trans (List.Perm.swap _ _ _)

/-- What was tried on a session, and how it went. -/
structure RevokeCall where
  link : Session.LinkId
  message : Message
  answer : Except Failure Unit

namespace RevokeCall

def id (c : RevokeCall) : String := c.message.id

/-- The id of a message that the session revoked. -/
def accepted? (c : RevokeCall) : Option String :=
  match c.answer with
  | .ok _ => some c.id
  | .error _ => none

/-- The id of a message that the session did not revoke, and the reason. -/
def refused? (c : RevokeCall) : Option (String × String) :=
  match c.answer with
  | .ok _ => none
  | .error f => some (c.id, f.display)

theorem refused_id {c : RevokeCall} {e : String × String} (refused : c.refused? = some e) :
    e.1 = c.id := by
  unfold refused? at refused
  split at refused
  · cases refused
  · cases refused
    rfl

theorem split_perm (calls : List RevokeCall) :
    (calls.filterMap accepted? ++ (calls.filterMap refused?).map Prod.fst).Perm
      (calls.map id) := by
  induction calls with
  | nil => exact List.Perm.refl _
  | cons c rest ih =>
      rcases c with ⟨link, m, answer⟩
      cases answer with
      | ok _ => exact ih.cons m.id
      | error f => exact List.perm_middle.trans (ih.cons m.id)

end RevokeCall

namespace RevokeReport

variable {σ : Type} {r : RevokeReport} {calls : List RevokeCall} {m : Message}

/-- The session, with a record of what is tried on it and how it went. -/
def noting (attempt : Session.LinkId → Message → σ → σ × Except Failure Unit)
    (link : Session.LinkId) (m : Message) (noted : σ × List RevokeCall) :
    (σ × List RevokeCall) × Except Failure Unit :=
  let (s, answer) := attempt link m noted.1
  ((s, noted.2 ++ [⟨link, m, answer⟩]), answer)

/-- The report tells of the calls, and of nothing else. -/
structure Accounts (r : RevokeReport) (calls : List RevokeCall) : Prop where
  revoked : r.revoked = calls.filterMap RevokeCall.accepted?
  errors : r.errors.Perm (calls.filterMap RevokeCall.refused?)

namespace Accounts

theorem empty : Accounts {} [] := ⟨rfl, List.Perm.refl _⟩

theorem named (accounts : r.Accounts calls) {id : String} (told : id ∈ r.errors.map Prod.fst) :
    id ∈ calls.map RevokeCall.id := by
  obtain ⟨e, listed, rfl⟩ := List.mem_map.mp told
  obtain ⟨c, tried, refused⟩ := List.mem_filterMap.mp (accounts.errors.mem_iff.mp listed)
  exact List.mem_map.mpr ⟨c, tried, (RevokeCall.refused_id refused).symm⟩

/-- The reasons are kept by id, so none is lost only if no message of that id was tried before. -/
theorem tell (accounts : r.Accounts calls) (fresh : m.id ∉ calls.map RevokeCall.id)
    (link : Session.LinkId) (answer : Except Failure Unit) :
    (r.tell m.id answer).Accounts (calls ++ [⟨link, m, answer⟩]) := by
  cases answer with
  | ok _ =>
      constructor
      · rw [RevokeReport.tell, accept, accounts.revoked, List.filterMap_append]
        rfl
      · rw [List.filterMap_append]
        exact accounts.errors.trans (List.Perm.of_eq (List.append_nil _).symm)
  | error f =>
      constructor
      · rw [List.filterMap_append]
        exact accounts.revoked.trans (List.append_nil _).symm
      · have put := Json.insertMember_perm (fun told => fresh (accounts.named told)) f.display
        rw [List.filterMap_append]
        exact put.trans ((accounts.errors.cons _).trans (List.perm_append_singleton _ _).symm)

end Accounts

/-- Messages of different ids are tried one after the other, each once, and the report accounts for
them all. -/
theorem collect_noting (attempt : Session.LinkId → Message → σ → σ × Except Failure Unit)
    (link : Session.LinkId) {targets : List Message} (s : σ) (accounts : r.Accounts calls)
    (apart : (calls.map RevokeCall.id ++ targets.map Message.id).Nodup) :
    ∃ made : List RevokeCall, made.map RevokeCall.message = targets ∧
      (∀ c ∈ made, c.link = link) ∧
      collect (noting attempt link) targets (s, calls) r =
        (((collect (attempt link) targets s r).1, calls ++ made),
          (collect (attempt link) targets s r).2) ∧
      (collect (attempt link) targets s r).2.Accounts (calls ++ made) := by
  induction targets generalizing s r calls with
  | nil =>
      refine ⟨[], rfl, fun _ impossible => absurd impossible List.not_mem_nil, ?_, ?_⟩
      · rw [List.append_nil]
        rfl
      · rw [List.append_nil]
        exact accounts
  | cons m rest ih =>
      -- The ids of what was tried and of what is still to come stay apart, so no reason is lost.
      have fresh : m.id ∉ calls.map RevokeCall.id := fun named =>
        List.disjoint_of_nodup_append apart named List.mem_cons_self
      have next : ((calls ++ [RevokeCall.mk link m (attempt link m s).2]).map RevokeCall.id ++
          rest.map Message.id).Nodup := by
        rw [List.map_append, List.append_assoc]
        exact apart
      obtain ⟨made, messages, own, run, told⟩ :=
        ih (attempt link m s).1 (accounts.tell fresh link (attempt link m s).2) next
      rw [List.append_assoc] at run told
      rw [collect_cons, collect_cons]
      exact ⟨⟨link, m, (attempt link m s).2⟩ :: made, congrArg (m :: ·) messages,
        List.forall_mem_cons.mpr ⟨rfl, own⟩, run, told⟩

end RevokeReport

namespace Hosted

section Revocable

variable {h : Hosted} {id : String} {byBeginning : Bool}
  (sorted : Cache.Sorted h.tenant.messages.entries)
include sorted

theorem mem_revocable {m : Message} :
    m ∈ h.revocable id byBeginning ↔ m ∈ h.tenant.messages.entries ∧
      if byBeginning then Text.beginsWith m.key (Text.upper id) = true
      else m.key = Text.upper id := by
  cases byBeginning with
  | true => exact List.mem_filter
  | false => exact Option.mem_toList.trans (Keyed.find?_eq_some sorted.distinct)

theorem revocable_ids : ((h.revocable id byBeginning).map Message.id).Nodup := by
  have part : (h.revocable id byBeginning).Sublist h.tenant.messages.entries := by
    cases byBeginning with
    | true => exact List.filter_sublist
    | false =>
        cases found : h.tenant.messages.get? id with
        | none =>
            rw [revocable, found]
            exact List.nil_sublist _
        | some m =>
            rw [revocable, found]
            exact List.singleton_sublist.mpr (Keyed.find?_some found).1
  have keys : ((h.revocable id byBeginning).map (Message.keyOf ∘ Message.id)).Nodup :=
    (sorted.sublist part).distinct
  rw [← List.map_map] at keys
  exact keys.of_map _

end Revocable

/-- What is written down of the session makes no difference, and the report tells of just that. -/
theorem revokeOn_noting {σ : Type}
    (attempt : Session.LinkId → Message → σ → σ × Except Failure Unit) (s : σ) {h : Hosted}
    {link : Session.LinkId} (usable : h.tenant.readyLink = .ok link) {id : String}
    {byBeginning : Bool} (ids : ((h.revocable id byBeginning).map Message.id).Nodup) :
    ∃ calls report, calls.map RevokeCall.message = h.revocable id byBeginning ∧
      (∀ c ∈ calls, c.link = link) ∧
      h.revokeOn (RevokeReport.noting attempt) (s, []) id byBeginning =
        (((h.revokeOn attempt s id byBeginning).1, calls), .ok report) ∧
      (h.revokeOn attempt s id byBeginning).2 = .ok report ∧ report.Accounts calls := by
  obtain ⟨calls, messages, own, noted, told⟩ :=
    RevokeReport.collect_noting attempt link s .empty ids
  rw [List.nil_append] at noted told
  generalize gathered :
    RevokeReport.collect (attempt link) (h.revocable id byBeginning) s {} = done at noted told
  have plain : h.revokeOn attempt s id byBeginning = (done.1, .ok done.2) := by
    simp only [revokeOn, usable, gathered]
  refine ⟨calls, done.2, messages, own, ?_, congrArg Prod.snd plain, told⟩
  rw [plain]
  simp only [revokeOn, usable, noted]

/-- A ready tenant, with a cache that was used in any way and a session that answers to every
attempt as it likes, revokes the message of an id or all messages whose ids begin as given, in
whatever case that is written. Each of them is tried once on the session in use, and nothing else
is. The report holds the ids of those the session revoked, in the order in which they were tried,
and the ids of the others with the reasons: these together are the ids of the messages that were
meant, and no id occurs twice. What is kept of the messages stays as it was. -/
theorem revocation_accounts_for_all {σ : Type}
    (attempt : Session.LinkId → Message → σ → σ × Except Failure Unit) (s : σ) {h : Hosted}
    {link : Session.LinkId} {ops : List Cache.Op} (ready : h.tenant.status.isReady = true)
    (inUse : h.tenant.link = some link) (cached : h.tenant.messages = Cache.Messages.run {} ops)
    (id : String) (byBeginning : Bool) :
    let run := h.revokeOn (RevokeReport.noting attempt) (s, []) id byBeginning
    let calls := run.1.2
    h.revokeOn attempt s id byBeginning = (run.1.1, run.2) ∧
    ((∀ m, m ∈ calls.map RevokeCall.message ↔ m ∈ h.tenant.messages.entries ∧
        if byBeginning then Text.beginsWith m.key (Text.upper id) = true
        else m.key = Text.upper id) ∧
      (calls.map RevokeCall.message).Nodup ∧ ∀ c ∈ calls, c.link = link) ∧
    (∃ report, run.2 = .ok report ∧
      report.revoked = calls.filterMap RevokeCall.accepted? ∧
      report.errors.Perm (calls.filterMap RevokeCall.refused?) ∧
      (report.revoked ++ report.errors.map Prod.fst).Perm (calls.map RevokeCall.id) ∧
      (report.revoked ++ report.errors.map Prod.fst).Nodup) ∧
    (h.revoke id byBeginning).1.tenant = h.tenant := by
  intro run calls
  have sorted : Cache.Sorted h.tenant.messages.entries := by
    rw [cached]
    exact (Cache.Agrees.empty.run ops).sorted
  have ids : ((h.revocable id byBeginning).map Message.id).Nodup := revocable_ids sorted
  obtain ⟨made, report, messages, own, ran, answer, ⟨revoked, errors⟩⟩ :=
    revokeOn_noting attempt s (Tenant.readyLink_ready ready inUse) ids
  have noted : run = (((h.revokeOn attempt s id byBeginning).1, made), .ok report) := ran
  have tried : calls = made := congrArg (·.1.2) noted
  have named : made.map RevokeCall.id = (h.revocable id byBeginning).map Message.id := by
    rw [← messages, List.map_map]
    rfl
  have all : (report.revoked ++ report.errors.map Prod.fst).Perm (made.map RevokeCall.id) := by
    rw [revoked]
    exact ((errors.map Prod.fst).append_left _).trans (RevokeCall.split_perm made)
  rw [noted, tried]
  refine ⟨Prod.ext rfl answer, ⟨?_, ?_, own⟩, ⟨report, rfl, revoked, errors, all, ?_⟩, ?_⟩
  · intro m
    rw [messages]
    exact mem_revocable sorted
  · rw [messages]
    exact ids.of_map _
  · rw [all.nodup_iff, named]
    exact ids
  · exact revoke_keeps (P := fun h' => h'.tenant = h.tenant) rfl fun _ _ _ _ same => same

/-- Three messages begin alike, in either case, and the session refuses the second. The cache has a
fourth, which is not touched. -/
theorem second_is_refused :
    let m := fun id : String =>
      ({ id := id, timestamp := ⟨5, 0⟩, kind := .text, chat := ⟨"1@s.whatsapp.net", ""⟩ } :
        Message)
    let settings : Settings := {}
    let ops : List Cache.Op := [.put (m "b1"), .put (m "a3"), .put (m "A2"), .put (m "a1")]
    let h : Hosted :=
      { tenant := { Tenant.ofProfile settings (.fresh "tok" .epoch) false with
          status := .ready
          link := some 0
          messages := Cache.Messages.run {} ops }
        host := { settings := settings, office := ⟨""⟩, hub := {}, clock := ⟨.epoch⟩ } }
    let attempt := fun (_ : Session.LinkId) (_ : Message) (tries : Nat) =>
      (tries + 1, if tries = 1 then .error (.unavailable "too old") else .ok ())
    (h.revokeOn (RevokeReport.noting attempt) (0, []) "a" true).1.2.map RevokeCall.message =
        [m "a1", m "A2", m "a3"] ∧
      ∃ report, h.revokeOn attempt 0 "a" true = (3, .ok report) ∧
        report.revoked = ["a1", "a3"] ∧
        report.errors = [("A2", (Failure.unavailable "too old").display)] ∧
        (h.revoke "a" true).1.tenant = h.tenant := by
  intro m settings ops h attempt
  have reached : h.tenant.messages = Cache.Messages.run {} ops := by dsimp only [h]
  obtain ⟨plain, _, ⟨report, answer, revoked, errors, _⟩, kept⟩ :=
    revocation_accounts_for_all attempt 0 (h := h) rfl rfl reached "a" true
  have told : ((h.revokeOn (RevokeReport.noting attempt) (0, []) "a" true).1.2.filterMap
        RevokeCall.accepted? = ["a1", "a3"] ∧
      (h.revokeOn (RevokeReport.noting attempt) (0, []) "a" true).1.2.filterMap
        RevokeCall.refused? = [("A2", (Failure.unavailable "too old").display)]) ∧
      (h.revokeOn (RevokeReport.noting attempt) (0, []) "a" true).1.1 = 3 := by decide +kernel
  obtain ⟨⟨accepted, refused⟩, tries⟩ := told
  refine ⟨by decide +kernel, report, ?_, revoked.trans accepted,
    List.perm_singleton.mp (errors.trans (List.Perm.of_eq refused)), kept⟩
  exact plain.trans (congrArg₂ Prod.mk tries answer)

end Hosted

end ChatGateway

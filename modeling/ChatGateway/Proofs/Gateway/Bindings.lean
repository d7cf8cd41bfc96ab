import ChatGateway.Proofs.Gateway.Pushing

/-!
The tenants that push connections are bound to. A client is bound to a token at its own request,
while the tenant is loaded, and stays bound until the connection is closed, whatever becomes of the
tenant. So connections may be bound to tenants that are no longer there, and a tenant made anew
under an old token finds the connections of the old one.
-/

namespace ChatGateway.Gateway

open Push (ConnectionId Traffic)

/-- What the clients of push connections do. -/
inductive Contact where
  | connect (id : ConnectionId)
  | disconnect (id : ConnectionId)
  | inbound (id : ConnectionId) (raw : String)
  | read (id : ConnectionId)
  | drain (id : ConnectionId)
  | stopListening (id : ConnectionId)
  | abandon (id : ConnectionId)

/-- What happens at the hub: the tokens known are those of the loaded tenants. -/
def Contact.event (g : Gateway) : Contact → Traffic.Event
  | connect id => .connect id
  | disconnect id => .disconnect id
  | inbound id raw => .inbound id raw g.has
  | read id => .read id
  | drain id => .drain id
  | stopListening id => .stopListening id
  | abandon id => .abandon id

/-- One thing that happens at a gateway with its push connections. -/
inductive Happening where
  | act (a : Action)
  | work (token id : String) (s : Hosted.WorkerStep)
  | contact (c : Contact)

def Happening.opens : Happening → Option ConnectionId
  | contact (.connect id) => some id
  | _ => none

def occur (g : Gateway) : Happening → Gateway
  | .act a => g.act a
  | .work token id s => (g.withTenant token fun h => (h.work id s, .ok ())).1
  | .contact c => { g with host := { g.host with hub := Traffic.move g.host.hub (c.event g) } }

def elapse (g : Gateway) (happenings : List Happening) : Gateway := happenings.foldl occur g

/-- A client asks to be bound to the token of a loaded tenant. -/
def Grants (g : Gateway) (id : ConnectionId) (token : String) : Happening → Prop
  | .contact (.inbound client raw) =>
    client = id ∧ Push.bindRequest raw = .ok token ∧ g.has token = true
  | _ => False

theorem Grants.has {g : Gateway} {id : ConnectionId} {token : String} {h : Happening}
    (granted : g.Grants id token h) : g.has token = true := by
  unfold Grants at granted
  split at granted
  · exact granted.2.2
  · cases granted

/-- The connection is closed, by itself or with all that are open. -/
def Closes (g : Gateway) (id : ConnectionId) : Happening → Prop
  | .contact (.disconnect client) => client = id
  | .act .shutdown => g.host.hub.pool.isRegistered id = true
  | _ => False

/-- Whether a connection is bound to a token. -/
def Bound (g : Gateway) (id : ConnectionId) (token : String) : Prop :=
  id ∈ g.host.hub.pool.boundTo token

instance (g : Gateway) (id : ConnectionId) (token : String) : Decidable (g.Bound id token) :=
  inferInstanceAs (Decidable (id ∈ _))

/-- The hub of the gateway is as what was written down has it. -/
structure Traced (t : Traffic) (settings : PushSettings) (g : Gateway) : Prop where
  sound : t.Sound settings
  hub : t.hub = g.host.hub

namespace Traced

variable {t : Traffic} {settings : PushSettings} {g : Gateway}

theorem bound (traced : Traced t settings g) (id : ConnectionId) (token : String) :
    g.Bound id token ↔ (id, token) ∈ t.granted := by
  rw [Bound, ← traced.hub]
  exact traced.sound.pool.bound id token

theorem start (empty : g.host.hub = { settings := settings }) :
    Traced { hub := { settings := settings } } settings g :=
  ⟨.start settings, empty.symm⟩

end Traced

/-- What happened is written down. -/
structure Noted (g : Gateway) (h : Happening) (t t' : Traffic) : Prop where
  opened : t'.opened = t.opened ++ h.opens.toList
  granted : ∀ id token, (id, token) ∈ t'.granted ↔
    g.Grants id token h ∨ (id, token) ∈ t.granted ∧ ¬g.Closes id h

theorem note_granted (t : Traffic) (g : Gateway) (c : Contact) (id : ConnectionId)
    (token : String) :
    (id, token) ∈ (t.note (c.event g)).granted ↔
      g.Grants id token (.contact c) ∨ (id, token) ∈ t.granted ∧ ¬g.Closes id (.contact c) := by
  cases c with
  | disconnect client =>
      have turned : client = id ↔ id = client := ⟨Eq.symm, Eq.symm⟩
      simp [Contact.event, Traffic.note, Grants, Closes, turned]
  | inbound client raw =>
      have turned : client = id ↔ id = client := ⟨Eq.symm, Eq.symm⟩
      simp only [Contact.event, Traffic.note, Grants, Closes, not_false_eq_true, and_true, turned]
      cases Push.bindRequest raw with
      | error fault => simp
      | ok asked =>
          have same : asked = token ↔ token = asked := ⟨Eq.symm, Eq.symm⟩
          simp only [Except.ok.injEq, same]
          cases known : g.has asked with
          | false =>
              have unknown : ¬(token = asked ∧ g.has token = true) := by
                rintro ⟨rfl, here⟩
                cases known.symm.trans here
              simp [unknown]
          | true =>
              have here : token = asked → g.has token = true := fun own => own ▸ known
              simp only [if_true, Traffic.grant, List.mem_insert_iff, Prod.mk.injEq]
              tauto
  | _ => simp [Contact.event, Traffic.note, Traffic.leave, Grants, Closes]

theorem contact_noted (t : Traffic) (g : Gateway) (c : Contact) :
    g.Noted (.contact c) t (t.step (c.event g)) := by
  refine ⟨?_, note_granted t g c⟩
  have opened := t.note_opened (c.event g)
  cases c with
  | connect id => exact opened
  | _ => exact opened

theorem closeAll_noted {t : Traffic} {g : Gateway} {settings : PushSettings}
    (traced : Traced t settings g) : g.Noted (.act .shutdown) t (t.step .closeAll) := by
  refine ⟨(List.append_nil _).symm, fun id token => ?_⟩
  have registered : g.Closes id (.act .shutdown) ↔ id ∈ t.connected := by
    rw [Closes, ← traced.hub, Push.Pool.isRegistered, traced.sound.connected]
    exact List.contains_iff_mem
  rw [registered]
  simp [Traffic.step, Traffic.note, Grants]

theorem served_noted {t : Traffic} {g g' : Gateway} {h : Happening} {settings : PushSettings}
    (traced : Traced t settings g) (serves : g.Serves g')
    (apart : ∀ id token, ¬g.Grants id token h ∧ ¬g.Closes id h) (opens : h.opens = none) :
    ∃ t', Traced t' settings g' ∧ g.Noted h t t' := by
  obtain ⟨sound, hub⟩ := traced
  obtain ⟨t', sound', hub', opened, granted⟩ := sound.fed (hub ▸ serves.fed)
  refine ⟨t', ⟨sound', hub'⟩, by simp [opened, opens], fun id token => ?_⟩
  simp [granted, apart id token]

/-- Whatever happens at the gateway can be written down at its hub. -/
theorem Traced.occur {t : Traffic} {g : Gateway} {settings : PushSettings}
    (traced : Traced t settings g) {h : Happening} (fresh : ∀ id ∈ h.opens, id ∉ t.opened) :
    ∃ t', Traced t' settings (g.occur h) ∧ g.Noted h t t' := by
  cases h with
  | work token id s =>
      exact served_noted traced (.work g token id s) (fun _ _ => ⟨not_false, not_false⟩) rfl
  | contact c =>
      have hub : (t.step (c.event g)).hub = (g.occur (.contact c)).host.hub :=
        congrArg (Traffic.move · (c.event g)) traced.hub
      refine ⟨_, ⟨traced.sound.step _ fun id opens => fresh id ?_, hub⟩, contact_noted t g c⟩
      cases c <;> exact opens
  | act a =>
      by_cases down : a = .shutdown
      · subst down
        have hub : (t.step .closeAll).hub = g.shutdown.host.hub :=
          (congrArg Push.Hub.closeAll traced.hub).trans g.shutdown_hub.symm
        exact ⟨_, ⟨traced.sound.closeAll, hub⟩, closeAll_noted traced⟩
      · have closes : ∀ id, ¬g.Closes id (.act a) := by
          cases a with
          | shutdown => exact absurd rfl down
          | _ => exact fun _ => not_false
        by_cases deletes : ∃ token, a = .delete token
        · obtain ⟨token, rfl⟩ := deletes
          refine ⟨t, ⟨traced.sound, traced.hub.trans (g.delete_hub token).symm⟩, ?_, ?_⟩
          · exact (List.append_nil _).symm
          · exact fun id token => by simp [Grants, closes id]
        · exact served_noted traced (.act g (fun token same => deletes ⟨token, same⟩) down)
            (fun id _ => ⟨not_false, closes id⟩) rfl

/-- An id is new when it is used, and those used later are new after that. -/
theorem fresh_cons {opened : List ConnectionId} {h : Happening} {rest : List Happening}
    (fresh : (opened ++ (h :: rest).filterMap Happening.opens).Nodup) :
    (∀ id ∈ h.opens, id ∉ opened) ∧
      (opened ++ h.opens.toList ++ rest.filterMap Happening.opens).Nodup := by
  have parts : (h :: rest).filterMap Happening.opens =
      h.opens.toList ++ rest.filterMap Happening.opens := by
    cases opens : h.opens <;> simp [opens]
  rw [parts, ← List.append_assoc] at fresh
  refine ⟨fun id new old => ?_, fresh⟩
  have apart := (List.nodup_append.mp (List.nodup_append.mp fresh).1).2.2
  exact apart id old id (Option.mem_toList.mpr new) rfl

theorem Traced.elapse {t : Traffic} {g : Gateway} {settings : PushSettings}
    (traced : Traced t settings g) {happenings : List Happening}
    (fresh : (t.opened ++ happenings.filterMap Happening.opens).Nodup) :
    ∃ t', Traced t' settings (g.elapse happenings) := by
  induction happenings generalizing g t with
  | nil => exact ⟨t, traced⟩
  | cons h rest ih =>
      obtain ⟨now, later⟩ := fresh_cons fresh
      obtain ⟨t', traced', noted⟩ := traced.occur now
      exact ih traced' (noted.opened ▸ later)

/-- The connection is not closed in a course. -/
def Lasts (g : Gateway) (id : ConnectionId) : List Happening → Prop
  | [] => True
  | h :: rest => ¬g.Closes id h ∧ (g.occur h).Lasts id rest

/-- Every token that a connection is bound to is that of a loaded tenant. -/
def Sane (g : Gateway) : Prop := ∀ id token, g.Bound id token → g.has token = true

/-- A tenant is taken out while a connection stays bound to it. -/
def Strands (g : Gateway) : Happening → Prop
  | .act (.delete token) => ∃ id, g.Bound id token
  | .act .shutdown => ∃ id token, g.Bound id token ∧ ¬g.host.hub.pool.isRegistered id = true
  | _ => False

section Steps

variable {t : Traffic} {g : Gateway} {settings : PushSettings} {h : Happening}

theorem occur_bound (traced : Traced t settings g) (fresh : ∀ id ∈ h.opens, id ∉ t.opened)
    (id : ConnectionId) (token : String) :
    (g.occur h).Bound id token ↔ g.Grants id token h ∨ g.Bound id token ∧ ¬g.Closes id h := by
  obtain ⟨t', traced', noted⟩ := traced.occur fresh
  rw [traced'.bound, traced.bound, noted.granted]

/-- A connection is bound at the end of a course if it was at the beginning or came to be since,
and was not closed after that. -/
theorem elapse_bound (traced : Traced t settings g) {happenings : List Happening}
    (fresh : (t.opened ++ happenings.filterMap Happening.opens).Nodup) (id : ConnectionId)
    (token : String) :
    (g.elapse happenings).Bound id token ↔
      g.Bound id token ∧ g.Lasts id happenings ∨
      ∃ past h rest, happenings = past ++ h :: rest ∧ (g.elapse past).Grants id token h ∧
        ((g.elapse past).occur h).Lasts id rest := by
  induction happenings generalizing g t with
  | nil => simp [elapse, Lasts]
  | cons first later ih =>
      obtain ⟨now, after⟩ := fresh_cons fresh
      obtain ⟨t', traced', noted⟩ := traced.occur now
      have last := ih traced' (noted.opened ▸ after)
      rw [occur_bound traced now] at last
      change (g.elapse (first :: later)).Bound id token ↔ _ at last
      rw [last]
      constructor
      · rintro (⟨granted | ⟨bound, stays⟩, lasts⟩ | ⟨past, h, rest, rfl, granted, lasts⟩)
        · exact Or.inr ⟨[], first, later, rfl, granted, lasts⟩
        · exact Or.inl ⟨bound, stays, lasts⟩
        · exact Or.inr ⟨first :: past, h, rest, rfl, granted, lasts⟩
      · rintro (⟨bound, stays, lasts⟩ | ⟨past, h, rest, split, granted, lasts⟩)
        · exact Or.inl ⟨Or.inr ⟨bound, stays⟩, lasts⟩
        · cases past with
          | nil =>
              obtain ⟨rfl, rfl⟩ := List.cons_eq_cons.mp split
              exact Or.inl ⟨Or.inl granted, lasts⟩
          | cons first' past =>
              obtain ⟨rfl, rfl⟩ := List.cons_eq_cons.mp split
              exact Or.inr ⟨past, h, rest, rfl, granted, lasts⟩

theorem occur_has (stays : ∀ token, h ≠ .act (.delete token)) (up : h ≠ .act .shutdown)
    {token : String} (here : g.has token = true) : (g.occur h).has token = true := by
  cases h with
  | act a =>
      refine (Serves.act g ?_ ?_).loaded token here
      · exact fun other same => stays other (congrArg _ same)
      · exact fun same => up (congrArg _ same)
  | work other id s => exact (Serves.work g other id s).loaded token here
  | contact c => exact here

theorem shutdown_sane (traced : Traced t settings g) :
    (g.occur (.act .shutdown)).Sane ↔ ¬g.Strands (.act .shutdown) := by
  have bound := occur_bound traced (h := .act .shutdown) fun _ opens => by cases opens
  constructor
  · rintro after ⟨id, token, before, unregistered⟩
    cases after id token ((bound id token).mpr (Or.inr ⟨before, unregistered⟩))
  · intro closed id token there
    rcases (bound id token).mp there with granted | ⟨before, open_⟩
    · cases granted
    · exact absurd ⟨id, token, before, open_⟩ closed

theorem delete_sane (sane : g.Sane) (token : String) :
    (g.occur (.act (.delete token))).Sane ↔ ¬g.Strands (.act (.delete token)) := by
  have bound : ∀ id other,
      (g.occur (.act (.delete token))).Bound id other ↔ g.Bound id other := by
    intro id other
    rw [Bound, Bound, occur, act, delete_hub]
  constructor
  · rintro after ⟨id, there⟩
    have gone := after id token ((bound id token).mpr there)
    rw [occur, act, delete_has, bne_self_eq_false, Bool.and_false] at gone
    cases gone
  · intro unbound id other there
    have before := (bound id other).mp there
    rw [occur, act, delete_has, sane id other before, Bool.true_and, bne_iff_ne]
    rintro rfl
    exact unbound ⟨id, before⟩

theorem occur_sane (traced : Traced t settings g) (fresh : ∀ id ∈ h.opens, id ∉ t.opened)
    (sane : g.Sane) : (g.occur h).Sane ↔ ¬g.Strands h := by
  by_cases down : h = .act .shutdown
  · subst down
    exact shutdown_sane traced
  by_cases deletes : ∃ token, h = .act (.delete token)
  · obtain ⟨token, rfl⟩ := deletes
    exact delete_sane sane token
  · have quiet : ¬g.Strands h := by
      cases h with
      | act a =>
          cases a with
          | delete token => exact absurd ⟨token, rfl⟩ deletes
          | shutdown => exact absurd rfl down
          | _ => exact not_false
      | _ => exact not_false
    refine iff_of_true ?_ quiet
    intro id token bound
    have stays := fun token same => deletes ⟨token, same⟩
    rcases (occur_bound traced fresh id token).mp bound with granted | ⟨before, -⟩
    · exact occur_has stays down granted.has
    · exact occur_has stays down (sane id token before)

theorem elapse_sane (traced : Traced t settings g) {happenings : List Happening}
    (fresh : (t.opened ++ happenings.filterMap Happening.opens).Nodup) (sane : g.Sane) :
    (∀ past, past <+: happenings → (g.elapse past).Sane) ↔
      ∀ past h rest, happenings = past ++ h :: rest → ¬(g.elapse past).Strands h := by
  induction happenings generalizing g t with
  | nil =>
      refine iff_of_true (fun past begins => ?_) (fun past h rest split => by simp at split)
      rw [List.prefix_nil.mp begins]
      exact sane
  | cons first later ih =>
      obtain ⟨now, after⟩ := fresh_cons fresh
      obtain ⟨t', traced', noted⟩ := traced.occur now
      have step := occur_sane traced now sane
      constructor
      · intro always past h rest split
        have next : (g.occur first).Sane := always [first] ⟨later, rfl⟩
        cases past with
        | nil =>
            obtain ⟨rfl, -⟩ := List.cons_eq_cons.mp split
            exact step.mp next
        | cons first' past =>
            obtain ⟨rfl, same⟩ := List.cons_eq_cons.mp (split.trans (List.cons_append ..))
            have rest_sane := fun past begins =>
              always (first :: past) (List.cons_prefix_cons.mpr ⟨rfl, begins⟩)
            exact (ih traced' (noted.opened ▸ after) next).mp rest_sane past h rest same
      · intro never past begins
        have next := step.mpr (never [] first later rfl)
        cases past with
        | nil => exact sane
        | cons first' past =>
            obtain ⟨rfl, rest_begins⟩ := List.cons_prefix_cons.mp begins
            have rest_never := fun past h rest split =>
              never (first' :: past) h rest (congrArg (first' :: ·) split)
            exact (ih traced' (noted.opened ▸ after) next).mpr rest_never past rest_begins

end Steps

/-- Tenants come and go, and so do push connections, which clients bind at their own request. A
connection is bound to a token if it asked for it while the tenant was loaded, and was not closed
since; that the tenant was deleted, or made anew, is no matter. So all connections are bound to
loaded tenants, throughout, if and only if no tenant is taken out while a connection stays bound to
it; and a record goes to the registered connections bound to its token, and to no others. -/
theorem bindings_last_until_closed {g : Gateway} {settings : PushSettings}
    (empty : g.host.hub = { settings := settings }) {happenings : List Happening}
    (fresh : (happenings.filterMap Happening.opens).Nodup) :
    let after := g.elapse happenings
    (∀ id token, token ∈ after.host.hub.pool.tokens id ↔ after.Bound id token) ∧
    (∀ id token, after.Bound id token ↔
      ∃ past h rest, happenings = past ++ h :: rest ∧ (g.elapse past).Grants id token h ∧
        ((g.elapse past).occur h).Lasts id rest) ∧
    ((∀ past, past <+: happenings → (g.elapse past).Sane) ↔
      ∀ past h rest, happenings = past ++ h :: rest → ¬(g.elapse past).Strands h) ∧
    ∀ token m, after.host.hub.PushesTo token m := by
  intro after
  have start : Traced { hub := { settings := settings } } settings g := .start empty
  have none : ∀ id token, ¬g.Bound id token := fun id token bound =>
    List.not_mem_nil ((start.bound id token).mp bound)
  obtain ⟨t, traced⟩ := start.elapse fresh
  refine ⟨fun id token => ?_, fun id token => ?_, ?_, fun token m => ?_⟩
  · rw [traced.bound, ← traced.hub]
    exact traced.sound.pool.tokens id token
  · rw [elapse_bound start fresh]
    exact or_iff_right fun bound => none id token bound.1
  · exact elapse_sane start fresh fun id token bound => absurd bound (none id token)
  · have registered := traced.sound.connected
    rw [← traced.hub]
    exact Push.Hub.pushes_to token m (traced.sound.pool.once token) traced.sound.distinct
      fun id member => traced.sound.reachable id (registered ▸ member)

/-- A client is bound to a tenant that is then deleted. -/
def deserted : List Happening :=
  [.act (.pair "tok" "1@s.whatsapp.net"), .contact (.connect 0),
    .contact (.inbound 0 "\x7b\"token\":\"tok\"\x7d"), .act (.delete "tok")]

/-- The deleted tenant leaves its connection bound, and the new one has its record pushed there. -/
theorem connection_outlives_tenant :
    let host : Host := { settings := {}, office := ⟨""⟩, hub := {}, clock := ⟨.epoch⟩ }
    let g := elapse { host := host } deserted
    let m : Message :=
      { id := "a", timestamp := ⟨1, 0⟩, kind := .text, chat := ⟨"2@s.whatsapp.net", ""⟩ }
    let anew := g.elapse [.act (.pair "tok" "1@s.whatsapp.net")]
    let later := anew.elapse [.act (.atTenant "tok" (.event (.message m)))]
    g.Bound 0 "tok" ∧ g.has "tok" = false ∧ ¬g.Sane ∧
      anew.has "tok" = true ∧ (anew.host.hub.waiting 0).countP Push.Frame.isRecord = 0 ∧
      (later.host.hub.waiting 0).countP Push.Frame.isRecord = 1 := by
  intro host g m anew later
  have bound : g.Bound 0 "tok" := by decide +kernel
  have gone : g.has "tok" = false := by decide +kernel
  refine ⟨bound, gone, fun sane => ?_, ?_, ?_, ?_⟩
  · cases gone.symm.trans (sane 0 "tok" bound)
  · decide +kernel
  · decide +kernel
  · decide +kernel

/-- Nothing but the deletion takes the tenant from the connection bound to it. -/
theorem deletion_strands_connection :
    let host : Host := { settings := {}, office := ⟨""⟩, hub := {}, clock := ⟨.epoch⟩ }
    let g : Gateway := { host := host }
    (deserted.filterMap Happening.opens).Nodup ∧
      (∀ past, past <+: deserted.dropLast → (g.elapse past).Sane) ∧
      ¬∀ past, past <+: deserted → (g.elapse past).Sane := by
  intro host g
  have fresh : (deserted.filterMap Happening.opens).Nodup := by decide
  have fresh' : (deserted.dropLast.filterMap Happening.opens).Nodup := by decide
  have until_then := (bindings_last_until_closed (g := g) rfl fresh').2.2.1
  have told := (bindings_last_until_closed (g := g) rfl fresh).2.2.1
  refine ⟨fresh, until_then.mpr fun past h rest split => ?_, fun always => ?_⟩
  · have member : h ∈ deserted.dropLast := split ▸ List.mem_append_right past List.mem_cons_self
    simp only [deserted, List.dropLast, List.mem_cons, List.not_mem_nil, or_false] at member
    rcases member with rfl | rfl | rfl <;> exact not_false
  · exact told.mp always deserted.dropLast (.act (.delete "tok")) [] rfl ⟨0, by decide +kernel⟩

end ChatGateway.Gateway

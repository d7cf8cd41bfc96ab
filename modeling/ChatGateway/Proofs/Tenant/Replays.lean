import ChatGateway.Proofs.Cache.Newest
import ChatGateway.Proofs.Tenant.Changes

namespace ChatGateway

namespace Cache

/-- A cache in good order, within the bound if there is one. -/
structure Tidy (max : Nat) (c : Messages) : Prop where
  agrees : ∃ t, Agrees c t
  within : max ≠ 0 → c.entries.length ≤ max

/-- The cache is full without the message, and all it holds is later. -/
structure Crowded (max : Nat) (c : Messages) (m : Message) : Prop where
  bounded : 0 < max
  full : c.entries.length = max
  absent : c.get? m.id = none
  later : ∀ e ∈ c.entries, m.earlier e = true

namespace Tidy

variable {max : Nat} {c : Messages}

theorem empty (max : Nat) : Tidy max {} := ⟨⟨∅, Agrees.empty⟩, fun _ => Nat.zero_le max⟩

theorem keep (tidy : Tidy max c) (m : Message) : Tidy max ((c.put m).1.cleanUp max).1 := by
  obtain ⟨t, agrees⟩ := tidy.agrees
  have cleaned := ((agrees.put m).cleanUp max).1
  refine ⟨⟨_, cleaned⟩, fun bounded => ?_⟩
  have card := ((agrees.put m).cleanUp_newest (Nat.pos_of_ne_zero bounded)).card
  rw [List.toFinset_card_of_nodup cleaned.nodup] at card
  omega

theorem delete (tidy : Tidy max c) (id : String) : Tidy max (c.delete id).1 := by
  obtain ⟨t, agrees⟩ := tidy.agrees
  refine ⟨⟨_, (agrees.deleteKey _).1⟩, fun bounded => ?_⟩
  rw [Messages.delete, Messages.deleteKey_entries]
  exact (List.length_filter_le _ _).trans (tidy.within bounded)

end Tidy

/-- A message that was just put in is given up once too many of the others are later. -/
theorem Agrees.find?_kept {c : Messages} {t : Table} (agrees : Agrees c t) (max : Nat)
    (m : Message) :
    Keyed.find? Message.key m.key ((c.put m).1.cleanUp max).1.entries =
      if max ≠ 0 ∧
        max ≤ ((Keyed.erase Message.key m.key c.entries).filter (m.earlier ·)).length
      then none else some m := by
  have after : (Table.after (t.insert m.key m) m).card =
      ((Keyed.erase Message.key m.key c.entries).filter (m.earlier ·)).length := by
    have listed := ((agrees.put m).lists_filter (m.earlier ·)).card
    have perm := (Messages.insert_perm (m := m) agrees.sorted).filter (m.earlier ·)
    rw [List.filter_cons_of_neg (by simp [Message.earlier_irrefl])] at perm
    rw [← perm.length_eq, ← Messages.put_entries]
    exact listed
  rw [((agrees.put m).cleanUp max).1.find?, Table.cleanUp]
  by_cases bounded : max = 0
  · rw [if_pos bounded, if_neg fun crowded => crowded.1 bounded, Finmap.lookup_insert]
  · rw [if_neg bounded, Table.lookup_keep, Finmap.lookup_insert, Option.filter_some, after]
    by_cases room : ((Keyed.erase Message.key m.key c.entries).filter (m.earlier ·)).length < max
    · rw [if_pos (decide_eq_true room),
        if_neg fun crowded => absurd crowded.2 (Nat.not_le.mpr room)]
    · rw [if_neg (by simpa using room), if_pos ⟨bounded, Nat.not_lt.mp room⟩]

/-- Only a crowded cache has nothing left that would tell a message by a mark of its own. -/
theorem Tidy.crowded_iff {max : Nat} {c : Messages} (tidy : Tidy max c) {m : Message}
    (mark : Message → Bool) (own : mark m = true) :
    (Keyed.find? Message.key m.key ((c.put m).1.cleanUp max).1.entries).any mark = false ↔
      Crowded max c m := by
  obtain ⟨t, agrees⟩ := tidy.agrees
  rw [agrees.find?_kept max m]
  constructor
  · intro gone
    split at gone
    · next many =>
      obtain ⟨bounded, many⟩ := many
      have within := tidy.within bounded
      have part : ((Keyed.erase Message.key m.key c.entries).filter (m.earlier ·)).Sublist
          c.entries := List.filter_sublist.trans List.filter_sublist
      have all := part.eq_of_length_le (within.trans many)
      have each : ∀ e ∈ c.entries, e.key ≠ m.key ∧ m.earlier e = true := by
        intro e member
        rw [← all] at member
        obtain ⟨other, later⟩ := List.mem_filter.mp member
        exact ⟨(Keyed.mem_erase.mp other).2, later⟩
      rw [all] at many
      exact ⟨Nat.pos_of_ne_zero bounded, Nat.le_antisymm within many,
        Keyed.find?_eq_none.mpr fun e member => (each e member).1,
        fun e member => (each e member).2⟩
    · rw [Option.any_some, own] at gone
      cases gone
  · intro crowded
    rw [if_pos]
    · rfl
    · have others := Keyed.erase_of_absent (k := m.key) crowded.absent
      rw [others, List.filter_eq_self.mpr crowded.later]
      exact ⟨Nat.ne_of_gt crowded.bounded, Nat.le_of_eq crowded.full.symm⟩

theorem Crowded.of_bare {max : Nat} {c : Messages} {a b : Message} (crowded : Crowded max c a)
    (same : a.bare = b.bare) : Crowded max c b := by
  obtain ⟨id, timestamp, _⟩ := Message.agree_of_bare same
  have absent := crowded.absent
  rw [id] at absent
  refine ⟨crowded.bounded, crowded.full, absent, fun e member => ?_⟩
  have later := crowded.later e member
  rwa [Message.earlier, timestamp, Message.key_eq_of_bare same] at later

end Cache

namespace Hosted

/-- The cache of the tenant is in good order, within the bound of the settings. -/
abbrev Tidy (h : Hosted) : Prop :=
  Cache.Tidy h.host.settings.cache.maxMessages h.tenant.messages

theorem Turn.tidy {h h' : Hosted} (turn : Turn h h') (tidy : h.Tidy) : h'.Tidy := by
  rw [Tidy, turn.settings]
  cases turn with
  | keep m => exact tidy.keep m
  | forget id => exact tidy.delete id
  | hangUp => exact h.dropLink_eq ▸ tidy
  | start =>
      rcases h.start_eq with same | ⟨exchange, link, _, opened⟩
      · rwa [same]
      · rwa [opened]
  | _ => exact tidy

theorem Turns.tidy {h h' : Hosted} (turns : Turns h h') (tidy : h.Tidy) : h'.Tidy := by
  induction turns with
  | refl => exact tidy
  | tail _ turn ih => exact turn.tidy ih

theorem act_tidy {h : Hosted} (a : Action) (tidy : h.Tidy) : (h.act a).Tidy := by
  by_cases calm : a.Calm
  · exact (h.act_turns calm).tidy tidy
  · rw [Tidy, act_settings, (h.act_apart calm).1]
    exact tidy

/-- A tenant that runs: loaded with an empty cache, and then acted on in any way and order, while
anything may happen elsewhere at the host. -/
inductive Running : Hosted → Prop
  | loaded (host : Host) (p : Profile) (cancelled : Bool) :
      Running ⟨Tenant.ofProfile host.settings p cancelled, host⟩
  | act {h : Hosted} (a : Action) (before : Running h) : Running (h.act a)
  | setStatus {h : Hosted} (next : TenantStatus) (before : Running h) :
      Running (h.setStatus next).1
  | elsewhere {h : Hosted} (host : Host) (same : host.settings = h.host.settings)
      (before : Running h) : Running ⟨h.tenant, host⟩

theorem Running.tidy {h : Hosted} (running : Running h) : h.Tidy := by
  induction running with
  | loaded host p cancelled => exact .empty _
  | act a before ih => exact act_tidy a ih
  | @setStatus h next before ih =>
      cases allowed : h.tenant.status.allows next with
      | false => rwa [setStatus_refused allowed]
      | true => rwa [setStatus_allowed allowed]
  | elsewhere host same before ih =>
      rw [Tidy, same]
      exact ih

/-- Where repetitions are held back, a record is passed on if what is kept under its key, if
anything, has other content. -/
theorem ingest_answer {h : Hosted} (debounced : h.host.settings.cache.debounceDispatch = true)
    {m : Message} (admitted : h.admits m = true) :
    (h.ingest m).2 =
      !(Keyed.find? Message.key m.key h.tenant.messages.entries).any (·.sameContent m) := by
  have same := h.enriched_bare m
  rw [(h.ingest_admitted admitted).2, Stock.passes,
    show h.stock.settings.debounceDispatch = true from debounced, Cache.Messages.put_answer,
    Message.key_eq_of_bare same]
  simp only [Message.sameContent, Message.content_eq_of_bare same]
  exact Bool.or_false _

theorem replay_answers {h : Hosted} (tidy : h.Tidy)
    (debounced : h.host.settings.cache.debounceDispatch = true) {m m' : Message}
    (admitted : h.admits m = true) (admitted' : h.admits m' = true) (sameKey : m'.key = m.key)
    (sameContent : m'.content = m.content) :
    ((h.ingest m).2 = true ∧ ((h.ingest m).1.ingest m').2 = true) ↔
      Cache.Crowded h.host.settings.cache.maxMessages h.tenant.messages m := by
  have same := h.enriched_bare m
  have settings : (h.ingest m).1.host.settings = h.host.settings := h.act_settings (.ingest m)
  have still : (h.ingest m).1.admits m' = true := by rw [ingest_admits, admitted']
  have messages : (h.ingest m).1.tenant.messages = ((h.tenant.messages.put (h.enriched m)).1.cleanUp
      h.host.settings.cache.maxMessages).1 := by
    have stored := congrArg Stock.messages (h.ingest_admitted admitted).1
    exact stored.trans (Stock.storing_stock _ _).1
  have own : (h.enriched m).sameContent m' = true := by
    simp only [Message.sameContent, Message.content_eq_of_bare same, sameContent, beq_self_eq_true]
  have gone := tidy.crowded_iff (·.sameContent m') own
  rw [ingest_answer debounced admitted, ingest_answer (settings ▸ debounced) still, messages,
    sameKey, ← Message.key_eq_of_bare same, Bool.not_eq_true', Bool.not_eq_true', gone]
  constructor
  · exact fun both => both.2.of_bare same
  · intro crowded
    have there := crowded.of_bare same.symm
    have absent : Keyed.find? Message.key (h.enriched m).key h.tenant.messages.entries = none :=
      there.absent
    exact ⟨by rw [absent, Option.any_none], there⟩

theorem passed_twice_iff (h : Hosted) (m m' : Message) :
    ¬(h.passedOn [m, m']).length ≤ 1 ↔
      (h.ingest m).2 = true ∧ ((h.ingest m).1.ingest m').2 = true := by
  have lengths := congrArg List.length (h.passedOn_bare [m, m'])
  rw [List.length_map, List.length_map, triggered, trail, trail, trail] at lengths
  rw [lengths]
  cases (h.ingest m).2 <;> cases ((h.ingest m).1.ingest m').2 <;> simp

/-- A host where every tenant keeps one message. -/
def narrow : Host where
  settings := { cache := { maxMessages := 1 } }
  office := ⟨""⟩
  hub := {}
  clock := ⟨.epoch⟩

/-- A tenant there that has its message. -/
def filled : Hosted :=
  act ⟨Tenant.ofProfile narrow.settings (.fresh "tok" .epoch) false, narrow⟩ (.ingest
    { id := "b", timestamp := ⟨5, 0⟩, kind := .text, chat := ⟨"1@s.whatsapp.net", ""⟩ })

theorem filled_running : Running filled := .act _ (.loaded narrow _ false)

/-- A message older than the one kept goes on as often as it comes. -/
theorem old_record_goes_on_twice :
    let m : Message :=
      { id := "a", timestamp := ⟨1, 0⟩, kind := .text, chat := ⟨"1@s.whatsapp.net", ""⟩ }
    Running filled ∧ filled.host.settings.cache.debounceDispatch = true ∧
      ((filled.ingest m).2 = true ∧ ((filled.ingest m).1.ingest m).2 = true) ∧
      ¬(filled.passedOn [m, m]).length ≤ 1 := by
  intro m
  have debounced : filled.host.settings.cache.debounceDispatch = true := by decide
  have admitted : filled.admits m = true := by decide
  have crowded : Cache.Crowded filled.host.settings.cache.maxMessages filled.tenant.messages m :=
    ⟨by decide, by decide, by decide, by decide⟩
  have twice := (replay_answers filled_running.tidy debounced admitted admitted rfl rfl).mpr crowded
  exact ⟨filled_running, debounced, twice, (passed_twice_iff _ _ _).mpr twice⟩

/-- A record comes, and at once another of the same id and content, while repetitions are held
back. Both are passed on exactly when the filters let both in and the cache is full, without a
record of the id, and holds later ones only, so that the first is given up as soon as it is kept.
In all other cases at most one is. -/
theorem replay_goes_on_iff {h : Hosted} (running : Running h)
    (debounced : h.host.settings.cache.debounceDispatch = true) {m m' : Message}
    (sameId : m'.id = m.id) (sameContent : m.sameContent m' = true) :
    let passed := h.passedOn [m, m']
    ([m, m'].foldl (fun h m => (h.ingest m).1) h).stock.outlet =
      ((passed.map Passage.passed).foldl Stock.enter h.stock).outlet ∧
    (¬passed.length ≤ 1 ↔ h.admits m = true ∧ h.admits m' = true ∧
      Cache.Crowded h.host.settings.cache.maxMessages h.tenant.messages m) := by
  intro passed
  refine ⟨h.ingested_outlet [m, m'], ?_⟩
  have content : m'.content = m.content := (eq_of_beq sameContent).symm
  have key : m'.key = m.key := congrArg Message.keyOf sameId
  rw [passed_twice_iff]
  cases admitted : h.admits m with
  | false => simp [ingest_refused h admitted]
  | true =>
      cases admitted' : h.admits m' with
      | false =>
          have refused : (h.ingest m).1.admits m' = false := by rw [ingest_admits, admitted']
          simp [ingest_refused _ refused]
      | true =>
          rw [replay_answers running.tidy debounced admitted admitted' key content]
          simp

/-- A message newer than the one kept stays, and does not go on a second time. -/
theorem new_record_goes_on_once :
    let m : Message :=
      { id := "a", timestamp := ⟨7, 0⟩, kind := .text, chat := ⟨"1@s.whatsapp.net", ""⟩ }
    (filled.passedOn [m, m]).length ≤ 1 := by
  intro m
  have debounced : filled.host.settings.cache.debounceDispatch = true := by decide
  have told := (replay_goes_on_iff (m := m) filled_running debounced rfl
    (beq_self_eq_true m.content)).2
  have room : ¬m.earlier
      { id := "b", timestamp := ⟨5, 0⟩, kind := .text, chat := ⟨"1@s.whatsapp.net", ""⟩ } := by
    decide
  by_contra twice
  exact room ((told.mp twice).2.2.later _ (by decide))

end Hosted

end ChatGateway

import ChatGateway.Proofs.Message.Basic
import ChatGateway.Proofs.Message.Order
import ChatGateway.Proofs.Tenant.Filters
import ChatGateway.Proofs.Tenant.Sending

namespace ChatGateway

/-- The reply `m` came without a preview, and became `r` with one of `replied`. -/
structure Message.Previews (limit : Nat) (m r replied : Message) : Prop where
  reply : m.inReply ≠ ""
  missing : m.synopsis = ""
  named : replied.key = Message.keyOf m.inReply
  filled : r.synopsis = ChatGateway.synopsis replied.text limit

theorem Message.Previews.bounded {limit : Nat} {m r replied : Message}
    (previews : m.Previews limit r replied) :
    r.synopsis.length ≤ limit ↔ replied.text.length ≤ limit ∨ 4 ≤ limit := by
  rw [previews.filled, synopsis_fits_iff]

namespace Hosted

/-- The message as it is brought, or a notice, which replies to nothing. -/
def Cause.Brings : Cause → Message → Prop
  | .event (.message supplied), m => m = supplied
  | .event (.history supplied), m => m ∈ supplied
  | .event _, m => m.inReply = "" ∧ m.synopsis = ""
  | .send supplied, m => m = supplied

/-- The record has the preview it came with, or one of a message that was kept. -/
def Entry.Sourced (limit : Nat) (kept : Message → Prop) (e : Entry) : Prop :=
  ∃ m, e.cause.Brings m ∧ e.passage.record.inReply = m.inReply ∧
    (e.passage.record.synopsis = m.synopsis ∨
      ∃ replied, kept replied ∧ m.Previews limit e.passage.record replied)

theorem Entry.Sourced.mono {limit : Nat} {kept kept' : Message → Prop} {e : Entry}
    (sourced : e.Sourced limit kept) (more : ∀ m, kept m → kept' m) : e.Sourced limit kept' := by
  obtain ⟨m, brought, reply, own | ⟨replied, known, previews⟩⟩ := sourced
  · exact ⟨m, brought, reply, Or.inl own⟩
  · exact ⟨m, brought, reply, Or.inr ⟨replied, more replied known, previews⟩⟩

/-- What is known where an entry is made: what was kept at first, or by an earlier entry. -/
def Known (s : Stock) (front : List Entry) (m : Message) : Prop :=
  m ∈ s.messages.entries ∨ .kept m ∈ front.map Entry.passage

/-- No entry has a preview of anything not known by then. -/
def Traced (s : Stock) (log : List Entry) : Prop :=
  ∀ front e back, log = front ++ e :: back → e.Sourced s.settings.synopsisLength (Known s front)

namespace Traced

variable {s s' : Stock} {log log' : List Entry}

theorem of_held
    (each : ∀ e ∈ log, e.Sourced s.settings.synopsisLength (· ∈ s.messages.entries)) :
    Traced s log := by
  rintro front e back rfl
  exact (each e (List.mem_append_right front List.mem_cons_self)).mono fun _ => Or.inl

theorem nil : Traced s [] := of_held fun _ member => nomatch member

theorem append (first : Traced s log) (later : Traced s' log')
    (explained : Stock.Explains (log.map Entry.passage) s s')
    (settings : s'.settings = s.settings) : Traced s (log ++ log') := by
  intro front e back whole
  rcases List.append_eq_append_iff.mp whole with ⟨mid, rfl, rest⟩ | ⟨mid, split, rest⟩
  -- What the later part found in the cache was there at first, or the first part had put it there.
  · have sourced := later mid e back rest
    rw [settings] at sourced
    refine sourced.mono fun m known => ?_
    rw [Known, List.map_append, List.mem_append]
    rcases known with held | now
    · exact (explained.cached m held).imp_right Or.inl
    · exact Or.inr (Or.inr now)
  · cases mid with
    -- The entry is the first of the later part.
    | nil =>
        rw [List.append_nil] at split
        obtain rfl := split
        have sourced := later [] e back rest.symm
        rw [settings] at sourced
        refine sourced.mono fun m known => ?_
        rcases known with held | now
        · exact explained.cached m held
        · cases now
    | cons x mid =>
        obtain ⟨rfl, rfl⟩ := List.cons.inj rest
        exact first front e mid split

end Traced

theorem trail_traced {α : Type} {step : Hosted → α → Hosted} {note : Hosted → α → List Entry}
    (settings : ∀ h a, (step h a).host.settings = h.host.settings)
    (explained : ∀ h a, Stock.Explains ((note h a).map Entry.passage) h.stock (step h a).stock)
    {items : List α} (each : ∀ h, ∀ a ∈ items, Traced h.stock (note h a)) (h : Hosted) :
    Traced h.stock (trail step note h items) := by
  induction items generalizing h with
  | nil => exact .nil
  | cons a rest ih =>
      have later := ih (fun h a member => each h a (List.mem_cons_of_mem _ member)) (step h a)
      exact (each h a List.mem_cons_self).append later (explained h a)
        (congrArg Settings.cache (settings h a))

theorem withTitle_synopsis (h : Hosted) (m : Message) :
    (h.withTitle m).2.inReply = m.inReply ∧ (h.withTitle m).2.synopsis = m.synopsis := by
  unfold withTitle
  split
  · split <;> exact ⟨rfl, rfl⟩
  · exact ⟨rfl, rfl⟩

theorem withSynopsis_found {h : Hosted} {m replied : Message} (reply : m.inReply ≠ "")
    (missing : m.synopsis = "") (found : h.tenant.messages.get? m.inReply = some replied) :
    (h.withSynopsis m).synopsis = synopsis replied.text h.host.settings.cache.synopsisLength := by
  have lacking : (!m.inReply.isEmpty && m.synopsis.isEmpty) = true := by
    rw [Bool.and_eq_true, Bool.not_eq_true', String.isEmpty_eq_false_iff, String.isEmpty_iff]
    exact ⟨reply, missing⟩
  rw [withSynopsis, if_pos lacking, found]

theorem withSynopsis_other {h : Hosted} {m : Message}
    (other : m.inReply = "" ∨ m.synopsis ≠ "" ∨ h.tenant.messages.get? m.inReply = none) :
    h.withSynopsis m = m := by
  unfold withSynopsis
  split
  · next lacking =>
    rw [Bool.and_eq_true, Bool.not_eq_true', String.isEmpty_eq_false_iff, String.isEmpty_iff]
      at lacking
    rcases other with none | present | unknown
    · exact absurd none lacking.1
    · exact absurd lacking.2 present
    · rw [unknown]
  · rfl

theorem get?_named {h : Hosted} {id : String} {m : Message}
    (found : h.tenant.messages.get? id = some m) :
    m ∈ h.stock.messages.entries ∧ m.key = Message.keyOf id :=
  Keyed.find?_some found

/-- A reply to what is kept gets a preview of it. -/
theorem enriched_previews {h : Hosted} {m replied : Message} (reply : m.inReply ≠ "")
    (missing : m.synopsis = "") (found : h.tenant.messages.get? m.inReply = some replied) :
    m.Previews h.stock.settings.synopsisLength (h.enriched m) replied := by
  obtain ⟨same, own⟩ := h.withTitle_synopsis m
  have stock := h.withTitle_stock m
  have messages : (h.withTitle m).1.tenant.messages = h.tenant.messages :=
    congrArg Stock.messages stock
  have settings : (h.withTitle m).1.host.settings.cache = h.stock.settings :=
    congrArg Stock.settings stock
  refine ⟨reply, missing, (get?_named found).2, ?_⟩
  rw [enriched, withSynopsis_found (same ▸ reply) (own ▸ missing) (by rw [messages, same, found]),
    settings]

theorem enriched_sourced (h : Hosted) (m : Message) :
    (h.enriched m).synopsis = m.synopsis ∨ ∃ replied, replied ∈ h.stock.messages.entries ∧
      m.Previews h.stock.settings.synopsisLength (h.enriched m) replied := by
  obtain ⟨same, own⟩ := h.withTitle_synopsis m
  have messages : (h.withTitle m).1.tenant.messages = h.tenant.messages :=
    congrArg Stock.messages (h.withTitle_stock m)
  by_cases reply : m.inReply = ""
  · left
    rw [enriched, withSynopsis_other (Or.inl (same.trans reply)), own]
  by_cases missing : m.synopsis = ""
  · cases found : h.tenant.messages.get? m.inReply with
    | none =>
        left
        rw [enriched, withSynopsis_other (Or.inr (Or.inr (by rw [messages, same, found]))), own]
    | some replied =>
        exact Or.inr ⟨replied, (get?_named found).1, enriched_previews reply missing found⟩
  · left
    rw [enriched, withSynopsis_other (Or.inr (Or.inl (own ▸ missing))), own]

theorem ingesting_record {h : Hosted} {m : Message} {item : Passage}
    (member : item ∈ h.ingesting m) : item.record = h.enriched m := by
  unfold ingesting at member
  split at member
  · exact storing_record member
  · cases member

theorem ingesting_traced (h : Hosted) {c : Cause} {m : Message} (brought : c.Brings m) :
    Traced h.stock ((h.ingesting m).map (⟨c, ·⟩)) := by
  refine .of_held fun e member => ?_
  obtain ⟨item, taken, rfl⟩ := List.mem_map.mp member
  have bare := congrArg Message.inReply (h.enriched_bare m)
  have reply : (h.enriched m).inReply = m.inReply := bare
  rw [Entry.Sourced, ingesting_record taken]
  exact ⟨m, brought, reply, h.enriched_sourced m⟩

theorem notices_traced {s : Stock} {c : Cause} {items : List Passage}
    (notices : ∀ item ∈ items, c.Brings item.record) : Traced s (items.map (⟨c, ·⟩)) := by
  refine .of_held fun e member => ?_
  obtain ⟨item, taken, rfl⟩ := List.mem_map.mp member
  exact ⟨item.record, notices item taken, rfl, Or.inl rfl⟩

theorem noted_traced (h : Hosted) (e : Session.Event) : Traced h.stock (h.noted e) := by
  rw [noted]
  cases e with
  | message m => exact h.ingesting_traced rfl
  | history ms =>
      rw [handling]
      split
      · rw [trail_map]
        refine trail_traced (fun h m => (h.ingest_turns m).settings) (fun h m => ?_)
          (fun h m member => ?_) h
        · rw [List.map_map, ingest_stock]
          have passages : (h.ingesting m).map (Entry.passage ∘ (⟨.event (.history ms), ·⟩)) =
              h.ingesting m := List.map_id _
          rw [passages]
          exact .foldl h.stock _
        · exact h.ingesting_traced ((Message.chronological_perm ms).mem_iff.mp member)
      · exact .nil
  | receipt chat ids timestamp =>
      rw [handling]
      split
      · refine notices_traced fun item member => ?_
        rw [List.mem_singleton.mp member]
        exact ⟨rfl, rfl⟩
      · exact .nil
  | call id caller timestamp =>
      rw [handling]
      split
      · exact h.ingesting_traced ⟨rfl, rfl⟩
      · exact .nil
  | loggedOut reason =>
      rw [handling, logoutNotices]
      split
      · refine notices_traced fun item member => ?_
        rw [storing_record member]
        exact ⟨rfl, rfl⟩
      · exact .nil
  | connected wid => exact .nil
  | disconnected reason => exact .nil

theorem send_record {h : Hosted} {m r : Message} (sent : (h.send m).2 = .ok r) :
    r.inReply = m.inReply ∧ r.synopsis = m.synopsis := by
  unfold send at sent
  split at sent
  · cases sent
  · dsimp only at sent
    split at sent
    · cases sent
    · cases sent
      rw [sealed_message]
      exact ⟨rfl, rfl⟩

theorem entries_traced (h : Hosted) (a : Action) : Traced h.stock (h.entries a) := by
  cases a with
  | event e => exact h.noted_traced e
  | ingest m => exact h.noted_traced (.message m)
  | takeEvents =>
      rw [entries]
      split
      · exact .nil
      · exact trail_traced (fun h e => (h.handle_turns e).settings) handle_explained
          (fun h e _ => h.noted_traced e)
          { h with host := { h.host with exchange := _ } }
  | send m =>
      refine .of_held fun e member => ?_
      obtain ⟨item, taken, rfl⟩ := List.mem_map.mp member
      unfold sending at taken
      split at taken
      · cases taken
      · next r sent =>
        obtain ⟨reply, own⟩ := send_record sent
        rw [Entry.Sourced, storing_record taken]
        exact ⟨m, rfl, reply, Or.inl own⟩
  | _ => exact .nil

/-- A text that fits is its own preview, and of a longer one the beginning is kept, with a mark of
four characters: a preview keeps to the limit iff the text does or the limit is at least four. A
reply without a preview that finds its message in the cache gets one of it. Over a run, all that is
kept, queued and pushed was there before or is written down, and all that is written down has the
preview it was brought with, or one that was filled in from a message known by then. -/
theorem previews_outgrow_short_limits (h : Hosted) (actions : List Action) :
    (∀ text limit,
      (text.length ≤ limit → synopsis text limit = text) ∧
      (limit < text.length → ∃ front back : String, text = front ++ back ∧
        front.length = limit - 4 ∧ synopsis text limit = front ++ " ...") ∧
      ((synopsis text limit).length ≤ limit ↔ text.length ≤ limit ∨ 4 ≤ limit)) ∧
    (∀ limit, (∀ text, (synopsis text limit).length ≤ limit) ↔ 4 ≤ limit) ∧
    let limit := h.host.settings.cache.synopsisLength
    let bounded (r replied : Message) :=
      r.synopsis.length ≤ limit ↔ replied.text.length ≤ limit ∨ 4 ≤ limit
    (∀ m replied, m.inReply ≠ "" → m.synopsis = "" →
      h.tenant.messages.get? m.inReply = some replied →
      ∀ item ∈ h.ingesting m, m.Previews limit item.record replied ∧
        bounded item.record replied) ∧
    Stock.Explains ((h.log actions).map Entry.passage) h.stock (h.run actions).stock ∧
    ∀ front e back, h.log actions = front ++ e :: back →
      ∃ m, e.cause.Brings m ∧ e.passage.record.inReply = m.inReply ∧
        (e.passage.record.synopsis = m.synopsis ∨
          ∃ replied, (replied ∈ h.tenant.messages.entries ∨
              .kept replied ∈ front.map Entry.passage) ∧
            m.Previews limit e.passage.record replied ∧ bounded e.passage.record replied) := by
  refine ⟨fun text limit => ⟨synopsis_whole, fun long => ?_, synopsis_fits_iff text limit⟩,
    fun limit => ?_, fun m replied reply missing found item taken => ?_,
    trail_explained act_explained h actions, fun front e back whole => ?_⟩
  · refine ⟨_, String.ofList (text.toList.drop (limit - 4)), ?_, ?_, synopsis_cut long⟩
    · rw [← String.ofList_append, List.take_append_drop, String.ofList_toList]
    · rw [String.length_ofList, List.length_take, String.length_toList]
      omega
  · constructor
    · intro fits
      have long := fits "hello"
      rw [synopsis_fits_iff] at long
      have letters : "hello".length = 5 := by decide
      omega
    · exact fun room text => (synopsis_fits_iff text limit).mpr (Or.inr room)
  · rw [ingesting_record taken]
    have previews := enriched_previews reply missing found
    exact ⟨previews, previews.bounded⟩
  · have traced : Traced h.stock (h.log actions) :=
      trail_traced act_settings act_explained (fun h a _ => h.entries_traced a) h
    obtain ⟨m, brought, reply, own | ⟨replied, known, previews⟩⟩ := traced front e back whole
    · exact ⟨m, brought, reply, Or.inl own⟩
    · exact ⟨m, brought, reply, Or.inr ⟨replied, known, previews, previews.bounded⟩⟩

/-- With three characters allowed, the preview of a longer text is the mark alone: four. -/
theorem mark_alone_is_too_long :
    let settings : Settings := { cache := { synopsisLength := 3 } }
    let host : Host := { settings := settings, office := ⟨""⟩, hub := {}, clock := ⟨.epoch⟩ }
    let chat : Chat := ⟨"1@s.whatsapp.net", ""⟩
    let m : Message :=
      { id := "a", timestamp := ⟨1, 0⟩, kind := .text, chat := chat, text := "hello" }
    let reply : Message := { m with id := "b", text := "hi", inReply := "A" }
    let tenant := Tenant.ofProfile settings (.fresh "tok" .epoch) false
    let h : Hosted := ⟨{ tenant with messages := ⟨[m], 1⟩ }, host⟩
    ∃ item ∈ h.ingesting reply, item.record.synopsis = " ..." ∧
      3 < item.record.synopsis.length := by
  intro settings host chat m reply tenant h
  obtain ⟨_, _, given, _⟩ := h.previews_outgrow_short_limits []
  have admitted : h.admits reply = true := by decide
  have found : h.tenant.messages.get? reply.inReply = some m := by decide
  obtain ⟨item, taken⟩ : ∃ item, item ∈ h.ingesting reply := by
    rw [ingesting, if_pos admitted]
    exact ⟨_, List.mem_cons_self⟩
  obtain ⟨previews, bounded⟩ := given reply m (by decide) rfl found item taken
  have cut : synopsis "hello" 3 = " ..." := by decide
  have long : ¬item.record.synopsis.length ≤ 3 := fun fits =>
    absurd (bounded.mp fits) (by decide)
  exact ⟨item, taken, previews.filled.trans cut, not_le.mp long⟩

end Hosted

end ChatGateway

import ChatGateway.Proofs.Cache.Refinement
import ChatGateway.Proofs.Tenant.Entries

namespace ChatGateway

namespace Message

/-- A message apart from what is filled in when it is taken in. -/
def bare (m : Message) : Message := { m with chat := { m.chat with title := "" }, synopsis := "" }

theorem agree_of_bare {a b : Message} (same : a.bare = b.bare) :
    a.id = b.id ∧ a.timestamp = b.timestamp ∧ a.chat.id = b.chat.id ∧ a.content = b.content := by
  simp only [bare, mk.injEq, Chat.mk.injEq] at same
  obtain ⟨id, _, timestamp, kind, ⟨chat, _⟩, _, text, attachment, _, _, edited, _⟩ := same
  exact ⟨id, timestamp, chat, by simp only [content, kind, text, attachment, edited]⟩

theorem key_eq_of_bare {a b : Message} (same : a.bare = b.bare) : a.key = b.key :=
  congrArg keyOf (agree_of_bare same).1

theorem content_eq_of_bare {a b : Message} (same : a.bare = b.bare) : a.content = b.content :=
  (agree_of_bare same).2.2.2

def ofKey (k : String) (ms : List Message) : List Message := ms.filter (·.key == k)

/-- The records that do not have the content of the record just before them. -/
def changesAfter : Option Message → List Message → List Message
  | _, [] => []
  | last, m :: rest =>
    if last.any (·.sameContent m) then changesAfter (some m) rest
    else m :: changesAfter (some m) rest

def changes (ms : List Message) : List Message := changesAfter none ms

/-- Whether a record has other content than the last of its key among those before it. -/
def isNews (past : List Message) (m : Message) : Bool :=
  !(ofKey m.key past).getLast?.any (·.sameContent m)

def news : List Message → List Message → List Message
  | _, [] => []
  | past, m :: rest => (if isNews past m then [m] else []) ++ news (past ++ [m]) rest

theorem ofKey_append (k : String) (front back : List Message) :
    ofKey k (front ++ back) = ofKey k front ++ ofKey k back := List.filter_append ..

theorem ofKey_own (m : Message) (ms : List Message) :
    ofKey m.key (m :: ms) = m :: ofKey m.key ms :=
  List.filter_cons_of_pos (beq_self_eq_true m.key)

theorem ofKey_other {k : String} {m : Message} (other : m.key ≠ k) (ms : List Message) :
    ofKey k (m :: ms) = ofKey k ms :=
  List.filter_cons_of_neg (by simpa using other)

/-- Keys do not meddle with each other. -/
theorem news_ofKey (k : String) (past ms : List Message) :
    ofKey k (news past ms) = changesAfter (ofKey k past).getLast? (ofKey k ms) := by
  induction ms generalizing past with
  | nil => rfl
  | cons m rest ih =>
      rw [news, ofKey_append, ih, ofKey_append]
      by_cases own : m.key = k
      · subst own
        have last : (ofKey m.key past ++ ofKey m.key [m]).getLast? = some m := by
          rw [ofKey_own]
          exact List.getLast?_concat
        rw [last, ofKey_own, changesAfter, isNews]
        cases (ofKey m.key past).getLast?.any (·.sameContent m) with
        | true => rfl
        | false => exact congrArg (· ++ _) (ofKey_own m [])
      · have skipped : ofKey k (if isNews past m then [m] else []) = [] := by
          split
          · exact ofKey_other own []
          · rfl
        have nothing : ofKey k [m] = [] := ofKey_other own []
        rw [skipped, nothing, ofKey_other own, List.append_nil, List.nil_append]

end Message

namespace Cache

theorem Messages.put_answer (c : Messages) (m : Message) :
    (c.put m).2 = !(Keyed.find? Message.key m.key c.entries).any (·.sameContent m) := by
  rw [put]
  cases Keyed.find? Message.key m.key c.entries <;> rfl

/-- Of every key the cache has the content of the record that came last. -/
structure Recalls (past : List Message) (c : Messages) : Prop where
  agrees : ∃ t, Agrees c t
  last : ∀ k, (Keyed.find? Message.key k c.entries).map Message.content =
    (Message.ofKey k past).getLast?.map Message.content

namespace Recalls

theorem empty : Recalls [] {} := ⟨⟨∅, Agrees.empty⟩, fun _ => rfl⟩

variable {past : List Message} {c : Messages} {m stored : Message}

theorem put_news (recalls : Recalls past c) (same : stored.bare = m.bare) :
    (c.put stored).2 = m.isNews past := by
  have known := recalls.last m.key
  rw [Messages.put_answer, Message.isNews, Message.key_eq_of_bare same]
  cases found : Keyed.find? Message.key m.key c.entries with
  | none =>
      rw [found] at known
      rw [Option.map_eq_none_iff.mp known.symm]
      rfl
  | some old =>
      rw [found] at known
      obtain ⟨before, isLast, content⟩ := Option.map_eq_some_iff.mp known.symm
      rw [isLast, Option.any_some, Option.any_some]
      simp only [Message.sameContent, content, Message.content_eq_of_bare same]

theorem put (recalls : Recalls past c) (same : stored.bare = m.bare) :
    Recalls (past ++ [m]) (c.put stored).1 := by
  obtain ⟨t, agrees⟩ := recalls.agrees
  refine ⟨⟨_, agrees.put stored⟩, fun k => ?_⟩
  have key := Message.key_eq_of_bare same
  rw [(agrees.put stored).find?, Message.ofKey_append]
  by_cases own : m.key = k
  · subst own
    rw [← key, Finmap.lookup_insert, key, Message.ofKey_own]
    exact (congrArg some (Message.content_eq_of_bare same)).trans
      (congrArg (Option.map Message.content) List.getLast?_concat.symm)
  · have nothing : Message.ofKey k [m] = [] := Message.ofKey_other own []
    rw [Finmap.lookup_insert_of_ne _ (key ▸ Ne.symm own), ← agrees.find?, recalls.last, nothing,
      List.append_nil]

end Recalls

end Cache

namespace Stock

/-- Nothing is evicted, repetitions are held back, and the cache recalls what came last. -/
structure Follows (past : List Message) (s : Stock) : Prop where
  recalls : Cache.Recalls past s.messages
  unbounded : s.settings.maxMessages = 0
  debounced : s.settings.debounceDispatch = true

section Follows

variable {past : List Message} {s : Stock} {m stored : Message}

theorem Follows.passes (follows : s.Follows past) (same : stored.bare = m.bare) :
    s.passes stored = m.isNews past := by
  rw [Stock.passes, follows.debounced, follows.recalls.put_news same]
  exact Bool.or_false _

theorem Follows.storing (follows : s.Follows past) (same : stored.bare = m.bare) :
    ((s.storing stored).foldl enter s).Follows (past ++ [m]) := by
  have kept : (s.enter (.kept stored)).messages = (s.messages.put stored).1 := by
    rw [enter, follows.unbounded]
    rfl
  have recalls := kept ▸ follows.recalls.put same
  unfold Stock.storing
  split
  · exact ⟨recalls, follows.unbounded, follows.debounced⟩
  · exact ⟨recalls, follows.unbounded, follows.debounced⟩

end Follows

/-- What is seen of a stock by those who are handed records. -/
def outlet (s : Stock) : Delivery.Fanout × Push.Hub × Delivery.Metrics × String :=
  (s.fanout, s.hub, s.metrics, s.token)

/-- What is only kept is not seen. -/
theorem outlet_entered (items : List Passage) {s s' : Stock} (same : s.outlet = s'.outlet) :
    (items.foldl enter s).outlet =
      (((items.filterMap Passage.passed?).map .passed).foldl enter s').outlet := by
  induction items generalizing s s' with
  | nil => exact same
  | cons item rest ih =>
      cases item with
      | kept m => exact ih same
      | passed m =>
          have next : (s.enter (.passed m)).outlet = (s'.enter (.passed m)).outlet := by
            simp only [outlet, Prod.mk.injEq] at same
            obtain ⟨fanout, hub, metrics, token⟩ := same
            simp only [outlet, enter, fanout, hub, metrics, token]
          exact ih next

end Stock

namespace Hosted

/-- The records on which `act` answers that they were triggered. -/
def triggered (act : Hosted → Message → Hosted × Bool) : Hosted → List Message → List Message :=
  trail (fun h m => (act h m).1) fun h m => if (act h m).2 then [m] else []

/-- The records that are passed on while messages are taken in, as they are passed on. -/
def passedOn (h : Hosted) (ms : List Message) : List Message :=
  (trail (fun h m => (h.ingest m).1) ingesting h ms).filterMap Passage.passed?

theorem withTitle_bare (h : Hosted) (m : Message) : (h.withTitle m).2.bare = m.bare := by
  unfold withTitle
  split
  · split <;> rfl
  · rfl

theorem withSynopsis_bare (h : Hosted) (m : Message) : (h.withSynopsis m).bare = m.bare := by
  unfold withSynopsis
  split
  · split <;> rfl
  · rfl

theorem enriched_bare (h : Hosted) (m : Message) : (h.enriched m).bare = m.bare :=
  (withSynopsis_bare _ _).trans (h.withTitle_bare m)

theorem ingesting_answer (h : Hosted) (m : Message) :
    ((h.ingesting m).filterMap Passage.passed?).map Message.bare =
      (if (h.ingest m).2 then [m] else []).map Message.bare := by
  cases admitted : h.admits m with
  | false =>
      rw [ingest_refused h admitted, ingesting, admitted]
      rfl
  | true =>
      rw [(h.ingest_admitted admitted).2, ingesting, if_pos admitted, Stock.storing]
      cases h.stock.passes (h.enriched m) with
      | false => rfl
      | true => exact congrArg (fun m => [m]) (h.enriched_bare m)

/-- What is passed on are the records triggered, apart from what was filled in. -/
theorem passedOn_bare (h : Hosted) (ms : List Message) :
    (h.passedOn ms).map Message.bare = (h.triggered ingest ms).map Message.bare := by
  induction ms generalizing h with
  | nil => rfl
  | cons m rest ih =>
      rw [passedOn, trail, List.filterMap_append, List.map_append, triggered, trail,
        List.map_append, ingesting_answer]
      exact congrArg (_ ++ ·) (ih (h.ingest m).1)

theorem triggered_sublist (act : Hosted → Message → Hosted × Bool) (h : Hosted)
    (ms : List Message) : (h.triggered act ms).Sublist ms := by
  induction ms generalizing h with
  | nil => exact List.Sublist.refl []
  | cons m rest ih =>
      have here : (if (act h m).2 then [m] else []).Sublist [m] := by
        split
        · exact List.Sublist.refl [m]
        · exact List.nil_sublist [m]
      exact here.append (ih (act h m).1)

theorem ingest_admits (h : Hosted) (m : Message) : (h.ingest m).1.admits = h.admits := by
  funext other
  unfold admits
  rw [ingest_options]

/-- Where every record that is let in is triggered, those triggered are those let in. -/
theorem triggered_all {h : Hosted} (undebounced : h.host.settings.cache.debounceDispatch = false)
    (ms : List Message) : h.triggered ingest ms = ms.filter h.admits := by
  induction ms generalizing h with
  | nil => rfl
  | cons m rest ih =>
      have settings : (h.ingest m).1.host.settings = h.host.settings := h.act_settings (.ingest m)
      have still : (h.ingest m).1.host.settings.cache.debounceDispatch = false :=
        settings ▸ undebounced
      have later := ih still
      rw [ingest_admits] at later
      rw [triggered, trail, show trail _ _ _ rest = _ from later]
      cases admitted : h.admits m with
      | false =>
          rw [ingest_refused h admitted, List.filter_cons_of_neg (by simpa using admitted)]
          rfl
      | true =>
          have passes : h.stock.passes (h.enriched m) = true := by
            rw [Stock.passes, show h.stock.settings.debounceDispatch = false from undebounced]
            exact Bool.or_true _
          rw [(h.ingest_admitted admitted).2, passes, List.filter_cons_of_pos admitted]
          rfl

theorem triggered_stored {past : List Message} {h : Hosted} (follows : h.stock.Follows past)
    (ms : List Message) : h.triggered store ms = Message.news past ms := by
  induction ms generalizing h past with
  | nil => rfl
  | cons m rest ih =>
      obtain ⟨stored, answer⟩ := h.store_eq m
      have next := follows.storing (m := m) rfl
      rw [← stored] at next
      rw [Message.news, ← ih next, triggered, trail, answer, follows.passes rfl]

theorem triggered_ingested {past : List Message} {h : Hosted} (follows : h.stock.Follows past)
    (ms : List Message) :
    h.triggered ingest ms = Message.news past (ms.filter h.admits) := by
  induction ms generalizing h past with
  | nil => rfl
  | cons m rest ih =>
      rw [triggered, trail]
      cases admitted : h.admits m with
      | false =>
          rw [ingest_refused h admitted, List.filter_cons_of_neg (by simpa using admitted)]
          exact ih follows
      | true =>
          obtain ⟨stored, answer⟩ := h.ingest_admitted admitted
          have next := follows.storing (h.enriched_bare m)
          rw [← stored] at next
          have later := ih next
          rw [ingest_admits] at later
          rw [answer, follows.passes (h.enriched_bare m), List.filter_cons_of_pos admitted,
            Message.news, ← later]
          rfl

/-- Those who are handed records get what is passed on, and nothing else. -/
theorem ingested_outlet (h : Hosted) (ms : List Message) :
    (ms.foldl (fun h m => (h.ingest m).1) h).stock.outlet =
      (((h.passedOn ms).map Passage.passed).foldl Stock.enter h.stock).outlet := by
  rw [foldl_stock ingest_stock]
  exact Stock.outlet_entered _ rfl

/-- A sequence of records is taken in. What is passed on has the order in which it came, and is as
it came but for the title of the chat and the preview of a reply. Where repetitions are not held
back, every record goes on that the filters let in. Where they are, and the cache is empty at first
and has no bound, the records of each key go on that differ from the one of that key before; and
the same ones go on when nothing is filled in. -/
theorem changes_are_triggered (h : Hosted) (ms : List Message) :
    let after := ms.foldl (fun h m => (h.ingest m).1) h
    let passed := h.passedOn ms
    let triggered := h.triggered ingest ms
    after.stock.outlet = ((passed.map Passage.passed).foldl Stock.enter h.stock).outlet ∧
    passed.map Message.bare = triggered.map Message.bare ∧ triggered.Sublist ms ∧
    (h.host.settings.cache.debounceDispatch = false → triggered = ms.filter h.admits) ∧
    (h.tenant.messages = {} → h.host.settings.cache.maxMessages = 0 →
      h.host.settings.cache.debounceDispatch = true →
      (∀ k, Message.ofKey k triggered =
        Message.changes (Message.ofKey k (ms.filter h.admits))) ∧
      triggered = h.triggered store (ms.filter h.admits)) := by
  intro after passed triggered
  refine ⟨h.ingested_outlet ms, h.passedOn_bare ms, triggered_sublist ingest h ms,
    fun off => triggered_all off ms, ?_⟩
  intro empty unbounded debounced
  have recalls : Cache.Recalls [] h.tenant.messages := by
    rw [empty]
    exact .empty
  have follows : h.stock.Follows [] := ⟨recalls, unbounded, debounced⟩
  have told := triggered_ingested follows ms
  refine ⟨fun k => ?_, told.trans (triggered_stored follows _).symm⟩
  rw [show triggered = _ from told, Message.news_ofKey]
  rfl

/-- A message comes again, with a reply to it in between, and then with another text. Its second
coming is handed to the subscriber only where repetitions are; the reply has got a preview. -/
theorem repetition_is_held_back :
    let h := fun debounced : Bool =>
      let settings : Settings := { cache := { debounceDispatch := debounced } }
      let tenant := Tenant.ofProfile settings (.fresh "tok" .epoch) false
      (⟨{ tenant with fanout := (tenant.fanout.register "screen").1 },
        { settings := settings, office := ⟨""⟩, hub := {}, clock := ⟨.epoch⟩ }⟩ : Hosted)
    let m := fun (id text inReply synopsis : String) =>
      ({ id := id, timestamp := ⟨1, 0⟩, kind := .text, chat := ⟨"1@s.whatsapp.net", ""⟩
         text := text, inReply := inReply, synopsis := synopsis } : Message)
    let ms := [m "a" "x" "" "", m "b" "yes" "A" "", m "A" "x" "" "", m "a" "y" "" ""]
    let handed := fun h : Hosted =>
      (ms.foldl (fun h m => (h.ingest m).1) h).stock.outlet.1.registrations.map fun r =>
        (r.id, r.queue.waiting)
    Message.ofKey "A" ((h true).triggered ingest ms) = [m "a" "x" "" "", m "a" "y" "" ""] ∧
      (h false).triggered ingest ms = ms ∧
      handed (h true) =
        [("screen", [m "a" "x" "" "", m "b" "yes" "A" "x", m "a" "y" "" ""])] ∧
      handed (h false) =
        [("screen", [m "a" "x" "" "", m "b" "yes" "A" "x", m "A" "x" "" "", m "a" "y" "" ""])] := by
  intro h m ms handed
  obtain ⟨fewer, _, _, _, changes⟩ := (h true).changes_are_triggered ms
  obtain ⟨every, _, _, all, _⟩ := (h false).changes_are_triggered ms
  refine ⟨?_, ?_, ?_, ?_⟩
  · rw [(changes rfl rfl rfl).1]
    decide +kernel
  · rw [all rfl]
    decide +kernel
  · simp only [handed, fewer]
    decide +kernel
  · simp only [handed, every]
    decide +kernel

end Hosted

end ChatGateway

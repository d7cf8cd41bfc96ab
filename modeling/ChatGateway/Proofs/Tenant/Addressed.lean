import ChatGateway.Proofs.Tenant.Courses

namespace ChatGateway

namespace Store.Repository

variable {r : Repository} {token address : String}

theorem find?_putWebhook_ne {w : Webhook} (different : address ≠ w.url) :
    Keyed.find? Webhook.url address ((r.putWebhook w).webhooksOf token) =
      Keyed.find? Webhook.url address (r.webhooksOf token) := by
  by_cases own : w.token = token
  · rw [r.putWebhook_own own, find?_upsert_ne different]
  · rw [r.putWebhook_ne (Ne.symm own)]

/-- What is stored of an address is never lost to another webhook. -/
theorem find?_putWebhook_isSome
    (known : (Keyed.find? Webhook.url address (r.webhooksOf token)).isSome = true) (w : Webhook) :
    (Keyed.find? Webhook.url address ((r.putWebhook w).webhooksOf token)).isSome = true := by
  by_cases same : address = w.url
  · subst same
    by_cases own : w.token = token
    · rw [r.putWebhook_own own, find?_upsert_self]
      rfl
    · rw [r.putWebhook_ne (Ne.symm own)]
      exact known
  · rw [find?_putWebhook_ne same]
    exact known

theorem removeWebhook_unknown
    (absent : Keyed.find? Webhook.url address (r.webhooksOf token) = none) :
    r.removeWebhook token address = (r, 0) := by
  unfold removeWebhook
  cases found : r.webhooks.lookup token with
  | none => rfl
  | some ws =>
      rw [webhooksOf, found, Option.getD_some] at absent
      have row : Keyed.find? Prod.fst token r.webhooks = some (token, ws) := by
        rw [Keyed.lookup_eq] at found
        obtain ⟨⟨owner, _⟩, there, rfl⟩ := Option.map_eq_some_iff.mp found
        have own : owner = token := (Keyed.find?_some there).2
        exact own ▸ there
      dsimp only
      rw [Keyed.erase_of_absent absent, Nat.sub_self, @Keyed.put_same _ _ _ Prod.fst _ _ row]

end Store.Repository

namespace Hosted

open Store (Repository)

variable {h h' : Hosted} {address text : String}

/-- There is a webhook of the address, live and stored. -/
structure Has (h : Hosted) (address : String) : Prop where
  live : (h.tenant.webhook? address).isSome = true
  stored : (h.stored? address).isSome = true

/-- There is no webhook of the address, neither live nor stored. -/
structure Lacks (h : Hosted) (address : String) : Prop where
  live : h.tenant.webhook? address = none
  stored : h.stored? address = none

/-- The webhook of the address, if any, is as it was. -/
structure Leaves (address : String) (h h' : Hosted) : Prop where
  live : h'.tenant.webhook? address = h.tenant.webhook? address
  stored : h'.stored? address = h.stored? address
  subscriber : Webhook.subscriberId address ∈ h'.tenant.fanout.subscriberIds ↔
    Webhook.subscriberId address ∈ h.tenant.fanout.subscriberIds

theorem Leaves.refl (address : String) (h : Hosted) : Leaves address h h := ⟨rfl, rfl, Iff.rfl⟩

theorem Leaves.has (leaves : Leaves address h h') (has : h.Has address) : h'.Has address :=
  ⟨leaves.live ▸ has.live, leaves.stored ▸ has.stored⟩

theorem Leaves.lacks (leaves : Leaves address h h') (lacks : h.Lacks address) :
    h'.Lacks address :=
  ⟨leaves.live.trans lacks.live, leaves.stored.trans lacks.stored⟩

theorem Has.not_lacks (has : h.Has address) : ¬h.Lacks address := by
  intro lacks
  have live := has.live
  rw [lacks.live] at live
  cases live

theorem toggle_kept (w : Webhook) (option : WebhookOption) :
    w.applySettings (w.toggle option).1 = (w.toggle option).1 := by
  cases option <;> rfl

theorem toggleWebhook_unknown (unknown : h.tenant.webhook? text = none) (option : WebhookOption) :
    h.toggleWebhook text option =
      (h, .error (.notFound ("webhook '" ++ text ++ "' not found"))) := by
  rw [toggleWebhook, unknown]

theorem toggleWebhook_known {w : Webhook} (found : h.tenant.webhook? text = some w)
    (option : WebhookOption) :
    h.toggleWebhook text option =
      ({ tenant := { h.tenant with
           webhooks := Keyed.modify Webhook.url text (·.applySettings (w.toggle option).1)
             h.tenant.webhooks }
         host := { h.host with repository := h.host.repository.putWebhook (w.toggle option).1 } },
        .ok (w.toggle option).2) := by
  rw [toggleWebhook, found]

theorem toggleWebhook_live {w : Webhook} (found : h.tenant.webhook? text = some w)
    (option : WebhookOption) :
    (h.toggleWebhook text option).1.tenant.webhook? text = some (w.toggle option).1 := by
  rw [toggleWebhook_known found, Tenant.webhook?, Keyed.find?_modify_self]
  · rw [Tenant.webhook?] at found
    rw [found, Option.map_some, toggle_kept]
  · exact fun v => v.applySettings_url _

theorem toggleWebhook_leaves (different : address ≠ text) (option : WebhookOption) :
    Leaves address h (h.toggleWebhook text option).1 := by
  cases found : h.tenant.webhook? text with
  | none =>
      rw [toggleWebhook_unknown found]
      exact .refl address h
  | some w =>
      have elsewhere : address ≠ (w.toggle option).1.url := by
        rw [w.toggle_url, (Keyed.find?_some found).2]
        exact different
      rw [toggleWebhook_known found]
      exact ⟨Keyed.find?_modify_ne (fun v => v.applySettings_url _) _ different,
        Repository.find?_putWebhook_ne elsewhere, Iff.rfl⟩

theorem toggleWebhook_has (has : h.Has address) (text : String) (option : WebhookOption) :
    (h.toggleWebhook text option).1.Has address := by
  by_cases same : address = text
  · subst same
    obtain ⟨w, found⟩ := Option.isSome_iff_exists.mp has.live
    refine ⟨Option.isSome_iff_exists.mpr ⟨_, toggleWebhook_live found option⟩, ?_⟩
    rw [toggleWebhook_known found]
    exact Repository.find?_putWebhook_isSome has.stored _
  · exact (toggleWebhook_leaves same option).has has

theorem toggleWebhook_lacks (lacks : h.Lacks address) (text : String) (option : WebhookOption) :
    (h.toggleWebhook text option).1.Lacks address := by
  by_cases same : address = text
  · subst same
    rw [toggleWebhook_unknown lacks.live]
    exact lacks
  · exact (toggleWebhook_leaves same option).lacks lacks

/-- Options are toggled on webhooks one after the other. -/
def toggleAll (h : Hosted) (toggles : List (String × WebhookOption)) : Hosted :=
  toggles.foldl (fun h t => (h.toggleWebhook t.1 t.2).1) h

theorem toggleAll_has (has : h.Has address) (toggles : List (String × WebhookOption)) :
    (h.toggleAll toggles).Has address := by
  induction toggles generalizing h with
  | nil => exact has
  | cons t rest ih => exact ih (toggleWebhook_has has t.1 t.2)

theorem toggleAll_lacks (lacks : h.Lacks address) (toggles : List (String × WebhookOption)) :
    (h.toggleAll toggles).Lacks address := by
  induction toggles generalizing h with
  | nil => exact lacks
  | cons t rest ih => exact ih (toggleWebhook_lacks lacks t.1 t.2)

theorem removeWebhook_ids (h : Hosted) (text : String) :
    (h.removeWebhook text).1.tenant.fanout.subscriberIds =
      if (h.tenant.webhook? text).isSome then
        h.tenant.fanout.subscriberIds.filter (· != Webhook.subscriberId text)
      else h.tenant.fanout.subscriberIds := by
  rw [Tenant.webhook?, ← Keyed.has_eq_isSome]
  unfold removeWebhook
  dsimp only
  split
  · exact Delivery.Fanout.unregister_ids _ _
  · rfl

theorem removeWebhook_true (stored : (h.stored? text).isSome = true) :
    (h.removeWebhook text).2 = true := by
  rw [stored?, ← Keyed.has_eq_isSome] at stored
  have counted := (h.host.repository.removeWebhook_count h.tenant.token text).mpr stored
  unfold removeWebhook
  dsimp only
  split
  · exact Bool.or_eq_true_iff.mpr (.inr (decide_eq_true counted))
  · exact decide_eq_true counted

theorem removeWebhook_lacks (h : Hosted) (text : String) : (h.removeWebhook text).1.Lacks text := by
  constructor
  · rw [Tenant.webhook?, removeWebhook_webhooks]
    exact Keyed.find?_erase_self _ _
  · rw [removeWebhook_stored?]
    exact Keyed.find?_erase_self _ _

theorem removeWebhook_leaves (different : address ≠ text) :
    Leaves address h (h.removeWebhook text).1 := by
  refine ⟨?_, ?_, ?_⟩
  · rw [Tenant.webhook?, removeWebhook_webhooks]
    exact Keyed.find?_erase_ne _ different
  · rw [removeWebhook_stored?]
    exact Keyed.find?_erase_ne _ different
  · have other : (Webhook.subscriberId address != Webhook.subscriberId text) = true :=
      bne_iff_ne.mpr fun same => different (Webhook.subscriberId_inj.mp same)
    rw [removeWebhook_ids]
    split
    · rw [List.mem_filter, other, and_iff_left rfl]
    · rfl

theorem removeWebhook_unknown (lacks : h.Lacks text) : h.removeWebhook text = (h, false) := by
  have absent : ¬Keyed.has Webhook.url text h.tenant.webhooks = true := by
    rw [Keyed.has_eq_isSome, show Keyed.find? Webhook.url text h.tenant.webhooks = none from
      lacks.live]
    exact Bool.false_ne_true
  rw [removeWebhook]
  dsimp only
  rw [if_neg absent, Repository.removeWebhook_unknown lacks.stored]
  rfl

theorem storeAndAttach_added {w : Webhook} (own : w.token = h.tenant.token) :
    let h' := Hosted.attach { h with host := { h.host with
      repository := h.host.repository.putWebhook w } } w
    (∃ saved, h'.tenant.webhook? w.url = some saved ∧ saved.url = w.url) ∧ h'.Has w.url ∧
      ∀ other ≠ w.url, h.Lacks other → h'.Lacks other := by
  intro h'
  have live : ∀ url, h'.tenant.webhook? url =
      Keyed.find? Webhook.url url (Repository.upsert w h.tenant.webhooks) :=
    Follows.attach_webhook? _ w
  have stored : ∀ url, h'.stored? url = Keyed.find? Webhook.url url
      (Repository.upsert w (h.host.repository.webhooksOf h.tenant.token)) :=
    Follows.storeAndAttach_stored? own
  have there := live w.url
  rw [Repository.find?_upsert_self] at there
  refine ⟨⟨_, there, (Keyed.find?_some there).2⟩, ⟨?_, ?_⟩, fun other different lacks => ⟨?_, ?_⟩⟩
  · rw [there]
    rfl
  · rw [stored, Repository.find?_upsert_self]
    rfl
  · rw [live, Repository.find?_upsert_ne different]
    exact lacks.live
  · rw [stored, Repository.find?_upsert_ne different]
    exact lacks.stored

/-- The webhook that is added is live and stored under its address, and other addresses are left
alone. -/
theorem addWebhook_added {w saved : Webhook} (added : (h.addWebhook w).2 = .ok saved) :
    (saved.url = Text.trim w.url ∧
      (h.addWebhook w).1.tenant.webhook? (Text.trim w.url) = some saved) ∧
      (h.addWebhook w).1.Has (Text.trim w.url) ∧
      ∀ other ≠ Text.trim w.url, h.Lacks other → (h.addWebhook w).1.Lacks other := by
  cases web : isWebAddress (Text.trim w.url) with
  | false =>
      simp only [addWebhook, web, Bool.not_false, if_true] at added
      cases added
  | true =>
      obtain ⟨⟨v, live, url⟩, has, others⟩ := storeAndAttach_added (h := h)
        (w := { w with url := Text.trim w.url, token := h.tenant.token }) rfl
      simp only [addWebhook, web, Bool.not_true, Bool.false_eq_true, if_false] at added ⊢
      rw [live, Option.getD_some] at added
      cases added
      exact ⟨⟨url, live⟩, has, others⟩

/-- The webhook of an address is found by a text: any option of it can be toggled, and it can be
removed. -/
structure AnswersTo (h : Hosted) (address text : String) : Prop where
  toggled : ∀ option, ∃ w, h.tenant.webhook? address = some w ∧
    (h.toggleWebhook text option).2 = .ok (w.toggle option).2 ∧
    (h.toggleWebhook text option).1.tenant.webhook? address = some (w.toggle option).1
  removed : (h.removeWebhook text).2 = true ∧ (h.removeWebhook text).1.Lacks address ∧
    Webhook.subscriberId address ∉ (h.removeWebhook text).1.tenant.fanout.subscriberIds

theorem Has.answersTo_iff (has : h.Has address) : h.AnswersTo address text ↔ text = address := by
  constructor
  · intro answers
    -- Whatever a removal answers under another text, the webhook is still there.
    by_contra different
    have kept := (removeWebhook_leaves (h := h) (Ne.symm different)).has has
    exact kept.not_lacks answers.removed.2.1
  · rintro rfl
    obtain ⟨w, found⟩ := Option.isSome_iff_exists.mp has.live
    refine ⟨fun option => ⟨w, found, ?_, toggleWebhook_live found option⟩,
      removeWebhook_true has.stored, h.removeWebhook_lacks text, ?_⟩
    · rw [toggleWebhook_known found]
    · rw [removeWebhook_ids, if_pos has.live, List.mem_filter]
      rintro ⟨-, other⟩
      exact bne_iff_ne.mp other rfl

/-- A webhook was added, and options may have been toggled since, under any texts. It is kept under
its address without the blanks around it, and answers to just that text; so it answers to the text
it was added with if, and only if, that has no blanks around it. Under any other text it stays as it
was; and unless the tenant had a webhook under that text before, a toggle does not find one, and
nothing is removed. -/
theorem webhook_answers_to_trimmed_text {w saved : Webhook}
    (added : (h.addWebhook w).2 = .ok saved) (toggles : List (String × WebhookOption))
    (text : String) :
    let address := Text.trim w.url
    let h' := (h.addWebhook w).1.toggleAll toggles
    (saved.url = address ∧ (h.addWebhook w).1.tenant.webhook? address = some saved) ∧
    (h'.AnswersTo address text ↔ text = address) ∧
    (text ≠ address →
      (∀ option, Leaves address h' (h'.toggleWebhook text option).1) ∧
      Leaves address h' (h'.removeWebhook text).1 ∧
      (h.Lacks text →
        (∀ option, h'.toggleWebhook text option =
          (h', .error (.notFound ("webhook '" ++ text ++ "' not found")))) ∧
        h'.removeWebhook text = (h', false))) := by
  intro address h'
  obtain ⟨named, has, others⟩ := addWebhook_added added
  have still : h'.Has address := toggleAll_has has toggles
  refine ⟨named, still.answersTo_iff, fun different =>
    ⟨toggleWebhook_leaves (Ne.symm different), removeWebhook_leaves (Ne.symm different),
      fun lacks => ?_⟩⟩
  have absent : h'.Lacks text := toggleAll_lacks (others text different lacks) toggles
  exact ⟨toggleWebhook_unknown absent.live, removeWebhook_unknown absent⟩

/-- A webhook is added with blanks around its address. It is found without them, and nothing is
found under the text it was added with. -/
theorem blanks_hide_the_webhook :
    let settings : Settings := {}
    let h : Hosted :=
      ⟨Tenant.ofProfile settings (.fresh "tok" .epoch) false,
        { settings := settings, office := ⟨""⟩, hub := {}, clock := ⟨.epoch⟩ }⟩
    let w : Webhook := { url := " http://one.example/hook " }
    let h' := (h.addWebhook w).1.toggleAll [("http://one.example/hook", .calls)]
    (∃ saved, (h.addWebhook w).2 = .ok saved ∧ saved.url = "http://one.example/hook") ∧
      h'.AnswersTo "http://one.example/hook" "http://one.example/hook" ∧
      ¬h'.AnswersTo "http://one.example/hook" w.url ∧
      h'.toggleWebhook w.url .groups =
        (h', .error (.notFound "webhook ' http://one.example/hook ' not found")) ∧
      h'.removeWebhook w.url = (h', false) := by
  intro settings h w h'
  have trimmed : Text.trim w.url = "http://one.example/hook" := by decide +kernel
  have padded : w.url ≠ Text.trim w.url := by
    rw [trimmed]
    decide
  have web : isWebAddress (Text.trim w.url) = true := by
    rw [trimmed]
    decide
  obtain ⟨saved, added⟩ : ∃ saved, (h.addWebhook w).2 = .ok saved := by
    simp only [addWebhook, web, Bool.not_true, Bool.false_eq_true, if_false]
    exact ⟨_, rfl⟩
  have lacks : h.Lacks w.url := ⟨rfl, rfl⟩
  have told := webhook_answers_to_trimmed_text added [("http://one.example/hook", .calls)]
  obtain ⟨⟨url, -⟩, answers, others⟩ := told w.url
  obtain ⟨-, -, unknown⟩ := others padded
  obtain ⟨toggled, removed⟩ := unknown lacks
  rw [trimmed] at url answers
  refine ⟨⟨saved, added, url⟩, ?_, fun found => padded (trimmed ▸ answers.mp found),
    toggled .groups, removed⟩
  obtain ⟨-, plain, -⟩ := told "http://one.example/hook"
  rw [trimmed] at plain
  exact plain.mpr rfl

end Hosted

end ChatGateway

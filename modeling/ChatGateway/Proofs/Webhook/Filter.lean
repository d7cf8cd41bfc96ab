import ChatGateway.Proofs.Message.Basic
import ChatGateway.Webhook.Filter

namespace ChatGateway

/-- What keeps a record from every webhook. -/
def Message.flaw? (m : Message) : Option SkipReason :=
  if !m.kind.isDeliverable then some .notDeliverable
  else if m.kind == .text && Text.isBlankText m.text then some .emptyText
  else none

namespace Webhook

inductive Filter where
  | readReceipts
  | groups
  | broadcasts
  | calls
  deriving DecidableEq

namespace Filter

/-- The filters in the order in which they are asked. -/
def all : List Filter := [readReceipts, groups, broadcasts, calls]

theorem mem_all (f : Filter) : f ∈ all := by cases f <;> decide

def setting (w : Webhook) : Filter → Option Bool
  | readReceipts => w.readReceipts
  | groups => w.groups
  | broadcasts => w.broadcasts
  | calls => w.calls

/-- Whether a record is of the class that the filter is about. -/
def covers (m : Message) : Filter → Bool
  | readReceipts => m.isReadReceipt
  | groups => m.fromGroup
  | broadcasts => m.fromBroadcast
  | calls => m.isCall

def reason : Filter → SkipReason
  | readReceipts => .readReceipts
  | groups => .groups
  | broadcasts => .broadcasts
  | calls => .calls

end Filter

def blocks (w : Webhook) (m : Message) (f : Filter) : Bool :=
  f.covers m && f.setting w == some false

/-- Whether a record was sent through the gateway and is not wanted back. -/
def spares (w : Webhook) (m : Message) : Bool := m.fromInternal && !w.forwards m

variable {w w' : Webhook} {m m' : Message}

/-- A record is kept back for a flaw of its own, else by the first filter that blocks it, else
because it would come back to where it was sent. -/
theorem skipReason?_eq (w : Webhook) (m : Message) : w.skipReason? m =
    m.flaw?.or (((Filter.all.find? (w.blocks m)).map Filter.reason).or
      (if w.spares m then some .internal else none)) := by
  unfold skipReason? Message.flaw?
  split
  · rfl
  split
  · rfl
  change (if w.blocks m .readReceipts then some SkipReason.readReceipts
    else if w.blocks m .groups then some .groups
    else if w.blocks m .broadcasts then some .broadcasts
    else if w.blocks m .calls then some .calls
    else if w.spares m then some .internal else none) =
      ((Filter.all.find? (w.blocks m)).map Filter.reason).or _
  simp only [Filter.all, List.find?_cons, List.find?_nil]
  cases w.blocks m .readReceipts with
  | true => rfl
  | false =>
      cases w.blocks m .groups with
      | true => rfl
      | false => cases w.blocks m .broadcasts <;> cases w.blocks m .calls <;> rfl

theorem skipReason?_eq_none_iff : w.skipReason? m = none ↔
    m.flaw? = none ∧ (∀ f, w.blocks m f = false) ∧ w.spares m = false := by
  have unblocked : Filter.all.find? (w.blocks m) = none ↔ ∀ f, w.blocks m f = false := by
    rw [List.find?_eq_none]
    exact ⟨fun none f => Bool.eq_false_iff.mpr (none f f.mem_all),
      fun none f _ => Bool.eq_false_iff.mp (none f)⟩
  rw [skipReason?_eq, Option.or_eq_none_iff, Option.or_eq_none_iff, Option.map_eq_none_iff,
    unblocked]
  cases w.spares m <;> simp

/-- The reason is a flaw of the record, a filter that blocks it, or where it comes from. -/
theorem skipReason?_cases {reason : SkipReason} (skipped : w.skipReason? m = some reason) :
    m.flaw? = some reason ∨ (∃ f, w.blocks m f = true ∧ reason = f.reason) ∨
      reason = .internal := by
  rw [skipReason?_eq] at skipped
  rcases Option.or_eq_some_iff.mp skipped with flaw | ⟨_, later⟩
  · exact Or.inl flaw
  rcases Option.or_eq_some_iff.mp later with filtered | ⟨_, back⟩
  · obtain ⟨f, first, rfl⟩ := Option.map_eq_some_iff.mp filtered
    exact Or.inr (Or.inl ⟨f, List.find?_some first, rfl⟩)
  · split at back
    · exact Or.inr (Or.inr (Option.some.inj back).symm)
    · cases back

theorem skipReason?_congr (flaw : m.flaw? = m'.flaw?)
    (blocks : ∀ f, w.blocks m f = w'.blocks m' f) (spares : w.spares m = w'.spares m') :
    w.skipReason? m = w'.skipReason? m' := by
  have same : w.blocks m = w'.blocks m' := funext blocks
  rw [skipReason?_eq, skipReason?_eq w', flaw, same, spares]

theorem blocks_iff {f : Filter} :
    w.blocks m f = true ↔ f.covers m = true ∧ f.setting w = some false := by
  rw [blocks, Bool.and_eq_true, beq_iff_eq]

/-- A webhook without a mark asks its setting; one with a mark wants all records but its own. -/
theorem forwards_iff : w.forwards m = true ↔
    (w.trackId = "" ∧ w.forwardInternal = true) ∨ w.trackId ≠ "" ∧ w.trackId ≠ m.trackId := by
  unfold forwards
  by_cases named : w.trackId = ""
  · simp [named]
  · by_cases own : w.trackId = m.trackId
    · simp [named, ← own]
    · simp [named, own]

theorem forwards_mono (mark : w.trackId = w'.trackId)
    (more : w.forwardInternal = true → w'.forwardInternal = true) (wanted : w.forwards m = true) :
    w'.forwards m = true := by
  rw [forwards_iff] at wanted ⊢
  rw [← mark]
  exact wanted.imp_left fun unmarked => ⟨unmarked.1, more unmarked.2⟩

theorem spares_eq_false_iff :
    w.spares m = false ↔ (m.fromInternal = true → w.forwards m = true) := by
  rw [spares]
  cases m.fromInternal <;> simp

/-- Where a record comes from is asked last. -/
theorem skipReason?_internal (w : Webhook) (m : Message) : w.skipReason? m =
    (w.skipReason? { m with fromInternal := false }).or
      (if w.spares m then some .internal else none) := by
  have outside : w.spares { m with fromInternal := false } = false := rfl
  rw [skipReason?_eq, skipReason?_eq, outside, if_neg Bool.false_ne_true, Option.or_none,
    Option.or_assoc]
  rfl

/-- A webhook with the same mark that disables no more filters, and forwards at least as much of
what was sent through the gateway, gets every record that this one gets. Filters of classes to
which a record does not belong make no difference to it, and no record belongs to both groups and
broadcasts. A record that was sent through the gateway is always kept from a webhook that has its
mark; for one with another mark it might as well have come from the network. -/
theorem filters_are_monotone_and_apart (w w' : Webhook) (m : Message) :
    (w.trackId = w'.trackId →
      (∀ f : Filter, f.setting w' = some false → f.setting w = some false) →
      (w.forwardInternal = true → w'.forwardInternal = true) →
      w.skipReason? m = none → w'.skipReason? m = none) ∧
    (w.trackId = w'.trackId → w.forwardInternal = w'.forwardInternal →
      (∀ f : Filter, f.covers m = true → (f.setting w = some false ↔ f.setting w' = some false)) →
      w.skipReason? m = w'.skipReason? m) ∧
    ¬(m.fromGroup = true ∧ m.fromBroadcast = true) ∧
    (m.fromInternal = true → w.trackId ≠ "" → w.trackId = m.trackId →
      w.skipReason? m = some ((w.skipReason? { m with fromInternal := false }).getD .internal)) ∧
    (w.trackId ≠ "" → w.trackId ≠ m.trackId →
      w.skipReason? m = w.skipReason? { m with fromInternal := false }) := by
  refine ⟨fun mark looser more wanted => ?_, fun mark forward alike => ?_, ?_,
    fun internal named own => ?_, fun named other => ?_⟩
  · rw [skipReason?_eq_none_iff] at wanted ⊢
    obtain ⟨sound, unblocked, forwarded⟩ := wanted
    refine ⟨sound, fun f => ?_, ?_⟩
    · have before := Bool.eq_false_iff.mp (unblocked f)
      rw [Ne, blocks_iff] at before
      rw [Bool.eq_false_iff, Ne, blocks_iff]
      exact fun blocked => before ⟨blocked.1, looser f blocked.2⟩
    · rw [spares_eq_false_iff] at forwarded ⊢
      exact fun internal => forwards_mono mark more (forwarded internal)
  · have forwards : w.forwards m = w'.forwards m := by simp only [Webhook.forwards, mark, forward]
    refine skipReason?_congr rfl (fun f => ?_) (by rw [spares, spares, forwards])
    rw [Bool.eq_iff_iff, blocks_iff, blocks_iff]
    exact and_congr_right (alike f)
  · rintro ⟨group, broadcast⟩
    rw [Message.fromBroadcast, Chat.broadcast_of_group group] at broadcast
    cases broadcast
  · have spared : w.spares m = true := by
      rw [← Bool.not_eq_false, spares_eq_false_iff, forwards_iff]
      intro wanted
      rcases wanted internal with ⟨unmarked, _⟩ | ⟨_, other⟩
      · exact named unmarked
      · exact other own
    rw [skipReason?_internal, spared, if_pos rfl]
    cases w.skipReason? { m with fromInternal := false } <;> rfl
  · have spared : w.spares m = false :=
      spares_eq_false_iff.mpr fun _ => forwards_iff.mpr (Or.inr ⟨named, other⟩)
    rw [skipReason?_internal, spared, if_neg Bool.false_ne_true, Option.or_none]

/-- What one system sends to a group never comes back to it. It comes to the webhook of another
system that does without calls, also if that wants them after all or does without broadcasts. -/
theorem bridged_to_other_systems :
    let group : Chat := ⟨"1@g.us", ""⟩
    let m : Message :=
      { id := "a", trackId := "crm", timestamp := .epoch, kind := .text, chat := group,
        text := "hi", fromMe := true, fromInternal := true }
    let own : Webhook := { url := "own", trackId := "crm", forwardInternal := true }
    let other : Webhook := { url := "other", trackId := "erp", calls := some false }
    own.skipReason? m = some .internal ∧ other.skipReason? m = none ∧
      { other with calls := none }.skipReason? m = none ∧
      { other with broadcasts := some false }.skipReason? m = none := by
  intro group m own other
  have fewer : ∀ f : Filter, f.setting { other with calls := none } = some false →
      f.setting other = some false := by
    intro f off
    cases f <;> cases off
  have alike : ∀ f : Filter, f.covers m = true →
      (f.setting other = some false ↔
        f.setting { other with broadcasts := some false } = some false) := by
    intro f covered
    cases f with
    | broadcasts => exact absurd covered (by decide)
    | _ => exact Iff.rfl
  obtain ⟨_, _, _, back, _⟩ := filters_are_monotone_and_apart own own m
  obtain ⟨looser, _, _, _, through⟩ :=
    filters_are_monotone_and_apart other { other with calls := none } m
  obtain ⟨_, apart, _⟩ :=
    filters_are_monotone_and_apart other { other with broadcasts := some false } m
  have passed : other.skipReason? m = none :=
    (through (by decide) (by decide)).trans (by decide)
  exact ⟨(back rfl (by decide) rfl).trans (by decide), passed, looser rfl fewer id passed,
    (apart rfl rfl alike).symm.trans passed⟩

end Webhook

end ChatGateway

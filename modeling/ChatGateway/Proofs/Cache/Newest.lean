import ChatGateway.Proofs.Cache.Refinement
import ChatGateway.Tenant.Ingest

/-!
A bounded cache keeps the newest of the messages it was given, in whatever order they came. What is
thrown out early is never missed later: it was older than all that stayed, and those that stay
only become newer.
-/

namespace ChatGateway.Cache

/-- The `bound` latest messages of a set, or all of it if it has no more. -/
structure Newest (bound : Nat) (all kept : Finset Message) : Prop where
  subset : kept ⊆ all
  card : kept.card = min all.card bound
  older : ∀ x ∈ all, x ∉ kept → ∀ y ∈ kept, x.rank < y.rank

namespace Newest

variable {bound : Nat} {all kept kept' : Finset Message}

theorem unique (first : Newest bound all kept) (second : Newest bound all kept') :
    kept = kept' := by
  apply Finset.eq_of_subset_of_card_le
  · intro x member
    by_contra missing
    -- The other choice is as large, so it has a message that is missing here.
    have other : ∃ y ∈ kept', y ∉ kept := by
      by_contra none
      push Not at none
      have same : kept' = kept :=
        Finset.eq_of_subset_of_card_le none (by rw [first.card, second.card])
      exact missing (same ▸ member)
    obtain ⟨y, there, absent⟩ := other
    have before := first.older y (second.subset there) absent x member
    have after := second.older x (first.subset member) missing y there
    exact lt_asymm before after
  · rw [first.card, second.card]

/-- One more message, and the newest of what was kept are the newest of all. -/
theorem insert {m : Message} (newest : Newest bound all kept) (fresh : m ∉ all)
    (next : Newest bound (insert m kept) kept') : Newest bound (insert m all) kept' := by
  have absent : m ∉ kept := fun member => fresh (newest.subset member)
  have card := next.card
  rw [Finset.card_insert_of_notMem absent, newest.card] at card
  refine ⟨next.subset.trans (Finset.insert_subset_insert m newest.subset), ?_, ?_⟩
  · rw [Finset.card_insert_of_notMem fresh, card]
    omega
  · intro x member gone y stays
    by_cases present : x ∈ Insert.insert m kept
    · exact next.older x present gone y stays
    · rw [Finset.mem_insert, not_or] at present
      have inside : x ∈ all := Finset.mem_of_mem_insert_of_ne member present.1
      rcases Finset.mem_insert.mp (next.subset stays) with rfl | before
      · -- Something was thrown out before, so the bound is reached and one more goes now.
        have more : kept.card < all.card :=
          Finset.card_lt_card ⟨newest.subset, fun equal => present.2 (equal inside)⟩
        have part : kept'.card < (Insert.insert y kept).card := by
          rw [card, Finset.card_insert_of_notMem absent]
          have reached := newest.card
          omega
        obtain ⟨z, held, left⟩ := Finset.exists_mem_notMem_of_card_lt_card part
        have apart : z ≠ y := fun same => left (same ▸ stays)
        have kept := Finset.mem_of_mem_insert_of_ne held apart
        exact (newest.older x inside present.2 z kept).trans (next.older z held left y stays)
      · exact newest.older x inside present.2 y before

theorem drop {ms : List Message} (ordered : ms.Pairwise fun a b => a.earlier b = true) :
    Newest bound ms.toFinset (ms.drop (ms.length - bound)).toFinset := by
  have nodup : ms.Nodup := by
    apply ordered.imp
    intro a b before same
    rw [same, Message.earlier_irrefl] at before
    cases before
  refine ⟨?_, ?_, ?_⟩
  · intro x member
    exact List.mem_toFinset.mpr (List.mem_of_mem_drop (List.mem_toFinset.mp member))
  · rw [List.toFinset_card_of_nodup nodup,
      List.toFinset_card_of_nodup (nodup.sublist (List.drop_sublist _ _)), List.length_drop]
    omega
  · intro x member gone y stays
    rw [List.mem_toFinset] at member gone stays
    rw [← List.take_append_drop (ms.length - bound) ms] at ordered member
    have front := (List.mem_append.mp member).resolve_right gone
    have before := (List.pairwise_append.mp ordered).2.2 x front y stays
    exact (Message.earlier_iff x y).mp before

end Newest

namespace Messages

theorem put_entries (c : Messages) (m : Message) : (c.put m).1.entries = insert m c.entries := by
  rw [put]
  split <;> rfl

theorem deleteKey_entries (c : Messages) (k : String) :
    (c.deleteKey k).1.entries = Keyed.erase Message.key k c.entries := by
  rw [deleteKey]
  split
  · rfl
  · next absent => exact (Keyed.erase_of_absent absent).symm

theorem mem_deleteKeys (c : Messages) (keys : List String) (m : Message) :
    m ∈ (keys.foldl (fun c k => (c.deleteKey k).1) c).entries ↔ m ∈ c.entries ∧ m.key ∉ keys := by
  induction keys generalizing c with
  | nil => simp
  | cons k rest ih =>
      rw [List.foldl_cons, ih, deleteKey_entries, Keyed.mem_erase, List.mem_cons, not_or, and_assoc]

theorem cleanUp_subset {c : Messages} {max : Nat} {x : Message}
    (member : x ∈ (c.cleanUp max).1.entries) : x ∈ c.entries := by
  unfold cleanUp at member
  split at member
  · exact member
  · exact ((mem_deleteKeys _ _ _).mp member).1

theorem delete_subset {c : Messages} {id : String} {x : Message}
    (member : x ∈ (c.delete id).1.entries) : x ∈ c.entries := by
  rw [delete, deleteKey_entries] at member
  exact (Keyed.mem_erase.mp member).1

/-- Take out the earliest messages, where the entries are gone through in the order of `listing`. -/
def evict (c : Messages) (listing : List Message) (max : Nat) : Messages :=
  if max = 0 ∨ c.count ≤ max then c
  else
    let victims := ((Message.chronological listing).take (c.entries.length - max)).map Message.key
    victims.foldl (fun c key => (c.deleteKey key).1) c

end Messages

namespace Agrees

variable {c c' : Messages} {t t' : Table}

theorem ext (agrees : Agrees c t) (agrees' : Agrees c' t')
    (same : c.entries.toFinset = c'.entries.toFinset) : c = c' := by
  have perm := List.perm_of_nodup_nodup_toFinset_eq agrees.nodup agrees'.nodup same
  have entries : c.entries = c'.entries := by
    apply perm.eq_of_pairwise _ (List.pairwise_map.mp agrees.sorted)
      (List.pairwise_map.mp agrees'.sorted)
    intro a b _ _ first second
    exact absurd first (lt_asymm second)
  cases c
  cases c'
  simp only [Messages.mk.injEq]
  refine ⟨entries, ?_⟩
  have counted := agrees.count
  have counted' := agrees'.count
  simp only at entries counted counted'
  rw [counted, counted', entries]

theorem put_toFinset (agrees : Agrees c t) {m : Message} (fresh : ∀ x ∈ c.entries, x.key ≠ m.key) :
    (c.put m).1.entries.toFinset = insert m c.entries.toFinset := by
  ext x
  rw [Messages.put_entries, List.mem_toFinset, Messages.mem_insert agrees.sorted,
    Finset.mem_insert, List.mem_toFinset]
  constructor
  · intro given
    rcases given with same | ⟨member, _⟩
    · exact Or.inl same
    · exact Or.inr member
  · intro given
    rcases given with same | member
    · exact Or.inl same
    · exact Or.inr ⟨member, fresh x member⟩

/-- What an eviction leaves is the end of the entries in their order. -/
theorem cleanUp_newest (agrees : Agrees c t) {bound : Nat} (positive : 0 < bound) :
    Newest bound c.entries.toFinset (c.cleanUp bound).1.entries.toFinset := by
  have perm : c.ordered.Perm c.entries := Message.chronological_perm c.entries
  rw [Messages.cleanUp]
  split
  · next idle =>
    have few := idle.resolve_left (Nat.ne_of_gt positive)
    have counted := agrees.count
    refine ⟨Finset.Subset.refl _, ?_, fun x member gone => absurd member gone⟩
    rw [List.toFinset_card_of_nodup agrees.nodup]
    omega
  · have distinct : (c.ordered.map Message.key).Nodup :=
      (perm.map Message.key).nodup_iff.mpr agrees.sorted.distinct
    have newest : Newest bound _ _ := Newest.drop agrees.ordered_earlier
    have left : ∀ m, m ∈ c.ordered.drop (c.ordered.length - bound) ↔
        m ∈ c.entries ∧ m.key ∉ (c.ordered.take (c.ordered.length - bound)).map Message.key := by
      intro m
      rw [← perm.mem_iff]
      rw [← List.take_append_drop (c.ordered.length - bound) c.ordered, List.map_append] at distinct
      have apart := (List.nodup_append.mp distinct).2.2
      constructor
      · intro later
        refine ⟨List.mem_of_mem_drop later, ?_⟩
        intro named
        exact apart m.key named m.key (List.mem_map_of_mem later) rfl
      · intro given
        obtain ⟨member, unnamed⟩ := given
        rw [← List.take_append_drop (c.ordered.length - bound) c.ordered] at member
        rcases List.mem_append.mp member with front | back
        · exact absurd (List.mem_map_of_mem front) unnamed
        · exact back
    rw [List.toFinset_eq_of_perm _ _ perm] at newest
    convert newest using 1
    ext m
    rw [List.mem_toFinset, List.mem_toFinset, left m, perm.length_eq]
    exact Messages.mem_deleteKeys c _ m

/-- The order in which the entries are gone through does not matter. -/
theorem evict_eq (agrees : Agrees c t) {listing : List Message} (listed : listing.Perm c.entries)
    (bound : Nat) : c.evict listing bound = (c.cleanUp bound).1 := by
  have same : Message.chronological listing = c.ordered :=
    Message.chronological_eq_of_perm listed agrees.sorted.distinct
  rw [Messages.evict, Messages.cleanUp, same]
  split <;> rfl

end Agrees

/-- A cache given the messages `past`, one after the other, where the entries may be gone through in
another order every time. -/
inductive Kept (bound : Nat) : List Message → Messages → Prop
  | nothing : Kept bound [] {}
  | next {past : List Message} {c : Messages} {m : Message} {listing : List Message}
      (before : Kept bound past c) (listed : listing.Perm (c.put m).1.entries) :
      Kept bound (past ++ [m]) ((c.put m).1.evict listing bound)

/-- A cache in good order that holds the newest of the messages it was given. -/
structure Holds (bound : Nat) (past : List Message) (c : Messages) : Prop where
  agrees : ∃ t, Agrees c t
  newest : Newest bound past.toFinset c.entries.toFinset

namespace Holds

variable {bound : Nat} {past past' : List Message} {c c' : Messages}

theorem keep (holds : Holds bound past c) (positive : 0 < bound) {m : Message}
    (fresh : m.key ∉ past.map Message.key) {listing : List Message}
    (listed : listing.Perm (c.put m).1.entries) :
    Holds bound (past ++ [m]) ((c.put m).1.evict listing bound) := by
  obtain ⟨t, agrees⟩ := holds.agrees
  have apart : ∀ x ∈ c.entries, x.key ≠ m.key := by
    intro x member same
    have given := holds.newest.subset (List.mem_toFinset.mpr member)
    exact fresh (same ▸ List.mem_map_of_mem (List.mem_toFinset.mp given))
  have absent : m ∉ past.toFinset := fun member =>
    fresh (List.mem_map_of_mem (List.mem_toFinset.mp member))
  have after := (agrees.put m).cleanUp_newest positive
  rw [agrees.put_toFinset apart] at after
  rw [(agrees.put m).evict_eq listed]
  refine ⟨⟨_, ((agrees.put m).cleanUp bound).1⟩, ?_⟩
  rw [List.toFinset_append, List.toFinset_cons, List.toFinset_nil, Finset.union_comm]
  exact holds.newest.insert absent after

theorem unique (holds : Holds bound past c) (holds' : Holds bound past' c')
    (same : past.toFinset = past'.toFinset) : c = c' := by
  obtain ⟨t, agrees⟩ := holds.agrees
  obtain ⟨t', agrees'⟩ := holds'.agrees
  have newest := holds.newest
  rw [same] at newest
  exact agrees.ext agrees' (newest.unique holds'.newest)

theorem length (holds : Holds bound past c) (distinct : Keyed.Distinct Message.key past) :
    c.entries.length = min past.length bound ∧ c.count = c.entries.length := by
  obtain ⟨t, agrees⟩ := holds.agrees
  have card := holds.newest.card
  rw [List.toFinset_card_of_nodup agrees.nodup, List.toFinset_card_of_nodup distinct.nodup] at card
  exact ⟨card, agrees.count⟩

/-- In order, what is held is the end of what was given. -/
theorem ordered (holds : Holds bound past c) (distinct : Keyed.Distinct Message.key past) :
    c.ordered = (Message.chronological past).drop (past.length - bound) := by
  obtain ⟨t, agrees⟩ := holds.agrees
  have perm := Message.chronological_perm past
  have sorted := Message.chronological_earlier past distinct
  have rest := List.drop_sublist (past.length - bound) (Message.chronological past)
  have latest : Newest bound _ _ := Newest.drop sorted
  rw [List.toFinset_eq_of_perm _ _ perm, perm.length_eq] at latest
  have keys : Keyed.Distinct Message.key (Message.chronological past) :=
    (perm.map Message.key).nodup_iff.mpr distinct
  have same := List.perm_of_nodup_nodup_toFinset_eq agrees.nodup (keys.nodup.sublist rest)
    (holds.newest.unique latest)
  have order := Message.chronological_eq_of_perm same (keys.sublist (rest.map Message.key))
  exact order.trans (Message.chronological_of_earlier (sorted.sublist rest))

end Holds

theorem Kept.holds {bound : Nat} {past : List Message} {c : Messages} (kept : Kept bound past c)
    (positive : 0 < bound) (distinct : Keyed.Distinct Message.key past) : Holds bound past c := by
  induction kept with
  | nothing => exact ⟨⟨∅, Agrees.empty⟩, by constructor <;> simp⟩
  | next before listed ih =>
      rw [Keyed.Distinct, List.map_append, List.map_singleton] at distinct
      have split := List.nodup_append.mp distinct
      apply (ih split.1).keep positive _ listed
      intro member
      exact split.2.2 _ member _ (List.mem_singleton_self _) rfl

end ChatGateway.Cache

namespace ChatGateway.Hosted

theorem store_messages (h : Hosted) (m : Message) :
    (h.store m).1.tenant.messages =
        ((h.tenant.messages.put m).1.cleanUp h.host.settings.cache.maxMessages).1 ∧
      (h.store m).1.host.settings = h.host.settings := by
  unfold store
  dsimp only
  split <;> exact ⟨rfl, rfl⟩

theorem storeAll_kept (h : Hosted) (empty : h.tenant.messages = {})
    (positive : 0 < h.host.settings.cache.maxMessages) {ms : List Message}
    (distinct : Keyed.Distinct Message.key ms) :
    Cache.Kept h.host.settings.cache.maxMessages ms
        (ms.foldl (fun h m => (h.store m).1) h).tenant.messages ∧
      (ms.foldl (fun h m => (h.store m).1) h).host.settings = h.host.settings := by
  induction ms using List.reverseRecOn with
  | nil =>
      refine ⟨?_, rfl⟩
      rw [List.foldl_nil, empty]
      exact .nothing
  | append_singleton past m ih =>
      have before := ih (distinct.sublist ((List.sublist_append_left past [m]).map Message.key))
      obtain ⟨messages, settings⟩ :=
        (past.foldl (fun h m => (h.store m).1) h).store_messages m
      obtain ⟨t, agrees⟩ := (before.1.holds positive
        (distinct.sublist ((List.sublist_append_left past [m]).map Message.key))).agrees
      rw [List.foldl_append, List.foldl_cons, List.foldl_nil, messages, before.2]
      refine ⟨?_, settings.trans before.2⟩
      rw [← (agrees.put m).evict_eq (List.Perm.refl _)]
      exact .next before.1 (List.Perm.refl _)

/-- Messages of different keys are stored in a tenant whose cache was empty and has a bound. In
order of time and key, those kept are the last of those stored; never are there more than the bound
allows; and neither the order in which they came nor the order in which entries are gone through
makes a difference. -/
theorem newest_messages_kept {h : Hosted} {ms : List Message} (empty : h.tenant.messages = {})
    (positive : 0 < h.host.settings.cache.maxMessages)
    (distinct : Keyed.Distinct Message.key ms) :
    let bound := h.host.settings.cache.maxMessages
    let kept := fun past : List Message => (past.foldl (fun h m => (h.store m).1) h).tenant.messages
    (kept ms).ordered = (Message.chronological ms).drop (ms.length - bound) ∧
    (∀ past, past <+: ms → (kept past).entries.length = min past.length bound ∧
      (kept past).count = (kept past).entries.length) ∧
    (∀ other, other.Perm ms → kept other = kept ms) ∧
    ∀ c, Cache.Kept bound ms c → c = kept ms := by
  intro bound kept
  have holds : ∀ past, Keyed.Distinct Message.key past → Cache.Holds bound past (kept past) :=
    fun past apart => (h.storeAll_kept empty positive apart).1.holds positive apart
  refine ⟨(holds ms distinct).ordered distinct, ?_, ?_, ?_⟩
  · intro past begins
    have apart := distinct.sublist (begins.sublist.map Message.key)
    exact (holds past apart).length apart
  · intro other perm
    have apart : Keyed.Distinct Message.key other := (perm.map Message.key).nodup_iff.mpr distinct
    exact (holds other apart).unique (holds ms distinct) (List.toFinset_eq_of_perm _ _ perm)
  · intro c listed
    exact (listed.holds positive distinct).unique (holds ms distinct) rfl

/-- Two messages of one instant stay and an older one that came between them goes. -/
theorem older_message_makes_room :
    let settings : Settings := { cache := { maxMessages := 2 } }
    let host : Host := { settings := settings, office := ⟨""⟩, hub := {}, clock := ⟨.epoch⟩ }
    let h : Hosted := ⟨Tenant.ofProfile settings (.fresh "tok" .epoch) false, host⟩
    let m := fun (id : String) (second : Int) =>
      ({ id := id, timestamp := ⟨second, 0⟩, kind := .text, chat := ⟨"1@s.whatsapp.net", ""⟩ } :
        Message)
    Keyed.Distinct Message.key [m "b" 5, m "c" 3, m "a" 5] ∧
      ([m "b" 5, m "c" 3, m "a" 5].foldl (fun h m => (h.store m).1) h).tenant.messages.ordered =
        [m "a" 5, m "b" 5] := by
  intro settings host h m
  have distinct : ([m "b" 5, m "c" 3, m "a" 5].map Message.key).Nodup := by decide
  have sorted : [m "c" 3, m "a" 5, m "b" 5].Pairwise fun a b => a.earlier b = true := by decide
  have perm : [m "b" 5, m "c" 3, m "a" 5].Perm [m "c" 3, m "a" 5, m "b" 5] := by decide
  have keys : ([m "c" 3, m "a" 5, m "b" 5].map Message.key).Nodup := by decide
  refine ⟨distinct, ?_⟩
  have kept := (newest_messages_kept (h := h) rfl (show 0 < 2 by decide) distinct).1
  rw [Message.chronological_eq_of_perm perm keys, Message.chronological_of_earlier sorted] at kept
  exact kept

end ChatGateway.Hosted

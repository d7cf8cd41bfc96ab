import ChatGateway.Proofs.Cache.Entries
import ChatGateway.Proofs.Cache.Table

namespace ChatGateway.Cache

/-- The cache holds what the table holds, and has counted it. -/
structure Agrees (c : Messages) (t : Table) : Prop where
  sorted : Sorted c.entries
  stored : ∀ k m, t.lookup k = some m ↔ m ∈ c.entries ∧ m.key = k
  count : c.count = c.entries.length

theorem Table.lists_of_nodup {ms : List Message} {s : Finset Message} (nodup : ms.Nodup)
    (same : ∀ m, m ∈ ms ↔ m ∈ s) : Lists ms s :=
  (Multiset.Nodup.ext (Multiset.coe_nodup.mpr nodup) s.nodup).mpr same

theorem Table.Lists.card {ms : List Message} {s : Finset Message} (lists : Lists ms s) :
    s.card = ms.length := by
  rw [Finset.card, ← lists, Multiset.coe_card]

namespace Agrees

variable {c : Messages} {t : Table}

theorem empty : Agrees {} ∅ where
  sorted := List.Pairwise.nil
  stored := by simp
  count := rfl

theorem nodup (agrees : Agrees c t) : c.entries.Nodup := agrees.sorted.distinct.nodup

theorem find? (agrees : Agrees c t) (k : String) :
    Keyed.find? Message.key k c.entries = t.lookup k := by
  apply Option.ext
  intro m
  rw [Keyed.find?_eq_some agrees.sorted.distinct]
  exact (agrees.stored k m).symm

theorem mem_live (agrees : Agrees c t) (m : Message) : m ∈ c.entries ↔ m ∈ t.live := by
  rw [Table.mem_live]
  constructor
  · exact fun member => ⟨m.key, (agrees.stored m.key m).mpr ⟨member, rfl⟩⟩
  · intro given
    obtain ⟨k, found⟩ := given
    exact ((agrees.stored k m).mp found).1

theorem lists_filter (agrees : Agrees c t) (wanted : Message → Bool) :
    Table.Lists (c.entries.filter wanted) (t.live.filter fun m => wanted m) := by
  apply Table.lists_of_nodup (agrees.nodup.filter _)
  intro m
  rw [List.mem_filter, Finset.mem_filter, agrees.mem_live]

theorem put (agrees : Agrees c t) (m : Message) : Agrees (c.put m).1 (t.insert m.key m) := by
  have entries : (c.put m).1.entries = Messages.insert m c.entries := by
    rw [Messages.put]
    split <;> rfl
  refine ⟨?_, ?_, ?_⟩
  · rw [entries]
    exact Messages.insert_sorted agrees.sorted
  · intro k x
    rw [entries, Messages.mem_insert agrees.sorted]
    by_cases same : k = m.key
    · subst same
      rw [Finmap.lookup_insert]
      constructor
      · intro equal
        cases equal
        exact ⟨Or.inl rfl, rfl⟩
      · intro given
        rcases given with ⟨rfl | ⟨_, different⟩, key⟩
        · rfl
        · exact absurd key different
    · rw [Finmap.lookup_insert_of_ne _ same, agrees.stored]
      constructor
      · intro given
        obtain ⟨member, rfl⟩ := given
        exact ⟨Or.inr ⟨member, same⟩, rfl⟩
      · intro given
        rcases given with ⟨rfl | ⟨member, _⟩, key⟩
        · exact absurd key.symm same
        · exact ⟨member, key⟩
  · have grown := (Messages.insert_perm (m := m) agrees.sorted).length_eq
    rw [List.length_cons] at grown
    rw [entries, grown, Messages.put]
    split
    · next old found =>
      have lost := (Keyed.perm_erase agrees.sorted.distinct found).length_eq
      rw [List.length_cons] at lost
      change c.count = _
      rw [agrees.count, lost]
    · next absent =>
      rw [Keyed.erase_of_absent absent]
      change c.count + 1 = _
      rw [agrees.count]
      omega

theorem put_changed (agrees : Agrees c t) (m : Message) :
    (c.put m).2 = true ↔ ∀ old, t.lookup m.key = some old → old.content ≠ m.content := by
  rw [← agrees.find?, Messages.put]
  split
  · next old found => simp [found, Message.sameContent]
  · next absent => simp [absent]

theorem deleteKey (agrees : Agrees c t) (k : String) :
    Agrees (c.deleteKey k).1 (t.erase k) ∧ (c.deleteKey k).2 = t.lookup k := by
  rw [← agrees.find?, Messages.deleteKey]
  split
  · next m found =>
    refine ⟨⟨agrees.sorted.sublist List.filter_sublist, ?_, ?_⟩, found.symm⟩
    · intro other x
      rw [Keyed.mem_erase]
      by_cases same : other = k
      · subst same
        rw [Finmap.lookup_erase]
        constructor
        · intro impossible
          cases impossible
        · intro given
          obtain ⟨⟨_, different⟩, key⟩ := given
          exact absurd key different
      · rw [Finmap.lookup_erase_ne same, agrees.stored]
        constructor
        · intro given
          obtain ⟨member, rfl⟩ := given
          exact ⟨⟨member, same⟩, rfl⟩
        · intro given
          obtain ⟨⟨member, _⟩, key⟩ := given
          exact ⟨member, key⟩
    · have lost := (Keyed.perm_erase agrees.sorted.distinct found).length_eq
      rw [List.length_cons] at lost
      change c.count - 1 = ((Keyed.erase Message.key k c.entries).length : Int)
      rw [agrees.count, lost]
      omega
  · next absent =>
    refine ⟨?_, absent.symm⟩
    have none : t.lookup k = none := (agrees.find? k).symm.trans absent
    have same : t.erase k = t := by
      apply Finmap.ext_lookup
      intro other
      by_cases equal : other = k
      · rw [equal, Finmap.lookup_erase, none]
      · exact Finmap.lookup_erase_ne equal
    rw [same]
    exact agrees

/-- Taking keys out one after the other, the counter follows at every step. -/
theorem deleteKeys (agrees : Agrees c t) (keys : List String) :
    Agrees (keys.foldl (fun c k => (c.deleteKey k).1) c)
      (keys.foldl (fun (t : Table) k => t.erase k) t) := by
  induction keys generalizing c t with
  | nil => exact agrees
  | cons k rest ih => exact ih (agrees.deleteKey k).1

theorem card_after (agrees : Agrees c t) (m : Message) :
    (t.after m).card = (c.ordered.filter (m.earlier ·)).length := by
  have ordered : (c.ordered.filter (m.earlier ·)).Perm (c.entries.filter (m.earlier ·)) :=
    (Message.chronological_perm c.entries).filter _
  rw [ordered.length_eq]
  exact (agrees.lists_filter (m.earlier ·)).card

theorem ordered_earlier (agrees : Agrees c t) :
    c.ordered.Pairwise fun a b => a.earlier b = true :=
  Message.chronological_earlier c.entries agrees.sorted.distinct

/-- The victims are the messages with too many others after them. -/
theorem victim_iff (agrees : Agrees c t) (max : Nat) {m : Message} (member : m ∈ c.entries) :
    m.key ∈ (c.ordered.take (c.entries.length - max)).map Message.key ↔
      ¬ (t.after m).card < max := by
  have perm : c.ordered.Perm c.entries := Message.chronological_perm c.entries
  have inside : m ∈ c.ordered := perm.mem_iff.mpr member
  have taken := Message.mem_take_iff (c.entries.length - max) agrees.ordered_earlier inside
  have shorter : (c.ordered.filter (m.earlier ·)).length < c.ordered.length := by
    apply List.length_filter_lt_length_iff_exists.mpr
    exact ⟨m, inside, by rw [Message.earlier_irrefl]; exact Bool.false_ne_true⟩
  rw [← agrees.card_after] at taken shorter
  have own : m.key ∈ (c.ordered.take (c.entries.length - max)).map Message.key ↔
      m ∈ c.ordered.take (c.entries.length - max) := by
    constructor
    · intro named
      rcases List.mem_map.mp named with ⟨x, present, key⟩
      have there : x ∈ c.entries := perm.mem_iff.mp (List.mem_of_mem_take present)
      have first := (agrees.stored m.key x).mpr ⟨there, key⟩
      have second := (agrees.stored m.key m).mpr ⟨member, rfl⟩
      rw [first] at second
      cases second
      exact present
    · exact List.mem_map_of_mem
  rw [own, taken, perm.length_eq]
  rw [perm.length_eq] at shorter
  omega

theorem lookup_erase_all (t : Table) (keys : List String) (k : String) :
    (keys.foldl (fun (t : Table) k => t.erase k) t).lookup k =
      if k ∈ keys then none else t.lookup k := by
  induction keys generalizing t with
  | nil => simp
  | cons first rest ih =>
      rw [List.foldl_cons, ih]
      by_cases later : k ∈ rest
      · simp [later]
      · by_cases now : k = first
        · subst now
          simp [later, Finmap.lookup_erase]
        · simp [later, now, Finmap.lookup_erase_ne now]

theorem erase_victims (agrees : Agrees c t) {max : Nat} (bounded : max ≠ 0) :
    ((c.ordered.take (c.entries.length - max)).map Message.key).foldl
      (fun (t : Table) k => t.erase k) t = t.cleanUp max := by
  apply Finmap.ext_lookup
  intro k
  rw [lookup_erase_all, Table.cleanUp, if_neg bounded, Table.lookup_keep]
  cases found : t.lookup k with
  | none => simp
  | some m =>
      rcases (agrees.stored k m).mp found with ⟨member, rfl⟩
      have victim := agrees.victim_iff max member
      by_cases stays : (t.after m).card < max
      · rw [if_neg fun named => (victim.mp named) stays]
        symm
        apply Option.filter_some_pos
        exact decide_eq_true stays
      · rw [if_pos (victim.mpr stays)]
        symm
        apply Option.filter_some_neg
        exact decide_eq_false stays

theorem keys_erase_all (t : Table) (keys : List String) :
    (keys.foldl (fun (t : Table) k => t.erase k) t).keys = t.keys \ keys.toFinset := by
  induction keys generalizing t with
  | nil => simp
  | cons first rest ih =>
      rw [List.foldl_cons, ih, Finmap.keys_erase, List.toFinset_cons, Finset.erase_sdiff_comm,
        Finset.sdiff_insert]

theorem victims_distinct (agrees : Agrees c t) (n : Nat) :
    ((c.ordered.take n).map Message.key).Nodup := by
  have keys : (c.ordered.map Message.key).Nodup :=
    (List.Perm.map Message.key (Message.chronological_perm c.entries)).nodup_iff.mpr
      agrees.sorted.distinct
  exact keys.sublist ((List.take_sublist n c.ordered).map Message.key)

theorem victims_stored (agrees : Agrees c t) (n : Nat) :
    ((c.ordered.take n).map Message.key).toFinset ⊆ t.keys := by
  intro k named
  rcases List.mem_map.mp (List.mem_toFinset.mp named) with ⟨m, taken, key⟩
  have member : m ∈ c.entries :=
    (Message.chronological_perm c.entries).mem_iff.mp (List.mem_of_mem_take taken)
  exact Finmap.mem_keys.mpr (Finmap.mem_of_lookup_eq_some ((agrees.stored k m).mpr ⟨member, key⟩))

theorem cleanUp (agrees : Agrees c t) (max : Nat) :
    Agrees (c.cleanUp max).1 (t.cleanUp max) ∧
      t.keys.card = (t.cleanUp max).keys.card + (c.cleanUp max).2 := by
  rw [Messages.cleanUp]
  split
  · next idle =>
    -- The early exit looks at the counter alone; the table has nothing to lose either.
    have kept : t.cleanUp max = t := by
      by_cases unbounded : max = 0
      · rw [Table.cleanUp, if_pos unbounded]
      · have few : c.entries.length - max = 0 := by
          have counted := agrees.count
          have small := idle.resolve_left unbounded
          omega
        have none := agrees.erase_victims unbounded
        rw [few, List.take_zero] at none
        exact none.symm
    rw [kept]
    exact ⟨agrees, rfl⟩
  · next busy =>
    have bounded : max ≠ 0 := fun zero => busy (Or.inl zero)
    have after := agrees.deleteKeys
      ((c.ordered.take (c.entries.length - max)).map Message.key)
    rw [agrees.erase_victims bounded] at after
    refine ⟨after, ?_⟩
    have parted := Finset.card_sdiff_add_card_eq_card
      (agrees.victims_stored (c.entries.length - max))
    rw [List.toFinset_card_of_nodup (agrees.victims_distinct (c.entries.length - max))] at parted
    rw [← agrees.erase_victims bounded, keys_erase_all]
    exact parted.symm

theorem ordered (agrees : Agrees c t) : Table.Lists c.ordered t.live := by
  have perm : c.ordered.Perm c.entries := Message.chronological_perm c.entries
  apply Table.lists_of_nodup (perm.nodup_iff.mpr agrees.nodup)
  intro m
  rw [perm.mem_iff, agrees.mem_live]

theorem earliest (agrees : Agrees c t) (wanted : Message → Bool) :
    Table.IsEarliest (t.live.filter fun m => wanted m)
      (Message.chronological (c.entries.filter wanted)).head? := by
  have perm := Message.chronological_perm (c.entries.filter wanted)
  have sorted := Message.chronological_earlier (c.entries.filter wanted)
    (agrees.sorted.sublist List.filter_sublist).distinct
  have members : ∀ m, m ∈ t.live.filter (fun m => wanted m) ↔
      m ∈ Message.chronological (c.entries.filter wanted) := by
    intro m
    rw [perm.mem_iff, List.mem_filter, Finset.mem_filter, agrees.mem_live]
  cases listed : Message.chronological (c.entries.filter wanted) with
  | nil =>
      apply Finset.eq_empty_of_forall_notMem
      intro m
      rw [members, listed]
      exact List.not_mem_nil
  | cons first rest =>
      rw [listed] at members sorted
      refine ⟨(members first).mpr List.mem_cons_self, ?_⟩
      intro other member different
      rcases List.mem_cons.mp ((members other).mp member) with same | behind
      · exact absurd same different
      · exact List.rel_of_pairwise_cons sorted behind

/-- Every question is answered as by the table, and leaves the two in agreement. -/
theorem step (agrees : Agrees c t) (op : Op) :
    Agrees (c.step op).1 (t.step op) ∧ t.Answers op (c.step op).2 := by
  cases op with
  | put m => exact ⟨agrees.put m, agrees.put_changed m⟩
  | get id => exact ⟨agrees, agrees.find? (Message.keyOf id)⟩
  | startingWith beginning =>
      exact ⟨agrees, agrees.lists_filter fun m => Text.beginsWith m.key (Message.keyOf beginning)⟩
  | since i => exact ⟨agrees, agrees.lists_filter fun m => i.before m.timestamp⟩
  | ordered => exact ⟨agrees, agrees.ordered, agrees.ordered_earlier⟩
  | oldest now =>
      exact ⟨agrees, agrees.earliest fun m => m.hasTimestamp && m.timestamp.before now⟩
  | cleanUp max => exact agrees.cleanUp max
  | delete id => exact agrees.deleteKey (Message.keyOf id)
  | clear => exact ⟨empty, trivial⟩

theorem run (agrees : Agrees c t) (ops : List Op) : Agrees (c.run ops) (t.run ops) := by
  induction ops generalizing c t with
  | nil => exact agrees
  | cons op rest ih => exact ih (agrees.step op).1

end Agrees

end ChatGateway.Cache

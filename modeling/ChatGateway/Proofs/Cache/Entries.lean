import ChatGateway.Cache.Messages
import ChatGateway.Proofs.Keyed
import ChatGateway.Proofs.Message.Order

namespace ChatGateway.Cache

/-- Entries in strict key order. -/
def Sorted (entries : List Message) : Prop := (entries.map Message.key).Pairwise (· < ·)

theorem Sorted.distinct {entries : List Message} (sorted : Sorted entries) :
    Keyed.Distinct Message.key entries :=
  List.Pairwise.imp ne_of_lt sorted

theorem Sorted.sublist {kept entries : List Message} (sorted : Sorted entries)
    (part : kept.Sublist entries) : Sorted kept :=
  List.Pairwise.sublist (part.map Message.key) sorted

namespace Messages

theorem insert_subset {m x : Message} {entries : List Message} (member : x ∈ insert m entries) :
    x = m ∨ x ∈ entries := by
  induction entries with
  | nil => exact Or.inl (List.mem_singleton.mp member)
  | cons e rest ih =>
      rw [insert] at member
      split at member
      · exact List.mem_cons.mp member
      · split at member
        · rcases List.mem_cons.mp member with here | there
          · exact Or.inl here
          · exact Or.inr (List.mem_cons_of_mem e there)
        · rcases List.mem_cons.mp member with rfl | there
          · exact Or.inr List.mem_cons_self
          · rcases ih there with here | there
            · exact Or.inl here
            · exact Or.inr (List.mem_cons_of_mem e there)

theorem mem_insert {m : Message} {entries : List Message} (sorted : Sorted entries) :
    ∀ {x : Message}, x ∈ insert m entries ↔ x = m ∨ (x ∈ entries ∧ x.key ≠ m.key) := by
  induction entries with
  | nil => simp [insert]
  | cons e rest ih =>
      have later : ∀ x ∈ rest, e.key < x.key := by
        intro x member
        exact List.rel_of_pairwise_cons sorted (List.mem_map_of_mem member)
      have tail : Sorted rest := List.Pairwise.of_cons sorted
      intro x
      rw [insert]
      split
      · next before =>
        have apart : ∀ x ∈ e :: rest, x.key ≠ m.key := by
          intro x member
          rcases List.mem_cons.mp member with rfl | member
          · exact ne_of_gt before
          · exact ne_of_gt (before.trans (later x member))
        rw [List.mem_cons]
        constructor
        · intro given
          rcases given with same | member
          · exact Or.inl same
          · exact Or.inr ⟨member, apart x member⟩
        · intro given
          rcases given with same | ⟨member, _⟩
          · exact Or.inl same
          · exact Or.inr member
      · split
        · next same =>
          have apart : ∀ x ∈ rest, x.key ≠ m.key := by
            intro x member
            rw [same]
            exact ne_of_gt (later x member)
          rw [List.mem_cons, List.mem_cons]
          constructor
          · intro given
            rcases given with equal | member
            · exact Or.inl equal
            · exact Or.inr ⟨Or.inr member, apart x member⟩
          · intro given
            rcases given with equal | ⟨rfl | member, different⟩
            · exact Or.inl equal
            · exact absurd same.symm different
            · exact Or.inr member
        · next different =>
          rw [List.mem_cons, List.mem_cons, ih tail]
          constructor
          · intro given
            rcases given with rfl | equal | ⟨member, other⟩
            · exact Or.inr ⟨Or.inl rfl, Ne.symm different⟩
            · exact Or.inl equal
            · exact Or.inr ⟨Or.inr member, other⟩
          · intro given
            rcases given with equal | ⟨rfl | member, other⟩
            · exact Or.inr (Or.inl equal)
            · exact Or.inl rfl
            · exact Or.inr (Or.inr ⟨member, other⟩)

theorem insert_sorted {m : Message} {entries : List Message} (sorted : Sorted entries) :
    Sorted (insert m entries) := by
  induction entries with
  | nil => simp [insert, Sorted]
  | cons e rest ih =>
      have later : ∀ k ∈ rest.map Message.key, e.key < k := fun k member =>
        List.rel_of_pairwise_cons sorted member
      have tail : Sorted rest := List.Pairwise.of_cons sorted
      rw [insert]
      split
      · next before =>
        refine List.pairwise_cons.mpr ⟨?_, sorted⟩
        intro k member
        rcases List.mem_cons.mp member with rfl | member
        · exact before
        · exact before.trans (later k member)
      · split
        · next same =>
          refine List.pairwise_cons.mpr ⟨?_, tail⟩
          rw [same]
          exact later
        · next notBefore different =>
          have behind : e.key < m.key :=
            lt_of_le_of_ne (not_lt.mp notBefore) (Ne.symm different)
          refine List.pairwise_cons.mpr ⟨?_, ih tail⟩
          intro k member
          rcases List.mem_map.mp member with ⟨x, present, rfl⟩
          rcases (mem_insert tail).mp present with rfl | ⟨older, _⟩
          · exact behind
          · exact later _ (List.mem_map_of_mem older)

theorem find?_insert_self (m : Message) (entries : List Message) :
    Keyed.find? Message.key m.key (insert m entries) = some m := by
  induction entries with
  | nil => simp [insert, Keyed.find?]
  | cons e rest ih =>
      rw [insert]
      split
      · simp [Keyed.find?]
      · split
        · simp [Keyed.find?]
        · next different =>
          have skip : (e.key == m.key) = false := beq_eq_false_iff_ne.mpr (Ne.symm different)
          rw [Keyed.find?, List.find?_cons, skip]
          exact ih

theorem find?_insert_ne {m : Message} {k : String} (different : k ≠ m.key)
    (entries : List Message) :
    Keyed.find? Message.key k (insert m entries) = Keyed.find? Message.key k entries := by
  have skip : (m.key == k) = false := beq_eq_false_iff_ne.mpr different.symm
  induction entries with
  | nil => simp [insert, Keyed.find?, skip]
  | cons e rest ih =>
      rw [insert]
      split
      · rw [Keyed.find?, List.find?_cons, skip, Keyed.find?]
      · split
        · next same =>
          rw [Keyed.find?, Keyed.find?, List.find?_cons, List.find?_cons, ← same, skip]
        · rw [Keyed.find?, Keyed.find?, List.find?_cons, List.find?_cons]
          cases e.key == k with
          | true => rfl
          | false => exact ih

theorem insert_perm {m : Message} {entries : List Message} (sorted : Sorted entries) :
    (insert m entries).Perm (m :: Keyed.erase Message.key m.key entries) := by
  have gone : m ∉ Keyed.erase Message.key m.key entries := fun member =>
    (Keyed.mem_erase.mp member).2 rfl
  apply (List.perm_ext_iff_of_nodup (insert_sorted sorted).distinct.nodup
    (List.nodup_cons.mpr ⟨gone, (Keyed.erase_distinct m.key sorted.distinct).nodup⟩)).mpr
  intro x
  rw [mem_insert sorted, List.mem_cons, Keyed.mem_erase]

end Messages

end ChatGateway.Cache

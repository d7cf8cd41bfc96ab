import ChatGateway.Keyed
import Mathlib.Data.List.Nodup
import Mathlib.Data.List.Perm.Basic

namespace ChatGateway.Keyed

variable {α κ : Type} [BEq κ] [LawfulBEq κ] {key : α → κ}

def Distinct (key : α → κ) (items : List α) : Prop := (items.map key).Nodup

theorem find?_some {k : κ} {items : List α} {a : α} (found : find? key k items = some a) :
    a ∈ items ∧ key a = k := by
  refine ⟨List.mem_of_find?_eq_some found, ?_⟩
  simpa using List.find?_some found

theorem find?_eq_none {k : κ} {items : List α} :
    find? key k items = none ↔ ∀ a ∈ items, key a ≠ k := by
  simp [find?]

theorem find?_eq_some {k : κ} {items : List α} {a : α} (distinct : Distinct key items) :
    find? key k items = some a ↔ a ∈ items ∧ key a = k := by
  constructor
  · exact find?_some
  · intro given
    obtain ⟨member, rfl⟩ := given
    induction items with
    | nil => cases member
    | cons b rest ih =>
        simp only [Distinct, List.map_cons, List.nodup_cons] at distinct
        rcases List.mem_cons.mp member with rfl | member
        · simp [find?]
        · have other : (key b == key a) = false := by
            apply beq_eq_false_iff_ne.mpr
            intro same
            exact distinct.1 (same ▸ List.mem_map_of_mem member)
          rw [find?, List.find?_cons, other]
          exact ih distinct.2 member

omit [BEq κ] [LawfulBEq κ] in
theorem Distinct.nodup {items : List α} (distinct : Distinct key items) : items.Nodup :=
  List.Nodup.of_map key distinct

theorem has_iff {k : κ} {items : List α} : has key k items = true ↔ ∃ a ∈ items, key a = k := by
  simp [has]

theorem mem_erase {k : κ} {items : List α} {a : α} :
    a ∈ erase key k items ↔ a ∈ items ∧ key a ≠ k := by
  simp [erase]

omit [LawfulBEq κ] in
theorem erase_distinct {items : List α} (k : κ) (distinct : Distinct key items) :
    Distinct key (erase key k items) :=
  distinct.sublist (List.filter_sublist.map key)

theorem find?_erase_ne {k other : κ} (items : List α) (different : other ≠ k) :
    find? key other (erase key k items) = find? key other items := by
  rw [find?, erase, List.find?_filter, find?]
  congr 1
  funext a
  by_cases same : key a = other
  · simp [same, different]
  · simp [same]

theorem erase_of_absent {k : κ} {items : List α} (absent : find? key k items = none) :
    erase key k items = items := by
  apply List.filter_eq_self.mpr
  intro a member
  simpa using find?_eq_none.mp absent a member

/-- Taking out a key that is there takes out one item. -/
theorem perm_erase {k : κ} {items : List α} {a : α} (distinct : Distinct key items)
    (found : find? key k items = some a) : items.Perm (a :: erase key k items) := by
  have there := find?_some found
  have gone : a ∉ erase key k items := fun member => (mem_erase.mp member).2 there.2
  apply (List.perm_ext_iff_of_nodup distinct.nodup
    (List.nodup_cons.mpr ⟨gone, (erase_distinct k distinct).nodup⟩)).mpr
  intro b
  rw [List.mem_cons, mem_erase]
  constructor
  · intro member
    by_cases same : key b = k
    · have equal : find? key k items = some b := (find?_eq_some distinct).mpr ⟨member, same⟩
      rw [found] at equal
      exact Or.inl (Option.some.inj equal).symm
    · exact Or.inr ⟨member, same⟩
  · intro given
    rcases given with rfl | ⟨member, _⟩
    · exact there.1
    · exact member

theorem find?_put_self (a : α) (items : List α) : find? key (key a) (put key a items) = some a := by
  induction items with
  | nil => simp [put, find?]
  | cons b rest ih =>
      by_cases same : (key b == key a) = true
      · simp [put, same, find?]
      · rw [put, if_neg same, find?, List.find?_cons, Bool.eq_false_iff.mpr same]
        exact ih

theorem find?_put_ne {a : α} {k : κ} (items : List α) (different : k ≠ key a) :
    find? key k (put key a items) = find? key k items := by
  have skip : (key a == k) = false := beq_eq_false_iff_ne.mpr different.symm
  induction items with
  | nil => simp [put, find?, skip]
  | cons b rest ih =>
      by_cases same : (key b == key a) = true
      · have equal : key b = key a := by simpa using same
        rw [put, if_pos same, find?, find?, List.find?_cons, List.find?_cons, equal, skip]
      · rw [put, if_neg same, find?, find?, List.find?_cons, List.find?_cons]
        cases key b == k with
        | true => rfl
        | false => exact ih

omit [LawfulBEq κ] in
theorem put_subset {a b : α} {items : List α} (member : b ∈ put key a items) :
    b = a ∨ b ∈ items := by
  induction items with
  | nil => exact Or.inl (List.mem_singleton.mp member)
  | cons c rest ih =>
      rw [put] at member
      split at member
      · rcases List.mem_cons.mp member with here | there
        · exact Or.inl here
        · exact Or.inr (List.mem_cons_of_mem c there)
      · rcases List.mem_cons.mp member with rfl | there
        · exact Or.inr List.mem_cons_self
        · rcases ih there with here | there
          · exact Or.inl here
          · exact Or.inr (List.mem_cons_of_mem c there)

theorem put_keys (a : α) (items : List α) :
    (put key a items).map key =
      if key a ∈ items.map key then items.map key else items.map key ++ [key a] := by
  induction items with
  | nil => simp [put]
  | cons b rest ih =>
      by_cases same : key b = key a
      · simp [put, same]
      · have rest' : (key b == key a) = false := beq_eq_false_iff_ne.mpr same
        simp only [put, rest', List.map_cons, List.mem_cons, Ne.symm same, false_or,
          Bool.false_eq_true, if_false, ih]
        split <;> rfl

omit [BEq κ] [LawfulBEq κ] in
theorem concat_distinct {a : α} {items : List α} (distinct : Distinct key items)
    (absent : ∀ b ∈ items, key b ≠ key a) : Distinct key (items ++ [a]) := by
  rw [Distinct, List.map_append]
  refine List.nodup_append.mpr ⟨distinct, List.nodup_singleton _, ?_⟩
  intro k present other single
  obtain ⟨b, member, rfl⟩ := List.mem_map.mp present
  rw [List.mem_singleton.mp single]
  exact absent b member

theorem put_distinct (a : α) {items : List α} (distinct : Distinct key items) :
    Distinct key (put key a items) := by
  rw [Distinct, put_keys]
  split
  · exact distinct
  · next absent =>
    have apart : ∀ b ∈ items, key b ≠ key a := fun b member same =>
      absent (same ▸ List.mem_map_of_mem member)
    have joined := concat_distinct distinct apart
    rwa [Distinct, List.map_append] at joined

theorem mem_put {a b : α} {items : List α} (distinct : Distinct key items) :
    b ∈ put key a items ↔ b = a ∨ (b ∈ items ∧ key b ≠ key a) := by
  have found := find?_eq_some (k := key b) (a := b) (put_distinct a distinct)
  have before := find?_eq_some (k := key b) (a := b) distinct
  simp only [and_true] at found before
  rw [← found]
  by_cases same : key b = key a
  · rw [same, find?_put_self]
    simp [eq_comm]
  · rw [find?_put_ne items same, before]
    constructor
    · exact fun member => Or.inr ⟨member, same⟩
    · intro given
      rcases given with rfl | ⟨member, _⟩
      · exact absurd rfl same
      · exact member

omit [LawfulBEq κ] in
theorem has_eq_isSome (k : κ) (items : List α) : has key k items = (find? key k items).isSome := by
  rw [has, find?, List.isSome_find?]

omit [LawfulBEq κ] in
theorem has_eq_false {k : κ} {items : List α} :
    has key k items = false ↔ find? key k items = none := by
  rw [has_eq_isSome, Option.isSome_eq_false_iff, Option.isNone_iff_eq_none]

omit [LawfulBEq κ] in
theorem has_of_find? {k : κ} {items : List α} {a : α} (found : find? key k items = some a) :
    has key k items = true := by
  rw [has_eq_isSome, found, Option.isSome_some]

theorem find?_erase_self (k : κ) (items : List α) : find? key k (erase key k items) = none :=
  find?_eq_none.mpr fun _ member => (mem_erase.mp member).2

omit [LawfulBEq κ] in
theorem find?_concat (k : κ) (items : List α) (a : α) :
    find? key k (items ++ [a]) = (find? key k items).or (if key a == k then some a else none) := by
  rw [find?, List.find?_append, find?, List.find?_singleton]

/-- Where the keys are distinct, no item is found in place of one that was left out. -/
theorem find?_filter {k : κ} {items : List α} (distinct : Distinct key items) (keep : α → Bool) :
    find? key k (items.filter keep) = (find? key k items).filter keep := by
  cases found : find? key k items with
  | none =>
      rw [Option.filter_none, find?_eq_none]
      exact fun a member => find?_eq_none.mp found a (List.mem_filter.mp member).1
  | some a =>
      have apart : Distinct key (items.filter keep) :=
        distinct.sublist (List.filter_sublist.map key)
      obtain ⟨member, same⟩ := find?_some found
      cases kept : keep a with
      | true =>
          rw [Option.filter_some_pos kept, find?_eq_some apart]
          exact ⟨List.mem_filter.mpr ⟨member, kept⟩, same⟩
      | false =>
          rw [Option.filter_some_neg (by simp [kept]), find?_eq_none]
          intro b there equal
          obtain ⟨there, kept'⟩ := List.mem_filter.mp there
          have again := (find?_eq_some distinct).mpr ⟨there, equal⟩
          rw [found] at again
          cases again
          simp [kept] at kept'

theorem lookup_eq {β : Type} (k : κ) (items : List (κ × β)) :
    items.lookup k = (find? Prod.fst k items).map Prod.snd := by
  induction items with
  | nil => rfl
  | cons a rest ih =>
      obtain ⟨k', b⟩ := a
      rw [List.lookup_cons, find?, List.find?_cons, Bool.beq_comm]
      cases k' == k with
      | true => rfl
      | false => exact ih

section Through

variable {β : Type} {key' : β → κ} {g : α → β} (kept : ∀ a, key' (g a) = key a)

include kept

omit [LawfulBEq κ] in
theorem has_through (k : κ) (items : List α) : has key' k (items.map g) = has key k items := by
  simp only [has, List.any_map, Function.comp_def, kept]

omit [LawfulBEq κ] in
theorem erase_through (k : κ) (items : List α) :
    erase key' k (items.map g) = (erase key k items).map g := by
  simp only [erase, List.filter_map, Function.comp_def, kept]

omit [LawfulBEq κ] in
theorem find?_through (k : κ) (items : List α) :
    find? key' k (items.map g) = (find? key k items).map g := by
  simp only [find?, List.find?_map, Function.comp_def, kept]

omit [LawfulBEq κ] in
theorem put_through (a : α) (items : List α) :
    put key' (g a) (items.map g) = (put key a items).map g := by
  induction items with
  | nil => rfl
  | cons b rest ih =>
      simp only [List.map_cons, put, kept, ih]
      split <;> rfl

omit [LawfulBEq κ] in
theorem modify_through {change : α → α} {change' : β → β}
    (same : ∀ a, change' (g a) = g (change a)) (k : κ) (items : List α) :
    modify key' k change' (items.map g) = (modify key k change items).map g := by
  simp only [modify, List.map_map]
  apply List.map_congr_left
  intro a _
  simp only [Function.comp_apply, kept]
  split
  · exact same a
  · rfl

end Through

section Map

variable {f : α → α} (kept : ∀ a, key (f a) = key a)

include kept

theorem find?_modify_self (k : κ) (items : List α) :
    find? key k (modify key k f items) = (find? key k items).map f := by
  rw [modify, find?_through]
  · cases found : find? key k items with
    | none => rfl
    | some a => simp [(find?_some found).2]
  · intro a
    split
    · exact kept a
    · rfl

theorem find?_modify_ne {k other : κ} (items : List α) (different : other ≠ k) :
    find? key other (modify key k f items) = find? key other items := by
  rw [modify, find?_through]
  · cases found : find? key other items with
    | none => rfl
    | some a => simp [(find?_some found).2, different]
  · intro a
    split
    · exact kept a
    · rfl

omit [LawfulBEq κ] in
theorem modify_keys (k : κ) (items : List α) : (modify key k f items).map key = items.map key := by
  rw [modify, List.map_map]
  apply List.map_congr_left
  intro a _
  rw [Function.comp_apply]
  split
  · exact kept a
  · rfl

end Map

theorem modify_of_absent {k : κ} {items : List α} (change : α → α)
    (absent : ∀ a ∈ items, key a ≠ k) : modify key k change items = items := by
  rw [modify, List.map_congr_left, List.map_id]
  intro a member
  simp [absent a member]

/-- Where the keys are distinct, a change at a key is a change of one item. -/
theorem modify_middle {front rest : List α} {a : α} (change : α → α)
    (distinct : Distinct key (front ++ a :: rest)) :
    modify key (key a) change (front ++ a :: rest) = front ++ change a :: rest := by
  rw [Distinct, List.map_append, List.map_cons] at distinct
  obtain ⟨_, back, apart⟩ := List.nodup_append.mp distinct
  have before : modify key (key a) change front = front := modify_of_absent change fun b member =>
    apart (key b) (List.mem_map_of_mem member) (key a) List.mem_cons_self
  have after : modify key (key a) change rest = rest := modify_of_absent change fun b member same =>
    (List.nodup_cons.mp back).1 (same ▸ List.mem_map_of_mem member)
  rw [modify] at before after ⊢
  rw [List.map_append, List.map_cons, before, after, if_pos (beq_self_eq_true _)]

theorem put_absent {a : α} {items : List α} (absent : find? key (key a) items = none) :
    put key a items = items ++ [a] := by
  induction items with
  | nil => rfl
  | cons b rest ih =>
      have away := find?_eq_none.mp absent
      have other : ¬ (key b == key a) = true := by
        rw [beq_iff_eq]
        exact away b (.head rest)
      rw [put, if_neg other, ih (find?_eq_none.mpr fun c member => away c (.tail b member)),
        List.cons_append]

theorem put_middle {front rest : List α} {a b : α} (same : key b = key a)
    (distinct : Distinct key (front ++ b :: rest)) :
    put key a (front ++ b :: rest) = front ++ a :: rest := by
  induction front with
  | nil => simp [put, same]
  | cons c front ih =>
      rw [List.cons_append, Distinct, List.map_cons, List.nodup_cons] at distinct
      have other : ¬ (key c == key a) = true := by
        rw [beq_iff_eq, ← same]
        intro equal
        exact distinct.1 (equal ▸ List.mem_map_of_mem (List.mem_append_right front (.head rest)))
      rw [List.cons_append, put, if_neg other, ih distinct.2, List.cons_append]

omit [LawfulBEq κ] in
/-- Putting an item that looks like the one it replaces is not seen. -/
theorem map_put {β : Type} {g : α → β} {a b : α} {items : List α}
    (found : find? key (key a) items = some b) (same : g a = g b) :
    (put key a items).map g = items.map g := by
  induction items with
  | nil => cases found
  | cons c rest ih =>
      rw [find?, List.find?_cons] at found
      cases here : key c == key a with
      | true =>
          rw [here] at found
          cases found
          rw [put, if_pos here, List.map_cons, List.map_cons, same]
      | false =>
          rw [here] at found
          rw [put, if_neg (Bool.eq_false_iff.mp here), List.map_cons, List.map_cons, ih found]

omit [LawfulBEq κ] in
theorem put_same {a : α} {items : List α} (found : find? key (key a) items = some a) :
    put key a items = items := by
  have same := map_put (g := fun a => a) found rfl
  rwa [List.map_id', List.map_id'] at same

theorem put_put {a b : α} (same : key b = key a) (items : List α) :
    put key a (put key b items) = put key a items := by
  induction items with
  | nil => simp [put, same]
  | cons c rest ih =>
      by_cases own : key c = key a
      · simp [put, own, same]
      · simp [put, own, same, ih]

theorem erase_put {k : κ} {a : α} (same : key a = k) (items : List α) :
    erase key k (put key a items) = erase key k items := by
  induction items with
  | nil => simp [put, erase, same]
  | cons c rest ih =>
      by_cases own : key c = k
      · simp [put, erase, own, same]
      · simp only [erase] at ih
        simp [put, erase, own, same, ih]

theorem lookup_eq_some {β : Type} {items : List (κ × β)} (distinct : Distinct Prod.fst items)
    {k : κ} {b : β} : items.lookup k = some b ↔ (k, b) ∈ items := by
  rw [lookup_eq, Option.map_eq_some_iff]
  constructor
  · rintro ⟨⟨k', b'⟩, found, rfl⟩
    obtain ⟨member, rfl⟩ := find?_some found
    exact member
  · intro member
    exact ⟨(k, b), (find?_eq_some distinct).mpr ⟨member, rfl⟩, rfl⟩

end ChatGateway.Keyed

import ChatGateway.Message.Basic
import Mathlib.Data.List.Nodup
import Mathlib.Data.Prod.Lex
import Mathlib.Data.String.Basic

namespace ChatGateway.Message

/-- The place of a message in the order of time and key. -/
def rank (m : Message) : Int ×ₗ (Nat ×ₗ String) :=
  toLex (m.timestamp.second, toLex (m.timestamp.nano, m.key))

theorem earlier_iff (a b : Message) : a.earlier b = true ↔ a.rank < b.rank := by
  simp only [earlier, Instant.before, rank, Prod.Lex.toLex_lt_toLex, Bool.or_eq_true,
    Bool.and_eq_true, decide_eq_true_eq, beq_iff_eq]
  constructor
  · intro given
    rcases given with (second | ⟨second, nano⟩) | ⟨same, key⟩
    · exact Or.inl second
    · exact Or.inr ⟨second, Or.inl nano⟩
    · rw [same]
      exact Or.inr ⟨rfl, Or.inr ⟨rfl, key⟩⟩
  · intro given
    rcases given with second | ⟨second, nano | ⟨nano, key⟩⟩
    · exact Or.inl (Or.inl second)
    · exact Or.inl (Or.inr ⟨second, nano⟩)
    · refine Or.inr ⟨?_, key⟩
      cases ha : a.timestamp
      cases hb : b.timestamp
      simp_all

theorem earlier_irrefl (m : Message) : m.earlier m = false := by
  rw [← Bool.not_eq_true, earlier_iff]
  exact lt_irrefl m.rank

theorem not_earlier_of_earlier {a b : Message} (before : a.earlier b = true) :
    b.earlier a = false := by
  rw [← Bool.not_eq_true, earlier_iff]
  exact lt_asymm ((earlier_iff a b).mp before)

theorem inOrder_iff (a b : Message) : a.inOrder b = true ↔ a.rank ≤ b.rank := by
  rw [inOrder, Bool.not_eq_true', ← Bool.not_eq_true, earlier_iff, not_lt]

theorem key_eq_of_rank_eq {a b : Message} (same : a.rank = b.rank) : a.key = b.key := by
  simp only [rank, toLex_inj, Prod.mk.injEq] at same
  exact same.2.2

theorem chronological_perm (ms : List Message) : (chronological ms).Perm ms :=
  List.mergeSort_perm ms inOrder

theorem chronological_ranks (ms : List Message) :
    (chronological ms).Pairwise fun a b => a.rank ≤ b.rank := by
  have sorted : (chronological ms).Pairwise fun a b => a.inOrder b = true := by
    apply List.pairwise_mergeSort
    · intro a b c first second
      rw [inOrder_iff] at first second ⊢
      exact first.trans second
    · intro a b
      rw [Bool.or_eq_true, inOrder_iff, inOrder_iff]
      exact le_total a.rank b.rank
  exact sorted.imp fun {a b} ordered => (inOrder_iff a b).mp ordered

/-- Among messages of different keys each comes strictly before the next. -/
theorem chronological_earlier (ms : List Message) (distinct : (ms.map key).Nodup) :
    (chronological ms).Pairwise fun a b => a.earlier b = true := by
  have keys : ((chronological ms).map key).Nodup :=
    (List.Perm.map key (chronological_perm ms)).nodup_iff.mpr distinct
  have apart : (chronological ms).Pairwise fun a b => a.key ≠ b.key :=
    List.pairwise_map.mp keys
  apply ((chronological_ranks ms).and apart).imp
  intro a b given
  obtain ⟨ordered, different⟩ := given
  rw [earlier_iff]
  exact lt_of_le_of_ne ordered fun same => different (key_eq_of_rank_eq same)

/-- Messages that tie only where they are the same have one order. -/
theorem eq_of_ranks {ms ms' : List Message} (perm : ms.Perm ms')
    (ties : ∀ a ∈ ms, ∀ b ∈ ms, a.rank = b.rank → a = b)
    (ordered : ms.Pairwise fun a b => a.rank ≤ b.rank)
    (ordered' : ms'.Pairwise fun a b => a.rank ≤ b.rank) : ms = ms' := by
  apply List.Perm.eq_of_pairwise _ ordered ordered' perm
  intro a b member member' before after
  exact ties a member b (perm.mem_iff.mpr member') (le_antisymm before after)

/-- Messages of different keys have one order, however they are listed. -/
theorem chronological_eq_of_perm {ms ms' : List Message} (perm : ms.Perm ms')
    (distinct : (ms'.map key).Nodup) : chronological ms = chronological ms' := by
  have sorted := chronological_perm ms
  apply eq_of_ranks ((sorted.trans perm).trans (chronological_perm ms').symm) _
    (chronological_ranks ms) (chronological_ranks ms')
  intro a first b second tied
  have inside := (sorted.trans perm).subset
  exact List.inj_on_of_nodup_map distinct (inside first) (inside second) (key_eq_of_rank_eq tied)

theorem chronological_of_earlier {ms : List Message}
    (ordered : ms.Pairwise fun a b => a.earlier b = true) : chronological ms = ms := by
  apply List.mergeSort_of_pairwise
  apply ordered.imp
  intro a b before
  rw [inOrder, not_earlier_of_earlier before]
  rfl

/-- In strict order the first `n` messages are those with enough messages after them. -/
theorem mem_take_iff {ms : List Message} {m : Message} (n : Nat)
    (ordered : ms.Pairwise fun a b => a.earlier b = true) (member : m ∈ ms) :
    m ∈ ms.take n ↔ ms.length < n + 1 + (ms.filter (m.earlier ·)).length := by
  rcases List.append_of_mem member with ⟨front, back, rfl⟩
  rw [List.pairwise_append, List.pairwise_cons] at ordered
  rcases ordered with ⟨_, ⟨behind, _⟩, across⟩
  have ahead : ∀ x ∈ front, x.earlier m = true := fun x inside =>
    across x inside m List.mem_cons_self
  have absent : m ∉ front := by
    intro inside
    have loop := ahead m inside
    rw [earlier_irrefl] at loop
    cases loop
  have none : front.filter (m.earlier ·) = [] := by
    apply List.filter_eq_nil_iff.mpr
    intro x inside
    rw [not_earlier_of_earlier (ahead x inside)]
    exact Bool.false_ne_true
  have after : (front ++ m :: back).filter (m.earlier ·) = back := by
    rw [List.filter_append, none, List.nil_append, List.filter_cons, earlier_irrefl]
    exact List.filter_eq_self.mpr behind
  rw [after, List.length_append, List.length_cons, List.take_append, List.mem_append]
  by_cases short : n ≤ front.length
  · have rest : n - front.length = 0 := by omega
    rw [rest, List.take_zero]
    constructor
    · intro given
      rcases given with inside | inside
      · exact absurd (List.mem_of_mem_take inside) absent
      · cases inside
    · omega
  · have rest : n - front.length = n - front.length - 1 + 1 := by omega
    rw [rest, List.take_succ_cons]
    constructor
    · omega
    · exact fun _ => Or.inr List.mem_cons_self

end ChatGateway.Message

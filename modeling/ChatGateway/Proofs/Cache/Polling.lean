import Mathlib.Data.Int.ConditionallyCompleteOrder
import Mathlib.Data.List.MinMax
import Mathlib.Order.ConditionallyCompleteLattice.Basic
import ChatGateway.Proofs.Cache.Refinement
import ChatGateway.Tenant.Outgoing

namespace ChatGateway

theorem Instant.before_trans {a b c : Instant} (first : a.before b = true)
    (second : b.before c = true) : a.before c = true := by
  simp only [before, Bool.or_eq_true, Bool.and_eq_true, decide_eq_true_eq, beq_iff_eq] at *
  omega

namespace Message

theorem before_of_earlier {t : Instant} {a b : Message} (ordered : a.earlier b = true)
    (after : t.before a.timestamp = true) : t.before b.timestamp = true := by
  rw [earlier, Bool.or_eq_true, Bool.and_eq_true] at ordered
  rcases ordered with later | ⟨same, _⟩
  · exact Instant.before_trans after later
  · rw [← eq_of_beq same]
    exact after

/-- Putting messages in order is sorting them by instant and key, taken as one value. -/
theorem chronological_eq_mergeSort (ms : List Message) :
    chronological ms = ms.mergeSort fun a b => decide (a.rank ≤ b.rank) := by
  have same : inOrder = fun a b => decide (a.rank ≤ b.rank) := by
    funext a b
    rw [Bool.eq_iff_iff, inOrder_iff, decide_eq_true_eq]
  rw [chronological, same]

variable {ms : List Message}

theorem chronological_filter (distinct : (ms.map key).Nodup) (wanted : Message → Bool) :
    chronological (ms.filter wanted) = (chronological ms).filter wanted := by
  have perm := (chronological_perm ms).filter wanted
  have ordered := (chronological_earlier ms distinct).sublist (List.filter_sublist (p := wanted))
  have apart : ((ms.filter wanted).map key).Nodup :=
    distinct.sublist (List.filter_sublist.map key)
  rw [← chronological_eq_of_perm perm apart, chronological_of_earlier ordered]

theorem argmin_rank (distinct : (ms.map key).Nodup) :
    ms.argmin rank = (chronological ms).head? := by
  have perm := chronological_perm ms
  have ranks := chronological_ranks ms
  cases listed : chronological ms with
  | nil =>
      rw [listed] at perm
      rw [List.nil_perm.mp perm, List.argmin_nil, List.head?_nil]
  | cons first rest =>
      rw [listed] at perm ranks
      have least : ∀ m ∈ ms, first.rank ≤ m.rank := by
        intro m member
        rcases List.mem_cons.mp (perm.mem_iff.mpr member) with rfl | behind
        · exact le_refl _
        · exact List.rel_of_pairwise_cons ranks behind
      have inside : first ∈ ms := perm.mem_iff.mp List.mem_cons_self
      rw [List.head?_cons, List.argmin_eq_some_iff]
      refine ⟨inside, least, fun m member tied => ?_⟩
      have keys := key_eq_of_rank_eq (le_antisymm tied (least m member))
      rw [List.inj_on_of_nodup_map distinct member inside keys]

/-- Messages in order are those a rising condition leaves out and then those it lets in. -/
theorem split_rising (ordered : ms.Pairwise fun a b => a.earlier b = true)
    {wanted : Message → Bool}
    (rising : ∀ a b : Message, a.earlier b = true → wanted a = true → wanted b = true) :
    ∃ front, ms = front ++ ms.filter wanted ∧ ∀ m ∈ front, wanted m = false := by
  induction ms with
  | nil => exact ⟨[], rfl, fun _ member => nomatch member⟩
  | cons m rest ih =>
      obtain ⟨behind, ordered⟩ := List.pairwise_cons.mp ordered
      cases here : wanted m with
      | true =>
          have all : (m :: rest).filter wanted = m :: rest := by
            refine List.filter_eq_self.mpr fun other member => ?_
            rcases List.mem_cons.mp member with rfl | later
            · exact here
            · exact rising m other (behind other later) here
          exact ⟨[], by rw [all, List.nil_append], fun _ member => nomatch member⟩
      | false =>
          obtain ⟨front, split, out⟩ := ih ordered
          refine ⟨m :: front, ?_, fun other member => ?_⟩
          · rw [List.filter_cons_of_neg (by rw [here]; exact Bool.false_ne_true), List.cons_append,
              ← split]
          · rcases List.mem_cons.mp member with rfl | later
            · exact here
            · exact out other later

end Message

namespace Cache.Agrees

variable {c : Messages} {t : Table} (agrees : Agrees c t)

include agrees

theorem mem_ordered (m : Message) : m ∈ c.ordered ↔ c.get? m.id = some m := by
  have perm : c.ordered.Perm c.entries := Message.chronological_perm c.entries
  rw [perm.mem_iff, Messages.get?, Keyed.find?_eq_some agrees.sorted.distinct]
  exact (and_iff_left rfl).symm

theorem count_ordered (m : Message) :
    c.ordered.count m = if c.get? m.id = some m then 1 else 0 := by
  have perm : c.ordered.Perm c.entries := Message.chronological_perm c.entries
  rw [(perm.nodup_iff.mpr agrees.nodup).count]
  simp only [agrees.mem_ordered m]

variable {listing : List Message} (listed : listing.Perm c.entries)

include listed

theorem listing_distinct : Keyed.Distinct Message.key listing :=
  (listed.map Message.key).nodup_iff.mpr agrees.sorted.distinct

theorem ordered_listing : Message.chronological listing = c.ordered :=
  Message.chronological_eq_of_perm listed agrees.sorted.distinct

/-- What is picked out of the entries and put in order is picked out of the whole list. -/
theorem ordered_filter (wanted : Message → Bool) :
    Message.chronological (listing.filter wanted) = c.ordered.filter wanted := by
  rw [Message.chronological_filter (agrees.listing_distinct listed), agrees.ordered_listing listed]

theorem argmin_filter (wanted : Message → Bool) :
    (listing.filter wanted).argmin Message.rank = c.ordered.find? wanted := by
  have distinct : Keyed.Distinct Message.key (listing.filter wanted) :=
    (agrees.listing_distinct listed).sublist (List.filter_sublist.map Message.key)
  rw [Message.argmin_rank distinct, agrees.ordered_filter listed, List.head?_filter]

end Cache.Agrees

namespace Hosted

/-- The messages of a cache that was used in any way, read by going through its entries in the
order of `listing`. All of them come in strict order and each once; those after an instant are the
end of that list from there on; and the oldest with a time that has passed is the first of the list
with such a time. -/
theorem polling_is_end_of_listing {h : Hosted} {ops : List Cache.Op}
    (reached : h.tenant.messages = Cache.Messages.run {} ops) {listing : List Message}
    (listed : listing.Perm h.tenant.messages.entries) :
    let all := h.receive none
    let passed := fun (now : Instant) (m : Message) =>
      Instant.epoch.before m.timestamp && m.timestamp.before now
    (all.Pairwise fun a b => a.earlier b = true) ∧
    (∀ m, all.count m = if h.tenant.messages.get? m.id = some m then 1 else 0) ∧
    Message.chronological listing = all ∧
    (∀ t, ((listing.filter fun m => t.before m.timestamp).mergeSort
          fun a b => decide (a.rank ≤ b.rank)) = h.receive (some t) ∧
      ∃ front, all = front ++ h.receive (some t) ∧ (∀ m ∈ front, t.before m.timestamp = false) ∧
        ∀ m ∈ h.receive (some t), t.before m.timestamp = true) ∧
    ∀ now, (listing.filter (passed now)).argmin Message.rank = h.tenant.messages.oldest? now ∧
      h.tenant.messages.oldest? now = all.find? (passed now) := by
  intro all passed
  have agrees : Cache.Agrees h.tenant.messages (Cache.Table.run ∅ ops) :=
    reached ▸ Cache.Agrees.empty.run ops
  have own := List.Perm.refl h.tenant.messages.entries
  refine ⟨agrees.ordered_earlier, agrees.count_ordered, agrees.ordered_listing listed, ?_, ?_⟩
  · intro t
    have polled : h.receive (some t) = all.filter fun m => t.before m.timestamp :=
      agrees.ordered_filter own _
    obtain ⟨front, split, out⟩ := Message.split_rising agrees.ordered_earlier
      fun a b ordered => Message.before_of_earlier (t := t) ordered
    rw [← Message.chronological_eq_mergeSort, agrees.ordered_filter listed, polled]
    exact ⟨rfl, front, split, out, fun m member => (List.mem_filter.mp member).2⟩
  · intro now
    have first := agrees.argmin_filter listed (passed now)
    have oldest : h.tenant.messages.oldest? now = all.find? (passed now) := by
      rw [← List.head?_filter]
      exact congrArg List.head? (agrees.ordered_filter own (passed now))
    exact ⟨first.trans oldest.symm, oldest⟩

/-- Two messages of one instant are polled in the order of their keys, an older one is not. -/
theorem ties_are_polled_by_key :
    let m := fun (id : String) (second : Int) =>
      ({ id := id, timestamp := ⟨second, 0⟩, kind := .text, chat := ⟨"1@s.whatsapp.net", ""⟩ } :
        Message)
    let settings : Settings := {}
    let host : Host := { settings := settings, office := ⟨""⟩, hub := {}, clock := ⟨.epoch⟩ }
    let tenant := Tenant.ofProfile settings (.fresh "tok" .epoch) false
    let ops : List Cache.Op := [.put (m "b" 5), .put (m "C" 3), .put (m "a" 5)]
    let h : Hosted := ⟨{ tenant with messages := Cache.Messages.run {} ops }, host⟩
    [m "C" 3, m "a" 5, m "b" 5].Perm h.tenant.messages.entries ∧
      h.receive (some ⟨3, 0⟩) = [m "a" 5, m "b" 5] := by
  intro m settings host tenant ops h
  have listed : [m "C" 3, m "a" 5, m "b" 5].Perm h.tenant.messages.entries := by decide
  have reached : h.tenant.messages = Cache.Messages.run {} ops := by dsimp only [h]
  have polled := ((polling_is_end_of_listing reached listed).2.2.2.1 ⟨3, 0⟩).1
  have after : ([m "C" 3, m "a" 5, m "b" 5].filter fun m => (⟨3, 0⟩ : Instant).before m.timestamp) =
      [m "a" 5, m "b" 5] := by decide
  rw [after, ← Message.chronological_eq_mergeSort,
    Message.chronological_of_earlier (by decide)] at polled
  exact ⟨listed, polled.symm⟩

end Hosted

end ChatGateway

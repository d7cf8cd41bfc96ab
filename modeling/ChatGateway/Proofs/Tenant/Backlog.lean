import ChatGateway.Proofs.Message.Order
import ChatGateway.Tenant.Events

namespace ChatGateway

namespace Message

theorem rank_eq_iff (a b : Message) :
    a.rank = b.rank ↔ a.timestamp = b.timestamp ∧ a.key = b.key := by
  simp only [rank, toLex_inj, Prod.mk.injEq]
  constructor
  · rintro ⟨second, nano, key⟩
    refine ⟨?_, key⟩
    cases ha : a.timestamp
    cases hb : b.timestamp
    simp_all
  · rintro ⟨timestamp, key⟩
    simp only [timestamp, key, and_self]

theorem rank_le_iff (a b : Message) : a.rank ≤ b.rank ↔ b.earlier a = false := by
  rw [← inOrder_iff, inOrder, Bool.not_eq_true']

/-- Where messages tie only if they are the same, they can be arranged in one way so that none is
behind a later one. -/
theorem chronological_eq_of_arranged {ms arranged : List Message} (perm : arranged.Perm ms)
    (ordered : arranged.Pairwise fun a b => b.earlier a = false)
    (ties : ∀ a ∈ ms, ∀ b ∈ ms, a.timestamp = b.timestamp → a.key = b.key → a = b) :
    chronological ms = arranged := by
  have sorted := chronological_perm ms
  refine eq_of_ranks (sorted.trans perm.symm) ?_ (chronological_ranks ms)
    (ordered.imp fun {a b} late => (rank_le_iff a b).mpr late)
  intro a first b second tied
  obtain ⟨timestamp, key⟩ := (rank_eq_iff a b).mp tied
  exact ties a (sorted.subset first) b (sorted.subset second) timestamp key

end Message

namespace Hosted

theorem handle_history {h : Hosted} (wanted : h.options.historySync = true) (ms : List Message) :
    h.handle (.history ms) =
      (Message.chronological ms).foldl (fun h m => h.handle (.message m)) h := by
  rw [handle, if_pos wanted]
  rfl

/-- A batch of past messages, of which any two of one instant and key are the same, comes to a
tenant that wants them. It leaves the tenant and its host as they would be had it come in any other
order, and as they would be had its messages come one by one, none behind a later one. -/
theorem backlog_order_is_immaterial {h : Hosted} (wanted : h.options.historySync = true)
    {ms : List Message}
    (ties : ∀ a ∈ ms, ∀ b ∈ ms, a.timestamp = b.timestamp → a.key = b.key → a = b) :
    (∀ other : List Message, other.Perm ms → h.handle (.history other) = h.handle (.history ms)) ∧
    ∀ arranged : List Message, arranged.Perm ms →
      (arranged.Pairwise fun a b => b.earlier a = false) →
      h.handle (.history ms) = arranged.foldl (fun h m => h.handle (.message m)) h := by
  have ordered : (Message.chronological ms).Pairwise fun a b => b.earlier a = false :=
    (Message.chronological_ranks ms).imp fun {a b} before => (Message.rank_le_iff a b).mp before
  constructor
  · intro other perm
    have order : Message.chronological other = Message.chronological ms :=
      Message.chronological_eq_of_arranged ((Message.chronological_perm ms).trans perm.symm) ordered
        fun a first b second => ties a (perm.subset first) b (perm.subset second)
    rw [handle_history wanted, handle_history wanted, order]
  · intro arranged perm ordered'
    rw [handle_history wanted, Message.chronological_eq_of_arranged perm ordered' ties]

/-- A reply comes in one batch with the message it replies to, and ahead of it: it gets its preview
all the same. -/
theorem reply_ahead_of_its_message :
    let settings : Settings := { defaults := { historySync := true } }
    let host : Host := { settings := settings, office := ⟨""⟩, hub := {}, clock := ⟨.epoch⟩ }
    let h : Hosted := ⟨Tenant.ofProfile settings (.fresh "tok" .epoch) false, host⟩
    let first : Message :=
      { id := "a", timestamp := ⟨3, 0⟩, kind := .text, chat := ⟨"1@s.whatsapp.net", ""⟩
        text := "hi" }
    let reply : Message := { first with id := "b", timestamp := ⟨5, 0⟩, inReply := "A" }
    (h.handle (.history [reply, first])).tenant.messages.get? "b" =
      some { reply with synopsis := "hi" } := by
  intro settings host h first reply
  have wanted : h.options.historySync = true := by decide
  have ties : ∀ a ∈ [reply, first], ∀ b ∈ [reply, first],
      a.timestamp = b.timestamp → a.key = b.key → a = b := by decide
  have told := (backlog_order_is_immaterial wanted ties).2 [first, reply] (by decide) (by decide)
  rw [told]
  decide

end Hosted

end ChatGateway

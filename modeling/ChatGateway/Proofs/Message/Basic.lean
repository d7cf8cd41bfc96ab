import ChatGateway.Message.Basic
import ChatGateway.Proofs.Text.Parts

namespace ChatGateway

namespace Chat

variable {c : Chat}

/-- An id with an ending that rules the others out is no broadcast. -/
theorem not_broadcast {ending : String} (ends : Text.endsWith c.id ending = true)
    (apart : ∀ other ∈ ["status", "@broadcast", "@newsletter"],
      Text.endsWith ending other = false ∧ Text.endsWith other ending = false) :
    c.isBroadcast = false := by
  have without : ∀ other ∈ ["status", "@broadcast", "@newsletter"],
      Text.endsWith c.id other = false := fun other member =>
    Text.endsWith_apart ends (apart other member)
  have status : (c.id == "status") = false := by
    rw [beq_eq_false_iff_ne]
    intro same
    have ending := without "status" (by decide)
    rw [same] at ending
    revert ending
    decide
  rw [isBroadcast, status, without "@broadcast" (by decide), without "@newsletter" (by decide)]
  rfl

/-- No chat is both a group and a broadcast. -/
theorem broadcast_of_group (group : c.isGroup = true) : c.isBroadcast = false :=
  not_broadcast group (by decide)

end Chat

theorem synopsis_whole {text : String} {max : Nat} (short : text.length ≤ max) :
    synopsis text max = text := if_pos (String.length_toList ▸ short)

theorem synopsis_cut {text : String} {max : Nat} (long : max < text.length) :
    synopsis text max = String.ofList (text.toList.take (max - 4)) ++ " ..." := by
  rw [synopsis, if_neg (by rw [String.length_toList]; omega), String.ofList_append]
  rfl

/-- The mark at the end of a preview has four characters, also where fewer are wanted. -/
theorem synopsis_length (text : String) (limit : Nat) :
    (synopsis text limit).length =
      if text.length ≤ limit then text.length else max limit 4 := by
  split
  · next short => rw [synopsis_whole short]
  · next long =>
    rw [synopsis_cut (by omega), String.length_append, String.length_ofList, List.length_take,
      String.length_toList]
    have mark : " ...".length = 4 := by decide
    omega

theorem synopsis_fits_iff (text : String) (max : Nat) :
    (synopsis text max).length ≤ max ↔ text.length ≤ max ∨ 4 ≤ max := by
  rw [synopsis_length]
  split <;> omega

end ChatGateway

import ChatGateway.Proofs.Keyed
import ChatGateway.Session.Exchange

namespace ChatGateway

namespace Session

/-- The identity that the event confirms, if any, is one of `ids`. -/
def Event.Names (ids : String → Prop) : Event → Prop
  | connected wid => ids wid
  | _ => True

theorem Event.names_any (e : Event) : e.Names fun _ => True := by
  cases e <;> trivial

/-- What is done on a session takes no event from it and adds none. -/
def KeepsMail (act : Link → Except Failure Link) : Prop :=
  ∀ l l', act l = .ok l' → l'.mailbox = l.mailbox

namespace Link

theorem whileConnected_ok {l l' : Link} {change : Link → Link}
    (done : l.whileConnected change = .ok l') : l' = change l := by
  unfold whileConnected at done
  split at done
  · exact (Except.ok.inj done).symm
  · cases done

theorem whileConnected_mail (change : Link → Link)
    (kept : ∀ l, (change l).mailbox = l.mailbox) : KeepsMail (·.whileConnected change) := by
  intro l l' done
  rw [whileConnected_ok done]
  exact kept l

theorem revoke_mail (m : Message) : KeepsMail (·.revoke m) :=
  whileConnected_mail _ fun _ => rfl

theorem markRead_mail (m : Message) : KeepsMail (·.markRead m) :=
  whileConnected_mail _ fun _ => rfl

theorem rejectCall_mail (m : Message) : KeepsMail (·.rejectCall m) :=
  whileConnected_mail _ fun _ => rfl

theorem requestHistory_mail (anchor : Message) : KeepsMail (·.requestHistory anchor) :=
  whileConnected_mail _ fun _ => rfl

theorem logout_mail : KeepsMail logout :=
  whileConnected_mail _ fun _ => rfl

theorem send_ok {l l' : Link} {m : Message} {freshId sentId : String}
    (done : l.send m freshId = .ok (l', sentId)) : ∃ sent, l' = { l with sent := sent } := by
  dsimp only [send] at done
  generalize attempted : l.whileConnected _ = result at done
  cases result with
  | error e => cases done
  | ok after =>
      rw [← (Prod.mk.inj (Except.ok.inj done)).1, whileConnected_ok attempted]
      exact ⟨_, rfl⟩

theorem send_mail {l l' : Link} {m : Message} {freshId sentId : String}
    (done : l.send m freshId = .ok (l', sentId)) : l'.mailbox = l.mailbox := by
  obtain ⟨_, rfl⟩ := send_ok done
  rfl

theorem inject_id (l : Link) (e : Event) : (l.inject e).1.id = l.id := by
  unfold inject
  split <;> rfl

theorem inject_mail {l : Link} {e waiting : Event}
    (member : waiting ∈ (l.inject e).1.mailbox) : waiting = e ∨ waiting ∈ l.mailbox := by
  unfold inject at member
  split at member
  · rcases List.mem_append.mp member with before | last
    · exact Or.inr before
    · exact Or.inl (List.mem_singleton.mp last)
  · exact Or.inr member

end Link

namespace Exchange

def mail (x : Exchange) : List Event := x.links.flatMap Link.mailbox

theorem mem_mail {x : Exchange} {e : Event} : e ∈ x.mail ↔ ∃ l ∈ x.links, e ∈ l.mailbox :=
  List.mem_flatMap

theorem link?_mem {x : Exchange} {id : LinkId} {l : Link} (found : x.link? id = some l) :
    l ∈ x.links :=
  (Keyed.find?_some found).1

theorem link_mail {x : Exchange} {id : LinkId} {l : Link} (found : x.link? id = some l) :
    l.mailbox ⊆ x.mail := by
  intro e waiting
  exact mem_mail.mpr ⟨l, link?_mem found, waiting⟩

theorem latest?_mail {x : Exchange} {token : String} {l : Link}
    (found : x.latest? token = some l) : l.mailbox ⊆ x.mail := by
  obtain ⟨id, _, found⟩ := Option.bind_eq_some_iff.mp found
  exact link_mail found

theorem update_mail {x : Exchange} {l : Link} {e : Event} (waiting : e ∈ (x.update l).mail) :
    e ∈ l.mailbox ∨ e ∈ x.mail := by
  obtain ⟨other, member, there⟩ := mem_mail.mp waiting
  rcases Keyed.put_subset member with rfl | member
  · exact Or.inl there
  · exact Or.inr (mem_mail.mpr ⟨other, member, there⟩)

/-- A session put back with no more events than it had. -/
theorem update_mail_subset {x : Exchange} {id : LinkId} {l l' : Link}
    (found : x.link? id = some l) (fewer : l'.mailbox ⊆ l.mailbox) :
    (x.update l').mail ⊆ x.mail := by
  intro e waiting
  rcases update_mail waiting with waiting | waiting
  · exact link_mail found (fewer waiting)
  · exact waiting

theorem attempt_mail (x : Exchange) (id : LinkId) {act : Link → Except Failure Link}
    (keeps : KeepsMail act) : (x.attempt id act).1.mail ⊆ x.mail := by
  unfold attempt
  split
  · exact List.Subset.refl _
  · next l found =>
    split
    · next l' done => exact update_mail_subset found fun _ there => keeps l l' done ▸ there
    · exact List.Subset.refl _

theorem modify_mail (x : Exchange) (id : LinkId) {change : Link → Link}
    (kept : ∀ l, (change l).mailbox = l.mailbox) : (x.modify id change).mail ⊆ x.mail := by
  intro e waiting
  obtain ⟨l', changed, there⟩ := mem_mail.mp waiting
  obtain ⟨l, member, rfl⟩ := List.mem_map.mp changed
  refine mem_mail.mpr ⟨l, member, ?_⟩
  split at there
  · exact kept l ▸ there
  · exact there

theorem takeEvents_mail (x : Exchange) (id : LinkId) :
    (x.takeEvents id).1.mail ⊆ x.mail ∧ (x.takeEvents id).2 ⊆ x.mail := by
  unfold takeEvents
  split
  · exact ⟨List.Subset.refl _, List.nil_subset _⟩
  · next l found => exact ⟨update_mail_subset found (List.nil_subset _), link_mail found⟩

theorem dropUnheard_mail (x : Exchange) (heard : LinkId → Bool) :
    (x.dropUnheard heard).mail ⊆ x.mail := by
  intro e waiting
  obtain ⟨l', changed, there⟩ := mem_mail.mp waiting
  obtain ⟨l, member, rfl⟩ := List.mem_map.mp changed
  split at there
  · exact mem_mail.mpr ⟨l, member, there⟩
  · cases there

/-- Only a paired tenant is given a session, and its first event names the identity it has. -/
theorem connect_ok {x x' : Exchange} {p : Profile} {l : Link}
    (opened : x.connect p = .ok (x', l)) :
    p.identity = some l.wid ∧ ∀ e ∈ x'.mail, e = .connected l.wid ∨ e ∈ x.mail := by
  unfold connect at opened
  split at opened
  · cases opened
  · next wid paired =>
    cases opened
    refine ⟨paired, ?_⟩
    intro e waiting
    simp only [mail, List.flatMap_append, List.mem_append] at waiting
    rcases waiting with waiting | waiting
    · exact Or.inr waiting
    · left
      simpa [Link.opened, Link.inject] using waiting

theorem connect_error {x : Exchange} {p : Profile} {e : Failure}
    (refused : x.connect p = .error e) : p.identity = none := by
  unfold connect at refused
  split at refused
  · assumption
  · cases refused

end Exchange

end Session

namespace Profile

theorem identity_ne_empty {p : Profile} {wid : String} (paired : p.identity = some wid) :
    wid ≠ "" := by
  have full := (Option.filter_eq_some_iff.mp paired).2
  intro empty
  subst empty
  simp at full

end Profile

end ChatGateway

import ChatGateway.Proofs.Keyed
import ChatGateway.Store.Repository

namespace ChatGateway.Store.Repository

variable {r : Repository}

theorem webhooksOf_eq (r : Repository) (token : String) :
    r.webhooksOf token = ((Keyed.find? Prod.fst token r.webhooks).map Prod.snd).getD [] := by
  rw [webhooksOf, Keyed.lookup_eq]

theorem webhooksOf_put_self (r : Repository) (token : String) (ws : List Webhook) :
    webhooksOf { r with webhooks := Keyed.put Prod.fst (token, ws) r.webhooks } token = ws := by
  have put : Keyed.find? Prod.fst token (Keyed.put Prod.fst (token, ws) r.webhooks) =
      some (token, ws) := @Keyed.find?_put_self _ _ _ _ Prod.fst (token, ws) r.webhooks
  rw [webhooksOf_eq, put, Option.map_some, Option.getD_some]

theorem webhooksOf_put_ne (r : Repository) {token other : String} (ws : List Webhook)
    (different : other ≠ token) :
    webhooksOf { r with webhooks := Keyed.put Prod.fst (token, ws) r.webhooks } other =
      r.webhooksOf other := by
  have put : Keyed.find? Prod.fst other (Keyed.put Prod.fst (token, ws) r.webhooks) =
      Keyed.find? Prod.fst other r.webhooks := Keyed.find?_put_ne _ different
  rw [webhooksOf_eq, put, webhooksOf_eq]

theorem upsert_absent {w : Webhook} {ws : List Webhook} (absent : ∀ v ∈ ws, v.url ≠ w.url) :
    upsert w ws = ws ++ [w] := by
  induction ws with
  | nil => rfl
  | cons v rest ih =>
      have other := beq_false_of_ne (absent v List.mem_cons_self)
      have behind := ih fun u member => absent u (List.mem_cons_of_mem v member)
      rw [upsert, if_neg (Bool.eq_false_iff.mp other), behind, List.cons_append]

theorem upsert_present {w : Webhook} {ws : List Webhook} (distinct : Keyed.Distinct Webhook.url ws)
    (present : Keyed.has Webhook.url w.url ws = true) :
    upsert w ws = Keyed.modify Webhook.url w.url (·.applySettings w) ws := by
  induction ws with
  | nil => cases present
  | cons v rest ih =>
      obtain ⟨front, behind⟩ := List.nodup_cons.mp distinct
      by_cases here : v.url = w.url
      · -- All of the address would be changed, and there is no other.
        have alone : Keyed.modify Webhook.url w.url (·.applySettings w) rest = rest := by
          apply Keyed.modify_of_absent
          intro u member same
          exact front (here ▸ same ▸ List.mem_map_of_mem member)
        rw [Keyed.modify] at alone ⊢
        rw [upsert, if_pos (beq_iff_eq.mpr here), List.map_cons, if_pos (beq_iff_eq.mpr here),
          alone]
      · have there : Keyed.has Webhook.url w.url rest = true := by
          simpa [Keyed.has, here] using present
        have later := ih behind there
        have test : ¬(v.url == w.url) = true := by simpa using here
        rw [Keyed.modify] at later ⊢
        rw [upsert, if_neg test, List.map_cons, if_neg test, later]

theorem putWebhook_self (r : Repository) (w : Webhook) :
    (r.putWebhook w).webhooksOf w.token = upsert w (r.webhooksOf w.token) :=
  r.webhooksOf_put_self w.token _

theorem putWebhook_own (r : Repository) {w : Webhook} {token : String} (own : w.token = token) :
    (r.putWebhook w).webhooksOf token = upsert w (r.webhooksOf token) :=
  own ▸ r.putWebhook_self w

theorem putWebhook_ne (r : Repository) {w : Webhook} {other : String}
    (different : other ≠ w.token) : (r.putWebhook w).webhooksOf other = r.webhooksOf other :=
  r.webhooksOf_put_ne _ different

theorem removeWebhook_self (r : Repository) (token url : String) :
    (r.removeWebhook token url).1.webhooksOf token =
      Keyed.erase Webhook.url url (r.webhooksOf token) := by
  unfold removeWebhook
  cases found : r.webhooks.lookup token with
  | none => simp only [webhooksOf, found, Option.getD_none, Keyed.erase, List.filter_nil]
  | some ws =>
      rw [webhooksOf_put_self, webhooksOf, found, Option.getD_some]

theorem removeWebhook_ne (r : Repository) {token other : String} (url : String)
    (different : other ≠ token) :
    (r.removeWebhook token url).1.webhooksOf other = r.webhooksOf other := by
  unfold removeWebhook
  split
  · rfl
  · exact r.webhooksOf_put_ne _ different

theorem removeWebhook_count (r : Repository) (token url : String) :
    0 < (r.removeWebhook token url).2 ↔ Keyed.has Webhook.url url (r.webhooksOf token) = true := by
  have fewer : ∀ ws : List Webhook, 0 < ws.length - (Keyed.erase Webhook.url url ws).length ↔
      Keyed.has Webhook.url url ws = true := by
    intro ws
    rw [Nat.sub_pos_iff_lt, Keyed.erase, List.length_filter_lt_length_iff_exists, Keyed.has_iff]
    simp
  unfold removeWebhook
  cases found : r.webhooks.lookup token with
  | none => simp [webhooksOf, found, Keyed.has]
  | some ws =>
      rw [webhooksOf, found]
      exact fewer ws

theorem delete_ne (r : Repository) {token other : String} (different : other ≠ token) :
    (r.delete token).1.webhooksOf other = r.webhooksOf other := by
  rw [webhooksOf_eq, delete, Keyed.find?_erase_ne _ different, webhooksOf_eq]

theorem delete_self (r : Repository) (token : String) :
    (r.delete token).1.webhooksOf token = [] := by
  rw [webhooksOf_eq, delete, Keyed.find?_erase_self, Option.map_none, Option.getD_none]

/-- Of each token there is one webhook of each address, and it is its own. -/
structure Sound (r : Repository) : Prop where
  urls : ∀ token, Keyed.Distinct Webhook.url (r.webhooksOf token)
  owners : ∀ token, ∀ w ∈ r.webhooksOf token, w.token = token

namespace Sound

/-- The webhooks of one token change, and those of the others do not. -/
theorem change (sound : r.Sound) {r' : Repository} {token : String}
    (others : ∀ other, other ≠ token → r'.webhooksOf other = r.webhooksOf other)
    (urls : Keyed.Distinct Webhook.url (r'.webhooksOf token))
    (owners : ∀ w ∈ r'.webhooksOf token, w.token = token) : r'.Sound := by
  constructor
  · intro other
    by_cases same : other = token
    · exact same ▸ urls
    · exact others other same ▸ sound.urls other
  · intro other
    by_cases same : other = token
    · exact same ▸ owners
    · exact others other same ▸ sound.owners other

theorem save (sound : r.Sound) (p : Profile) (now : Instant) : (r.save p now).Sound :=
  ⟨sound.urls, sound.owners⟩

theorem putWebhook (sound : r.Sound) (w : Webhook) : (r.putWebhook w).Sound := by
  have urls := sound.urls w.token
  have owners := sound.owners w.token
  have others : ∀ other, other ≠ w.token → (r.putWebhook w).webhooksOf other = r.webhooksOf other :=
    fun _ => r.putWebhook_ne
  cases present : Keyed.has Webhook.url w.url (r.webhooksOf w.token) with
  | false =>
      have absent : ∀ v ∈ r.webhooksOf w.token, v.url ≠ w.url := by
        simpa [Keyed.has] using present
      have after := (r.putWebhook_self w).trans (upsert_absent absent)
      refine sound.change others ?_ ?_ <;> rw [after]
      · exact Keyed.concat_distinct urls absent
      · intro v member
        rcases List.mem_append.mp member with before | last
        · exact owners v before
        · rw [List.mem_singleton.mp last]
  | true =>
      have after := (r.putWebhook_self w).trans (upsert_present urls present)
      refine sound.change others ?_ ?_ <;> rw [after]
      · rw [Keyed.Distinct, Keyed.modify_keys]
        · exact urls
        · exact fun _ => rfl
      · intro v member
        obtain ⟨u, there, rfl⟩ := List.mem_map.mp member
        split <;> exact owners u there

theorem removeWebhook (sound : r.Sound) (token url : String) :
    (r.removeWebhook token url).1.Sound := by
  refine sound.change (fun _ => r.removeWebhook_ne url) ?_ ?_ <;> rw [removeWebhook_self]
  · exact Keyed.erase_distinct url (sound.urls token)
  · exact fun w member => sound.owners token w (Keyed.mem_erase.mp member).1

theorem delete (sound : r.Sound) (token : String) : (r.delete token).1.Sound := by
  refine sound.change (fun _ => r.delete_ne) ?_ ?_ <;> rw [delete_self]
  · exact List.nodup_nil
  · exact fun w member => by cases member

end Sound

/-- What can have been stored: nothing at first, and then whatever was written since. -/
inductive Written : Repository → Prop
  | empty : Written {}
  | save {r : Repository} (before : Written r) (p : Profile) (now : Instant) :
      Written (r.save p now)
  | delete {r : Repository} (before : Written r) (token : String) : Written (r.delete token).1
  | putWebhook {r : Repository} (before : Written r) (w : Webhook) : Written (r.putWebhook w)
  | removeWebhook {r : Repository} (before : Written r) (token url : String) :
      Written (r.removeWebhook token url).1

theorem Written.sound (written : r.Written) : r.Sound := by
  induction written with
  | empty => exact ⟨fun _ => List.nodup_nil, fun _ w member => by cases member⟩
  | save _ p now ih => exact ih.save p now
  | delete _ token ih => exact ih.delete token
  | putWebhook _ w ih => exact ih.putWebhook w
  | removeWebhook _ token url ih => exact ih.removeWebhook token url

end ChatGateway.Store.Repository

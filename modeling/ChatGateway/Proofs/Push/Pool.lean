import ChatGateway.Proofs.Keyed
import ChatGateway.Push.Pool
import Mathlib.Data.Set.Card

/-!
The pool keeps its bindings twice, by token and by connection. Both views show the bindings that
were made and not dropped since, each once, and neither keeps an empty set.
-/

namespace ChatGateway.Push

namespace Index

section Members

variable {β : Type} [BEq β] [LawfulBEq β] {a b : β} {members : List β}

@[simp] theorem including_new (absent : b ∉ members) : including b members = members ++ [b] := by
  rw [including, if_neg (by simpa using absent)]

theorem mem_including : a ∈ including b members ↔ a = b ∨ a ∈ members := by
  by_cases present : b ∈ members
  · rw [including, if_pos (by simpa using present)]
    exact ⟨Or.inr, fun either => either.elim (· ▸ present) id⟩
  · simp [present, or_comm]

theorem including_nodup (once : members.Nodup) : (including b members).Nodup := by
  unfold including
  split
  · exact once
  · next absent => simpa using once.concat (by simpa using absent)

end Members

variable {κ β : Type} [BEq κ] [LawfulBEq κ] {index : Index κ β} {k other : κ} {members : List β}

theorem setOf_eq (k : κ) (index : Index κ β) :
    setOf k index = ((Keyed.find? Prod.fst k index).map Prod.snd).getD [] := by
  rw [setOf, Keyed.lookup_eq]

theorem setOf_put_self (k : κ) (members : List β) (index : Index κ β) :
    setOf k (Keyed.put Prod.fst (k, members) index) = members := by
  have found := @Keyed.find?_put_self _ _ _ _ Prod.fst (k, members) index
  rw [setOf_eq, found]
  rfl

theorem setOf_put_ne (different : other ≠ k) (members : List β) (index : Index κ β) :
    setOf other (Keyed.put Prod.fst (k, members) index) = setOf other index := by
  rw [setOf_eq, Keyed.find?_put_ne index different, ← setOf_eq]

theorem setOf_erase_self (k : κ) (index : Index κ β) :
    setOf k (Keyed.erase Prod.fst k index) = [] := by
  rw [setOf_eq, Keyed.find?_erase_self]
  rfl

theorem setOf_erase_ne (different : other ≠ k) (index : Index κ β) :
    setOf other (Keyed.erase Prod.fst k index) = setOf other index := by
  rw [setOf_eq, Keyed.find?_erase_ne index different, ← setOf_eq]

/-- One set for each key, none of them empty and none with a repetition. -/
structure Sound (index : Index κ β) : Prop where
  keys : Keyed.Distinct Prod.fst index
  sets : ∀ e ∈ index, e.2 ≠ [] ∧ e.2.Nodup

namespace Sound

omit [BEq κ] [LawfulBEq κ] in
theorem empty : Sound ([] : Index κ β) := ⟨List.nodup_nil, nofun⟩

theorem put (sound : index.Sound) (k : κ) (full : members ≠ []) (once : members.Nodup) :
    Sound (Keyed.put Prod.fst (k, members) index) := by
  refine ⟨Keyed.put_distinct _ sound.keys, fun e member => ?_⟩
  rcases Keyed.put_subset member with rfl | old
  · exact ⟨full, once⟩
  · exact sound.sets e old

theorem erase (sound : index.Sound) (k : κ) : Sound (Keyed.erase Prod.fst k index) :=
  ⟨Keyed.erase_distinct k sound.keys, fun e member => sound.sets e (Keyed.mem_erase.mp member).1⟩

theorem held (sound : index.Sound) (present : index.lookup k = some members) :
    members ≠ [] ∧ members.Nodup :=
  sound.sets (k, members) ((Keyed.lookup_eq_some sound.keys).mp present)

theorem once (sound : index.Sound) (k : κ) : (setOf k index).Nodup := by
  unfold setOf
  cases present : index.lookup k with
  | none => exact List.nodup_nil
  | some members => exact (sound.held present).2

theorem mem_keys (sound : index.Sound) : k ∈ index.map Prod.fst ↔ ∃ b, b ∈ setOf k index := by
  constructor
  · intro member
    obtain ⟨⟨_, members⟩, inside, rfl⟩ := List.mem_map.mp member
    have present := (Keyed.lookup_eq_some sound.keys).mpr inside
    obtain ⟨b, there⟩ := List.exists_mem_of_ne_nil members (sound.held present).1
    exact ⟨b, by rwa [setOf, present]⟩
  · rintro ⟨b, there⟩
    unfold setOf at there
    cases present : index.lookup k with
    | none =>
        rw [present] at there
        cases there
    | some members =>
        exact List.mem_map_of_mem ((Keyed.lookup_eq_some sound.keys).mp present)

theorem length_eq (sound : index.Sound) : index.length = {k | ∃ b, b ∈ setOf k index}.ncard := by
  classical
  have keys : {k | ∃ b, b ∈ setOf k index} = ↑(index.map Prod.fst).toFinset := by
    ext k
    simp only [Set.mem_ofPred_eq, List.coe_toFinset, sound.mem_keys]
  rw [keys, Set.ncard_coe_finset, List.toFinset_card_of_nodup sound.keys, List.length_map]

end Sound

variable [BEq β] {a b : β}

theorem setOf_unlink_self (b : β) (index : Index κ β) (k : κ) :
    setOf k (unlink b index k) = (setOf k index).filter (· != b) := by
  unfold unlink
  split
  · next absent =>
    have empty : setOf k index = [] := by rw [setOf, absent]; rfl
    rw [empty, List.filter_nil]
  · next members present =>
    have held : setOf k index = members := by rw [setOf, present]; rfl
    dsimp only
    split
    · next gone => rw [setOf_erase_self, held, List.isEmpty_iff.mp gone]
    · rw [setOf_put_self, held]

theorem setOf_unlink_ne (b : β) (index : Index κ β) (different : other ≠ k) :
    setOf other (unlink b index k) = setOf other index := by
  unfold unlink
  split
  · rfl
  · dsimp only
    split
    · exact setOf_erase_ne different index
    · exact setOf_put_ne different _ index

variable [LawfulBEq β]

theorem mem_link :
    a ∈ setOf other (link k b index) ↔ (other = k ∧ a = b) ∨ a ∈ setOf other index := by
  by_cases same : other = k
  · rw [same, link, setOf_put_self, mem_including]
    simp
  · rw [link, setOf_put_ne same]
    simp [same]

theorem setOf_unlinkAll {keys : List κ} (covers : ∀ k, b ∈ setOf k index → k ∈ keys) (k : κ) :
    setOf k (keys.foldl (unlink b) index) = (setOf k index).filter (· != b) := by
  -- what carries the induction: the keys yet to come still cover the sets that hold the member
  induction keys generalizing index with
  | nil =>
      have nowhere : ∀ a ∈ setOf k index, (a != b) = true := fun a member => by
        rw [bne_iff_ne]
        rintro rfl
        cases covers k member
      rw [List.foldl_nil, List.filter_eq_self.mpr nowhere]
  | cons first rest ih =>
      have covers' : ∀ k, b ∈ setOf k (unlink b index first) → k ∈ rest := fun k member => by
        by_cases same : k = first
        · rw [same, setOf_unlink_self] at member
          simp at member
        · rw [setOf_unlink_ne b index same] at member
          exact (List.mem_cons.mp (covers k member)).resolve_left same
      rw [List.foldl_cons, ih covers']
      by_cases same : k = first
      · rw [same, setOf_unlink_self, List.filter_filter]
        simp
      · rw [setOf_unlink_ne b index same]

namespace Sound

theorem link (sound : index.Sound) (k : κ) (b : β) : Sound (index.link k b) := by
  have full : including b (setOf k index) ≠ [] := List.ne_nil_of_mem (mem_including.mpr (.inl rfl))
  exact sound.put k full (including_nodup (sound.once k))

theorem unlink (sound : index.Sound) (b : β) (k : κ) : Sound (index.unlink b k) := by
  unfold Index.unlink
  split
  · exact sound
  · next members present =>
    dsimp only
    split
    · exact sound.erase k
    · next full => exact sound.put k (by simpa using full) ((sound.held present).2.filter _)

theorem unlinkAll (sound : index.Sound) (b : β) (keys : List κ) :
    Sound (keys.foldl (Index.unlink b) index) := by
  induction keys generalizing index with
  | nil => exact sound
  | cons k rest ih => exact ih (sound.unlink b k)

end Sound

end Index

namespace Pool

variable {p : Pool} {id other : ConnectionId} {token : String}

theorem mem_boundTo_bind (p : Pool) (id : ConnectionId) (token : String) {t : String} :
    other ∈ (p.bind id token).1.boundTo t ↔ (other, t) = (id, token) ∨ other ∈ p.boundTo t := by
  rw [Prod.mk.injEq, and_comm]
  exact Index.mem_link

theorem mem_tokens_bind (p : Pool) (id : ConnectionId) (token : String) {t : String} :
    t ∈ (p.bind id token).1.tokens other ↔ (other, t) = (id, token) ∨ t ∈ p.tokens other := by
  rw [Prod.mk.injEq]
  exact Index.mem_link

theorem tokens_remove (p : Pool) (id other : ConnectionId) :
    (p.remove id).1.tokens other = if other = id then [] else p.tokens other := by
  split
  · next same =>
    rw [same]
    exact Index.setOf_erase_self id p.tokensOf
  · next different => exact Index.setOf_erase_ne different p.tokensOf

/-- The connections registered, and the bindings as both indexes show them. -/
structure Shows (p : Pool) (bindings : List (ConnectionId × String)) : Prop where
  registered : p.registered.Nodup
  tokenSets : p.byToken.Sound
  connectionSets : p.tokensOf.Sound
  bound : ∀ id token, id ∈ p.boundTo token ↔ (id, token) ∈ bindings
  tokens : ∀ id token, token ∈ p.tokens id ↔ (id, token) ∈ bindings

namespace Shows

variable {bindings : List (ConnectionId × String)}

theorem empty : Shows {} [] := by
  refine ⟨List.nodup_nil, .empty, .empty, ?_, ?_⟩ <;> simp [Pool.boundTo, Pool.tokens, Index.setOf]

theorem once (shows : p.Shows bindings) (token : String) : (p.boundTo token).Nodup :=
  shows.tokenSets.once token

theorem add (shows : p.Shows bindings) (id : ConnectionId) : (p.add id).Shows bindings :=
  { shows with registered := Index.including_nodup shows.registered }

theorem bind (shows : p.Shows bindings) (id : ConnectionId) (token : String) :
    (p.bind id token).1.Shows (bindings.insert (id, token)) ∧
      ((p.bind id token).2 = true ↔ (id, token) ∉ bindings) := by
  refine ⟨⟨shows.registered, shows.tokenSets.link token id, shows.connectionSets.link id token,
    fun i t => ?_, fun i t => ?_⟩, ?_⟩
  · rw [mem_boundTo_bind, shows.bound, List.mem_insert_iff]
  · rw [mem_tokens_bind, shows.tokens, List.mem_insert_iff]
  · rw [← shows.bound]
    simp [Pool.bind]

/-- Walking the tokens of a connection takes it out of all sets it is in. -/
theorem boundTo_remove (shows : p.Shows bindings) (id : ConnectionId) (token : String) :
    (p.remove id).1.boundTo token = (p.boundTo token).filter (· != id) :=
  Index.setOf_unlinkAll (fun t member => (shows.tokens id t).mpr ((shows.bound id t).mp member))
    token

theorem remove (shows : p.Shows bindings) (id : ConnectionId) :
    (p.remove id).1.Shows (bindings.filter (·.1 != id)) := by
  refine ⟨shows.registered.filter _, shows.tokenSets.unlinkAll id _, shows.connectionSets.erase id,
    fun i token => ?_, fun i token => ?_⟩
  · rw [shows.boundTo_remove, List.mem_filter, List.mem_filter, shows.bound]
  · rw [tokens_remove, List.mem_filter, ← shows.tokens]
    split
    · next same => simp [same]
    · next different => simp [different]

end Shows

/-- What is done to a pool. -/
inductive Op where
  | add (id : ConnectionId)
  | bind (id : ConnectionId) (token : String)
  | remove (id : ConnectionId)
  deriving Repr

namespace Op

def apply (p : Pool) : Op → Pool
  | add id => p.add id
  | bind id token => (p.bind id token).1
  | remove id => (p.remove id).1

/-- The bindings after an operation, as one relation. -/
def note (bindings : List (ConnectionId × String)) : Op → List (ConnectionId × String)
  | add _ => bindings
  | bind id token => bindings.insert (id, token)
  | remove id => bindings.filter (·.1 != id)

end Op

/-- The pool after operations on an empty one. -/
def after (ops : List Op) : Pool := ops.foldl Op.apply {}

/-- The bindings made by operations and not dropped since. -/
def bindingsAfter (ops : List Op) : List (ConnectionId × String) := ops.foldl Op.note []

theorem Shows.apply {bindings : List (ConnectionId × String)} (shows : p.Shows bindings) (op : Op) :
    (op.apply p).Shows (op.note bindings) := by
  cases op with
  | add id => exact shows.add id
  | bind id token => exact (shows.bind id token).1
  | remove id => exact shows.remove id

theorem after_shows (ops : List Op) : (after ops).Shows (bindingsAfter ops) := by
  have run : ∀ (p : Pool) (bindings : List (ConnectionId × String)), p.Shows bindings →
      (ops.foldl Op.apply p).Shows (ops.foldl Op.note bindings) := by
    induction ops with
    | nil => exact fun _ _ shows => shows
    | cons op rest ih => exact fun p bindings shows => ih _ _ (shows.apply op)
  exact run {} [] .empty

/-- The two indexes of a pool hold one relation, that of what was bound and not dropped since, and
no empty sets. A removal takes a connection and all its bindings out, and nothing else. -/
theorem indexes_are_converse (ops : List Op) :
    (∀ id token, id ∈ (after ops).boundTo token ↔ token ∈ (after ops).tokens id) ∧
    (∀ id token, id ∈ (after ops).boundTo token ↔ (id, token) ∈ bindingsAfter ops) ∧
    (∀ e ∈ (after ops).byToken, e.2 ≠ []) ∧ (∀ e ∈ (after ops).tokensOf, e.2 ≠ []) ∧
    (after ops).tokenCount = {token | ∃ id, id ∈ (after ops).boundTo token}.ncard ∧
    (∀ id token, ((after ops).bind id token).2 = true ↔ id ∉ (after ops).boundTo token) ∧
    ∀ id,
      (((after ops).remove id).2 = true ↔ (after ops).isRegistered id = true) ∧
      (∀ other, ((after ops).remove id).1.isRegistered other = true ↔
        other ≠ id ∧ (after ops).isRegistered other = true) ∧
      (∀ token, ((after ops).remove id).1.boundTo token =
        ((after ops).boundTo token).filter (· != id)) ∧
      ∀ other, ((after ops).remove id).1.tokens other =
        if other = id then [] else (after ops).tokens other := by
  have shows := after_shows ops
  refine ⟨fun id token => ?_, shows.bound, fun e member => (shows.tokenSets.sets e member).1,
    fun e member => (shows.connectionSets.sets e member).1, shows.tokenSets.length_eq,
    fun id token => ?_, fun id => ⟨Iff.rfl, fun other => ?_, shows.boundTo_remove id,
      tokens_remove (after ops) id⟩⟩
  · rw [shows.bound, shows.tokens]
  · rw [(shows.bind id token).2, shows.bound]
  · simp [Pool.remove, isRegistered, and_comm]

end Pool

end ChatGateway.Push

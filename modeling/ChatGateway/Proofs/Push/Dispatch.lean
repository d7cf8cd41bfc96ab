import ChatGateway.Proofs.Keyed
import ChatGateway.Push.Hub

namespace ChatGateway.Push

theorem Handle.send_id {φ : Type} (h : Handle φ) (frame : φ) : (h.send frame).1.id = h.id := by
  unfold send
  split
  · rfl
  · split
    · rfl
    · split <;> rfl

/-- Whether a frame would be taken. -/
def Handle.takes {φ : Type} (h : Handle φ) : Bool :=
  h.alive && h.listening && decide (h.buffer.length < h.capacity)

theorem Handle.send_capacity {φ : Type} (h : Handle φ) (frame : φ) :
    (h.send frame).1.capacity = h.capacity := by
  unfold send
  split
  · rfl
  · split
    · rfl
    · split <;> rfl

theorem Handle.send_cases {φ : Type} (h : Handle φ) (frame : φ) :
    (h.takes = true ∧ h.send frame = ({ h with buffer := h.buffer ++ [frame] }, .sent)) ∨
    (h.takes = false ∧ (h.send frame).1.buffer = h.buffer ∧ (h.send frame).2 ≠ .sent) := by
  unfold takes send
  cases h.alive with
  | false => simp
  | true =>
      cases h.listening with
      | false => simp
      | true =>
          by_cases full : h.capacity ≤ h.buffer.length
          · simp [full]
          · simp [full, Nat.lt_of_not_le full]

theorem Handle.send_buffer {φ : Type} (h : Handle φ) (frame : φ) :
    (h.send frame).1.buffer = h.buffer ++ if h.takes then [frame] else [] := by
  rcases h.send_cases frame with ⟨room, sent⟩ | ⟨room, same, _⟩
  · simp [room, sent]
  · simp [room, same]

namespace Hub

/-- One round of sending a frame to the connections of a list. -/
def sendOne (frame : Frame) (sent : List (Handle Frame) × Nat) (id : ConnectionId) :
    List (Handle Frame) × Nat :=
  match Keyed.find? Handle.id id sent.1 with
  | none => sent
  | some h =>
    (Keyed.put Handle.id (h.send frame).1 sent.1,
      if (h.send frame).2 = .sent then sent.2 + 1 else sent.2)

theorem sendAll_rounds (frame : Frame) (ids : List ConnectionId) (handles : List (Handle Frame)) :
    sendAll frame ids handles = ids.foldl (sendOne frame) (handles, 0) := rfl

section Rounds

variable {frame : Frame} {handles front back : List (Handle Frame)} {h : Handle Frame} {n : Nat}

theorem sendOne_absent {id : ConnectionId} (absent : ∀ h ∈ handles, h.id ≠ id) :
    sendOne frame (handles, n) id = (handles, n) := by
  rw [sendOne, Keyed.find?_eq_none.mpr absent]

theorem sendOne_present (distinct : Keyed.Distinct Handle.id (front ++ h :: back)) :
    sendOne frame (front ++ h :: back, n) h.id =
      (front ++ (h.send frame).1 :: back, if h.takes then n + 1 else n) := by
  have found : Keyed.find? Handle.id h.id (front ++ h :: back) = some h :=
    (Keyed.find?_eq_some distinct).mpr ⟨by simp, rfl⟩
  rw [sendOne, found]
  dsimp only
  rw [Keyed.put_middle (h.send_id frame).symm distinct]
  rcases h.send_cases frame with ⟨room, sent⟩ | ⟨room, _, unsent⟩
  · simp [room, sent]
  · simp [room, unsent]

theorem replaced_distinct {h' : Handle Frame} (same : h'.id = h.id)
    (distinct : Keyed.Distinct Handle.id (front ++ h :: back)) :
    Keyed.Distinct Handle.id (front ++ h' :: back) := by
  rw [Keyed.Distinct, List.map_append, List.map_cons] at distinct ⊢
  rwa [same]

theorem rounds_skip (frame : Frame) {id : ConnectionId} (absent : ∀ h ∈ handles, h.id ≠ id)
    (ids : List ConnectionId) :
    (handles.map fun h => if h.id ∈ id :: ids then (h.send frame).1 else h) =
        (handles.map fun h => if h.id ∈ ids then (h.send frame).1 else h) ∧
      (handles.countP fun h => decide (h.id ∈ id :: ids) && h.takes) =
        handles.countP fun h => decide (h.id ∈ ids) && h.takes := by
  constructor
  · exact List.map_congr_left fun h member => by simp [absent h member]
  · exact List.countP_congr fun h member => by simp [absent h member]

/-- Every handle on the list is sent the frame once; those that take it are counted. -/
theorem rounds_eq {ids : List ConnectionId} (once : ids.Nodup)
    (distinct : Keyed.Distinct Handle.id handles) :
    ids.foldl (sendOne frame) (handles, n) =
      (handles.map fun h => if h.id ∈ ids then (h.send frame).1 else h,
        n + handles.countP fun h => decide (h.id ∈ ids) && h.takes) := by
  induction ids generalizing handles n with
  | nil => simp
  | cons id rest ih =>
      have ⟨unsent, later⟩ := List.nodup_cons.mp once
      rw [List.foldl_cons]
      by_cases absent : ∀ h ∈ handles, h.id ≠ id
      · have skip := rounds_skip frame absent rest
        rw [sendOne_absent absent, ih later distinct, skip.1, skip.2]
      · push Not at absent
        obtain ⟨h, member, rfl⟩ := absent
        obtain ⟨front, back, rfl⟩ := List.append_of_mem member
        rw [sendOne_present distinct, ih later (replaced_distinct (h.send_id frame) distinct)]
        rw [Keyed.Distinct, List.map_append, List.map_cons, List.nodup_append,
          List.nodup_cons] at distinct
        obtain ⟨_, ⟨after, _⟩, before⟩ := distinct
        have ahead : ∀ g ∈ front, g.id ≠ h.id := fun g there =>
          before g.id (List.mem_map_of_mem there) h.id (.head _)
        have behind : ∀ g ∈ back, g.id ≠ h.id := fun g there same =>
          after (same ▸ List.mem_map_of_mem there)
        have skip := rounds_skip frame ahead rest
        have skip' := rounds_skip frame behind rest
        simp only [List.map_append, List.map_cons, List.countP_append, List.countP_cons, skip.1,
          skip.2, skip'.1, skip'.2, h.send_id, unsent, List.mem_cons_self, if_true, if_false]
        cases h.takes with
        | true => simp; omega
        | false => simp

end Rounds

theorem sendAll_eq (frame : Frame) {ids : List ConnectionId} {handles : List (Handle Frame)}
    (once : ids.Nodup) (distinct : Keyed.Distinct Handle.id handles) :
    sendAll frame ids handles =
      (handles.map fun h => if h.id ∈ ids then (h.send frame).1 else h,
        handles.countP fun h => decide (h.id ∈ ids) && h.takes) := by
  rw [sendAll_rounds, rounds_eq once distinct, Nat.zero_add]

/-- Whether a record for a token is sent to a connection. -/
def reaches (hub : Hub) (token : String) (h : Handle Frame) : Bool :=
  hub.pool.isRegistered h.id && (hub.pool.boundTo token).contains h.id

theorem mem_reached (hub : Hub) (token : String) (h : Handle Frame) :
    h.id ∈ hub.pool.reached token ↔ hub.reaches token h = true := by
  simp [Pool.reached, reaches, and_comm]

theorem dispatch_eq (hub : Hub) (token : String) (m : Message)
    (once : (hub.pool.boundTo token).Nodup) (distinct : Keyed.Distinct Handle.id hub.handles) :
    let taken := hub.handles.countP fun h => hub.reaches token h && h.takes
    hub.dispatch token m =
      ({ hub with
          handles := hub.handles.map fun h =>
            if hub.reaches token h then (h.send (.record hub.settings.messageTarget m)).1 else h
          metrics := (hub.metrics.pushed (.ofNat taken)).dropped
            (.ofNat ((hub.pool.reached token).length - taken)) }, taken) := by
  intro taken
  have reached : (hub.pool.reached token).Nodup := once.filter hub.pool.isRegistered
  have sent := sendAll_eq (.record hub.settings.messageTarget m) reached distinct
  simp only [mem_reached, Bool.decide_eq_true] at sent
  rw [dispatch, sent]

/-- What a dispatch does to the buffers and the counters. -/
structure PushesTo (hub : Hub) (token : String) (m : Message) : Prop where
  buffers : (hub.dispatch token m).1.handles.map (fun h => (h.id, h.buffer)) =
    hub.handles.map fun h => (h.id, h.buffer ++
      if hub.reaches token h && h.takes then [.record hub.settings.messageTarget m] else [])
  returned : (hub.dispatch token m).2 =
    hub.handles.countP fun h => hub.reaches token h && h.takes
  pushed : (hub.dispatch token m).1.metrics.framesPushed =
    hub.metrics.framesPushed + .ofNat (hub.dispatch token m).2
  dropped : (hub.dispatch token m).1.metrics.framesDropped =
    hub.metrics.framesDropped +
      .ofNat (hub.handles.countP fun h => hub.reaches token h && !h.takes)

/-- Every registered connection that is bound to the token is found. -/
theorem reached_length {hub : Hub} (token : String) (once : (hub.pool.boundTo token).Nodup)
    (distinct : Keyed.Distinct Handle.id hub.handles)
    (reachable : ∀ id ∈ hub.pool.registered, ∃ h ∈ hub.handles, h.id = id) :
    (hub.pool.reached token).length = hub.handles.countP (hub.reaches token) := by
  have apart : ((hub.handles.filter (hub.reaches token)).map Handle.id).Nodup :=
    List.Nodup.sublist (List.filter_sublist.map Handle.id) distinct
  have same : (hub.pool.reached token).Perm
      ((hub.handles.filter (hub.reaches token)).map Handle.id) := by
    refine (List.perm_ext_iff_of_nodup (once.filter _) apart).mpr fun id => ?_
    constructor
    · intro there
      have registered : id ∈ hub.pool.registered := by
        simpa [Pool.isRegistered] using (List.mem_filter.mp there).2
      obtain ⟨h, member, rfl⟩ := reachable id registered
      have reached := (hub.mem_reached token h).mp there
      exact List.mem_map_of_mem (List.mem_filter.mpr ⟨member, reached⟩)
    · intro there
      obtain ⟨h, member, rfl⟩ := List.mem_map.mp there
      exact (hub.mem_reached token h).mpr (List.mem_filter.mp member).2
  rw [same.length_eq, List.length_map, List.countP_eq_length_filter]

theorem pushes_to {hub : Hub} (token : String) (m : Message)
    (once : (hub.pool.boundTo token).Nodup) (distinct : Keyed.Distinct Handle.id hub.handles)
    (reachable : ∀ id ∈ hub.pool.registered, ∃ h ∈ hub.handles, h.id = id) :
    hub.PushesTo token m := by
  have law := hub.dispatch_eq token m once distinct
  have others : (hub.pool.reached token).length =
      (hub.handles.countP fun h => hub.reaches token h && h.takes) +
        hub.handles.countP fun h => hub.reaches token h && !h.takes := by
    have parts := List.length_eq_countP_add_countP Handle.takes
      (l := hub.handles.filter (hub.reaches token))
    simp only [List.countP_filter, Bool.not_eq_true, Bool.decide_eq_false,
      ← List.countP_eq_length_filter, ← reached_length token once distinct reachable] at parts
    simpa only [Bool.and_comm] using parts
  constructor
  · simp only [law, List.map_map]
    refine List.map_congr_left fun h _ => ?_
    cases reached : hub.reaches token h <;>
      simp [reached, Handle.send_id, Handle.send_buffer]
  · rw [law]
  · rw [law]
    rfl
  · rw [law, others, Nat.add_sub_cancel_left]
    rfl

theorem sendAll_other (frame : Frame) {ids : List ConnectionId} (handles : List (Handle Frame))
    {id : ConnectionId} (other : id ∉ ids) :
    Keyed.find? Handle.id id (sendAll frame ids handles).1 = Keyed.find? Handle.id id handles := by
  unfold sendAll
  apply List.foldlRecOn (motive := fun sent : List (Handle Frame) × Nat =>
    Keyed.find? Handle.id id sent.1 = Keyed.find? Handle.id id handles)
  · rfl
  · intro sent kept reached member
    dsimp only
    split
    · exact kept
    · next h found =>
      have different : id ≠ (h.send frame).1.id := by
        rw [h.send_id, (Keyed.find?_some found).2]
        exact fun same => other (same ▸ member)
      exact (Keyed.find?_put_ne _ different).trans kept

theorem dispatch_other (hub : Hub) {token : String} (m : Message) {id : ConnectionId}
    (unbound : id ∉ hub.pool.boundTo token) :
    (hub.dispatch token m).1.handle? id = hub.handle? id :=
  sendAll_other _ hub.handles fun reached => unbound (List.mem_filter.mp reached).1

/-- Whether a frame waits for some connection. -/
def Holds (hub : Hub) (f : Frame) : Prop := ∃ h ∈ hub.handles, f ∈ h.buffer

theorem dispatch_holds {hub : Hub} {token : String} {m : Message} {f : Frame}
    (holds : (hub.dispatch token m).1.Holds f) :
    hub.Holds f ∨ f = .record hub.settings.messageTarget m := by
  have sent : ∀ h ∈ (sendAll (.record hub.settings.messageTarget m) (hub.pool.reached token)
      hub.handles).1, ∀ f ∈ h.buffer,
      hub.Holds f ∨ f = .record hub.settings.messageTarget m := by
    rw [sendAll_rounds]
    apply List.foldlRecOn (motive := fun sent : List (Handle Frame) × Nat =>
      ∀ h ∈ sent.1, ∀ f ∈ h.buffer, hub.Holds f ∨ f = .record hub.settings.messageTarget m)
    · exact fun h member f waits => Or.inl ⟨h, member, waits⟩
    · intro sent before id _ h member f waits
      unfold sendOne at member
      split at member
      · exact before h member f waits
      · next g found =>
        rcases Keyed.put_subset member with rfl | there
        · rw [g.send_buffer, List.mem_append] at waits
          rcases waits with waits | new
          · exact before g (Keyed.find?_some found).1 f waits
          · split at new
            · exact Or.inr (List.mem_singleton.mp new)
            · cases new
        · exact before h there f waits
  obtain ⟨h, member, waits⟩ := holds
  exact sent h member f waits

end Hub

end ChatGateway.Push

import ChatGateway.Proofs.Push.Dispatch
import ChatGateway.Proofs.Push.Pool
import Mathlib.Algebra.Group.Nat.Defs

/-!
Everything that happens at a push hub, in any order. Beside the hub it is written down which
bindings were granted and not dropped since, which records were dispatched to a connection while it
was bound to their token, and which frames have left its buffer. A record reaches the connections
that were bound to its token, and no others, in the order of dispatch.
-/

namespace ChatGateway.Push

namespace Frame

/-- Whether a frame carries a record; the gateway's answers carry texts only. -/
def isRecord (f : Frame) : Bool :=
  match f.args with
  | [.obj _] => true
  | _ => false

@[simp] theorem record_isRecord (target : String) (m : Message) :
    (record target m).isRecord = true := rfl

end Frame

namespace Hub

/-- The frames that wait for a connection. -/
def waiting (hub : Hub) (id : ConnectionId) : List Frame :=
  ((hub.handle? id).map Handle.buffer).getD []

end Hub

/-- A hub, and what has happened at it. -/
structure Traffic where
  hub : Hub
  opened : List ConnectionId := []
  connected : List ConnectionId := []
  peak : Nat := 0
  granted : List (ConnectionId × String) := []
  added : Nat := 0
  /-- The records dispatched to tokens that a connection was bound to at that time. -/
  offered : ConnectionId → List Message := fun _ => []
  left : ConnectionId → List Frame := fun _ => []

namespace Traffic

inductive Event where
  | connect (id : ConnectionId)
  | disconnect (id : ConnectionId)
  | bind (id : ConnectionId) (token : String)
  | inbound (id : ConnectionId) (raw : String) (known : String → Bool)
  | dispatch (token : String) (m : Message)
  | closeAll
  | read (id : ConnectionId)
  | drain (id : ConnectionId)
  | stopListening (id : ConnectionId)
  | abandon (id : ConnectionId)

/-- The id of a connection that is opened. -/
def Event.opens : Event → Option ConnectionId
  | connect id => some id
  | _ => none

def grant (t : Traffic) (id : ConnectionId) (token : String) : Traffic :=
  { t with
    granted := t.granted.insert (id, token)
    added := if (id, token) ∈ t.granted then t.added else t.added + 1 }

/-- Frames leave a buffer. -/
def leave (t : Traffic) (id : ConnectionId) (frames : List Frame) : Traffic :=
  { t with left := Function.update t.left id (t.left id ++ frames) }

/-- What an event adds to what is written down. -/
def note (t : Traffic) : Event → Traffic
  | .connect id =>
    { t with
      opened := t.opened ++ [id]
      connected := t.connected ++ [id]
      peak := max t.peak (t.connected.length + 1) }
  | .disconnect id =>
    { t with
      connected := t.connected.filter (· != id)
      granted := t.granted.filter (·.1 != id) }
  | .bind id token => t.grant id token
  | .inbound id raw known =>
    match bindRequest raw with
    | .ok token => if known token then t.grant id token else t
    | .error _ => t
  | .dispatch token m =>
    { t with
      offered := fun id => t.offered id ++ if (id, token) ∈ t.granted then [m] else [] }
  | .closeAll =>
    { t with
      connected := []
      granted := t.granted.filter fun g => !t.connected.contains g.1 }
  | .read id => t.leave id (t.hub.waiting id).head?.toList
  | .drain id | .abandon id => t.leave id (t.hub.waiting id)
  | .stopListening _ => t

def move (hub : Hub) : Event → Hub
  | .connect id => hub.connect id
  | .disconnect id => hub.disconnect id
  | .bind id token => (hub.bindToken id token).1
  | .inbound id raw known => (hub.inbound id raw known).1
  | .dispatch token m => (hub.dispatch token m).1
  | .closeAll => hub.closeAll
  | .read id => hub.modifyHandle id fun h => h.receive.1
  | .drain id => (hub.receive id).1
  | .stopListening id => hub.modifyHandle id Handle.stopListening
  | .abandon id => hub.abandon id

def step (t : Traffic) (e : Event) : Traffic := { t.note e with hub := move t.hub e }

def run (t : Traffic) (events : List Event) : Traffic := events.foldl step t

end Traffic

namespace Hub

variable {hub : Hub} {id other : ConnectionId} {change : Handle Frame → Handle Frame}

theorem waiting_modify (kept : ∀ h, (change h).id = h.id) (other : ConnectionId) :
    (hub.modifyHandle id change).waiting other =
      if other = id then ((hub.handle? id).map fun h => (change h).buffer).getD []
      else hub.waiting other := by
  unfold waiting handle? modifyHandle
  dsimp only
  split
  · next same => rw [same, Keyed.find?_modify_self kept, Option.map_map]; rfl
  · next different => rw [Keyed.find?_modify_ne kept _ different]

theorem waiting_kept (hub : Hub) (id : ConnectionId) (change : Handle Frame → Handle Frame)
    (kept : ∀ h, (change h).id = h.id ∧ (change h).buffer = h.buffer)
    (other : ConnectionId) : (hub.modifyHandle id change).waiting other = hub.waiting other := by
  rw [waiting_modify fun h => (kept h).1]
  split
  · next same =>
    rw [same, waiting]
    congr 2
    exact funext fun h => (kept h).2
  · rfl

theorem receive_modifies (hub : Hub) (id : ConnectionId) :
    (hub.receive id).1 = hub.modifyHandle id fun h => h.drain.1 := by
  unfold receive handle?
  cases found : Keyed.find? Handle.id id hub.handles with
  | none =>
      have same := Keyed.modify_of_absent (fun h : Handle Frame => h.drain.1)
        (Keyed.find?_eq_none.mp found)
      simp only [modifyHandle, same]
  | some h => rfl

theorem waiting_send (id : ConnectionId) (frame : Frame) (other : ConnectionId) :
    ∃ more, (∀ f ∈ more, f = frame) ∧
      (hub.modifyHandle id fun h => (h.send frame).1).waiting other =
        hub.waiting other ++ more := by
  rw [waiting_modify fun h => h.send_id frame]
  split
  · next same =>
    subst same
    unfold waiting
    cases hub.handle? other with
    | none => exact ⟨[], by simp, rfl⟩
    | some h =>
        refine ⟨if h.takes then [frame] else [], ?_, by simp [h.send_buffer]⟩
        cases h.takes <;> simp
  · exact ⟨[], by simp, by simp⟩

end Hub

/-- As long as the number of connections fits a word. -/
theorem Metrics.closed_active {k : Metrics} {n : Nat} (some : 0 < n) (few : n < 2 ^ 64)
    (active : k.connectionsActive = .ofNat n) : k.closed.connectionsActive = .ofNat (n - 1) := by
  have positive : UInt64.ofNat n ≠ 0 := by
    intro zero
    have mod := congrArg UInt64.toNat zero
    rw [UInt64.toNat_ofNat_of_lt' few] at mod
    exact absurd mod (Nat.ne_of_gt some)
  rw [Metrics.closed, active, if_neg positive]
  exact (UInt64.ofNat_sub some).symm

theorem head?_append_tail {α : Type} (l : List α) : l.head?.toList ++ l.tail = l := by
  cases l <;> rfl

namespace Traffic

/-- What the hub holds agrees with what was written down. -/
structure Sound (t : Traffic) (settings : PushSettings) : Prop where
  configured : t.hub.settings = settings
  pool : t.hub.pool.Shows t.granted
  connected : t.hub.pool.registered = t.connected
  distinct : Keyed.Distinct Handle.id t.hub.handles
  reachable : ∀ id ∈ t.connected, ∃ h ∈ t.hub.handles, h.id = id
  known : ∀ h ∈ t.hub.handles, h.id ∈ t.opened ∧ h.capacity = max settings.bufferSize 1
  peak : t.connected.length ≤ t.peak
  active : t.peak < 2 ^ 64 → t.hub.metrics.connectionsActive = .ofNat t.connected.length
  bindings : t.hub.metrics.bindingsTotal = .ofNat t.added
  inOrder : ∀ id, ((t.left id ++ t.hub.waiting id).filter Frame.isRecord).Sublist
    ((t.offered id).map (.record settings.messageTarget))

theorem note_opened (t : Traffic) (e : Event) :
    (t.note e).opened = t.opened ++ e.opens.toList := by
  cases e with
  | inbound id raw known =>
      simp only [note, Event.opens, Option.toList_none, List.append_nil]
      split
      · split <;> rfl
      · rfl
  | _ => simp [note, Event.opens, grant, leave]

namespace Sound

variable {t : Traffic} {settings : PushSettings} {id : ConnectionId}

theorem start (settings : PushSettings) : Sound { hub := { settings := settings } } settings where
  configured := rfl
  pool := .empty
  connected := rfl
  distinct := List.nodup_nil
  reachable _ member := (List.not_mem_nil member).elim
  known _ member := (List.not_mem_nil member).elim
  peak := Nat.le_refl 0
  active _ := rfl
  bindings := rfl
  inOrder _ := .refl _

theorem once (sound : t.Sound settings) : t.connected.Nodup :=
  sound.connected ▸ sound.pool.registered

theorem connected_opened (sound : t.Sound settings) : t.connected ⊆ t.opened := by
  intro id member
  obtain ⟨h, there, rfl⟩ := sound.reachable id member
  exact (sound.known h there).1

/-- Changes at the handles that keep what identifies them; what passes the buffers is still to be
seen to. -/
theorem remap (sound : t.Sound settings) {f : Handle Frame → Handle Frame} {k : Metrics}
    {offered : ConnectionId → List Message} {left : ConnectionId → List Frame}
    (kept : ∀ h, (f h).id = h.id ∧ (f h).capacity = h.capacity)
    (active : k.connectionsActive = t.hub.metrics.connectionsActive)
    (bindings : k.bindingsTotal = t.hub.metrics.bindingsTotal)
    (inOrder : ∀ i, ((left i ++ ((t.hub.handle? i).map fun h => (f h).buffer).getD []).filter
      Frame.isRecord).Sublist ((offered i).map (.record settings.messageTarget))) :
    Sound { t with
      hub := { t.hub with handles := t.hub.handles.map f, metrics := k }
      offered := offered, left := left } settings where
  configured := sound.configured
  pool := sound.pool
  connected := sound.connected
  distinct := by
    have same : (t.hub.handles.map f).map Handle.id = t.hub.handles.map Handle.id := by
      rw [List.map_map]
      exact List.map_congr_left fun h _ => (kept h).1
    rw [Keyed.Distinct, same]
    exact sound.distinct
  reachable := by
    intro id member
    obtain ⟨h, there, same⟩ := sound.reachable id member
    exact ⟨f h, List.mem_map_of_mem there, (kept h).1.trans same⟩
  known := by
    intro h member
    obtain ⟨h, there, rfl⟩ := List.mem_map.mp member
    rw [(kept h).1, (kept h).2]
    exact sound.known h there
  peak := sound.peak
  active small := active.trans (sound.active small)
  bindings := bindings.trans sound.bindings
  inOrder := by
    intro i
    unfold Hub.waiting Hub.handle?
    rw [Keyed.find?_through fun h => (kept h).1, Option.map_map]
    exact inOrder i

/-- A change at one handle that adds no record to what has passed its buffer. -/
theorem modify (sound : t.Sound settings) (id : ConnectionId)
    (change : Handle Frame → Handle Frame) (left : ConnectionId → List Frame)
    (kept : ∀ h, (change h).id = h.id ∧ (change h).capacity = h.capacity)
    (same : ∀ i, (left i ++ (t.hub.modifyHandle id change).waiting i).filter Frame.isRecord =
      (t.left i ++ t.hub.waiting i).filter Frame.isRecord) :
    Sound { t with hub := t.hub.modifyHandle id change, left := left } settings := by
  have both : ∀ h : Handle Frame, (if h.id == id then change h else h).id = h.id ∧
      (if h.id == id then change h else h).capacity = h.capacity := by
    intro h
    split
    · exact kept h
    · exact ⟨rfl, rfl⟩
  refine sound.remap both rfl rfl fun i => ?_
  have order := sound.inOrder i
  rw [← same i] at order
  unfold Hub.waiting Hub.handle? Hub.modifyHandle Keyed.modify at order
  rw [Keyed.find?_through fun h => (both h).1, Option.map_map] at order
  exact order

theorem reply (sound : t.Sound settings) (id : ConnectionId) {frame : Frame}
    (answer : frame.isRecord = false) : Sound { t with hub := t.hub.reply id frame } settings := by
  unfold Hub.reply
  split
  · refine sound.modify id _ t.left (fun h => ⟨h.send_id frame, h.send_capacity frame⟩) fun i => ?_
    obtain ⟨more, only, waiting⟩ := t.hub.waiting_send id frame i
    have none : more.filter Frame.isRecord = [] :=
      List.filter_eq_nil_iff.mpr fun f member => by simp [only f member, answer]
    rw [waiting, ← List.append_assoc, List.filter_append, none, List.append_nil]
  · exact sound

theorem dispatch (sound : t.Sound settings) (token : String) (m : Message) :
    (t.step (.dispatch token m)).Sound settings := by
  have law := t.hub.dispatch_eq token m (sound.pool.once token) sound.distinct
  rw [step, move, law, note]
  refine sound.remap (fun h => ?_) rfl rfl fun i => ?_
  · split
    · exact ⟨h.send_id _, h.send_capacity _⟩
    · exact ⟨rfl, rfl⟩
  · have order := sound.inOrder i
    -- What a connection was offered before is still offered to it.
    have longer := order.trans (((t.offered i).sublist_append_left
      (if (i, token) ∈ t.granted then [m] else [])).map (Frame.record settings.messageTarget))
    unfold Hub.waiting at order longer
    cases found : t.hub.handle? i with
    | none => simpa only [found, Option.map_none, Option.getD_none] using longer
    | some h =>
        rw [found] at order longer
        cases reached : t.hub.reaches token h with
        | false => simpa [reached] using longer
        | true =>
            have bound : (i, token) ∈ t.granted := by
              have same : h.id = i := (Keyed.find?_some found).2
              rw [← same, ← sound.pool.bound]
              exact List.contains_iff_mem.mp (Bool.and_eq_true_iff.mp reached).2
            cases room : h.takes with
            | false => simpa [reached, h.send_buffer, room] using longer
            | true =>
                have both := order.append (.refl [Frame.record settings.messageTarget m])
                simpa [reached, h.send_buffer, room, bound, sound.configured, List.filter_cons]
                  using both

theorem connect (sound : t.Sound settings) (fresh : id ∉ t.opened) :
    (t.step (.connect id)).Sound settings := by
  have absent : Keyed.find? Handle.id id t.hub.handles = none :=
    Keyed.find?_eq_none.mpr fun h member same => fresh (same ▸ (sound.known h member).1)
  have unregistered : id ∉ t.hub.pool.registered := fun member =>
    fresh (sound.connected_opened (sound.connected ▸ member))
  have handles : (t.hub.connect id).handles =
      t.hub.handles ++ [{ id := id, capacity := max settings.bufferSize 1 }] := by
    rw [Hub.connect, Keyed.put_absent absent, sound.configured]
  refine ⟨sound.configured, sound.pool.add id, ?_, ?_, ?_, ?_, ?_, ?_, sound.bindings, ?_⟩
  · simp [step, note, move, Hub.connect, Pool.add, unregistered, ← sound.connected]
  · exact Keyed.put_distinct _ sound.distinct
  · simp only [step, note, move, handles]
    intro i member
    rcases List.mem_append.mp member with member | last
    · obtain ⟨h, there, same⟩ := sound.reachable i member
      exact ⟨h, List.mem_append_left _ there, same⟩
    · exact ⟨_, List.mem_append_right _ (.head []), (List.mem_singleton.mp last).symm⟩
  · simp only [step, note, move, handles]
    intro h member
    rcases List.mem_append.mp member with member | last
    · obtain ⟨there, capacity⟩ := sound.known h member
      exact ⟨List.mem_append_left _ there, capacity⟩
    · rw [List.mem_singleton.mp last]
      exact ⟨List.mem_append_right _ (.head []), rfl⟩
  · simp only [step, note, List.length_append, List.length_singleton]
    exact Nat.le_max_right ..
  · intro small
    simp only [step, note, List.length_append, List.length_singleton] at small ⊢
    rw [move, Hub.connect, Metrics.opened, sound.active (by omega), UInt64.ofNat_add]
    rfl
  · intro i
    have same : (t.hub.connect id).waiting i = t.hub.waiting i := by
      unfold Hub.waiting Hub.handle?
      rw [handles, Keyed.find?_concat]
      by_cases own : i = id
      · rw [own, absent]
        simp
      · simp [Ne.symm own]
    simp only [step, note, move, same]
    exact sound.inOrder i

theorem unregister (sound : t.Sound settings) (id : ConnectionId) :
    Sound { t with
      hub := { t.hub with
        pool := (t.hub.pool.remove id).1
        metrics := if t.hub.pool.isRegistered id then t.hub.metrics.closed else t.hub.metrics }
      connected := t.connected.filter (· != id)
      granted := t.granted.filter (·.1 != id) } settings where
  configured := sound.configured
  pool := sound.pool.remove id
  connected := by rw [Pool.remove, sound.connected]
  distinct := sound.distinct
  reachable i member := sound.reachable i (List.mem_filter.mp member).1
  known := sound.known
  peak := Nat.le_trans (List.length_filter_le ..) sound.peak
  active small := by
    have few : t.connected.length < 2 ^ 64 := Nat.lt_of_le_of_lt sound.peak small
    have before := sound.active small
    have fewer := sound.once.erase_eq_filter id
    dsimp only
    split
    · next registered =>
      have member : id ∈ t.connected := by
        simpa [Pool.isRegistered, sound.connected] using registered
      rw [← fewer, List.length_erase_of_mem member]
      exact Metrics.closed_active (List.length_pos_of_mem member) few before
    · next unregistered =>
      have gone : id ∉ t.connected := by
        simpa [Pool.isRegistered, sound.connected] using unregistered
      rw [← fewer, List.erase_of_not_mem gone, before]
  bindings := by
    dsimp only
    split
    · exact sound.bindings
    · exact sound.bindings
  inOrder := sound.inOrder

theorem disconnect (sound : t.Sound settings) (id : ConnectionId) :
    (t.step (.disconnect id)).Sound settings := by
  have told : (t.hub.pool.remove id).2 = t.hub.pool.isRegistered id := rfl
  simp only [step, note, move, Hub.disconnect, told]
  cases registered : t.hub.pool.isRegistered id with
  | false => simpa [registered] using sound.unregister id
  | true =>
      have dead := sound.modify id Handle.markDead t.left (fun _ => ⟨rfl, rfl⟩)
        fun i => by rw [t.hub.waiting_kept id Handle.markDead fun _ => ⟨rfl, rfl⟩]
      simpa [Hub.modifyHandle, registered] using dead.unregister id

theorem disconnects (sound : t.Sound settings) (ids : List ConnectionId) :
    Sound { t with
      hub := ids.foldl Hub.disconnect t.hub
      connected := t.connected.filter (!ids.contains ·)
      granted := t.granted.filter (!ids.contains ·.1) } settings := by
  induction ids generalizing t with
  | nil => simpa using sound
  | cons id rest ih =>
      have later := ih (sound.disconnect id)
      simpa [step, note, move, List.filter_filter, Bool.and_comm, bne, beq_eq_decide] using later

theorem closeAll (sound : t.Sound settings) : (t.step .closeAll).Sound settings := by
  have closed := sound.disconnects t.hub.pool.registered
  have none : t.connected.filter (!t.hub.pool.registered.contains ·) = [] :=
    List.filter_eq_nil_iff.mpr fun id member => by simp [sound.connected, member]
  rw [none, sound.connected] at closed
  simpa [step, note, move, Hub.closeAll, sound.connected] using closed

theorem bind (sound : t.Sound settings) (id : ConnectionId) (token : String) :
    (t.step (.bind id token)).Sound settings := by
  obtain ⟨shows, new⟩ := sound.pool.bind id token
  have registered : (t.hub.pool.bind id token).1.registered = t.connected := sound.connected
  by_cases present : (id, token) ∈ t.granted
  · have old : (t.hub.pool.bind id token).2 = false := by simpa [present] using new
    rw [List.insert_of_mem present] at shows
    simp only [step, move, Hub.bindToken, note, grant, old, if_pos present,
      List.insert_of_mem present]
    exact { sound with pool := shows, connected := registered }
  · have added := new.mpr present
    simp only [step, move, Hub.bindToken, note, grant, added, if_true, if_neg present]
    refine { sound with pool := shows, connected := registered, bindings := ?_ }
    rw [UInt64.ofNat_add, ← sound.bindings]
    rfl

theorem inbound (sound : t.Sound settings) (id : ConnectionId) (raw : String)
    (known : String → Bool) : (t.step (.inbound id raw known)).Sound settings := by
  simp only [step, note, move, Hub.inbound]
  cases bindRequest raw with
  | error fault => exact sound.reply id rfl
  | ok token =>
      dsimp only
      split
      · exact (sound.bind id token).reply id rfl
      · exact sound.reply id rfl

theorem leave (sound : t.Sound settings) (id : ConnectionId)
    (change : Handle Frame → Handle Frame) (gone : List Frame → List Frame)
    (kept : ∀ h, (change h).id = h.id ∧ (change h).capacity = h.capacity)
    (parts : ∀ h, gone h.buffer ++ (change h).buffer = h.buffer) (none : gone [] = []) :
    Sound { t.leave id (gone (t.hub.waiting id)) with hub := t.hub.modifyHandle id change }
      settings := by
  refine sound.modify id change _ kept fun i => ?_
  rw [Hub.waiting_modify fun h => (kept h).1]
  by_cases own : i = id
  · subst own
    simp only [Traffic.leave, Function.update_self, if_true, List.append_assoc]
    unfold Hub.waiting
    cases t.hub.handle? i with
    | none => simp [none]
    | some h => simp only [Option.map_some, Option.getD_some, parts]
  · simp [Traffic.leave, own]

theorem step (sound : t.Sound settings) (e : Event) (fresh : ∀ id ∈ e.opens, id ∉ t.opened) :
    (t.step e).Sound settings := by
  cases e with
  | connect id => exact sound.connect (fresh id rfl)
  | disconnect id => exact sound.disconnect id
  | bind id token => exact sound.bind id token
  | inbound id raw known => exact sound.inbound id raw known
  | dispatch token m => exact sound.dispatch token m
  | closeAll => exact sound.closeAll
  | read id =>
      exact sound.leave id _ (fun frames => frames.head?.toList) (fun _ => ⟨rfl, rfl⟩)
        (fun h => head?_append_tail h.buffer) rfl
  | drain id =>
      have read := sound.leave id (fun h => h.drain.1) (fun frames => frames)
        (fun _ => ⟨rfl, rfl⟩) (fun h => List.append_nil h.buffer) rfl
      simpa only [Traffic.step, move, note, Hub.receive_modifies] using read
  | stopListening id =>
      exact sound.modify id _ t.left (fun _ => ⟨rfl, rfl⟩) fun i => by
        rw [t.hub.waiting_kept id Handle.stopListening fun _ => ⟨rfl, rfl⟩]
  | abandon id =>
      exact sound.leave id _ (fun frames => frames) (fun _ => ⟨rfl, rfl⟩)
        (fun h => List.append_nil h.buffer) rfl

theorem run (sound : t.Sound settings) {events : List Event}
    (fresh : (t.opened ++ events.filterMap Event.opens).Nodup) :
    (t.run events).Sound settings := by
  induction events generalizing t with
  | nil => exact sound
  | cons e rest ih =>
      have parts : (e :: rest).filterMap Event.opens =
          e.opens.toList ++ rest.filterMap Event.opens := by
        cases opens : e.opens <;> simp [opens]
      have apart : ∀ id ∈ e.opens, id ∉ t.opened := by
        intro id new old
        rw [parts, new] at fresh
        exact (List.nodup_append.mp fresh).2.2 id old id (.head _) rfl
      refine ih (sound.step e apart) ?_
      change ((t.note e).opened ++ _).Nodup
      rwa [note_opened, List.append_assoc, ← parts]

end Sound

/-- Connections come and go, are bound, read and stop reading, and records are dispatched, in any
order; no id is used for two connections. -/
theorem pushed_to_bound_connections (settings : PushSettings) {events : List Event}
    (fresh : (events.filterMap Event.opens).Nodup) :
    let t := run { hub := { settings := settings } } events
    (∀ token m, t.hub.PushesTo token m) ∧
    (∀ h ∈ t.hub.handles, h.capacity = max settings.bufferSize 1) ∧
    (∀ id, t.hub.pool.isRegistered id = true ↔ id ∈ t.connected) ∧
    (∀ id token, id ∈ t.hub.pool.boundTo token ↔ (id, token) ∈ t.granted) ∧
    (∀ id, ((t.left id ++ t.hub.waiting id).filter Frame.isRecord).Sublist
      ((t.offered id).map (.record settings.messageTarget))) ∧
    (t.peak < 2 ^ 64 → t.hub.metrics.connectionsActive.toNat = t.hub.connectionCount) ∧
    t.hub.metrics.bindingsTotal = .ofNat t.added := by
  intro t
  have sound : t.Sound settings := (Sound.start settings).run fresh
  have registered := sound.connected
  refine ⟨fun token m => ?_, fun h member => (sound.known h member).2, fun id => ?_,
    sound.pool.bound, sound.inOrder, fun small => ?_, sound.bindings⟩
  · exact Hub.pushes_to token m (sound.pool.once token) sound.distinct
      fun id member => sound.reachable id (registered ▸ member)
  · rw [Pool.isRegistered, registered]
    exact List.contains_iff_mem
  · have few : t.connected.length < 2 ^ 64 := Nat.lt_of_le_of_lt sound.peak small
    rw [sound.active small, UInt64.toNat_ofNat_of_lt' few, Hub.connectionCount,
      Pool.connectionCount, registered]

/-- Buffers of one frame: the connection that reads misses the third record, the one that does not
read misses the second, and a binding that belongs to no connection outlives them all. -/
theorem full_buffers_miss_records :
    let m := fun id : String =>
      ({ id := id, timestamp := .epoch, kind := .text, chat := ⟨"1@s.whatsapp.net", ""⟩ } : Message)
    let settings : PushSettings := { bufferSize := 1 }
    let events : List Event :=
      [.connect 0, .connect 1, .bind 0 "a", .bind 1 "a", .bind 2 "a", .dispatch "a" (m "1"),
        .read 0, .dispatch "a" (m "2"), .disconnect 1, .dispatch "a" (m "3"),
        .inbound 0 "\x7b\"token\":\"b\"\x7d" (· == "b"), .closeAll]
    let t := run { hub := { settings := settings } } events
    (events.filterMap Event.opens).Nodup ∧
      ((t.left 0 ++ t.hub.waiting 0).filter Frame.isRecord).Sublist
        ((t.offered 0).map (.record settings.messageTarget)) ∧
      (t.left 0 ++ t.hub.waiting 0).length = 2 ∧
      t.offered 0 = [m "1", m "2", m "3"] ∧ t.offered 1 = [m "1", m "2"] ∧
      t.granted = [(2, "a")] ∧ t.hub.metrics = ⟨2, 0, 4, 3, 2⟩ := by
  intro m settings events t
  have fresh : (events.filterMap Event.opens).Nodup := by decide
  have order := (pushed_to_bound_connections settings fresh).2.2.2.2.1 0
  refine ⟨fresh, order, ?_, ?_, ?_, ?_, ?_⟩ <;> decide +kernel

end Traffic

end ChatGateway.Push

import ChatGateway.Proofs.Tenant.Wiring
import Mathlib.Data.List.Range

/-!
Which tenants use which sessions, and which sessions are up. A session is opened for a tenant in
place of the one it uses, which is closed; or the session in use is closed; or it is let go of, and
stays up with nobody to close it.
-/

namespace ChatGateway

open Session (LinkId)
open Session.Exchange (Board)

namespace Session.Exchange.Board

variable {b : Board} {id : LinkId} {used : Option LinkId} {token other : String}

/-- Sessions are numbered in the order in which they were opened. -/
def Numbered (b : Board) : Prop := b.lines.map Prod.fst = List.range b.nextId

def Up (b : Board) (id : LinkId) : Prop := (id, true) ∈ b.lines

@[simp] theorem up_hangUp : (b.hangUp used).Up id ↔ b.Up id ∧ used ≠ some id := by
  simp only [Up, hangUp, List.mem_map, Prod.exists]
  constructor
  · rintro ⟨id', up, member, same⟩
    split at same
    · cases same
    · cases same
      exact ⟨member, by assumption⟩
  · rintro ⟨member, other⟩
    exact ⟨id, true, member, if_neg other⟩

@[simp] theorem up_opened : (b.opened token).Up id ↔ b.Up id ∨ id = b.nextId := by
  simp [Up, opened]

theorem latest_opened :
    (b.opened token).latest.lookup other =
      if other = token then some b.nextId else b.latest.lookup other := by
  rw [opened, Keyed.lookup_eq, Keyed.lookup_eq]
  by_cases own : other = token
  · subst own
    have put := @Keyed.find?_put_self _ _ _ _ Prod.fst (other, b.nextId) b.latest
    simp [put]
  · rw [Keyed.find?_put_ne _ own, if_neg own]

theorem hangUp_none (b : Board) : b.hangUp none = b := by
  simp [hangUp]

theorem Numbered.hangUp (numbered : b.Numbered) (used : Option LinkId) :
    (b.hangUp used).Numbered := by
  rw [Numbered, ← show b.lines.map Prod.fst = List.range (b.hangUp used).nextId from numbered]
  rw [Board.hangUp, List.map_map]
  apply List.map_congr_left
  intro line _
  rw [Function.comp_apply]
  split <;> rfl

theorem Numbered.opened (numbered : b.Numbered) (token : String) : (b.opened token).Numbered := by
  rw [Numbered] at numbered ⊢
  simp only [Board.opened, List.map_append, numbered, List.range_succ, List.map_cons, List.map_nil]

end Session.Exchange.Board

structure Switchboard where
  inUse : String → Option LinkId
  board : Board

namespace Switchboard

variable {s : Switchboard} {lost : List LinkId}

/-- A session is opened for a tenant, and the one it uses is closed. -/
def opened (s : Switchboard) (token : String) : Switchboard where
  inUse := Function.update s.inUse token (some s.board.nextId)
  board := (s.board.opened token).hangUp (s.inUse token)

/-- The session that a tenant uses is closed. -/
def closed (s : Switchboard) (token : String) : Switchboard where
  inUse := Function.update s.inUse token none
  board := s.board.hangUp (s.inUse token)

/-- The session that a tenant uses is let go of, and is not closed. -/
def forsaken (s : Switchboard) (token : String) : Switchboard :=
  { s with inUse := Function.update s.inUse token none }

variable {token other : String} {id : LinkId}

@[grind =] theorem inUse_opened :
    (s.opened token).inUse other =
      if other = token then some s.board.nextId else s.inUse other :=
  Function.update_apply ..

@[grind =] theorem inUse_closed :
    (s.closed token).inUse other = if other = token then none else s.inUse other :=
  Function.update_apply ..

@[grind =] theorem inUse_forsaken :
    (s.forsaken token).inUse other = if other = token then none else s.inUse other :=
  Function.update_apply ..

@[grind =] theorem up_opened :
    (s.opened token).board.Up id ↔
      (s.board.Up id ∨ id = s.board.nextId) ∧ s.inUse token ≠ some id := by
  simp [opened]

@[grind =] theorem up_closed :
    (s.closed token).board.Up id ↔ s.board.Up id ∧ s.inUse token ≠ some id := by
  simp [closed]

@[grind =] theorem latest_opened :
    (s.opened token).board.latest.lookup other =
      if other = token then some s.board.nextId else s.board.latest.lookup other :=
  Board.latest_opened

@[grind =] theorem nextId_opened : (s.opened token).board.nextId = s.board.nextId + 1 := rfl

@[grind =] theorem latest_closed : (s.closed token).board.latest = s.board.latest := rfl

@[grind =] theorem nextId_closed : (s.closed token).board.nextId = s.board.nextId := rfl

@[grind =] theorem board_forsaken : (s.forsaken token).board = s.board := rfl

/-- The sessions that are up are those in use and those that were let go of. A session in use is the
latest of its tenant. -/
structure Sound (s : Switchboard) (lost : List LinkId) : Prop where
  numbered : s.board.Numbered
  up : ∀ id, s.board.Up id ↔ (∃ token, s.inUse token = some id) ∨ id ∈ lost
  unused : ∀ token, ∀ id ∈ lost, s.inUse token ≠ some id
  latest : ∀ token id, s.inUse token = some id → s.board.latest.lookup token = some id
  apart : ∀ token other id, s.board.latest.lookup token = some id →
    s.board.latest.lookup other = some id → token = other
  known : ∀ token id, s.board.latest.lookup token = some id → id < s.board.nextId
  older : ∀ id ∈ lost, id < s.board.nextId

namespace Sound

theorem closed (sound : s.Sound lost) (token : String) : (s.closed token).Sound lost := by
  obtain ⟨numbered, up, unused, latest, apart, known, older⟩ := sound
  refine ⟨numbered.hangUp _, ?_, ?_, ?_, ?_, ?_, ?_⟩
  · simp only [inUse_closed]
    grind
  all_goals grind

theorem opened (sound : s.Sound lost) (token : String) : (s.opened token).Sound lost := by
  obtain ⟨numbered, up, unused, latest, apart, known, older⟩ := sound
  refine ⟨(numbered.opened token).hangUp _, ?_, ?_, ?_, ?_, ?_, ?_⟩
  · simp only [inUse_opened]
    grind
  all_goals grind

theorem forsaken (sound : s.Sound lost) {token : String} {id : LinkId}
    (used : s.inUse token = some id) : (s.forsaken token).Sound (lost ++ [id]) := by
  obtain ⟨numbered, up, unused, latest, apart, known, older⟩ := sound
  refine ⟨numbered, ?_, ?_, ?_, ?_, ?_, ?_⟩
  · simp only [inUse_forsaken]
    grind
  all_goals grind

end Sound

end Switchboard

end ChatGateway

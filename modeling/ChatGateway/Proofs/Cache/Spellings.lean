import ChatGateway.Proofs.Cache.Refinement
import ChatGateway.Proofs.Text.Case

namespace ChatGateway.Cache

namespace Messages

section Kept

variable {c : Messages} {m : Message} (sorted : Sorted c.entries) (kept : m ∈ c.entries)
include sorted kept

theorem find?_kept : Keyed.find? Message.key m.key c.entries = some m :=
  (Keyed.find?_eq_some sorted.distinct).mpr ⟨kept, rfl⟩

theorem deleteKey_kept :
    c.deleteKey m.key = (⟨Keyed.erase Message.key m.key c.entries, c.count - 1⟩, some m) := by
  rw [deleteKey, find?_kept sorted kept]

theorem put_kept {new : Message} (same : new.key = m.key) :
    (c.put new).1 = { c with entries := insert new c.entries } := by
  rw [put, same, find?_kept sorted kept]

theorem put_replaces {new : Message} (same : new.key = m.key) :
    (c.put new).1.entries.Perm (new :: (c.deleteKey m.key).1.entries) := by
  rw [put_kept sorted kept same, deleteKey_kept sorted kept, ← same]
  exact insert_perm sorted

end Kept

end Messages

/-- The cache was used in any way and holds a message. Whatever way its id is written in, any number
of times anew, the message is found and taken out under it, and one that comes under it takes its
place. Whatever way a beginning of the id is written in, the message is among those that begin
so. -/
theorem found_in_any_spelling {ops : List Op} {m : Message}
    (kept : m ∈ (Messages.run {} ops).entries) :
    let c := Messages.run {} ops
    (∀ id, Relation.ReflTransGen Text.Respells m.id id →
      c.get? id = some m ∧
      ((c.delete id).2 = some m ∧ c.entries.Perm (m :: (c.delete id).1.entries) ∧
        (c.delete id).1.get? m.id = none ∧ (c.delete id).1.count = c.count - 1) ∧
      ∀ new : Message, new.id = id →
        (c.put new).1.entries.Perm (new :: (c.delete id).1.entries) ∧
          (c.put new).1.get? m.id = some new ∧ (c.put new).1.count = c.count) ∧
    ∀ front back, m.id = front ++ back → ∀ beginning,
      Relation.ReflTransGen Text.Respells front beginning → m ∈ c.startingWith beginning := by
  intro c
  have sorted : Sorted c.entries := (Agrees.empty.run ops).sorted
  refine ⟨fun id spelled => ?_, fun front back split beginning spelled => ?_⟩
  · have key : Message.keyOf id = m.key := Text.upper_respelled spelled
    have taken : c.delete id = _ :=
      (congrArg c.deleteKey key).trans (Messages.deleteKey_kept sorted kept)
    have found := Messages.find?_kept sorted kept
    refine ⟨(congrArg (Keyed.find? Message.key · c.entries) key).trans found,
      ⟨?_, ?_, ?_, ?_⟩, ?_⟩
    · rw [taken]
    · rw [taken]
      exact Keyed.perm_erase sorted.distinct found
    · rw [taken]
      exact Keyed.find?_erase_self _ _
    · rw [taken]
    · rintro new rfl
      have put : (c.put new).1 = { c with entries := Messages.insert new c.entries } :=
        Messages.put_kept sorted kept key
      refine ⟨?_, ?_, ?_⟩
      · rw [Messages.delete, key]
        exact Messages.put_replaces sorted kept key
      · rw [put, Messages.get?]
        change Keyed.find? Message.key m.key (Messages.insert new c.entries) = some new
        rw [← key]
        exact Messages.find?_insert_self new c.entries
      · rw [put]
  · refine List.mem_filter.mpr ⟨kept, ?_⟩
    rw [Message.keyOf, Text.upper_respelled spelled, Message.key, Message.keyOf, split]
    exact Text.beginsWith_upper_append front back

/-- A sharp s becomes two letters in upper case; the message is found under them, and one that comes
with small letters after them replaces it. -/
theorem sharp_s_is_found :
    let chat : Chat := ⟨"1@s.whatsapp.net", ""⟩
    let m : Message := { id := "Straße1", timestamp := ⟨5, 0⟩, kind := .text, chat := chat }
    let other : Message := { m with id := "STRASSE2" }
    let new : Message := { m with id := "strasse1", text := "hi" }
    let c := Messages.run {} [.put other, .put m]
    m ∈ c.entries ∧ c.get? "STRASSE1" = some m ∧ (c.delete "strasse1").2 = some m ∧
      ((c.put new).1.get? m.id = some new ∧ (c.put new).1.count = 2) ∧
      m ∈ c.startingWith "STRASS" := by
  intro chat m other new c
  have kept : m ∈ c.entries := by decide +kernel
  have capitals : Text.Respells "Straße1" "STRASSE1" := by
    have image : "STRASSE1" = Text.upper "Straße1" := by decide +kernel
    exact image ▸ .upper
  have small : Text.Respells "STRASSE1" "strasse1" := .letters (by decide)
  have front : Text.Respells "Straß" "STRASS" := by
    have image : "STRASS" = Text.upper "Straß" := by decide +kernel
    exact image ▸ .upper
  have split : m.id = "Straß" ++ "e1" := by decide
  obtain ⟨found, parts⟩ := found_in_any_spelling kept
  obtain ⟨got, -, -⟩ := found "STRASSE1" (.single capitals)
  obtain ⟨-, ⟨taken, -⟩, replaced⟩ := found "strasse1" (.tail (.single capitals) small)
  obtain ⟨-, there, counted⟩ := replaced new rfl
  have two : c.count = 2 := by decide +kernel
  refine ⟨kept, got, taken, ⟨there, ?_⟩, parts "Straß" "e1" split "STRASS" (.single front)⟩
  rw [counted]
  exact two

end ChatGateway.Cache

import ChatGateway.Proofs.Tenant.Recorded

namespace ChatGateway

namespace Profile

/-- No other token is stored with the identity. -/
def Free (rows : List Profile) (token wid : String) : Prop :=
  ∀ p ∈ rows, p.token ≠ token → p.identity ≠ some wid

/-- No two tokens are stored with one identity. -/
def Sole (rows : List Profile) : Prop :=
  ∀ p ∈ rows, ∀ wid, p.identity = some wid → Free rows p.token wid

variable {rows rows' : List Profile} {p : Profile} {token wid : String}

theorem Free.of_others (free : Free rows token wid) (distinct : Keyed.Distinct Profile.token rows')
    (others : ∀ other, other ≠ token →
      Keyed.find? Profile.token other rows' = Keyed.find? Profile.token other rows) :
    Free rows' token wid := by
  intro p member different
  have found := (Keyed.find?_eq_some distinct).mpr ⟨member, rfl⟩
  rw [others p.token different] at found
  exact free p (Keyed.find?_some found).1 different

theorem Sole.subset (sole : Sole rows) (fewer : rows' ⊆ rows) : Sole rows' :=
  fun p member wid paired q other => sole p (fewer member) wid paired q (fewer other)

theorem Sole.put (sole : Sole rows) (distinct : Keyed.Distinct Profile.token rows)
    (free : ∀ wid, p.identity = some wid → Free rows p.token wid) :
    Sole (Keyed.put Profile.token p rows) := by
  intro q there wid paired r here different same
  rcases (Keyed.mem_put distinct).mp there with rfl | ⟨old, other⟩
  · rcases (Keyed.mem_put distinct).mp here with rfl | ⟨old, _⟩
    · exact different rfl
    · exact free wid paired r old different same
  · rcases (Keyed.mem_put distinct).mp here with rfl | ⟨old', _⟩
    · exact free wid same q old other paired
    · exact sole q old wid paired r old' different same

theorem StoredIn.row (stored : p.StoredIn rows) :
    ∃ row ∈ rows, row.token = p.token ∧ row.identity = p.identity := by
  obtain ⟨row, found, equal⟩ := stored
  obtain ⟨member, own⟩ := Keyed.find?_some found
  exact ⟨row, member, own, by rw [← equal]; rfl⟩

theorem Sole.own (sole : Sole rows) (stored : p.StoredIn rows) (paired : p.identity = some wid) :
    Free rows p.token wid := by
  obtain ⟨row, member, own, same⟩ := stored.row
  rw [← own]
  exact sole row member wid (same.trans paired)

end Profile

namespace Hosted.Standing

open Profile (Free Sole)

variable {ids : String → Prop} {s s' : Standing}

theorem Step.sole (step : Step ids s s') (stored : s.Stored)
    (distinct : Keyed.Distinct Profile.token s.rows)
    (free : ∀ wid, ids wid → Free s.rows s.profile.token wid) (sole : Sole s.rows) :
    Sole s'.rows := by
  cases step with
  | ended => exact sole.put distinct fun _ paired => sole.own (p := s.profile) stored paired
  | @confirmed wid reported =>
      apply sole.put distinct
      intro other paired
      have same : wid = other := Option.some.inj (Option.filter_eq_some_iff.mp paired).1
      exact same ▸ free wid reported
  | _ => exact sole

theorem Steps.sole (steps : Steps ids s s') (stored : s.Stored)
    (distinct : Keyed.Distinct Profile.token s.rows)
    (free : ∀ wid, ids wid → Free s.rows s.profile.token wid) (sole : Sole s.rows) :
    Sole s'.rows := by
  induction steps with
  | refl => exact sole
  | tail steps step ih =>
      have distinct' := Steps.distinct steps distinct
      have stored' := Steps.keep (fun _ _ step => step.stored) steps stored
      refine step.sole stored' distinct' (fun wid reported => ?_) ih
      rw [Steps.token steps]
      exact (free wid reported).of_others distinct' fun _ different => Steps.others steps different

end Hosted.Standing

end ChatGateway

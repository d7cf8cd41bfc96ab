import Mathlib.Data.Fintype.Card
import Mathlib.Data.List.Induction

/-!
Requests that each change a value which is kept twice, live and stored. A request reads the live
value and changes a copy of its own, then stores the copy, then makes it live; between these
sections other requests may have theirs. The lineage of a value is the set of the requests whose
changes it has. It has all of them just if no request begins while another is underway.
-/

namespace ChatGateway

/-- How far a request has come, and the copy it works on. -/
inductive Phase (α : Type) where
  | waiting
  | read (copy : α)
  | written (copy : α)
  | done

namespace Phase

variable {α β : Type}

def map (f : α → β) : Phase α → Phase β
  | waiting => waiting
  | read copy => read (f copy)
  | written copy => written (f copy)
  | done => done

/-- The number of sections that are over. -/
def sections : Phase α → Nat
  | waiting => 0
  | read _ => 1
  | written _ => 2
  | done => 3

theorem waiting_iff {p : Phase α} : p = waiting ↔ p.sections = 0 := by
  cases p <;> simp [sections]

theorem done_iff {p : Phase α} : p = done ↔ 3 ≤ p.sections := by
  cases p <;> simp [sections]

def copy? : Phase α → Option α
  | read copy | written copy => some copy
  | waiting | done => none

end Phase

section

variable {ι : Type} [DecidableEq ι]

/-- Whenever a request begins, those that began before have had all their sections. -/
def Apart (schedule : List ι) : Prop :=
  ∀ before i rest, schedule = before ++ i :: rest → i ∉ before →
    ∀ j ∈ before, 3 ≤ before.count j

theorem Apart.start {schedule : List ι} {i : ι} (apart : Apart (schedule ++ [i])) :
    Apart schedule := by
  rintro before j rest rfl
  exact apart before j (rest ++ [i]) (by simp)

/-- The requests whose changes the live and the stored value have, and the copies underway. -/
structure Lineage (ι : Type) where
  live : Finset ι := ∅
  stored : Finset ι := ∅
  phase : ι → Phase (Finset ι) := fun _ => .waiting

namespace Lineage

/-- The next section of a request. -/
def turn (l : Lineage ι) (i : ι) : Lineage ι :=
  match l.phase i with
  | .waiting => { l with phase := Function.update l.phase i (.read (insert i l.live)) }
  | .read copy => { l with stored := copy, phase := Function.update l.phase i (.written copy) }
  | .written copy => { l with live := copy, phase := Function.update l.phase i .done }
  | .done => l

/-- The order in which requests have their sections decides the lineages. -/
def ofSchedule (schedule : List ι) : Lineage ι := schedule.foldl turn {}

theorem ofSchedule_concat (schedule : List ι) (i : ι) :
    ofSchedule (schedule ++ [i]) = (ofSchedule schedule).turn i := by
  simp [ofSchedule]

theorem turn_sections (l : Lineage ι) (i j : ι) :
    ((l.turn i).phase j).sections =
      if j = i then min 3 ((l.phase i).sections + 1) else (l.phase j).sections := by
  by_cases own : j = i
  · subst own
    cases at_phase : l.phase j <;> simp [turn, at_phase, Phase.sections]
  · cases at_phase : l.phase i <;> simp [turn, at_phase, own]

theorem sections_eq (schedule : List ι) (i : ι) :
    ((ofSchedule schedule).phase i).sections = min 3 (schedule.count i) := by
  induction schedule using List.reverseRecOn with
  | nil => rfl
  | append_singleton before j ih =>
      rw [ofSchedule_concat, turn_sections, List.count_append, List.count_singleton]
      by_cases own : i = j
      · subst own
        simp only [if_true, ih, beq_self_eq_true]
        omega
      · have other : (j == i) = false := by simpa using Ne.symm own
        simpa [own, other] using ih

/-- What is live has come from requests that are over. -/
structure Sound (l : Lineage ι) : Prop where
  live : ∀ i ∈ l.live, l.phase i = .done
  stored : ∀ i ∈ l.stored, 2 ≤ (l.phase i).sections
  copies : ∀ i copy, (l.phase i).copy? = some copy → ∀ j ∈ copy, j = i ∨ l.phase j = .done

theorem Sound.turn {l : Lineage ι} (sound : l.Sound) (i : ι) : (l.turn i).Sound := by
  obtain ⟨live, stored, copies⟩ := sound
  cases at_phase : l.phase i with
  | done => simpa [Lineage.turn, at_phase] using ⟨live, stored, copies⟩
  | _ =>
      simp only [Lineage.turn, at_phase]
      constructor <;> grind [Function.update, Phase.copy?, Phase.sections]

theorem sound (schedule : List ι) : (ofSchedule schedule).Sound := by
  induction schedule using List.reverseRecOn with
  | nil => constructor <;> simp [ofSchedule, Phase.copy?]
  | append_singleton before i ih =>
      rw [ofSchedule_concat]
      exact ih.turn i

/-- At most one request is underway, and what is live has the changes of all that are over. -/
structure Serial (l : Lineage ι) : Prop where
  ended : ∀ i, i ∈ l.live ↔ l.phase i = .done
  alone : (∀ j, (l.phase j).copy? = none) ∧ l.stored = l.live ∨
    ∃ i, (∀ j, j ≠ i → (l.phase j).copy? = none) ∧
      (l.phase i = .read (insert i l.live) ∧ l.stored = l.live ∨
        l.phase i = .written (insert i l.live) ∧ l.stored = insert i l.live)

theorem Serial.turn {l : Lineage ι} (serial : l.Serial) {i : ι}
    (free : l.phase i = .waiting → ∀ j, (l.phase j).copy? = none) : (l.turn i).Serial := by
  obtain ⟨ended, alone⟩ := serial
  cases at_phase : l.phase i with
  | done => simpa [Lineage.turn, at_phase] using ⟨ended, alone⟩
  | waiting =>
      have nobody := free at_phase
      simp only [Lineage.turn, at_phase]
      constructor
      · grind [Function.update]
      · right
        refine ⟨i, ?_, Or.inl ⟨?_, ?_⟩⟩ <;> grind [Function.update, Phase.copy?]
  | read copy =>
      simp only [Lineage.turn, at_phase]
      constructor
      · grind [Function.update]
      · right
        refine ⟨i, ?_, Or.inr ⟨?_, ?_⟩⟩ <;> grind [Function.update, Phase.copy?]
  | written copy =>
      simp only [Lineage.turn, at_phase]
      constructor
      · grind [Function.update, Phase.copy?]
      · left
        constructor <;> grind [Function.update, Phase.copy?]

theorem waiting_iff {schedule : List ι} {i : ι} :
    (ofSchedule schedule).phase i = .waiting ↔ i ∉ schedule := by
  rw [Phase.waiting_iff, sections_eq, ← List.count_eq_zero]
  omega

theorem done_of_ended {schedule : List ι} {i : ι} (ended : 3 ≤ schedule.count i) :
    (ofSchedule schedule).phase i = .done := by
  rw [Phase.done_iff, sections_eq]
  omega

theorem idle_of_ended {schedule : List ι} (ended : ∀ j ∈ schedule, 3 ≤ schedule.count j) (j : ι) :
    ((ofSchedule schedule).phase j).copy? = none := by
  by_cases begun : j ∈ schedule
  · simp [done_of_ended (ended j begun), Phase.copy?]
  · simp [waiting_iff.mpr begun, Phase.copy?]

theorem serial_of_apart {schedule : List ι} (apart : Apart schedule) :
    (ofSchedule schedule).Serial := by
  induction schedule using List.reverseRecOn with
  | nil =>
      constructor
      · simp [ofSchedule]
      · exact Or.inl ⟨fun _ => rfl, rfl⟩
  | append_singleton before i ih =>
      rw [ofSchedule_concat]
      apply (ih apart.start).turn
      intro waiting
      exact idle_of_ended (apart before i [] rfl (waiting_iff.mp waiting))

/-- No value has the changes of both requests. -/
def Separates (i j : ι) (l : Lineage ι) : Prop :=
  ∀ s, s = l.live ∨ s = l.stored ∨ (∃ k, (l.phase k).copy? = some s) → ¬(i ∈ s ∧ j ∈ s)

theorem Separates.turn {l : Lineage ι} {i j : ι} (separates : Separates i j l)
    (begun : l.phase i ≠ .waiting) (begun' : l.phase j ≠ .waiting) (k : ι) :
    Separates i j (l.turn k) := by
  unfold Separates at *
  cases at_phase : l.phase k with
  | done => simpa [Lineage.turn, at_phase] using separates
  | _ =>
      simp only [Lineage.turn, at_phase]
      grind [Function.update, Phase.copy?]

/-- A request that begins while another is underway takes nothing from it and gives it nothing. -/
theorem Sound.separates {l : Lineage ι} (sound : l.Sound) {i j : ι} (new : l.phase i = .waiting)
    (underway : l.phase j ≠ .done) (different : i ≠ j) : Separates i j (l.turn i) := by
  obtain ⟨live, stored, copies⟩ := sound
  unfold Separates
  simp only [Lineage.turn, new]
  grind [Function.update, Phase.copy?, Phase.sections]

theorem separates_append {before : List ι} {i j : ι}
    (separates : Separates i j (ofSchedule before)) (begun : i ∈ before) (begun' : j ∈ before)
    (rest : List ι) : Separates i j (ofSchedule (before ++ rest)) := by
  induction rest using List.reverseRecOn with
  | nil => simpa using separates
  | append_singleton rest k ih =>
      rw [← List.append_assoc, ofSchedule_concat]
      apply ih.turn
      · rw [Ne, waiting_iff]
        simp [begun]
      · rw [Ne, waiting_iff]
        simp [begun']

theorem separates_of_not_apart {schedule : List ι} (overlap : ¬Apart schedule) :
    ∃ i j, Separates i j (ofSchedule schedule) := by
  simp only [Apart, not_forall] at overlap
  obtain ⟨before, i, rest, rfl, new, j, begun, underway⟩ := overlap
  have running : (ofSchedule before).phase j ≠ .done := by
    rw [Ne, Phase.done_iff, sections_eq]
    omega
  have different : i ≠ j := by
    rintro rfl
    exact new begun
  have separates := (sound before).separates (waiting_iff.mpr new) running different
  rw [← ofSchedule_concat] at separates
  refine ⟨i, j, ?_⟩
  have later := separates_append separates (by simp) (by simp [begun]) rest
  simpa using later

section Complete

variable {schedule : List ι}

theorem full_iff_apart [Fintype ι] (complete : ∀ i, 3 ≤ schedule.count i) :
    (ofSchedule schedule).live = Finset.univ ↔ Apart schedule := by
  constructor
  · intro full
    by_contra overlap
    obtain ⟨i, j, separates⟩ := separates_of_not_apart overlap
    apply separates _ (Or.inl rfl)
    simp [full]
  · intro apart
    ext i
    simp [(serial_of_apart apart).ended i, done_of_ended (complete i)]

theorem stored_eq_live (complete : ∀ i, 3 ≤ schedule.count i) (apart : Apart schedule) :
    (ofSchedule schedule).stored = (ofSchedule schedule).live := by
  have idle := idle_of_ended fun j (_ : j ∈ schedule) => complete j
  rcases (serial_of_apart apart).alone with ⟨_, same⟩ | ⟨i, _, busy | busy⟩
  · exact same
  · have none := idle i
    simp [busy.1, Phase.copy?] at none
  · have none := idle i
    simp [busy.1, Phase.copy?] at none

end Complete

end Lineage

end

end ChatGateway

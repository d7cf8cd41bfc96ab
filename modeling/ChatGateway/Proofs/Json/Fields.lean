import ChatGateway.Json.Decode

/-!
Structures written field by field, in the order in which their fields are declared: each is read
back by the fields in turn, those that are not written keeping what the structure starts with.
Another value of a member makes the difference that its field makes, and no other.
-/

namespace ChatGateway.Field

variable {σ : Type}

/-- A field with what is written of it, if anything. -/
structure Entry (σ : Type) where
  field : Field σ
  value : Option Json

/-- The members written of some fields. -/
def written (es : List (Entry σ)) : List (String × Json) :=
  es.flatMap fun e => (e.value.map (e.field.name, ·)).toList

namespace Entry

/-- What reading a field back does. -/
def read (s : σ) (e : Entry σ) : Except DecodeError σ :=
  match e.value with
  | some j => e.field.read j s
  | none => .ok s

end Entry

/-- Fields under different names, none with another name besides. -/
structure Plain (fields : List (Field σ)) : Prop where
  alone : ∀ f ∈ fields, f.aliases = []
  distinct : (fields.map Field.name).Nodup

theorem matchesName_plain {f : Field σ} (alone : f.aliases = []) (name : String) :
    f.matchesName name = (f.name == name) := by
  rw [matchesName, alone]
  exact Bool.or_false _

theorem Plain.find {fields : List (Field σ)} (plain : Plain fields) {f : Field σ}
    (member : f ∈ fields) : fields.find? (·.matchesName f.name) = some f := by
  induction fields with
  | nil => cases member
  | cons g rest ih =>
      obtain ⟨alone, distinct⟩ := plain
      rw [List.map_cons, List.nodup_cons] at distinct
      rw [List.find?_cons, matchesName_plain (alone g List.mem_cons_self)]
      rcases List.mem_cons.mp member with rfl | member
      · rw [beq_self_eq_true]
      · have other : g.name ≠ f.name := fun same =>
          distinct.1 (same ▸ List.mem_map_of_mem member)
        rw [beq_eq_false_iff_ne.mpr other]
        exact ih ⟨fun f inside => alone f (List.mem_cons_of_mem _ inside), distinct.2⟩ member

theorem written_cons (e : Entry σ) (es : List (Entry σ)) :
    written (e :: es) = (e.value.map (e.field.name, ·)).toList ++ written es := by
  rw [written, List.flatMap_cons]
  rfl

/-- Members are read one after the other, and the names that were written are seen. -/
theorem readMembers_written {fields : List (Field σ)} (plain : Plain fields)
    {es : List (Entry σ)} (among : ∀ e ∈ es, e.field ∈ fields)
    (distinct : (es.map (·.field.name)).Nodup) {seen : List String}
    (fresh : ∀ e ∈ es, e.field.name ∉ seen) (s : σ) :
    readMembers fields (written es) seen s =
      (es.foldlM Entry.read s).map (((written es).map Prod.fst).reverse ++ seen, ·) := by
  induction es generalizing seen s with
  | nil => rfl
  | cons e es ih =>
      obtain ⟨f, value⟩ := e
      rw [List.map_cons, List.nodup_cons] at distinct
      have later := @ih (fun e inside => among e (List.mem_cons_of_mem _ inside)) distinct.2
      have fresh' : ∀ e ∈ es, e.field.name ∉ seen := fun e inside =>
        fresh e (List.mem_cons_of_mem _ inside)
      rw [List.foldlM_cons, written_cons]
      cases value with
      | none => exact later fresh' s
      | some j =>
          have found := plain.find (among ⟨f, some j⟩ List.mem_cons_self)
          have new : ¬seen.contains f.name = true := by
            simpa using fresh ⟨f, some j⟩ List.mem_cons_self
          change readMembers fields ((f.name, j) :: written es) seen s =
            (f.read j s >>= es.foldlM Entry.read).map
              ((((f.name, j) :: written es).map Prod.fst).reverse ++ seen, ·)
          rw [readMembers, found]
          dsimp only
          rw [if_neg new]
          cases f.read j s with
          | error e => rfl
          | ok next =>
              have apart : ∀ e ∈ es, e.field.name ∉ f.name :: seen := fun e inside member => by
                rcases List.mem_cons.mp member with same | member
                · exact distinct.1 (same ▸ List.mem_map_of_mem inside)
                · exact fresh' e inside member
              rw [List.map_cons, List.reverse_cons, List.append_assoc]
              exact later apart next

/-- A structure is decoded by its fields in turn, if those that are required are written. -/
theorem decode_written (es : List (Entry σ)) (plain : Plain (es.map Entry.field))
    (required : ∀ e ∈ es, e.field.required = true → e.value.isSome = true) (s : σ) :
    decode (es.map Entry.field) s (.obj (written es)) = es.foldlM Entry.read s := by
  have distinct : (es.map (·.field.name)).Nodup := by
    have names := plain.distinct
    rwa [List.map_map] at names
  have all := readMembers_written plain (fun e inside => List.mem_map_of_mem inside) distinct
    (fun e _ => List.not_mem_nil) s
  rw [decode, all]
  cases es.foldlM Entry.read s with
  | error e => rfl
  | ok t =>
      have complete : (es.map Entry.field).find? (fun f =>
          f.required && !((written es).map Prod.fst).reverse.contains f.name) = none := by
        refine List.find?_eq_none.mpr fun f inside => ?_
        obtain ⟨e, there, rfl⟩ := List.mem_map.mp inside
        cases needed : e.field.required with
        | false => exact Bool.false_ne_true
        | true =>
            obtain ⟨j, value⟩ := Option.isSome_iff_exists.mp (required e there needed)
            have present : e.field.name ∈ (written es).map Prod.fst := by
              refine List.mem_map.mpr ⟨(e.field.name, j), List.mem_flatMap.mpr ⟨e, there, ?_⟩, rfl⟩
              rw [value]
              exact List.mem_cons_self
            simp [present]
      rw [Except.map, List.append_nil]
      dsimp only
      rw [complete]

namespace Entry

variable {α : Type} {name : String} {item : Decoder α} {set : α → σ → σ} {v : α} {s : σ}

theorem read_some {required : Bool} {j : Json} (reads : item j = .ok v) :
    read s ⟨⟨name, [], required, fun j s => (item j).map (set · s)⟩, some j⟩ = .ok (set v s) := by
  change (item j).map (set · s) = _
  rw [reads]
  rfl

/-- A field with the value that the structure starts with may be left out. -/
theorem read_unless {p : Prop} [Decidable p] {d : α} {j : Json} (start : set d s = s)
    (default : p → v = d) (reads : ¬p → item j = .ok v) :
    read s ⟨.opt name item set, if p then none else some j⟩ = .ok (set v s) := by
  split
  · next left =>
    rw [default left, start]
    rfl
  · next kept => exact read_some (reads kept)

theorem read_map {β : Type} {f : β → Json} {g : β → α} {o : Option β}
    {set : Option α → σ → σ} (default : set none s = s) (real : ∀ b, f b ≠ .null)
    (reads : ∀ b ∈ o, item (f b) = .ok (g b)) :
    read s ⟨.opt name (.optional item) set, o.map f⟩ = .ok (set (o.map g) s) := by
  cases o with
  | none => exact congrArg Except.ok default.symm
  | some b =>
      change (Decoder.optional item (f b)).map (set · s) = _
      rw [Decoder.optional, reads b rfl]
      · rfl
      · exact real b

theorem read_optional {f : α → Json} {o : Option α} {set : Option α → σ → σ}
    (default : set none s = s) (real : ∀ a, f a ≠ .null) (reads : ∀ a ∈ o, item (f a) = .ok a) :
    read s ⟨.opt name (.optional item) set, o.map f⟩ = .ok (set o s) := by
  rw [read_map default real reads, Option.map_id']

theorem foldlM_cons {e : Entry σ} {es : List (Entry σ)} {next : σ} {t : σ}
    (first : e.read s = .ok next) (later : es.foldlM read next = .ok t) :
    (e :: es).foldlM read s = .ok t := by
  rw [List.foldlM_cons, first]
  exact later

end Entry

section Change

variable {fields : List (Field σ)} {f : Field σ} {name : String} {a b : Json} {change : σ → σ}

/-- A change that the fields of other names do not see. -/
def Apart (fields : List (Field σ)) (name : String) (change : σ → σ) : Prop :=
  ∀ g ∈ fields, g.name ≠ name → ∀ j s, g.read j (change s) = (g.read j s).map change

theorem opt_apart {α : Type} {item : Decoder α} {set : α → σ → σ}
    (commutes : ∀ x s, set x (change s) = change (set x s)) (j : Json) (s : σ) :
    (opt name item set).read j (change s) = ((opt name item set).read j s).map change := by
  change (item j).map _ = ((item j).map _).map change
  cases item j with
  | error e => rfl
  | ok x => exact congrArg Except.ok (commutes x s)

/-- Once its field was read, a change stays as it is: the field is not read again. -/
theorem readMembers_changed (apart : Apart fields f.name change) {members : List (String × Json)}
    {seen : List String} (known : f.name ∈ seen) (s : σ) :
    readMembers fields members seen (change s) =
      (readMembers fields members seen s).map (Prod.map id change) := by
  induction members generalizing seen s with
  | nil => rfl
  | cons m rest ih =>
      obtain ⟨name, j⟩ := m
      rw [readMembers, readMembers]
      cases found : fields.find? (·.matchesName name) with
      | none => exact ih known s
      | some g =>
          dsimp only
          by_cases again : g.name ∈ seen
          · have twice : seen.contains g.name = true := by simpa using again
            rw [if_pos twice, if_pos twice]
            rfl
          · have once : ¬seen.contains g.name = true := by simpa using again
            have other : g.name ≠ f.name := fun same => again (same ▸ known)
            rw [if_neg once, if_neg once, apart g (List.mem_of_find?_eq_some found) other]
            cases g.read j s with
            | error e => rfl
            | ok next => exact ih (List.mem_cons_of_mem _ known) next

variable (found : fields.find? (·.matchesName name) = some f)
  (apart : Apart fields f.name change) (turned : ∀ s, f.read a s = (f.read b s).map change)
include found apart turned

theorem readMembers_turned (members : List (String × Json)) (seen : List String) (s : σ) :
    readMembers fields ((name, a) :: members) seen s =
      (readMembers fields ((name, b) :: members) seen s).map (Prod.map id change) := by
  rw [readMembers, readMembers, found]
  dsimp only
  split
  · rfl
  · rw [turned]
    cases f.read b s with
    | error e => rfl
    | ok next => exact readMembers_changed apart List.mem_cons_self next

theorem readMembers_insertMember (members : List (String × Json)) (seen : List String) (s : σ) :
    readMembers fields (Json.insertMember name a members) seen s =
      (readMembers fields (Json.insertMember name b members) seen s).map (Prod.map id change) := by
  induction members generalizing seen s with
  | nil => exact readMembers_turned found apart turned [] seen s
  | cons m rest ih =>
      rw [Json.insertMember, Json.insertMember]
      split
      · exact readMembers_turned found apart turned (m :: rest) seen s
      · split
        · exact readMembers_turned found apart turned rest seen s
        · obtain ⟨other, j⟩ := m
          rw [readMembers, readMembers]
          cases fields.find? (·.matchesName other) with
          | none => exact ih seen s
          | some g =>
              dsimp only
              split
              · rfl
              · cases g.read j s with
                | error e => rfl
                | ok next => exact ih (g.name :: seen) next

theorem decode_insertMember (members : List (String × Json)) (s : σ) :
    decode fields s (.obj (Json.insertMember name a members)) =
      (decode fields s (.obj (Json.insertMember name b members))).map change := by
  rw [decode, decode, readMembers_insertMember found apart turned]
  cases readMembers fields (Json.insertMember name b members) [] s with
  | error e => rfl
  | ok r =>
      obtain ⟨seen, s⟩ := r
      dsimp only [Except.map, Prod.map, id]
      cases fields.find? (fun f => f.required && !seen.contains f.name) <;> rfl

end Change

end ChatGateway.Field

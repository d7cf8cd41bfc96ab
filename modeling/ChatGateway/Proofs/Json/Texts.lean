import ChatGateway.Json.Stream
import ChatGateway.Proofs.Json.Fields
import ChatGateway.Proofs.Json.Values

namespace ChatGateway.Json

open Text

theorem parse?_print {j : Json} (legible : Legible maxDepth j) : parse? (print j) = some j := by
  have read := value_print legible .nil
  rw [List.append_nil] at read
  rw [parse?, print, String.toList_ofList, read]
  rfl

variable {σ : Type} {fields : List (Field σ)}

theorem readField_print {f : Field σ} {j : Json} (legible : Legible (maxDepth - 1) j)
    {rest : List Char} (ends : Ends rest) {s s' : σ} (read : f.read j s = .ok s') :
    readField f (printChars j ++ rest) s = .ok (s', rest) := by
  rw [readField, value_print legible ends]
  dsimp only
  rw [read]
  rfl

theorem readMember_print {name : String} {f : Field σ} {j : Json}
    (found : fields.find? (·.matchesName name) = some f) (legible : Legible (maxDepth - 1) j)
    {cs after : List Char} (split : cs = quoted name ++ ':' :: printChars j ++ after)
    (ends : Ends after) {seen : List String} (fresh : seen.contains f.name = false) {s s' : σ}
    (read : f.read j s = .ok s') :
    readMember fields cs seen s = .ok ((f.name :: seen, s'), after) := by
  rw [quoted_member split, readMember, skipBlanks_cons (by decide)]
  split
  · next rest same =>
    obtain ⟨-, rfl⟩ := List.cons_eq_cons.mp same
    rw [stringBody_quoted]
    dsimp only
    rw [found, skipBlanks_cons (by decide)]
    change (if seen.contains f.name then _ else (readField f _ s).map _) = _
    rw [fresh, if_neg Bool.false_ne_true, readField_print legible ends read]
    rfl
  · next bare => exact absurd rfl (bare _)

/-- What reading a member takes: it was not seen before, and its value is as the field wants it. -/
theorem readMembers_cons {name : String} {j : Json} {members : List (String × Json)} {f : Field σ}
    (found : fields.find? (·.matchesName name) = some f) {seen : List String} {s : σ}
    {r : List String × σ}
    (decoded : Field.readMembers fields ((name, j) :: members) seen s = .ok r) :
    ∃ next, seen.contains f.name = false ∧ f.read j s = .ok next ∧
      Field.readMembers fields members (f.name :: seen) next = .ok r := by
  rw [Field.readMembers, found] at decoded
  dsimp only at decoded
  split at decoded
  · cases decoded
  · next fresh =>
    split at decoded
    · cases decoded
    · next next read => exact ⟨next, Bool.eq_false_iff.mpr fresh, read, decoded⟩

/-- Members are read off the text as they are out of the object. -/
theorem readMembers_print {members : List (String × Json)} {fuel : Nat} (full : members ≠ [])
    (enough : members.length ≤ fuel) (legible : ∀ m ∈ members, Legible (maxDepth - 1) m.2)
    (known : ∀ m ∈ members, (fields.find? (·.matchesName m.1)).isSome) {seen seen' : List String}
    {s s' : σ} (decoded : Field.readMembers fields members seen s = .ok (seen', s'))
    (rest : List Char) :
    readMembers fields fuel (printMembers members ++ '\x7d' :: rest) seen s =
      .ok ((seen', s'), rest) := by
  induction members generalizing fuel seen s with
  | nil => exact absurd rfl full
  | cons m members ih =>
      obtain ⟨name, j⟩ := m
      obtain ⟨f, found⟩ := Option.isSome_iff_exists.mp (known (name, j) List.mem_cons_self)
      obtain ⟨next, fresh, read, decoded⟩ := readMembers_cons found decoded
      have first := legible (name, j) List.mem_cons_self
      cases fuel with
      | zero => cases enough
      | succ fuel =>
          cases members with
          | nil =>
              cases decoded
              rw [readMembers, readMember_print found first (by rw [printMembers])
                (.cons (by decide) rest) fresh read]
              dsimp only
              rw [skipBlanks_cons (by decide)]
              rfl
          | cons k members =>
              have split : printMembers ((name, j) :: k :: members) ++ '\x7d' :: rest =
                  quoted name ++ ':' :: printChars j ++
                    ',' :: (printMembers (k :: members) ++ '\x7d' :: rest) := by
                rw [printMembers_cons (List.cons_ne_nil k members), List.append_assoc]
                rfl
              rw [readMembers, readMember_print found first split (.cons (by decide) _) fresh read]
              dsimp only
              rw [skipBlanks_cons (by decide)]
              exact ih (List.cons_ne_nil k members) (Nat.le_of_succ_le_succ enough)
                (fun m member => legible m (List.mem_cons_of_mem _ member))
                (fun m member => known m (List.mem_cons_of_mem _ member)) decoded

/-- The members after the opening brace, if there are any. -/
def membersText (fields : List (Field σ)) (start : σ) (cs : List Char) :
    Reading (List String × σ) :=
  match skipBlanks cs with
  | '\x7d' :: rest => .ok (([], start), rest)
  | _ => readMembers fields (cs.length + 1) cs [] start

theorem membersText_print {members : List (String × Json)}
    (legible : ∀ m ∈ members, Legible (maxDepth - 1) m.2)
    (known : ∀ m ∈ members, (fields.find? (·.matchesName m.1)).isSome) {start s : σ}
    {seen : List String} (decoded : Field.readMembers fields members [] start = .ok (seen, s)) :
    membersText fields start (printMembers members ++ ['\x7d']) = .ok ((seen, s), []) := by
  by_cases empty : members = []
  · subst empty
    cases decoded
    rfl
  · obtain ⟨c, after, begins, unblank, other⟩ := opens_members empty ['\x7d']
    have enough : members.length ≤ (printMembers members ++ ['\x7d']).length + 1 := by
      have long := length_printMembers members
      rw [List.length_append]
      omega
    have all := readMembers_print empty enough legible known decoded []
    unfold membersText
    rw [begins, skipBlanks_cons unblank, ← begins]
    split
    · next split => exact absurd (List.cons.inj (begins.symm.trans split)).1 other
    · exact all

theorem readText_object {text : String} {cs : List Char} {start s : σ} {seen : List String}
    (brace : text.toList = '\x7b' :: cs)
    (members : membersText fields start cs = .ok ((seen, s), []))
    (complete : (fields.any fun f => f.required && !seen.contains f.name) = false) :
    readText fields start text = .ok s := by
  rw [readText, brace, skipBlanks_cons (by decide)]
  change ((membersText fields start cs).bind _).bind _ = _
  rw [members]
  change Except.bind (if fields.any (fun f => f.required && !seen.contains f.name) then _ else _)
    _ = _
  rw [complete]
  rfl

/-- A structure is read off the text of an object of its fields as it is out of the object. -/
theorem readText_print {members : List (String × Json)}
    (legible : ∀ m ∈ members, Legible (maxDepth - 1) m.2)
    (known : ∀ m ∈ members, (fields.find? (·.matchesName m.1)).isSome) {start s : σ}
    (decoded : Field.decode fields start (.obj members) = .ok s) :
    readText fields start (print (.obj members)) = .ok s := by
  have brace : (print (.obj members)).toList = '\x7b' :: (printMembers members ++ ['\x7d']) := by
    have whole := printChars_obj members []
    rw [List.append_nil] at whole
    rw [print, String.toList_ofList, whole]
  rw [Field.decode] at decoded
  split at decoded
  · cases decoded
  · next seen found read =>
    split at decoded
    · cases decoded
    · next none =>
      cases decoded
      exact readText_object brace (membersText_print legible known read) (by simpa using none)

/-- What is written of a field, if anything, is legible. -/
def Clear (depth : Nat) (value : Option Json) : Prop := ∀ j ∈ value, Legible depth j

namespace Clear

variable {depth : Nat}

theorem some {j : Json} (legible : Legible depth j) : Clear depth (some j) := fun i same => by
  cases same
  exact legible

theorem map {α : Type} {f : α → Json} {o : Option α} (each : ∀ a ∈ o, Legible depth (f a)) :
    Clear depth (o.map f) := fun j there => by
  obtain ⟨a, here, rfl⟩ := Option.map_eq_some_iff.mp there
  exact each a here

theorem unlessDefault {p : Prop} [Decidable p] {j : Json} (legible : Legible depth j) :
    Clear depth (if p then none else Option.some j) := by
  split
  · exact nofun
  · exact some legible

end Clear

section Written

variable {fields : List (Field σ)} {values : List (Option Json)} {depth : Nat}

theorem mem_written {es : List (Field.Entry σ)} {m : String × Json}
    (inside : m ∈ Field.written es) :
    ∃ e ∈ es, e.field.name = m.1 ∧ m.2 ∈ e.value := by
  obtain ⟨e, there, some⟩ := List.mem_flatMap.mp inside
  obtain ⟨j, value, rfl⟩ := Option.map_eq_some_iff.mp (Option.mem_toList.mp some)
  exact ⟨e, there, rfl, value⟩

theorem legible_written (legible : ∀ v ∈ values, Clear depth v) :
    ∀ m ∈ Field.written (fields.zipWith Field.Entry.mk values), Legible depth m.2 := by
  intro m inside
  obtain ⟨e, there, -, value⟩ := mem_written inside
  obtain ⟨i, low, same⟩ := List.mem_iff_getElem.mp there
  rw [List.getElem_zipWith] at same
  subst same
  exact legible _ (List.getElem_mem _) m.2 value

/-- A structure that is written field by field is read off its text as it is out of its object. -/
theorem readText_written (plain : Field.Plain fields)
    (legible : ∀ v ∈ values, Clear (maxDepth - 1) v) {start s : σ}
    (decoded : Field.decode fields start
      (.obj (Field.written (fields.zipWith Field.Entry.mk values))) = .ok s) :
    readText fields start (print (.obj (Field.written (fields.zipWith Field.Entry.mk values)))) =
      .ok s := by
  refine readText_print (legible_written legible) (fun m inside => ?_) decoded
  obtain ⟨e, there, named, -⟩ := mem_written inside
  obtain ⟨i, low, same⟩ := List.mem_iff_getElem.mp there
  rw [List.getElem_zipWith] at same
  subst same
  rw [← named, plain.find (List.getElem_mem _)]
  rfl

end Written

end ChatGateway.Json

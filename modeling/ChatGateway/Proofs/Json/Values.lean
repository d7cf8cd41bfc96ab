import ChatGateway.Proofs.Json.Leaves

namespace ChatGateway.Json

open Text

/-- A value that is read as it is written, with at most `depth` containers inside one another: its
integers are kept exactly, and its doubles read back as themselves. -/
inductive Legible : (depth : Nat) → Json → Prop
  | null {depth : Nat} : Legible depth .null
  | bool {depth : Nat} (b : Bool) : Legible depth (.bool b)
  | int {depth : Nat} {n : Int} (exact : isExact n = true) : Legible depth (.int n)
  | float {depth : Nat} {x : Binary64} (finite : x.isFinite = true)
      (read : number x.toJsonText.toList = some (.float x, [])) : Legible depth (.float x)
  | str {depth : Nat} (s : String) : Legible depth (.str s)
  | arr {depth : Nat} {items : List Json} (each : ∀ j ∈ items, Legible depth j) :
      Legible (depth + 1) (.arr items)
  | obj {depth : Nat} {members : List (String × Json)} (each : ∀ m ∈ members, Legible depth m.2) :
      Legible (depth + 1) (.obj members)

theorem quoted_append (s : String) (rest : List Char) :
    quoted s ++ rest = '"' :: (s.toList.flatMap escapeChar ++ '"' :: rest) := by
  rw [quoted, List.cons_append, List.cons_append, List.append_assoc]
  rfl

section Printed

variable {j : Json} {items : List Json} {name : String} {members : List (String × Json)}

theorem printItems_cons (full : items ≠ []) :
    printItems (j :: items) = printChars j ++ ',' :: printItems items := by
  rw [printItems]
  exact full

theorem printMembers_cons (full : members ≠ []) :
    printMembers ((name, j) :: members) =
      quoted name ++ ':' :: printChars j ++ ',' :: printMembers members := by
  rw [printMembers]
  exact full

end Printed

theorem skipBlanks_cons {c : Char} (unblank : isJsonBlank c = false) (rest : List Char) :
    skipBlanks (c :: rest) = c :: rest := by
  rw [skipBlanks, List.dropWhile_cons_of_neg]
  rw [unblank]
  decide

/-- The text of a member, up to what follows its value. -/
theorem quoted_member {name : String} {j : Json} {cs after : List Char}
    (split : cs = quoted name ++ ':' :: printChars j ++ after) :
    cs = '"' :: (name.toList.flatMap escapeChar ++ '"' :: ':' :: (printChars j ++ after)) := by
  rw [split, List.append_assoc, quoted_append, List.cons_append]

theorem number_begins {cs : List Char} {r : Json × List Char} (read : number cs = some r) :
    ∃ c rest, cs = c :: rest ∧ (c = '-' ∨ isDigit c = true) := by
  cases cs with
  | nil => cases read
  | cons c rest =>
      refine ⟨c, rest, rfl, ?_⟩
      by_cases minus : c = '-'
      · exact .inl minus
      refine .inr ?_
      by_cases digit : isDigit c = true
      · exact digit
      have none : integerPart (c :: rest) = none := by
        have cut : digits (c :: rest) = ([], c :: rest) := by
          rw [digits, List.span_eq_takeWhile_dropWhile, List.takeWhile_cons_of_neg digit,
            List.dropWhile_cons_of_neg digit]
        rw [integerPart, cut]
      have bare : (c :: rest).head? ≠ some '-' := fun first => minus (Option.some.inj first)
      rw [number_unsigned bare, unsigned, none] at read
      cases read

theorem number_apart {c other : Char} (begins : c = '-' ∨ isDigit c = true)
    (apart : other ≠ '-' ∧ isDigit other = false) : c ≠ other := by
  rintro rfl
  rcases begins with minus | digit
  · exact apart.1 minus
  · cases apart.2.symm.trans digit

theorem number_unblank {c : Char} (begins : c = '-' ∨ isDigit c = true) :
    isJsonBlank c = false := by
  have space := number_apart begins (by decide : ' ' ≠ '-' ∧ _)
  have tab := number_apart begins (by decide : '\t' ≠ '-' ∧ _)
  have line := number_apart begins (by decide : '\n' ≠ '-' ∧ _)
  have back := number_apart begins (by decide : '\r' ≠ '-' ∧ _)
  simp [isJsonBlank, space, tab, line, back]

theorem printChars_begins {depth : Nat} {j : Json} (legible : Legible depth j) :
    ∃ c rest, printChars j = c :: rest ∧ isJsonBlank c = false ∧ c ≠ ']' := by
  have ofNumber : ∀ {cs : List Char} {r : Json × List Char}, number cs = some r →
      ∃ c rest, cs = c :: rest ∧ isJsonBlank c = false ∧ c ≠ ']' := by
    intro cs r read
    obtain ⟨c, rest, rfl, begins⟩ := number_begins read
    exact ⟨c, rest, rfl, number_unblank begins, number_apart begins (by decide)⟩
  cases legible with
  | null => exact ⟨'n', _, rfl, by decide⟩
  | bool b => cases b <;> exact ⟨_, _, rfl, by decide⟩
  | int exact => exact ofNumber (number_int exact)
  | float finite read =>
      rw [printChars, if_pos finite]
      exact ofNumber read
  | str s => exact ⟨'"', _, rfl, by decide⟩
  | arr each => exact ⟨'[', _, rfl, by decide⟩
  | obj each => exact ⟨'\x7b', _, rfl, by decide⟩

section Items

variable {item : List Char → Option (Json × List Char)}

theorem arrayItems_print {items : List Json} {fuel : Nat} (full : items ≠ [])
    (enough : items.length ≤ fuel)
    (each : ∀ j ∈ items, ∀ rest, Ends rest → item (printChars j ++ rest) = some (j, rest))
    (rest : List Char) :
    arrayItems item fuel (printItems items ++ ']' :: rest) = some (items, rest) := by
  induction items generalizing fuel with
  | nil => exact absurd rfl full
  | cons j items ih =>
      cases fuel with
      | zero => cases enough
      | succ fuel =>
          have first := each j List.mem_cons_self
          cases items with
          | nil =>
              rw [printItems, arrayItems, first _ (.cons (by decide) rest)]
              rfl
          | cons k items =>
              have later := ih (List.cons_ne_nil k items) (Nat.le_of_succ_le_succ enough)
                fun j member => each j (List.mem_cons_of_mem _ member)
              rw [printItems_cons (List.cons_ne_nil k items), List.append_assoc, List.cons_append,
                arrayItems, first _ (.cons (by decide) _)]
              change (arrayItems item fuel _ >>= _) = _
              rw [later]
              rfl

/-- What a member is followed by: by more of them, or by the end. -/
def afterMember (item : List Char → Option (Json × List Char)) (fuel : Nat) (m : String × Json)
    (cs : List Char) : Option (List (String × Json) × List Char) :=
  match skipBlanks cs with
  | ',' :: rest => do
    let (members, rest) ← objectMembers stringBody item fuel rest
    return (m :: members, rest)
  | '\x7d' :: rest => return ([m], rest)
  | _ => none

theorem objectMembers_name {fuel : Nat} {name : String} {j : Json} {cs after : List Char}
    (split : cs = quoted name ++ ':' :: printChars j ++ after)
    (read : item (printChars j ++ after) = some (j, after)) :
    objectMembers stringBody item (fuel + 1) cs = afterMember item fuel (name, j) after := by
  rw [quoted_member split, objectMembers, skipBlanks_cons (by decide)]
  change (stringBody _ >>= _) = _
  rw [stringBody_quoted, Option.bind_eq_bind, Option.bind_some]
  dsimp only
  rw [skipBlanks_cons (by decide)]
  change (item _ >>= _) = _
  rw [read]
  rfl

theorem objectMembers_print {members : List (String × Json)} {fuel : Nat} (full : members ≠ [])
    (enough : members.length ≤ fuel)
    (each : ∀ m ∈ members, ∀ rest, Ends rest → item (printChars m.2 ++ rest) = some (m.2, rest))
    (rest : List Char) :
    objectMembers stringBody item fuel (printMembers members ++ '\x7d' :: rest) =
      some (members, rest) := by
  induction members generalizing fuel with
  | nil => exact absurd rfl full
  | cons m members ih =>
      obtain ⟨name, j⟩ := m
      cases fuel with
      | zero => cases enough
      | succ fuel =>
          have first := each (name, j) List.mem_cons_self
          cases members with
          | nil =>
              rw [objectMembers_name (by rw [printMembers]) (first _ (.cons (by decide) rest)),
                afterMember, skipBlanks_cons (by decide)]
              rfl
          | cons k members =>
              have later := ih (List.cons_ne_nil k members) (Nat.le_of_succ_le_succ enough)
                fun m member => each m (List.mem_cons_of_mem _ member)
              have split : printMembers ((name, j) :: k :: members) ++ '\x7d' :: rest =
                  quoted name ++ ':' :: printChars j ++
                    ',' :: (printMembers (k :: members) ++ '\x7d' :: rest) := by
                rw [printMembers_cons (List.cons_ne_nil k members), List.append_assoc]
                rfl
              rw [objectMembers_name split (first _ (.cons (by decide) _)), afterMember,
                skipBlanks_cons (by decide)]
              change (objectMembers stringBody item fuel _ >>= _) = _
              rw [later]
              rfl

end Items

theorem length_printItems {depth : Nat} {items : List Json}
    (each : ∀ j ∈ items, Legible depth j) : items.length ≤ (printItems items).length := by
  induction items with
  | nil => exact Nat.zero_le _
  | cons j items ih =>
      obtain ⟨c, rest, text, -⟩ := printChars_begins (each j List.mem_cons_self)
      have later := ih fun j member => each j (List.mem_cons_of_mem _ member)
      cases items with
      | nil =>
          rw [printItems, text]
          exact Nat.succ_le_succ (Nat.zero_le _)
      | cons k items =>
          rw [printItems_cons (List.cons_ne_nil k items), text]
          simp only [List.length_cons, List.length_append] at later ⊢
          omega

theorem length_printMembers (members : List (String × Json)) :
    members.length ≤ (printMembers members).length := by
  induction members with
  | nil => exact Nat.zero_le _
  | cons m members ih =>
      obtain ⟨name, j⟩ := m
      cases members with
      | nil =>
          rw [printMembers, quoted_append]
          exact Nat.succ_le_succ (Nat.zero_le _)
      | cons k members =>
          rw [printMembers_cons (List.cons_ne_nil k members)]
          simp only [List.length_cons, List.length_append] at ih ⊢
          omega

theorem length_item {j : Json} {items : List Json} (member : j ∈ items) :
    (printChars j).length ≤ (printItems items).length := by
  induction items with
  | nil => cases member
  | cons k items ih =>
      by_cases last : items = []
      · subst last
        rw [List.mem_singleton.mp member, printItems]
      · rw [printItems_cons last, List.length_append, List.length_cons]
        rcases List.mem_cons.mp member with rfl | member
        · omega
        · have inside := ih member
          omega

theorem length_member {m : String × Json} {members : List (String × Json)}
    (member : m ∈ members) : (printChars m.2).length ≤ (printMembers members).length := by
  induction members with
  | nil => cases member
  | cons k members ih =>
      obtain ⟨name, j⟩ := k
      by_cases last : members = []
      · subst last
        cases List.mem_singleton.mp member
        rw [printMembers, List.length_append, List.length_cons]
        dsimp only
        omega
      · rw [printMembers_cons last, List.length_append, List.length_append, List.length_cons,
          List.length_cons]
        rcases List.mem_cons.mp member with same | member
        · cases same
          dsimp only
          omega
        · have inside := ih member
          omega

theorem valueOf_number {width depth : Nat} {cs rest : List Char} {j : Json}
    (read : number cs = some (j, rest)) : valueOf .kept width depth cs = some (j, rest) := by
  obtain ⟨c, after, rfl, begins⟩ := number_begins read
  rw [valueOf, skipBlanks_cons (number_unblank begins)]
  split
  · next split => cases number_apart begins (by decide) (List.cons.inj split).1
  · next split => cases number_apart begins (by decide) (List.cons.inj split).1
  · next split => cases number_apart begins (by decide) (List.cons.inj split).1
  · next split => cases number_apart begins (by decide) (List.cons.inj split).1
  · next split => cases number_apart begins (by decide) (List.cons.inj split).1
  · next split => cases number_apart begins (by decide) (List.cons.inj split).1
  · exact read

/-- A container is not empty if its text goes on otherwise than with its end. -/
def Opens (close : Char) (cs : List Char) : Prop :=
  ∃ c rest, cs = c :: rest ∧ isJsonBlank c = false ∧ c ≠ close

theorem opens_items {depth : Nat} {items : List Json} (full : items ≠ [])
    (each : ∀ j ∈ items, Legible depth j) (rest : List Char) :
    Opens ']' (printItems items ++ rest) := by
  cases items with
  | nil => exact absurd rfl full
  | cons j items =>
      obtain ⟨c, after, begins, unblank, other⟩ := printChars_begins (each j List.mem_cons_self)
      cases items with
      | nil =>
          rw [printItems, begins]
          exact ⟨c, _, rfl, unblank, other⟩
      | cons k items =>
          rw [printItems_cons (List.cons_ne_nil k items), begins]
          exact ⟨c, _, rfl, unblank, other⟩

theorem opens_members {members : List (String × Json)} (full : members ≠ []) (rest : List Char) :
    Opens '\x7d' (printMembers members ++ rest) := by
  cases members with
  | nil => exact absurd rfl full
  | cons m members =>
      obtain ⟨name, j⟩ := m
      cases members with
      | nil =>
          rw [printMembers, List.append_assoc, quoted_append]
          exact ⟨'"', _, rfl, by decide⟩
      | cons k members =>
          rw [printMembers_cons (List.cons_ne_nil k members), List.append_assoc,
            List.append_assoc, quoted_append]
          exact ⟨'"', _, rfl, by decide⟩

/-- An array after its opening bracket. -/
def arrayBody (item : List Char → Option (Json × List Char)) (fuel : Nat) (cs : List Char) :
    Option (Json × List Char) :=
  match skipBlanks cs with
  | ']' :: rest => some (.arr [], rest)
  | _ => do
    let (items, rest) ← arrayItems item fuel cs
    return (.arr items, rest)

/-- An object after its opening brace. -/
def objectBody (item : List Char → Option (Json × List Char)) (fuel : Nat) (cs : List Char) :
    Option (Json × List Char) :=
  match skipBlanks cs with
  | '\x7d' :: rest => some (.obj [], rest)
  | _ => do
    let (members, rest) ← objectMembers stringBody item fuel cs
    return (.obj members, rest)

section Containers

variable {width depth : Nat} {cs : List Char}

theorem valueOf_items (opens : Opens ']' cs) : valueOf .kept width (depth + 1) ('[' :: cs) =
    (arrayItems (valueOf .kept width depth) width cs).map fun r => (.arr r.1, r.2) := by
  obtain ⟨c, after, rfl, unblank, other⟩ := opens
  rw [valueOf, skipBlanks_cons (by decide)]
  change arrayBody (valueOf .kept width depth) width (c :: after) = _
  rw [arrayBody, skipBlanks_cons unblank]
  split
  · next split => exact absurd (List.cons.inj split).1 other
  · cases arrayItems (valueOf .kept width depth) width (c :: after) <;> rfl

theorem valueOf_members (opens : Opens '\x7d' cs) :
    valueOf .kept width (depth + 1) ('\x7b' :: cs) =
      (objectMembers stringBody (valueOf .kept width depth) width cs).map fun r =>
        (.obj r.1, r.2) := by
  obtain ⟨c, after, rfl, unblank, other⟩ := opens
  rw [valueOf, skipBlanks_cons (by decide)]
  change objectBody (valueOf .kept width depth) width (c :: after) = _
  rw [objectBody, skipBlanks_cons unblank]
  split
  · next split => exact absurd (List.cons.inj split).1 other
  · cases objectMembers stringBody (valueOf .kept width depth) width (c :: after) <;> rfl

end Containers

theorem printChars_arr (items : List Json) (rest : List Char) :
    printChars (.arr items) ++ rest = '[' :: (printItems items ++ ']' :: rest) := by
  rw [printChars, List.cons_append, List.cons_append, List.append_assoc]
  rfl

theorem printChars_obj (members : List (String × Json)) (rest : List Char) :
    printChars (.obj members) ++ rest = '\x7b' :: (printMembers members ++ '\x7d' :: rest) := by
  rw [printChars, List.cons_append, List.cons_append, List.append_assoc]
  rfl

theorem valueOf_array {width depth : Nat} {items : List Json}
    (each : ∀ j ∈ items, Legible depth j) (wide : (printItems items).length ≤ width)
    (inside : ∀ j ∈ items, (printChars j).length ≤ width → ∀ rest, Ends rest →
      valueOf .kept width depth (printChars j ++ rest) = some (j, rest)) (rest : List Char) :
    valueOf .kept width (depth + 1) (printChars (.arr items) ++ rest) =
      some (.arr items, rest) := by
  rw [printChars_arr]
  have long := length_printItems each
  have read : ∀ j ∈ items, ∀ rest, Ends rest →
      valueOf .kept width depth (printChars j ++ rest) = some (j, rest) :=
    fun j member => inside j member (Nat.le_trans (length_item member) wide)
  by_cases empty : items = []
  · subst empty
    rfl
  · rw [valueOf_items (opens_items empty each _), arrayItems_print empty (by omega) read rest]
    rfl

theorem valueOf_object {width depth : Nat} {members : List (String × Json)}
    (wide : (printMembers members).length ≤ width)
    (inside : ∀ m ∈ members, (printChars m.2).length ≤ width → ∀ rest, Ends rest →
      valueOf .kept width depth (printChars m.2 ++ rest) = some (m.2, rest)) (rest : List Char) :
    valueOf .kept width (depth + 1) (printChars (.obj members) ++ rest) =
      some (.obj members, rest) := by
  rw [printChars_obj]
  have long := length_printMembers members
  have read : ∀ m ∈ members, ∀ rest, Ends rest →
      valueOf .kept width depth (printChars m.2 ++ rest) = some (m.2, rest) :=
    fun m member => inside m member (Nat.le_trans (length_member member) wide)
  by_cases empty : members = []
  · subst empty
    rfl
  · rw [valueOf_members (opens_members empty _), objectMembers_print empty (by omega) read rest]
    rfl

/-- A value is read as it is written, up to what follows it. -/
theorem valueOf_print {depth : Nat} {j : Json} (legible : Legible depth j) {width : Nat}
    (wide : (printChars j).length ≤ width) {rest : List Char} (ends : Ends rest) :
    valueOf .kept width depth (printChars j ++ rest) = some (j, rest) := by
  have ofNumber : ∀ {depth : Nat} {cs rest : List Char} {j : Json}, Ends rest →
      number cs = some (j, []) → valueOf .kept width depth (cs ++ rest) = some (j, rest) :=
    fun ends read => valueOf_number (by rw [number_append ends, read]; rfl)
  induction legible generalizing rest with
  | null =>
      change valueOf .kept width _ ('n' :: 'u' :: 'l' :: 'l' :: rest) = _
      rw [valueOf, skipBlanks_cons (by decide)]
      rfl
  | bool b =>
      cases b with
      | false =>
          change valueOf .kept width _ ('f' :: 'a' :: 'l' :: 's' :: 'e' :: rest) = _
          rw [valueOf, skipBlanks_cons (by decide)]
          rfl
      | true =>
          change valueOf .kept width _ ('t' :: 'r' :: 'u' :: 'e' :: rest) = _
          rw [valueOf, skipBlanks_cons (by decide)]
          rfl
  | int exact => exact ofNumber ends (number_int exact)
  | float finite read =>
      rw [printChars, if_pos finite]
      exact ofNumber ends read
  | str s =>
      rw [printChars, quoted_append, valueOf, skipBlanks_cons (by decide)]
      change (stringBody _ >>= _) = _
      rw [stringBody_quoted]
      rfl
  | arr each ih =>
      rw [printChars, List.length_append, List.length_cons] at wide
      exact valueOf_array each (by omega) (fun j member wide _ => ih j member wide) rest
  | obj each ih =>
      rw [printChars, List.length_append, List.length_cons] at wide
      exact valueOf_object (by omega) (fun m member wide _ => ih m member wide) rest

theorem value_print {depth : Nat} {j : Json} (legible : Legible depth j) {rest : List Char}
    (ends : Ends rest) : value depth (printChars j ++ rest) = some (j, rest) := by
  refine valueOf_print legible ?_ ends
  rw [List.length_append]
  exact Nat.le_add_right _ _

end ChatGateway.Json

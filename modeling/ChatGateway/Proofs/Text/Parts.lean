import Mathlib.Data.List.DropRight
import ChatGateway.Text.Affix
import ChatGateway.Text.Blank
import ChatGateway.Text.Split

namespace ChatGateway.Text

section Trim

variable {cs : List Char}

theorem trimChars_parts (cs : List Char) : ∃ front back, cs = front ++ trimChars cs ++ back ∧
    (∀ c ∈ front, isBlank c = true) ∧ ∀ c ∈ back, isBlank c = true := by
  refine ⟨cs.takeWhile isBlank, (trimStart cs).rtakeWhile isBlank, ?_,
    fun c member => List.mem_takeWhile_imp member, fun c member => List.mem_rtakeWhile_imp member⟩
  have behind : trimChars cs ++ (trimStart cs).rtakeWhile isBlank = trimStart cs :=
    List.rdropWhile_append_rtakeWhile
  rw [List.append_assoc, behind]
  exact List.takeWhile_append_dropWhile.symm

theorem mem_of_mem_trimChars {c : Char} (member : c ∈ trimChars cs) : c ∈ cs := by
  obtain ⟨front, back, parts, _⟩ := trimChars_parts cs
  rw [parts]
  exact List.mem_append_left back (List.mem_append_right front member)

theorem mem_trimChars {c : Char} (visible : isBlank c = false) (member : c ∈ cs) :
    c ∈ trimChars cs := by
  obtain ⟨front, back, parts, blank, blank'⟩ := trimChars_parts cs
  rw [parts, List.mem_append, List.mem_append] at member
  rcases member with (inside | inside) | inside
  · rw [blank c inside] at visible
    cases visible
  · exact inside
  · rw [blank' c inside] at visible
    cases visible

/-- A text that neither begins nor ends with white space. -/
structure Trimmed (cs : List Char) : Prop where
  first : ∀ c ∈ cs.head?, isBlank c = false
  last : ∀ c ∈ cs.getLast?, isBlank c = false

theorem trimStart_of_first (first : ∀ c ∈ cs.head?, isBlank c = false) : trimStart cs = cs := by
  cases cs with
  | nil => rfl
  | cons c rest => exact List.dropWhile_cons_of_neg (by rw [first c rfl]; decide)

theorem trimEnd_of_last (last : ∀ c ∈ cs.getLast?, isBlank c = false) : trimEnd cs = cs := by
  rw [List.getLast?_eq_head?_reverse] at last
  have kept : cs.reverse.dropWhile isBlank = cs.reverse := trimStart_of_first last
  rw [trimEnd, kept, List.reverse_reverse]

theorem Trimmed.of_unblank (unblank : ∀ c ∈ cs, isBlank c = false) : Trimmed cs :=
  ⟨fun c first => unblank c (List.mem_of_head? first),
    fun c last => unblank c (List.mem_of_getLast? last)⟩

theorem Trimmed.surrounded (trimmed : Trimmed cs) {front back : List Char}
    (before : ∀ c ∈ front, isBlank c = true) (behind : ∀ c ∈ back, isBlank c = true) :
    trimChars (front ++ cs ++ back) = cs := by
  have turned : ∀ c ∈ back.reverse, isBlank c = true := fun c member =>
    behind c (List.mem_reverse.mp member)
  have cut : trimEnd (cs ++ back) = cs := by
    rw [trimEnd, List.reverse_append, List.dropWhile_append_of_pos turned]
    exact trimEnd_of_last trimmed.last
  cases full : cs with
  | nil =>
      have gone : trimStart (front ++ [] ++ back) = [] := by
        rw [List.append_nil]
        exact List.dropWhile_eq_nil_iff.mpr fun c member =>
          (List.mem_append.mp member).elim (before c) (behind c)
      rw [trimChars, gone]
      rfl
  | cons c rest =>
      subst full
      have front : trimStart (front ++ (c :: rest) ++ back) = c :: rest ++ back := by
        rw [List.append_assoc, trimStart, List.dropWhile_append_of_pos before]
        exact trimStart_of_first fun d first => trimmed.first d first
      rw [trimChars, front, cut]

theorem Trimmed.trimChars (trimmed : Trimmed cs) : trimChars cs = cs := by
  have nothing : Text.trimChars ([] ++ cs ++ []) = cs := trimmed.surrounded nofun nofun
  rwa [List.nil_append, List.append_nil] at nothing

theorem trimmed_trimChars (cs : List Char) : Trimmed (Text.trimChars cs) := by
  have stops : ∀ (cs : List Char), ∀ c ∈ (cs.dropWhile isBlank).head?, isBlank c = false := by
    intro cs c first
    have stop := List.head?_dropWhile_not isBlank cs
    rwa [Option.mem_def.mp first] at stop
  refine ⟨fun c first => ?_, fun c last => ?_⟩
  · obtain ⟨rest, whole⟩ : Text.trimChars cs <+: trimStart cs :=
      List.rdropWhile_prefix isBlank (trimStart cs)
    refine stops cs c ?_
    change c ∈ (trimStart cs).head?
    rw [← whole, List.head?_append, Option.mem_def.mp first]
    rfl
  · rw [Text.trimChars, trimEnd, List.getLast?_reverse] at last
    exact stops _ c last

theorem trim_toList (s : String) : (trim s).toList = Text.trimChars s.toList :=
  String.toList_ofList

theorem trim_of_unblank {s : String} (unblank : ∀ c ∈ s.toList, isBlank c = false) :
    trim s = s := by
  rw [trim, (Trimmed.of_unblank unblank).trimChars, String.ofList_toList]

theorem trim_trim (s : String) : trim (trim s) = trim s := by
  rw [trim, trim_toList, (trimmed_trimChars s.toList).trimChars, trim]

theorem isBlankText_iff {s : String} : isBlankText s = true ↔ trim s = "" := by
  rw [← String.toList_inj, trim_toList, isBlankText, List.all_eq_true]
  constructor
  · intro blank
    have empty : Trimmed [] := .of_unblank nofun
    have gone : Text.trimChars (s.toList ++ [] ++ []) = [] := empty.surrounded blank nofun
    rwa [List.append_nil, List.append_nil] at gone
  · intro gone c member
    by_contra visible
    have kept := mem_trimChars (Bool.eq_false_iff.mpr visible) member
    rw [gone] at kept
    cases kept

end Trim

section Split

variable {separator : Char} {part : List Char}

theorem splitOn_eq (separator : Char) (cs : List Char) :
    splitOn separator cs = cs.splitOn separator := by
  induction cs with
  | nil => rfl
  | cons c rest ih =>
      rw [List.splitOn_eq_splitOnP, List.splitOnP_cons_eq_if_modifyHead,
        ← List.splitOn_eq_splitOnP, ← ih, splitOn]
      by_cases here : c = separator
      · rw [if_pos here, if_pos (beq_iff_eq.mpr here)]
      · rw [if_neg here, if_neg (by simpa using here)]
        cases parts : splitOn separator rest with
        | nil => exact absurd (ih.symm.trans parts) (List.splitOn_ne_nil separator rest)
        | cons part parts => rfl

theorem splitOn_last (clean : separator ∉ part) : splitOn separator part = [part] := by
  rw [splitOn_eq, List.splitOn_eq_singleton clean]

theorem splitOn_first (clean : separator ∉ part) (rest : List Char) :
    splitOn separator (part ++ separator :: rest) = part :: splitOn separator rest := by
  induction part with
  | nil => rw [List.nil_append, splitOn, if_pos rfl]
  | cons c part ih =>
      rw [List.mem_cons, not_or] at clean
      rw [List.cons_append, splitOn, if_neg (Ne.symm clean.1), ih clean.2]

end Split

theorem endsWith_iff {s ending : String} :
    endsWith s ending = true ↔ ending.toList <:+ s.toList := List.isSuffixOf_iff_suffix

theorem endsWith_append (s t : String) : endsWith (s ++ t) t = true := by
  rw [endsWith_iff, String.toList_append]
  exact List.suffix_append s.toList t.toList

/-- Of two endings of a text one is an ending of the other. -/
theorem endsWith_apart {s t u : String} (ends : endsWith s t = true)
    (apart : endsWith t u = false ∧ endsWith u t = false) : endsWith s u = false := by
  rw [Bool.eq_false_iff]
  intro both
  have nested := List.suffix_or_suffix_of_suffix (endsWith_iff.mp ends) (endsWith_iff.mp both)
  rcases nested with inner | inner
  · exact Bool.eq_false_iff.mp apart.2 (endsWith_iff.mpr inner)
  · exact Bool.eq_false_iff.mp apart.1 (endsWith_iff.mpr inner)

end ChatGateway.Text

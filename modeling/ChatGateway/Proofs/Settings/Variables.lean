import ChatGateway.Proofs.Switch
import ChatGateway.Settings.Sources
import Mathlib.Data.List.TakeDrop

namespace ChatGateway

open Text

namespace Number

theorem not_all_digits {c : Char} {cs : List Char} (other : isDigit c = false) (member : c ∈ cs) :
    cs.all isDigit = false := by
  rw [Bool.eq_false_iff]
  intro digits
  rw [List.all_eq_true.mp digits c member] at other
  cases other

/-- A character that is no sign stands behind the sign. -/
theorem mem_splitSign {c : Char} {cs : List Char} (unsigned : c ≠ '-' ∧ c ≠ '+') (member : c ∈ cs) :
    c ∈ (splitSign cs).2 := by
  unfold splitSign
  split
  · exact (List.mem_cons.mp member).resolve_left unsigned.1
  · exact (List.mem_cons.mp member).resolve_left unsigned.2
  · exact member

theorem signed64?_mixed {c : Char} {s : String} (other : isDigit c = false)
    (unsigned : c ≠ '-' ∧ c ≠ '+') (member : c ∈ s.toList) : signed64? s = none := by
  have mixed := not_all_digits other (mem_splitSign unsigned member)
  simp [signed64?, mixed]

end Number

namespace Settings

section Blank

variable {c : Char} {cs : List Char} (blank : isBlank c = true)
include blank

theorem blank_undigit : isDigit c = false := by
  rw [Bool.eq_false_iff]
  intro digit
  rw [isDigit_unblank digit] at blank
  cases blank

theorem blank_unsigned : c ≠ '-' ∧ c ≠ '+' := by
  constructor <;> rintro rfl <;> cases blank

/-- A text with white space in it is no word that has none, in whatever case. -/
theorem lowered_ne (member : c ∈ cs) {w : String} (visible : w.toList.all (!isBlank ·) = true) :
    String.ofList (cs.map lowerAscii) ≠ w := by
  rintro rfl
  rw [String.toList_ofList, List.all_eq_true] at visible
  have shown := visible (lowerAscii c) (List.mem_map_of_mem member)
  rw [lowerAscii_blank blank, blank] at shown
  cases shown

theorem mem_dropWhile_digits (member : c ∈ cs) : c ∈ cs.dropWhile isDigit := by
  rw [← @List.takeWhile_append_dropWhile _ isDigit cs] at member
  refine (List.mem_append.mp member).resolve_left fun digit => ?_
  have digit := List.mem_takeWhile_imp digit
  rw [blank_undigit blank] at digit
  cases digit

theorem exponentText?_blank (member : c ∈ cs) : exponentText? cs = none := by
  cases cs with
  | nil => cases member
  | cons first rest =>
      rw [exponentText?]
      split
      · next mark =>
        have later : c ∈ rest := (List.mem_cons.mp member).resolve_left fun same => by
          rw [same] at blank
          rcases mark with rfl | rfl <;> cases blank
        have mixed := Number.not_all_digits (blank_undigit blank)
          (Number.mem_splitSign (blank_unsigned blank) later)
        simp [mixed]
      · rfl

theorem decimalText?_blank (negative : Bool) (member : c ∈ cs) :
    decimalText? negative cs = none := by
  have left := mem_dropWhile_digits blank member
  simp only [decimalText?, List.span_eq_takeWhile_dropWhile]
  split
  · next r same =>
    rw [same] at left
    have later : c ∈ r := (List.mem_cons.mp left).resolve_left fun point => by
      rw [point] at blank
      cases blank
    have none := exponentText?_blank blank (mem_dropWhile_digits blank later)
    simp [none]
  · have none := exponentText?_blank blank left
    simp [none]

theorem floatText?_blank {s : String} (member : c ∈ s.toList) : floatText? s = none := by
  have inside := Number.mem_splitSign (blank_unsigned blank) member
  unfold floatText?
  dsimp only
  split
  · next same => exact absurd same (lowered_ne blank inside (by decide))
  · next same => exact absurd same (lowered_ne blank inside (by decide))
  · next same => exact absurd same (lowered_ne blank inside (by decide))
  · exact decimalText?_blank blank _ inside

end Blank

theorem variableValue_text {s : String} (other : lower s ≠ "true" ∧ lower s ≠ "false")
    (integer : Number.signed64? s = none) (double : floatText? s = none) :
    variableValue s = .str s := by
  unfold variableValue
  split
  · next same => exact absurd same other.1
  · next same => exact absurd same other.2
  · rw [integer, double]

theorem variableValue_blank {s : String} (plain : ∀ c ∈ s.toList, IsPlain c)
    (blank : ∃ c ∈ s.toList, isBlank c = true) : variableValue s = .str s := by
  obtain ⟨c, member, blank⟩ := blank
  refine variableValue_text ?_
    (Number.signed64?_mixed (blank_undigit blank) (blank_unsigned blank) member)
    (floatText?_blank blank member)
  rw [lower_plain plain]
  exact ⟨lowered_ne blank member (by decide), lowered_ne blank member (by decide)⟩

section Word

variable {s : String} (word : IsWord (lowerAsciiText s))
include word

theorem letter_of_word {c : Char} (member : c ∈ s.toList) : (lowerAscii c).isLower = true := by
  rw [IsWord, lowerAsciiText, String.toList_ofList] at word
  exact List.all_eq_true.mp word _ (List.mem_map_of_mem member)

theorem not_of_word {c d : Char} (member : c ∈ s.toList) (other : (lowerAscii d).isLower = false) :
    c ≠ d := by
  rintro rfl
  rw [letter_of_word word member] at other
  cases other

theorem word_undigit {c : Char} (member : c ∈ s.toList) : isDigit c = false := by
  rw [Bool.eq_false_iff]
  intro digit
  have code := isDigit_iff.mp digit
  have letter := letter_of_word word member
  rw [lowerAscii, if_neg (not_capital (by omega)), isLower_iff] at letter
  omega

theorem splitSign_word : Number.splitSign s.toList = (false, s.toList) := by
  unfold Number.splitSign
  split
  · next same => exact absurd rfl (not_of_word word (same ▸ List.mem_cons_self) (by decide))
  · next same => exact absurd rfl (not_of_word word (same ▸ List.mem_cons_self) (by decide))
  · rfl

theorem signed64?_word : Number.signed64? s = none := by
  cases cs : s.toList with
  | nil => simp [Number.signed64?, cs, Number.splitSign]
  | cons c rest =>
      have member : c ∈ s.toList := cs ▸ List.mem_cons_self
      exact Number.signed64?_mixed (word_undigit word member)
        ⟨not_of_word word member (by decide), not_of_word word member (by decide)⟩ member

theorem decimalText?_word (negative : Bool) : decimalText? negative s.toList = none := by
  have first : ∀ c ∈ s.toList.head?, isDigit c = false := fun c first =>
    word_undigit word (List.mem_of_mem_head? first)
  have whole : s.toList.takeWhile isDigit = [] := @takeWhile_digits [] _ nofun first
  have rest : s.toList.dropWhile isDigit = s.toList := @dropWhile_digits [] _ nofun first
  simp only [decimalText?, List.span_eq_takeWhile_dropWhile, whole, rest]
  split
  · next same => exact absurd rfl (not_of_word word (same ▸ List.mem_cons_self) (by decide))
  · rfl

theorem variableValue_word (other : lowerAsciiText s ∉ Switch.reserved) :
    variableValue s = .str s := by
  have plain : ∀ c ∈ s.toList, IsPlain c := fun c member => by
    have letter := isLower_iff.mp (letter_of_word word member)
    exact .inl (lowerAscii_ascii (by omega))
  have names : ∀ w ∈ Switch.reserved, lowerAsciiText s ≠ w :=
    fun w listed same => other (same ▸ listed)
  refine variableValue_text ?_ (signed64?_word word) ?_
  · rw [lower_plain plain]
    exact ⟨names _ (by decide), names _ (by decide)⟩
  · rw [floatText?, splitSign_word word]
    dsimp only
    split
    · next same => exact absurd same (names _ (by decide))
    · next same => exact absurd same (names _ (by decide))
    · next same => exact absurd same (names _ (by decide))
    · exact decimalText?_word word false

end Word

theorem variableValue_numeral : ∀ n ∈ [0, 1, -1, 2, -2], variableValue (toString n) = .int n := by
  have read : ∀ n ∈ [0, 1, -1, 2, -2], Number.signed64? (toString n) = some n ∧
      lower (toString n) ≠ "true" ∧ lower (toString n) ≠ "false" := by
    decide +kernel
  intro n listed
  obtain ⟨integer, yes, no⟩ := read n listed
  unfold variableValue
  split
  · next same => exact absurd same yes
  · next same => exact absurd same no
  · rw [integer]

/-- A variable stands for the switch that its text is read as. -/
theorem decode_variableValue {s : String} {v : Switch} (read : Switch.parse s = .ok v) :
    Switch.decode (variableValue s) = .ok v := by
  have plain := Switch.parse_plain read
  -- only a text without white space can be taken for a boolean or a number, and it is then the
  -- whole word that is read
  by_cases blank : ∃ c ∈ s.toList, isBlank c = true
  · rw [variableValue_blank plain blank, Switch.decode_str, read]
  · have bare : trim s = s := trim_of_unblank fun c member =>
      Bool.eq_false_iff.mpr fun white => blank ⟨c, member, white⟩
    have word := Switch.parse_ok.mp read
    rw [bare] at word
    rcases Switch.ofWord?_kinds word with
      ⟨b, same, rfl⟩ | ⟨n, listed, same, value⟩ | ⟨letters, unnamed⟩
    · have boolean : variableValue s = .bool b := by
        unfold variableValue
        rw [lower_plain plain, same]
        cases b <;> rfl
      rw [boolean]
      rfl
    · have numeral : ∀ n ∈ [0, 1, -1, 2, -2],
          (toString (n : Int)).toList.all (!·.isLower) = true := by
        decide +kernel
      have whole : s = toString n := lowerAsciiText_inj same (numeral n listed)
      rw [whole, variableValue_numeral n listed]
      exact Switch.decode_int.mpr value
    · rw [variableValue_word letters unnamed, Switch.decode_str, read]

end Settings

end ChatGateway

import ChatGateway.Proofs.Json.Texts
import ChatGateway.Proofs.Text.Case
import ChatGateway.Proofs.Text.Parts
import ChatGateway.Switch

namespace ChatGateway

open Text

namespace Json

theorem toString_inj {m n : Int} (exact : isExact m = true ∧ isExact n = true)
    (same : toString m = toString n) : m = n := by
  have read := number_int exact.1
  rw [same, number_int exact.2] at read
  injection read with read
  injection read with read
  injection read with read
  exact read.symm

theorem toString_ne_word {n : Int} (exact : isExact n = true) {w : String} (word : IsWord w) :
    toString n ≠ w := by
  rintro rfl
  obtain ⟨c, rest, first, begins⟩ := number_begins (number_int exact)
  have letter := isLower_iff.mp (List.all_eq_true.mp word c (first ▸ List.mem_cons_self))
  rcases begins with rfl | digit
  · revert letter
    decide
  · have code := isDigit_iff.mp digit
    omega

end Json

namespace Switch

variable {s w : String} {v : Switch} {n : Int}

/-- The words that are read as switches. -/
def words : List (String × Switch) :=
  [("", unset), ("0", unset), ("unset", unset), ("1", on), ("t", on), ("true", on), ("yes", on),
    ("-1", off), ("f", off), ("false", off), ("no", off), ("2", forcedOn), ("forcedtrue", forcedOn),
    ("-2", forcedOff), ("forcedfalse", forcedOff)]

theorem mem_words (read : ofWord? w = some v) : (w, v) ∈ words := by
  unfold ofWord? at read
  split at read <;> cases read <;> decide

/-- What words for numbers and booleans are taken for elsewhere. -/
def reserved : List String := ["true", "false", "inf", "infinity", "nan"]

/-- A word for a switch is a boolean, an integer, or made of letters and taken for nothing else. -/
theorem ofWord?_kinds (read : ofWord? w = some v) : (∃ b, w = toString b ∧ v = ofBool b) ∨
    (∃ n ∈ [0, 1, -1, 2, -2], w = toString n ∧ ofInt? n = some v) ∨ IsWord w ∧ w ∉ reserved := by
  have kinds : ∀ e ∈ words, (∃ b, e.1 = toString b ∧ e.2 = ofBool b) ∨
      (∃ n ∈ [0, 1, -1, 2, -2], e.1 = toString n ∧ ofInt? n = some e.2) ∨
      IsWord e.1 ∧ e.1 ∉ reserved := by
    decide +kernel
  exact kinds (w, v) (mem_words read)

theorem words_ascii : ∀ e ∈ words, e.1.toList.all (·.toNat < 0x80) = true := by decide

theorem parse_ok : parse s = .ok v ↔ ofWord? (lowerAsciiText (trim s)) = some v := by
  unfold parse
  dsimp only
  split
  · next v' read => rw [read, Except.ok.injEq, Option.some.injEq]
  · next none => simp [none]

theorem decode_str : decode (.str s) = .ok v ↔ parse s = .ok v := by
  change decodeText s = .ok v ↔ _
  unfold decodeText
  split
  · next v' read => rw [read, Except.ok.injEq, Except.ok.injEq]
  · next f refused => simp [refused]

theorem decode_int : decode (.int n) = .ok v ↔ ofInt? n = some v := by
  change decodeInt n = .ok v ↔ _
  have large : ¬n < Int.pow 2 63 → ofInt? n = none := fun large => by
    have bound : (2 : Int) < Int.pow 2 63 := by decide
    unfold ofInt?
    split_ifs <;> first | omega | rfl
  unfold decodeInt
  split
  · cases ofInt? n <;> simp
  · next above => simp [large above]

theorem ofInt?_mem (read : ofInt? n = some v) : n ∈ [0, 1, -1, 2, -2] := by
  unfold ofInt? at read
  split_ifs at read <;> simp [*]

theorem ofWord?_toString (exact : Json.isExact n = true) :
    ofWord? (toString n) = some v ↔ ofInt? n = some v := by
  have small : ∀ n ∈ [0, 1, -1, 2, -2],
      Json.isExact n = true ∧ ofWord? (toString n) = ofInt? n := by
    decide +kernel
  constructor
  · intro read
    rcases ofWord?_kinds read with ⟨b, same, -⟩ | ⟨m, listed, same, value⟩ | ⟨word, -⟩
    · have word : IsWord (toString b) := by cases b <;> decide
      exact absurd same (Json.toString_ne_word exact word)
    · rw [Json.toString_inj ⟨exact, (small m listed).1⟩ same]
      exact value
    · exact absurd rfl (Json.toString_ne_word exact word)
  · intro read
    rw [(small n (ofInt?_mem read)).2]
    exact read

theorem parse_toString (exact : Json.isExact n = true) :
    parse (toString n) = .ok v ↔ ofInt? n = some v := by
  have chars := toString_int_chars n
  have unblank : ∀ c ∈ (toString n).toList, isBlank c = false := fun c member => by
    rcases chars c member with rfl | digit
    · decide
    · exact isDigit_unblank digit
  have same : (toString n).toList.map lowerAscii = (toString n).toList.map id :=
    List.map_congr_left fun c member => by
      rcases chars c member with rfl | digit
      · decide
      · have code := isDigit_iff.mp digit
        rw [lowerAscii, if_neg (not_capital (by omega))]
        rfl
  rw [parse_ok, trim_of_unblank unblank, lowerAsciiText, same, List.map_id, String.ofList_toList,
    ofWord?_toString exact]

/-- What is read as a switch is plain, up to the white space around it. -/
theorem parse_plain (read : parse s = .ok v) : ∀ c ∈ s.toList, IsPlain c := by
  obtain ⟨front, back, parts, before, behind⟩ := trimChars_parts s.toList
  have listed := mem_words (parse_ok.mp read)
  intro c member
  rw [parts, List.mem_append, List.mem_append] at member
  rcases member with (blank | inside) | blank
  · exact .inr (before c blank)
  · have mapped : lowerAscii c ∈ (lowerAsciiText (trim s)).toList := by
      rw [lowerAsciiText, String.toList_ofList, trim_toList]
      exact List.mem_map_of_mem inside
    have ascii := List.all_eq_true.mp (words_ascii _ listed) _ mapped
    exact .inl (lowerAscii_ascii (of_decide_eq_true ascii))
  · exact .inr (behind c blank)

/-- A JSON text that stands for a switch. -/
def Spells (text : String) (v : Switch) : Prop :=
  ∃ j, Json.parse? text = some j ∧ decode j = .ok v

theorem spells_print {j : Json} (legible : Json.Legible Json.maxDepth j) :
    Spells j.print v ↔ decode j = .ok v := by
  rw [Spells, Json.parse?_print legible]
  simp

theorem spells_str : Spells (Json.print (.str s)) v ↔ parse s = .ok v := by
  rw [spells_print (.str s), decode_str]

theorem spells_int (exact : Json.isExact n = true) :
    Spells (toString n) v ↔ parse (toString n) = .ok v := by
  have printed : toString n = Json.print (.int n) := (String.ofList_toList).symm
  rw [parse_toString exact, ← decode_int, ← spells_print (.int exact), printed]

end Switch

end ChatGateway

import ChatGateway.Text.Affix
import ChatGateway.Text.Ascii
import ChatGateway.Text.Blank
import ChatGateway.Text.Case
import Mathlib.Data.List.Basic
import Mathlib.Logic.Relation

/-!
Upper case does not see the case of ASCII letters, leaves what is upper case as it is, and takes
the parts of a text one by one. In texts of ASCII characters and white space, lower case is that of
ASCII.
-/

namespace ChatGateway.Text

theorem toNat_ofNat {n : Nat} (valid : n.isValidChar) : (Char.ofNat n).toNat = n := by
  rw [Char.ofNat, dif_pos valid]
  rfl

theorem upperCodes_lowerAscii (c : Char) :
    upperCodes (lowerAscii c).toNat = upperCodes c.toNat := by
  rw [lowerAscii]
  split
  · next capital =>
    have low : 0x41 ≤ c.toNat := capital.1
    have high : c.toNat ≤ 0x5A := capital.2
    have valid : (c.toNat + 32).isValidChar := Or.inl (by omega)
    rw [toNat_ofNat valid, upperCodes, upperCodes, if_pos (by omega), if_pos (by omega),
      if_pos (by omega), if_neg (by omega), Nat.add_sub_cancel]
  · rfl

theorem upper_lowerAsciiText (s : String) : upper (lowerAsciiText s) = upper s := by
  have chars : ∀ cs : List Char, upperChars (cs.map lowerAscii) = upperChars cs := by
    intro cs
    simp only [upperChars, List.flatMap_map, upperCodes_lowerAscii]
  rw [upper, lowerAsciiText, String.toList_ofList, chars, upper]

/-- Texts that differ in the case of ASCII letters only have one upper case. -/
theorem upper_eq_of_lowerAsciiText {s t : String} (same : lowerAsciiText s = lowerAsciiText t) :
    upper s = upper t := by
  rw [← upper_lowerAsciiText, same, upper_lowerAsciiText]

/-! The images of the table of upper case. None of them is in the table itself, which is checked run
by run: an image and a run lie apart, or each takes every second code point and they never meet. -/

namespace Case

namespace Run

/-- The images of the code points of a run. -/
def image (r : Run) : Run := ⟨r.apply r.first, r.apply r.last, r.step, 0⟩

def apart (a b : Run) : Bool :=
  Nat.blt a.last b.first || Nat.blt b.last a.first ||
    b.step == 2 && (a.step == 2 || a.first == a.last) && a.first % 2 != b.first % 2

/-- Whether the images of a run are characters. -/
def fits (r : Run) : Bool :=
  0 ≤ r.first + r.shift &&
    (r.image.last < 0xD800 || 0xDFFF < r.image.first && r.image.last < 0x110000)

variable {a b r : Run} {n : Nat}

theorem contains_iff :
    r.contains n = true ↔ (r.first ≤ n ∧ n ≤ r.last) ∧ (n - r.first) % r.step = 0 := by
  simp [contains]

theorem apart_excludes (apart : a.apart b = true) (inside : a.contains n = true) :
    b.contains n = false := by
  rw [Bool.eq_false_iff]
  intro both
  rw [contains_iff] at inside both
  simp only [Run.apart, Bool.or_eq_true, Nat.blt_eq, Bool.and_eq_true, beq_iff_eq, bne_iff_ne]
    at apart
  rcases apart with (below | above) | ⟨⟨second, alone | single⟩, parity⟩
  · omega
  · omega
  · rw [alone] at inside
    rw [second] at both
    omega
  · rw [second] at both
    omega

theorem image_contains (fits : r.fits = true) (inside : r.contains n = true) :
    r.image.contains (r.apply n) = true := by
  rw [contains_iff] at inside ⊢
  have front : 0 ≤ r.first + r.shift := by
    simpa using (Bool.and_eq_true_iff.mp fits).1
  have offset : r.apply n - r.apply r.first = n - r.first := by
    simp only [apply]
    omega
  refine ⟨?_, ?_⟩
  · simp only [image, apply]
    omega
  · change (r.apply n - r.apply r.first) % r.step = 0
    rw [offset]
    exact inside.2

theorem image_valid (fits : r.fits = true) (inside : r.contains n = true) :
    (r.apply n).isValidChar := by
  have bounds := (contains_iff.mp (image_contains fits inside)).1
  simp only [Run.fits, Bool.and_eq_true, Bool.or_eq_true, decide_eq_true_eq] at fits
  rcases fits.2 with low | high
  · exact Or.inl (by omega)
  · exact Or.inr (by omega)

end Run

theorem upperRuns_fit : upperRuns.all Run.fits = true := by decide +kernel

theorem upperRuns_apart : upperRuns.all (fun r => upperRuns.all r.image.apart) = true := by
  decide +kernel

theorem upperExpansions_apart :
    upperRuns.all (fun r => upperExpansions.all fun e => r.image.apart ⟨e.1, e.1, 1, 0⟩) =
      true := by
  decide +kernel

end Case

open Case

/-- A character that upper case leaves as it is, by its code point. -/
def IsUpper (n : Nat) : Prop := n.isValidChar ∧ upperCodes n = [n]

instance (n : Nat) : Decidable (IsUpper n) := inferInstanceAs (Decidable (_ ∧ _))

theorem upperExpansions_upper : ∀ e ∈ upperExpansions, ∀ n ∈ e.2, IsUpper n := by
  decide +kernel

theorem upperCodes_untouched {n : Nat} (runs : ∀ r ∈ upperRuns, r.contains n = false)
    (expansions : ∀ e ∈ upperExpansions, (e.1 == n) = false) : upperCodes n = [n] := by
  have small : ¬(0x61 ≤ n ∧ n ≤ 0x7A) := by
    have first := runs ⟨0x61, 0x7A, 1, -32⟩ (.head _)
    rw [Bool.eq_false_iff, ne_eq, Run.contains_iff] at first
    exact fun inside => first ⟨inside, Nat.mod_one _⟩
  have noRun : upperRuns.find? (·.contains n) = none :=
    List.find?_eq_none.mpr fun r member => by rw [runs r member]; exact Bool.false_ne_true
  have noExpansion : upperExpansions.find? (·.1 == n) = none :=
    List.find?_eq_none.mpr fun e member => by rw [expansions e member]; exact Bool.false_ne_true
  rw [upperCodes, if_neg small, noExpansion, mapRuns, noRun]
  exact ite_self _

/-- The image of a run is in no run, and expands to nothing. -/
theorem apply_isUpper {r : Run} (listed : r ∈ upperRuns) {n : Nat} (inside : r.contains n = true) :
    IsUpper (r.apply n) := by
  have fits := List.all_eq_true.mp upperRuns_fit r listed
  have image := Run.image_contains fits inside
  refine ⟨Run.image_valid fits inside,
    upperCodes_untouched (fun r' listed' => ?_) fun e known => ?_⟩
  · have apart := List.all_eq_true.mp (List.all_eq_true.mp upperRuns_apart r listed) r' listed'
    exact Run.apart_excludes apart image
  · have apart := List.all_eq_true.mp (List.all_eq_true.mp upperExpansions_apart r listed) e known
    have other := Run.apart_excludes apart image
    rw [Bool.eq_false_iff, ne_eq, Run.contains_iff] at other
    rw [beq_eq_false_iff_ne]
    exact fun same => other ⟨⟨Nat.le_of_eq same, Nat.le_of_eq same.symm⟩, Nat.mod_one _⟩

theorem upperCodes_isUpper (c : Char) : ∀ n ∈ upperCodes c.toNat, IsUpper n := by
  intro n image
  by_cases ascii : c.toNat < 0x80
  · have small : upperCodes c.toNat = [if 0x61 ≤ c.toNat ∧ c.toNat ≤ 0x7A then c.toNat - 32
        else c.toNat] := if_pos ascii
    rw [small, List.mem_singleton] at image
    have bounds : n < 0x80 ∧ ¬(0x61 ≤ n ∧ n ≤ 0x7A) := by
      split at image <;> omega
    refine ⟨Or.inl (by omega), ?_⟩
    rw [upperCodes, if_pos bounds.1, if_neg bounds.2]
  · cases expanded : upperExpansions.find? (·.1 == c.toNat) with
    | some e =>
        have known : upperCodes c.toNat = e.2 := by rw [upperCodes, if_neg ascii, expanded]
        rw [known] at image
        exact upperExpansions_upper e (List.mem_of_find?_eq_some expanded) n image
    | none =>
        have mapped : upperCodes c.toNat = [mapRuns upperRuns c.toNat] := by
          rw [upperCodes, if_neg ascii, expanded]
        rw [mapped, List.mem_singleton, mapRuns] at image
        split at image
        · next r found =>
          rw [image]
          exact apply_isUpper (List.mem_of_find?_eq_some found) (List.find?_some found :)
        · next absent =>
          rw [image]
          refine ⟨c.valid, ?_⟩
          rw [mapped, mapRuns, absent]

theorem upperChars_of_isUpper {codes : List Nat} (all : ∀ n ∈ codes, IsUpper n) :
    upperChars (codes.map Char.ofNat) = codes.map Char.ofNat := by
  have each : ∀ n ∈ codes,
      (upperCodes (Char.ofNat n).toNat).map Char.ofNat = [Char.ofNat n] := by
    intro n member
    obtain ⟨valid, same⟩ := all n member
    rw [toNat_ofNat valid, same, List.map_singleton]
  rw [upperChars, List.flatMap_map, List.flatMap_congr each]
  exact List.flatMap_pure_eq_map _ _

theorem upper_upper (s : String) : upper (upper s) = upper s := by
  have chars : ∀ cs : List Char, upperChars (upperChars cs) = upperChars cs := by
    intro cs
    induction cs with
    | nil => rfl
    | cons c rest ih =>
        have parts : upperChars (c :: rest) =
            (upperCodes c.toNat).map Char.ofNat ++ upperChars rest := rfl
        rw [parts, upperChars, List.flatMap_append, ← upperChars, ← upperChars,
          upperChars_of_isUpper (upperCodes_isUpper c), ih]
  rw [upper, upper, String.toList_ofList, chars]

theorem upper_append (s t : String) : upper (s ++ t) = upper s ++ upper t := by
  rw [upper, upper, upper, String.toList_append, upperChars, List.flatMap_append,
    String.ofList_append]
  rfl

/-- A text written anew: in upper case, or with ASCII letters in another case. -/
inductive Respells (s : String) : String → Prop
  | upper : Respells s (upper s)
  | letters {t : String} : lowerAsciiText t = lowerAsciiText s → Respells s t

theorem upper_respelled {s t : String} (spelled : Relation.ReflTransGen Respells s t) :
    upper t = upper s := by
  induction spelled with
  | refl => rfl
  | tail _ last ih =>
      cases last with
      | upper => rw [upper_upper, ih]
      | letters same => rw [upper_eq_of_lowerAsciiText same, ih]

theorem beginsWith_upper_append (s t : String) : beginsWith (upper (s ++ t)) (upper s) = true := by
  rw [beginsWith, upper_append, String.toList_append, List.isPrefixOf_iff_prefix]
  exact List.prefix_append _ _

theorem isLower_iff {c : Char} : c.isLower = true ↔ 97 ≤ c.toNat ∧ c.toNat ≤ 122 := by
  change (decide (97 ≤ c.val) && decide (c.val ≤ 122)) = true ↔ _
  simp [UInt32.le_iff_toNat_le, ← Char.toNat_val]

/-- A word of letters, in lower case. -/
def IsWord (w : String) : Prop := w.toList.all Char.isLower = true

instance (w : String) : Decidable (IsWord w) := inferInstanceAs (Decidable (_ = true))

/-- The code points of white space beyond ASCII. -/
def wideBlanks : List Nat :=
  [0x85, 0xA0, 0x1680] ++ List.range' 0x2000 11 ++ [0x2028, 0x2029, 0x202F, 0x205F, 0x3000]

theorem lowerCodes_wideBlanks : ∀ n ∈ wideBlanks, lowerCodes n = [n] := by decide +kernel

theorem mem_wideBlanks {c : Char} (blank : isBlank c = true) (wide : ¬c.toNat < 0x80) :
    c.toNat ∈ wideBlanks := by
  simp only [isBlank] at blank
  generalize c.toNat = n at *
  simp [wideBlanks, List.mem_range'_1] at blank ⊢
  omega

theorem not_capital {c : Char} (outside : c.toNat < 0x41 ∨ 0x5A < c.toNat) :
    ¬('A' ≤ c ∧ c ≤ 'Z') := by
  intro capital
  have low : 0x41 ≤ c.toNat := capital.1
  have high : c.toNat ≤ 0x5A := capital.2
  omega

theorem lowerAscii_blank {c : Char} (blank : isBlank c = true) : lowerAscii c = c := by
  rw [lowerAscii, if_neg (not_capital ?_)]
  simp only [isBlank] at blank
  generalize c.toNat = n at *
  simp at blank
  omega

theorem lowerAscii_ascii {c : Char} (ascii : (lowerAscii c).toNat < 0x80) : c.toNat < 0x80 := by
  by_contra wide
  rw [lowerAscii, if_neg (not_capital (by omega))] at ascii
  exact wide ascii

theorem lowerAscii_inj {c d : Char} (same : lowerAscii c = d) (other : d.isLower = false) :
    c = d := by
  unfold lowerAscii at same
  split at same
  · next capital =>
    have low : 0x41 ≤ c.toNat := capital.1
    have high : c.toNat ≤ 0x5A := capital.2
    have valid : (c.toNat + 32).isValidChar := Or.inl (by omega)
    have code : d.toNat = c.toNat + 32 := by rw [← same, toNat_ofNat valid]
    rw [Bool.eq_false_iff, ne_eq, isLower_iff] at other
    omega
  · exact same

theorem lowerAsciiText_inj {s w : String} (same : lowerAsciiText s = w)
    (other : w.toList.all (!·.isLower) = true) : s = w := by
  subst same
  rw [lowerAsciiText, String.toList_ofList, List.all_eq_true] at other
  have chars : s.toList.map lowerAscii = s.toList.map id := List.map_congr_left fun c member => by
    have letterless := other _ (List.mem_map_of_mem member)
    rw [Bool.not_eq_true'] at letterless
    exact (lowerAscii_inj rfl letterless).symm
  rw [lowerAsciiText, chars, List.map_id, String.ofList_toList]

/-- A character with the case it has in ASCII, or with none. -/
def IsPlain (c : Char) : Prop := c.toNat < 0x80 ∨ isBlank c = true

theorem lowerCodes_plain {c : Char} (plain : IsPlain c) :
    (lowerCodes c.toNat).map Char.ofNat = [lowerAscii c] := by
  by_cases ascii : c.toNat < 0x80
  · rw [lowerCodes, if_pos ascii, List.map_singleton, lowerAscii]
    by_cases capital : 'A' ≤ c ∧ c ≤ 'Z'
    · rw [if_pos capital, if_pos ⟨capital.1, capital.2⟩]
    · rw [if_neg capital, if_neg fun inside => capital ⟨inside.1, inside.2⟩, Char.ofNat_toNat]
  · have blank := plain.resolve_left ascii
    rw [lowerCodes_wideBlanks c.toNat (mem_wideBlanks blank ascii), List.map_singleton,
      Char.ofNat_toNat, lowerAscii_blank blank]

theorem lowerFrom_plain {cs : List Char} (plain : ∀ c ∈ cs, IsPlain c) (before : List Char) :
    lowerFrom before cs = cs.map lowerAscii := by
  induction cs generalizing before with
  | nil => rfl
  | cons c rest ih =>
      have here := plain c List.mem_cons_self
      have sigma : c ≠ 'Σ' := by
        rintro rfl
        exact absurd here (by unfold IsPlain; decide)
      rw [lowerFrom, if_neg sigma, lowerCodes_plain here,
        ih fun c member => plain c (List.mem_cons_of_mem _ member)]
      rfl

theorem lower_plain {s : String} (plain : ∀ c ∈ s.toList, IsPlain c) :
    lower s = lowerAsciiText s := by
  rw [lower, lowerFrom_plain plain, lowerAsciiText]

end ChatGateway.Text

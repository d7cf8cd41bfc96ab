import Mathlib.Data.List.TakeDrop
import ChatGateway.Json.Parser
import ChatGateway.Json.Printer
import ChatGateway.Proofs.Text.Decimal

namespace ChatGateway.Json

open Text

theorem hex4?_control : ∀ n, n < 32 →
    hex4? '0' '0' (hexChar (n / 16)) (hexChar (n % 16)) = some n := by decide

theorem hexUpper_control {n : Nat} (control : n < 32) :
    hexUpper 4 n = ['0', '0', hexChar (n / 16), hexChar (n % 16)] := by
  have high : n / 16 / 16 = 0 := by omega
  have low : n / 16 % 16 = n / 16 := by omega
  simp only [hexUpper, high, low, List.nil_append, List.cons_append]
  rfl

theorem stringRest_control {c : Char} (control : c.toNat < 32) (done rest : List Char) :
    stringRest done ('\\' :: 'u' :: hexUpper 4 c.toNat ++ rest) = stringRest (c :: done) rest := by
  have low : isLowSurrogate c.toNat = false := by
    simp [isLowSurrogate]
    omega
  have high : isHighSurrogate c.toNat = false := by
    simp [isHighSurrogate]
    omega
  rw [hexUpper_control control]
  change stringRest done ('\\' :: 'u' :: '0' :: '0' :: hexChar (c.toNat / 16) ::
    hexChar (c.toNat % 16) :: rest) = _
  rw [stringRest, hex4?_control c.toNat control]
  simp only [low, high, Char.ofNat_toNat]
  rfl

theorem stringRest_escape (c : Char) (done rest : List Char) :
    stringRest done (escapeChar c ++ rest) = stringRest (c :: done) rest := by
  unfold escapeChar
  split
  · next quote => subst quote; rfl
  split
  · next slash => subst slash; rfl
  split
  · next line => subst line; rfl
  split
  · next back => subst back; rfl
  split
  · next tab => subst tab; rfl
  split
  · next code =>
    have same : c = Char.ofNat 8 := by rw [← code, Char.ofNat_toNat]
    subst same
    rfl
  split
  · next code =>
    have same : c = Char.ofNat 12 := by rw [← code, Char.ofNat_toNat]
    subst same
    rfl
  split
  · next control => exact stringRest_control control done rest
  · next quote slash _ _ _ _ _ plain =>
    change stringRest done (c :: rest) = _
    rw [stringRest, if_neg (not_or.mpr ⟨slash, plain⟩)]
    · exact quote
    · exact fun _ _ _ _ _ same _ => slash same
    · exact fun _ _ same _ => slash same

theorem stringRest_quoted (cs done rest : List Char) :
    stringRest done (cs.flatMap escapeChar ++ '"' :: rest) =
      some (String.ofList (done.reverse ++ cs), rest) := by
  induction cs generalizing done with
  | nil => rw [List.flatMap_nil, List.nil_append, stringRest, List.append_nil]
  | cons c cs ih =>
      rw [List.flatMap_cons, List.append_assoc, stringRest_escape, ih, List.reverse_cons,
        List.append_assoc, List.singleton_append]

theorem stringBody_quoted (s : String) (rest : List Char) :
    stringBody (s.toList.flatMap escapeChar ++ '"' :: rest) = some (s, rest) := by
  rw [stringBody, stringRest_quoted, List.reverse_nil, List.nil_append, String.ofList_toList]

/-- What may follow a value: the end of the text, or what parts or ends a container. -/
def Ends (rest : List Char) : Prop := ∀ c ∈ rest.head?, c = ',' ∨ c = ']' ∨ c = '\x7d'

theorem Ends.nil : Ends [] := nofun

theorem Ends.cons {c : Char} (closes : c = ',' ∨ c = ']' ∨ c = '\x7d') (rest : List Char) :
    Ends (c :: rest) := fun d first => by
  cases first
  exact closes

/-- A part of a number read before what follows, which is left as it is. -/
def Left {α : Type} (rest : List Char) (r : α × List Char) : α × List Char := (r.1, r.2 ++ rest)

/-- A number after its sign. -/
def unsigned (negative : Bool) (body : List Char) : Option (Json × List Char) := do
  let (whole, rest) ← integerPart body
  let (fraction, rest) ← fractionPart rest
  let (exponent, rest) ← exponentPart rest
  let n : Int := decimalValue whole
  let i := if negative then -n else n
  if fraction.isNone ∧ exponent.isNone ∧ isExact i ∧ ¬ (negative ∧ n = 0) then
    return (.int i, rest)
  else
    let x ← Binary64.ofDigits? negative whole (fraction.getD []) (exponent.getD 0)
    return (.float x, rest)

theorem number_minus (body : List Char) : number ('-' :: body) = unsigned true body := rfl

theorem number_unsigned {body : List Char} (bare : body.head? ≠ some '-') :
    number body = unsigned false body := by
  unfold number
  split
  next negative after read =>
    split at read
    · exact absurd rfl bare
    · cases read
      rfl

section Numbers

variable {rest : List Char} (ends : Ends rest)

include ends

theorem Ends.head {c : Char} {after : List Char} (split : rest = c :: after) :
    isDigit c = false ∧ c ≠ '.' ∧ c ≠ 'e' ∧ c ≠ 'E' ∧ c ≠ '-' ∧ c ≠ '+' := by
  subst split
  rcases ends c rfl with rfl | rfl | rfl <;> decide

theorem digits_append (cs : List Char) : digits (cs ++ rest) = Left rest (digits cs) := by
  have cut : ∀ cs, digits cs = (cs.takeWhile isDigit, cs.dropWhile isDigit) :=
    List.span_eq_takeWhile_dropWhile isDigit
  rw [cut, cut, Left]
  induction cs with
  | nil =>
      cases rest with
      | nil => rfl
      | cons c after =>
          have stop := (ends.head rfl).1
          simp [stop]
  | cons c cs ih =>
      rw [Prod.mk.injEq] at ih
      cases digit : isDigit c <;> simp [digit, ih]

theorem integerPart_append (cs : List Char) :
    integerPart (cs ++ rest) = (integerPart cs).map (Left rest) := by
  unfold integerPart
  rw [digits_append ends]
  obtain ⟨ds, r⟩ := digits cs
  dsimp only [Left]
  match ds with
  | [] => rfl
  | [d] =>
    split <;> simp_all [Left]
  | d :: d' :: ds => split <;> simp_all [Left]

theorem fractionPart_append (cs : List Char) :
    fractionPart (cs ++ rest) = (fractionPart cs).map (Left rest) := by
  cases cs with
  | nil =>
      cases rest with
      | nil => rfl
      | cons c after =>
          rw [List.nil_append, fractionPart]
          · rfl
          · exact fun _ split => (ends.head rfl).2.1 (List.cons.inj split).1
  | cons c cs =>
      by_cases point : c = '.'
      · subst point
        rw [List.cons_append, fractionPart, fractionPart, digits_append ends, Left]
        dsimp only
        split <;> rfl
      · rw [List.cons_append, fractionPart, fractionPart]
        · rfl
        · exact fun _ split => point (List.cons.inj split).1
        · exact fun _ split => point (List.cons.inj split).1

theorem splitSign_append (cs : List Char) :
    Number.splitSign (cs ++ rest) = Left rest (Number.splitSign cs) := by
  cases cs with
  | nil =>
      cases rest with
      | nil => rfl
      | cons c after =>
          rw [List.nil_append, Number.splitSign]
          · rfl
          · exact fun _ split => (ends.head rfl).2.2.2.2.1 (List.cons.inj split).1
          · exact fun _ split => (ends.head rfl).2.2.2.2.2 (List.cons.inj split).1
  | cons c cs =>
      by_cases minus : c = '-'
      · subst minus
        rfl
      by_cases plus : c = '+'
      · subst plus
        rfl
      rw [List.cons_append, Number.splitSign, Number.splitSign]
      · rfl
      · exact fun _ split => minus (List.cons.inj split).1
      · exact fun _ split => plus (List.cons.inj split).1
      · exact fun _ split => minus (List.cons.inj split).1
      · exact fun _ split => plus (List.cons.inj split).1

theorem exponentPart_append (cs : List Char) :
    exponentPart (cs ++ rest) = (exponentPart cs).map (Left rest) := by
  cases cs with
  | nil =>
      cases rest with
      | nil => rfl
      | cons c after =>
          obtain ⟨-, -, lower, upper, -⟩ := ends.head rfl
          exact if_neg (not_or.mpr ⟨lower, upper⟩)
  | cons c cs =>
      rw [List.cons_append, exponentPart, exponentPart]
      split
      · rw [splitSign_append ends]
        dsimp only [Left]
        rw [digits_append ends]
        obtain ⟨ds, after⟩ := digits (Number.splitSign cs).2
        cases ds <;> rfl
      · rfl

theorem unsigned_append (negative : Bool) (cs : List Char) :
    unsigned negative (cs ++ rest) = (unsigned negative cs).map (Left rest) := by
  unfold unsigned
  rw [integerPart_append ends]
  cases integerPart cs with
  | none => rfl
  | some whole =>
      simp only [Option.map_some, Option.bind_eq_bind, Option.bind_some, Left,
        fractionPart_append ends]
      cases fractionPart whole.2 with
      | none => rfl
      | some fraction =>
          simp only [Option.map_some, Option.bind_some, Left, exponentPart_append ends]
          cases exponentPart fraction.2 with
          | none => rfl
          | some exponent =>
              simp only [Option.map_some, Option.bind_some, Left]
              generalize (if negative then -(decimalValue whole.1 : Int) else _) = i
              split
              · rfl
              · cases Binary64.ofDigits? negative whole.1 (fraction.1.getD [])
                  (exponent.1.getD 0) <;> rfl

theorem number_append (cs : List Char) : number (cs ++ rest) = (number cs).map (Left rest) := by
  cases cs with
  | nil =>
      have bare : rest.head? ≠ some '-' := fun first => by
        cases rest with
        | nil => cases first
        | cons c after => exact (ends.head rfl).2.2.2.2.1 (Option.some.inj first)
      exact (number_unsigned bare).trans (unsigned_append ends false [])
  | cons c cs =>
      by_cases minus : c = '-'
      · subst minus
        exact unsigned_append ends true cs
      · have bare : ∀ cs, (c :: cs : List Char).head? ≠ some '-' := fun _ first =>
          minus (Option.some.inj first)
        rw [List.cons_append, number_unsigned (bare _), number_unsigned (bare _)]
        exact unsigned_append ends false (c :: cs)

end Numbers

/-- The digits of a number are those of an integer part. -/
theorem integerPart_decimal (n : Nat) : integerPart (decimal n) = some (decimal n, []) := by
  have cut : digits (decimal n) = (decimal n, []) := by
    rw [digits, List.span_eq_takeWhile_dropWhile]
    have kept := @takeWhile_digits (decimal n) [] (decimal_digits n) nofun
    have left := @dropWhile_digits (decimal n) [] (decimal_digits n) nofun
    rw [List.append_nil] at kept left
    rw [kept, left]
  unfold integerPart
  rw [cut]
  split
  · next none => exact absurd (Prod.mk.inj none).1 (decimal_ne_nil n)
  · next led =>
    have zero := decimal_lead (Prod.mk.inj led).1
    subst zero
    cases (Prod.mk.inj led).1
  · next read => rw [read]

theorem unsigned_decimal {negative : Bool} {n : Nat} {i : Int}
    (value : (if negative then -(n : Int) else n) = i) (exact : isExact i = true)
    (signed : negative = true → n ≠ 0) : unsigned negative (decimal n) = some (.int i, []) := by
  have kept : ¬(negative = true ∧ (n : Int) = 0) := fun ⟨minus, zero⟩ =>
    signed minus (Int.ofNat_eq_zero.mp zero)
  unfold unsigned
  rw [integerPart_decimal]
  change (if _ then _ else _ : Option (Json × List Char)) = _
  rw [decimalValue_decimal, value, if_pos ⟨rfl, rfl, exact, kept⟩]
  rfl

theorem number_int {n : Int} (exact : isExact n = true) :
    number (toString n).toList = some (.int n, []) := by
  cases n with
  | ofNat n =>
      have bare : (decimal n).head? ≠ some '-' := fun first => by
        have digit := decimal_digits n '-' (List.mem_of_mem_head? first)
        cases digit
      change number (toString n).toList = _
      rw [toString_decimal, number_unsigned bare]
      exact unsigned_decimal rfl exact Bool.noConfusion
  | negSucc n =>
      change number ("-" ++ toString (n + 1)).toList = _
      rw [String.toList_append, toString_decimal]
      change number ('-' :: decimal (n + 1)) = _
      rw [number_minus]
      exact unsigned_decimal rfl exact fun _ => Nat.succ_ne_zero n

end ChatGateway.Json

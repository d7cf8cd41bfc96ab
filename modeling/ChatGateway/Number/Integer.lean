import ChatGateway.Text.Ascii

namespace ChatGateway.Number

def splitSign : List Char → Bool × List Char
  | '-' :: rest => (true, rest)
  | '+' :: rest => (false, rest)
  | cs => (false, cs)

def unsigned? (s : String) : Option Nat :=
  let ds := match s.toList with
    | '+' :: rest => rest
    | cs => cs
  if ds.isEmpty || !ds.all Text.isDigit then none else some (Text.decimalValue ds)

def signed64? (s : String) : Option Int :=
  let (negative, ds) := splitSign s.toList
  if ds.isEmpty || !ds.all Text.isDigit then none
  else
    let n : Int := Text.decimalValue ds
    let v := if negative then -n else n
    if -Int.pow 2 63 ≤ v ∧ v < Int.pow 2 63 then some v else none

end ChatGateway.Number

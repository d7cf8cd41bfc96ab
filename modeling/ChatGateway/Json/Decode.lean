import ChatGateway.Json.Basic

/-!
Reading typed values out of JSON. Members of an object are read in their order and the first bad
one decides the error; absent members are noticed after that, in the order of declaration.
-/

namespace ChatGateway

inductive DecodeError where
  | missingField (name : String)
  | duplicateField (name : String)
  | unknownVariant (name : String)
  | wrongType
  | wrongValue
  | refused (text : String)
  deriving DecidableEq, Repr

namespace DecodeError

def message : DecodeError → String
  | missingField name => "missing field `" ++ name ++ "`"
  | duplicateField name => "duplicate field `" ++ name ++ "`"
  | unknownVariant name => "unknown variant `" ++ name ++ "`"
  | wrongType => "invalid type"
  | wrongValue => "invalid value"
  | refused text => text

end DecodeError

abbrev Decoder (α : Type) := Json → Except DecodeError α

namespace Decoder

variable {α : Type}

def bool : Decoder Bool
  | .bool b => .ok b
  | _ => .error .wrongType

def string : Decoder String
  | .str s => .ok s
  | _ => .error .wrongType

def intIn (low high : Int) : Decoder Int
  | .int n => if low ≤ n ∧ n ≤ high then .ok n else .error .wrongValue
  | _ => .error .wrongType

def nat (bits : Nat) : Decoder Nat := fun j =>
  (intIn 0 (Int.pow 2 bits - 1) j).map Int.toNat

def float : Decoder Binary64
  | .float x => .ok x
  | .int n => .ok (Binary64.ofInt n)
  | _ => .error .wrongType

def optional (item : Decoder α) : Decoder (Option α)
  | .null => .ok none
  | j => (item j).map some

def list (item : Decoder α) : Decoder (List α)
  | .arr js => js.mapM item
  | _ => .error .wrongType

/-- Any value, in canonical form; null stands for no value. -/
def anything : Decoder (Option Json)
  | .null => .ok none
  | j => .ok (some j.canonical)

end Decoder

/-- A member of an object and what reading it does to the structure being built. -/
structure Field (σ : Type) where
  name : String
  aliases : List String
  required : Bool
  read : Json → σ → Except DecodeError σ

namespace Field

variable {α σ : Type}

def req (name : String) (item : Decoder α) (set : α → σ → σ) : Field σ :=
  ⟨name, [], true, fun j s => (item j).map (set · s)⟩

/-- A member that may be absent, leaving what the structure starts with. -/
def opt (name : String) (item : Decoder α) (set : α → σ → σ) : Field σ :=
  ⟨name, [], false, fun j s => (item j).map (set · s)⟩

def aliased (f : Field σ) (names : List String) : Field σ := { f with aliases := names }

def matchesName (f : Field σ) (name : String) : Bool := f.name == name || f.aliases.contains name

def readMembers (fields : List (Field σ)) :
    List (String × Json) → (seen : List String) → σ → Except DecodeError (List String × σ)
  | [], seen, s => .ok (seen, s)
  | (name, j) :: rest, seen, s =>
    match fields.find? (·.matchesName name) with
    | none => readMembers fields rest seen s
    | some f =>
      if seen.contains f.name then .error (.duplicateField f.name)
      else match f.read j s with
        | .error e => .error e
        | .ok s' => readMembers fields rest (f.name :: seen) s'

def readItems : List (Field σ) → List Json → σ → Except DecodeError σ
  | [], [], s => .ok s
  | [], _ :: _, _ => .error .wrongValue
  | f :: fields, [], s => if f.required then .error .wrongValue else readItems fields [] s
  | f :: fields, j :: js, s =>
    match f.read j s with
    | .error e => .error e
    | .ok s' => readItems fields js s'

/-- A structure from an object, or from an array of its fields in order. `start` holds the
defaults. -/
def decode (fields : List (Field σ)) (start : σ) : Decoder σ
  | .obj members =>
    match readMembers fields members [] start with
    | .error e => .error e
    | .ok (seen, s) =>
      match fields.find? (fun f => f.required && !seen.contains f.name) with
      | some f => .error (.missingField f.name)
      | none => .ok s
  | .arr items => readItems fields items start
  | _ => .error .wrongType

/-- The same, where an array may have more items than there are fields. -/
def decodeFront (fields : List (Field σ)) (start : σ) : Decoder σ
  | .arr items => decode fields start (.arr (items.take fields.length))
  | j => decode fields start j

end Field

/-- A choice written as one of fixed words, or as an object with that word over null. -/
def Decoder.variant {α : Type} (find : String → Option α) : Decoder α
  | .str s => word s
  | .obj [(name, j)] =>
    match word name, j with
    | .ok a, .null => .ok a
    | .ok _, _ => .error .wrongType
    | .error e, _ => .error e
  | .obj _ => .error .wrongValue
  | _ => .error .wrongType
where
  word (s : String) : Except DecodeError α :=
    match find s with
    | some a => .ok a
    | none => .error (.unknownVariant s)

end ChatGateway

namespace ChatGateway.Keyed

variable {α κ : Type} [BEq κ] (key : α → κ)

def find? (k : κ) (items : List α) : Option α := items.find? (key · == k)

def has (k : κ) (items : List α) : Bool := items.any (key · == k)

def erase (k : κ) (items : List α) : List α := items.filter (key · != k)

/-- The item in place of the one with its key, or else at the end. -/
def put (a : α) : List α → List α
  | [] => [a]
  | b :: rest => if key b == key a then a :: rest else b :: put a rest

def modify (k : κ) (change : α → α) (items : List α) : List α :=
  items.map fun a => if key a == k then change a else a

end ChatGateway.Keyed

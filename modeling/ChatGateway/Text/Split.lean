
namespace ChatGateway.Text

/-- The parts between separators, one more than there are separators. -/
def splitOn (separator : Char) : List Char → List (List Char)
  | [] => [[]]
  | c :: rest =>
    if c = separator then [] :: splitOn separator rest
    else match splitOn separator rest with
      | part :: parts => (c :: part) :: parts
      | [] => [[c]]

/-- The text before a separator and the text after it, which is empty if there is none. -/
def splitFirst (separator : Char) (cs : List Char) : List Char × List Char :=
  (cs.takeWhile (· != separator), (cs.dropWhile (· != separator)).drop 1)

/-- The text before the last separator and the text after it, if there is one. -/
def splitLast? (separator : Char) (cs : List Char) : Option (List Char × List Char) :=
  let after := (cs.reverse.takeWhile (· != separator)).reverse
  if after.length < cs.length then some (cs.take (cs.length - after.length - 1), after) else none

end ChatGateway.Text

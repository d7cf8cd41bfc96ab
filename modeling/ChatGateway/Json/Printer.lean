import ChatGateway.Json.Basic
import ChatGateway.Text.Ascii

/-!
JSON text of a value, without spaces. Strings escape the quote, the backslash and the control
characters below U+0020, and nothing else.
-/

namespace ChatGateway.Json

open Text

def escapeChar (c : Char) : List Char :=
  if c = '"' then ['\\', '"']
  else if c = '\\' then ['\\', '\\']
  else if c = '\n' then ['\\', 'n']
  else if c = '\r' then ['\\', 'r']
  else if c = '\t' then ['\\', 't']
  else if c.toNat = 8 then ['\\', 'b']
  else if c.toNat = 12 then ['\\', 'f']
  else if c.toNat < 0x20 then ['\\', 'u'] ++ hexUpper 4 c.toNat
  else [c]

def quoted (s : String) : List Char :=
  '"' :: s.toList.flatMap escapeChar ++ ['"']

mutual

def printChars : Json → List Char
  | .null => "null".toList
  | .bool true => "true".toList
  | .bool false => "false".toList
  | .int n => (toString n).toList
  | .float x => if x.isFinite then x.toJsonText.toList else "null".toList
  | .str s => quoted s
  | .arr items => '[' :: printItems items ++ [']']
  | .obj members => '\x7b' :: printMembers members ++ ['\x7d']

def printItems : List Json → List Char
  | [] => []
  | [j] => printChars j
  | j :: rest => printChars j ++ ',' :: printItems rest

def printMembers : List (String × Json) → List Char
  | [] => []
  | [(name, j)] => quoted name ++ ':' :: printChars j
  | (name, j) :: rest => quoted name ++ ':' :: printChars j ++ ',' :: printMembers rest

end

def print (j : Json) : String := String.ofList (printChars j)

end ChatGateway.Json

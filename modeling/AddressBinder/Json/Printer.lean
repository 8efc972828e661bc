import AddressBinder.Json.Basic
/-!
# Writing JSON

The compact form: no blanks, a number as its literal, and in a string only the quote, the backslash and the control
characters escaped.
-/
namespace AddressBinder
namespace Json

/-- A character inside a string literal. -/
def stringChar (c : Char) : List Char :=
  if c = '"' then ['\\', '"']
  else if c = '\\' then ['\\', '\\']
  else if c.toNat < 0x20 then ['\\', 'u'] ++ Text.hexPadded 4 c.toNat
  else [c]

def stringLiteral (s : String) : List Char := '"' :: (s.toList.flatMap stringChar ++ ['"'])

/-- A string value; half a surrogate pair is written as the escape of the first one. -/
def stringValue : Option String → List Char
  | some s => stringLiteral s
  | none => '"' :: ("\\ud800".toList ++ ['"'])

mutual
/-- The compact text of a value. -/
def render : Json → List Char
  | .null => "null".toList
  | .bool true => "true".toList
  | .bool false => "false".toList
  | .num literal => literal
  | .str text => stringValue text
  | .arr items => '[' :: renderItems items
  | .obj members => '\x7b' :: renderMembers members

/-- The rest of an array after its opening bracket. -/
def renderItems : List Json → List Char
  | [] => [']']
  | [v] => render v ++ [']']
  | v :: vs => render v ++ ',' :: renderItems vs

/-- The rest of an object after its opening brace. -/
def renderMembers : List (Option String × Json) → List Char
  | [] => ['\x7d']
  | [(k, v)] => stringValue k ++ ':' :: (render v ++ ['\x7d'])
  | (k, v) :: ms => stringValue k ++ ':' :: (render v ++ ',' :: renderMembers ms)
end

/-- The compact text of a value as a string. -/
def toText (v : Json) : String := String.ofList (render v)

end Json
end AddressBinder

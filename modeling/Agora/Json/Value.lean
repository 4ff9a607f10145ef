set_option autoImplicit false

namespace Agora.Json

inductive Value where
  | null
  | bool (b : Bool)
  | whole (n : Int)
  /-- A number with a fraction, an exponent or the sign of a zero, as it is written. -/
  | decimal (numeral : String)
  | string (s : String)
  | array (items : List Value)
  | object (members : List (String × Value))
  deriving Repr, BEq

instance : Inhabited Value := ⟨.null⟩

/-- The digits of a character's number, four of them. -/
def fourDigits (n : Nat) : List Char :=
  let digits := Nat.toDigits 16 n
  List.replicate (4 - digits.length) '0' ++ digits

def escapedChar (c : Char) : List Char :=
  if c = '"' then ['\\', '"']
  else if c = '\\' then ['\\', '\\']
  else if c = '\n' then ['\\', 'n']
  else if c = '\r' then ['\\', 'r']
  else if c = '\t' then ['\\', 't']
  else if c.toNat = 8 then ['\\', 'b']
  else if c.toNat = 12 then ['\\', 'f']
  else if c.toNat < 32 then ['\\', 'u'] ++ fourDigits c.toNat
  else [c]

def stringText (s : String) : List Char := '"' :: s.toList.flatMap escapedChar ++ ['"']

mutual

def Value.chars : Value → List Char
  | .null => "null".toList
  | .bool true => "true".toList
  | .bool false => "false".toList
  | .whole n => (toString n).toList
  | .decimal numeral => numeral.toList
  | .string s => stringText s
  | .array items => '[' :: Value.itemChars items ++ [']']
  | .object members => '\x7b' :: Value.memberChars members ++ ['\x7d']

def Value.itemChars : List Value → List Char
  | [] => []
  | [v] => v.chars
  | v :: rest => v.chars ++ ',' :: Value.itemChars rest

def Value.memberChars : List (String × Value) → List Char
  | [] => []
  | [(k, v)] => stringText k ++ ':' :: v.chars
  | (k, v) :: rest => stringText k ++ ':' :: (v.chars ++ ',' :: Value.memberChars rest)

end

/-- The compact text of a document. -/
def Value.render (v : Value) : String := String.ofList v.chars

/-- The first member of a name; none if the document is no object or has no such member. -/
def Value.member? (v : Value) (name : String) : Option Value :=
  match v with
  | .object members => (members.find? fun m => m.1 = name).map (·.2)
  | _ => none

end Agora.Json

import Agora.Json.Lexeme
import Agora.Json.Value

set_option autoImplicit false

namespace Agora.Json

open Lexeme

def Lexeme.Numeral.value (n : Numeral) : Value :=
  match n.whole? with
  | some i => .whole i
  | none => .decimal n.text

/-- Read a document whose containers are at most `depth` deep, and the text after it. -/
def document : Nat → Bytes → Read Value
  | depth, bs =>
    match skipSpace bs with
    | [] => .error .malformed
    | b :: rest =>
      if b = 0x6E then
        match after? "ull" rest with | some rest => .ok (.null, rest) | none => .error .malformed
      else if b = 0x74 then
        match after? "rue" rest with
        | some rest => .ok (.bool true, rest)
        | none => .error .malformed
      else if b = 0x66 then
        match after? "alse" rest with
        | some rest => .ok (.bool false, rest)
        | none => .error .malformed
      else if b = 0x22 then (string rest).map fun (s, rest) => (.string s, rest)
      else if b = 0x5B then
        match depth with
        | 0 => .error .malformed
        | depth + 1 =>
          (items (document depth) (rest.length + 1) true [] rest).map fun (vs, rest) =>
            (.array vs, rest)
      else if b = 0x7B then
        match depth with
        | 0 => .error .malformed
        | depth + 1 =>
          let member (name : String) (ms : List (String × Value)) (bs : Bytes) :
              Except Fault (List (String × Value) × Bytes) := do
            let (v, rest) ← document depth (← mark 0x3A bs)
            return ((name, v) :: ms, rest)
          (members member (rest.length + 1) true [] rest).map fun (ms, rest) =>
            (.object ms.reverse, rest)
      else (numeral (b :: rest)).map fun (n, rest) => (n.value, rest)

/-- The depth to which containers may lie in one another. -/
def deepest : Nat := 127

def Value.parse? (text : Bytes) : Option Value :=
  match document deepest text with
  | .ok (v, rest) => if (skipSpace rest).isEmpty then some v else none
  | .error _ => none

end Agora.Json

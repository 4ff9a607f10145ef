import Agora.Powers

set_option autoImplicit false

namespace Agora.Text.Numeral

inductive Fault where
  | empty
  | invalidDigit
  | tooLarge
  | tooSmall
  deriving Repr, DecidableEq

def digitValue (c : Char) : Nat := c.toNat - 48

/-- Read digits after the value `seen`; `excess` is the fault of passing `bound`. -/
def magnitude (bound : Nat) (excess : Fault) (seen : Nat) : List Char → Except Fault Nat
  | [] => .ok seen
  | c :: rest =>
    if c.isDigit then
      let value := 10 * seen + digitValue c
      if bound < value then .error excess else magnitude bound excess value rest
    else .error .invalidDigit

/-- Read one or more digits with a value of at most `bound`. -/
def digits (bound : Nat) (excess : Fault) : List Char → Except Fault Nat
  | [] => .error .invalidDigit
  | cs => magnitude bound excess 0 cs

/-- Read a numeral from `-least` to `most`, with an optional sign of either kind. -/
def signed (least most : Nat) : List Char → Except Fault Int
  | [] => .error .empty
  | '+' :: cs => (digits most .tooLarge cs).map Int.ofNat
  | '-' :: cs => (digits least .tooSmall cs).map fun n => -Int.ofNat n
  | cs => (digits most .tooLarge cs).map Int.ofNat

/-- Read a numeral of at most `most`; only a plus sign may stand before it. -/
def unsigned (most : Nat) : List Char → Except Fault Nat
  | [] => .error .empty
  | '+' :: cs => digits most .tooLarge cs
  | cs => digits most .tooLarge cs

def int64 (s : String) : Except Fault Int := signed (2 ^ 63) (2 ^ 63 - 1) s.toList

def word64 (s : String) : Except Fault Nat := unsigned (2 ^ 64 - 1) s.toList

def word32 (s : String) : Except Fault Nat := unsigned (2 ^ 32 - 1) s.toList

end Agora.Text.Numeral

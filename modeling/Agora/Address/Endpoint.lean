import Agora.Address.Ip

set_option autoImplicit false

namespace Agora.Address

structure Endpoint where
  ip : Ip
  port : UInt16
  deriving DecidableEq

namespace Endpoint

/-- A decimal number of at most `most`; leading zeros are allowed. -/
def numberUpTo (most : Nat) (cs : List Char) : Option (Nat × List Char) :=
  let (ds, rest) := Ip.digitRun 10 cs
  let n := Ip.digitsValue 10 ds
  if ds.isEmpty || most < n then none else some (n, rest)

def port? (cs : List Char) : Option UInt16 := do
  let (n, rest) ← numberUpTo 65535 (← Ip.after ':' cs)
  if rest.isEmpty then some (UInt16.ofNat n) else none

def skipScope (cs : List Char) : List Char :=
  match (Ip.after '%' cs).bind (numberUpTo (2 ^ 32 - 1)) with
  | some (_, rest) => rest
  | none => cs

/-- Read an endpoint that fills the text. -/
def parse? (s : String) : Option Endpoint :=
  match Ip.readFour s.toList with
  | some ((a, b, c, d), rest) => (port? rest).map fun p => ⟨.v4 a b c d, p⟩
  | none => do
    let (groups, rest) ← Ip.readSix (← Ip.after '[' s.toList)
    let rest ← Ip.after ']' (skipScope rest)
    return ⟨.v6 groups, ← port? rest⟩

end Endpoint

end Agora.Address

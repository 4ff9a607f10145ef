import Agora.Bytes

set_option autoImplicit false

namespace Agora.Http

/-- A header: its name in lower case and the octets of its value. -/
structure Header where
  name : String
  value : Bytes
  deriving DecidableEq, Repr

abbrev Headers := List Header

def Header.ofText (name value : String) : Header := ⟨name, Bytes.ofString value⟩

namespace Headers

def first? (hs : Headers) (name : String) : Option Bytes :=
  (hs.find? fun h => h.name = name).map (·.value)

/-- An octet of text: a visible ASCII character, a space or a tab. -/
def isVisible (b : UInt8) : Bool := (0x20 ≤ b && b < 0x7F) || b = 0x09

def text? (value : Bytes) : Option String :=
  if value.all isVisible then some (Bytes.asciiText value) else none

/-- The first value of a header, if it is there and is text. -/
def firstText? (hs : Headers) (name : String) : Option String := (hs.first? name).bind text?

end Headers

end Agora.Http

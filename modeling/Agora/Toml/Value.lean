set_option autoImplicit false

namespace Agora.Toml

inductive Value where
  | string (s : String)
  | whole (n : Int)
  | flag (b : Bool)
  /-- A number that is not whole. -/
  | fractional
  /-- A date, a time of day or both. -/
  | moment
  | array (items : List Value)
  | table (entries : List (String × Value))
  deriving Repr

instance : Inhabited Value := ⟨.table []⟩

end Agora.Toml

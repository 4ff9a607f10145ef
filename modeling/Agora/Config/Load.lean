import Agora.Config.Rule
import Agora.Config.Shape
import Agora.Toml.Reader

set_option autoImplicit false

namespace Agora.Config

inductive LoadError where
  /-- There is no file, or it holds no text. -/
  | unreadable
  /-- The text is no configuration. -/
  | unparsable
  /-- Rules are broken. -/
  | invalid (problems : List Problem)
  deriving Repr, DecidableEq

def LoadError.validationText (problems : List Problem) : String :=
  "Validation failed: " ++ ", ".intercalate (problems.map (·.text))

/-- A configuration that breaks no rule. -/
def validate (c : Config) : Except (List Problem) Config :=
  if c.problems.isEmpty then .ok c else .error c.problems

/-- Load a configuration from TOML text. -/
def parse (text : String) : Except LoadError Config :=
  match Toml.read? shape text with
  | none => .error .unparsable
  | some v => (validate (ofFields v)).mapError .invalid

/-- Load a configuration from a file's octets, if there is a file. -/
def load (file : Option Bytes) : Except LoadError Config :=
  match file.bind Bytes.toString? with
  | none => .error .unreadable
  | some text => parse text

end Agora.Config

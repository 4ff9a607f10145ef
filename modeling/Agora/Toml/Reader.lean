import Agora.Schema.Shape
import Agora.Toml.Document

set_option autoImplicit false

namespace Agora.Toml

open Schema (Shape Fields)

def entry? (entries : List (String × Value)) (key : String) : Option Value :=
  (entries.find? fun e => e.1 = key).map (·.2)

def readItems {α : Type} (item : Value → Option α) : List Value → Option (List α)
  | [] => some []
  | v :: rest =>
    match item v, readItems item rest with
    | some a, some as => some (a :: as)
    | _, _ => none

mutual

def readShape? : (shape : Shape) → Value → Option shape.Value
  | .text, .string s => some s
  | .flag, .flag b => some b
  | .whole least most, .whole n => if least ≤ n ∧ n ≤ most then some n else none
  | .optional inner, v => (readShape? inner v).map some
  | .list item, .array vs => readItems (fun v => readShape? item v) vs
  | .record _ fields, .table entries => readEntries? fields entries
  | .record _ fields, .array vs => readElements? fields vs
  | .record _ fields, .moment => readEntries? fields []
  | _, _ => none

def readEntries? : (fields : Fields) → List (String × Value) → Option fields.Value
  | .nil, _ => some ()
  | .cons name .required shape rest, entries =>
    match entry? entries name with
    | some v =>
      match readShape? shape v, readEntries? rest entries with
      | some v, some vs => some (v, vs)
      | _, _ => none
    | none =>
      match shape.absent?, readEntries? rest entries with
      | some v, some vs => some (v, vs)
      | _, _ => none
  | .cons name .free shape rest, entries =>
    match entry? entries name with
    | some v =>
      match readShape? shape v, readEntries? rest entries with
      | some v, some vs => some (some v, vs)
      | _, _ => none
    | none => (readEntries? rest entries).map fun vs => (none, vs)

def readElements? : (fields : Fields) → List Value → Option fields.Value
  | .nil, _ => some ()
  | .cons _ .required shape rest, v :: vs =>
    match readShape? shape v, readElements? rest vs with
    | some v, some vs => some (v, vs)
    | _, _ => none
  | .cons _ .required _ _, [] => none
  | .cons _ .free shape rest, v :: vs =>
    match readShape? shape v, readElements? rest vs with
    | some v, some vs => some (some v, vs)
    | _, _ => none
  | .cons _ .free _ rest, [] => (readElements? rest []).map fun vs => (none, vs)

end

/-- Read a document of a shape. -/
def read? (shape : Shape) (text : String) : Option shape.Value :=
  (parse? text).bind (readShape? shape)

end Agora.Toml

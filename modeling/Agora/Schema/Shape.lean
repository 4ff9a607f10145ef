import Agora.Json.Value
import Agora.Powers
import Agora.Time.Stamp

/-!
Shapes of data. A shape says what a reader of any format accepts, and which type of values it then
gives; a record has its fields in a fixed order, each of which must be present or may be left out.
-/

set_option autoImplicit false

namespace Agora.Schema

inductive Presence where
  | required
  | free
  deriving DecidableEq

/-- What a record makes of fields that it does not know. -/
inductive Others where
  /-- They are passed over, and the record may be written as a list of its fields. -/
  | ignored
  /-- They must hold text. -/
  | texts
  deriving DecidableEq

mutual

/-- What may be read. -/
inductive Shape where
  | text
  | flag
  /-- A whole number from `least` to `most`. -/
  | whole (least most : Int)
  /-- A moment of the calendar, as text. -/
  | moment
  /-- Anything at all. -/
  | document
  /-- A value or nothing. -/
  | optional (inner : Shape)
  | list (item : Shape)
  | record (others : Others) (fields : Fields)

inductive Fields where
  | nil
  | cons (name : String) (presence : Presence) (shape : Shape) (rest : Fields)

end

def Shape.int64 : Shape := .whole (-2 ^ 63) (2 ^ 63 - 1)

def Shape.word64 : Shape := .whole 0 (2 ^ 64 - 1)

def Shape.word32 : Shape := .whole 0 (2 ^ 32 - 1)

mutual

/-- The values of a shape. -/
def Shape.Value : Shape → Type
  | .text => String
  | .flag => Bool
  | .whole _ _ => Int
  | .moment => Time.Stamp
  | .document => Json.Value
  | .optional inner => Option inner.Value
  | .list item => List item.Value
  | .record _ fields => fields.Value

def Fields.Value : Fields → Type
  | .nil => Unit
  | .cons _ .required shape rest => shape.Value × rest.Value
  | .cons _ .free shape rest => Option shape.Value × rest.Value

end

/-- The fields of a record that have been read so far. -/
def Fields.Slots : Fields → Type
  | .nil => Unit
  | .cons _ _ shape rest => Option shape.Value × rest.Slots

def Fields.noSlots : (fields : Fields) → fields.Slots
  | .nil => ()
  | .cons _ _ _ rest => (none, rest.noSlots)

/-- The value of a field of this shape that is left out, if it has one. -/
def Shape.absent? : (shape : Shape) → Option shape.Value
  | .optional _ => some none
  | _ => none

/-- The value of a record from the fields that were read; none if a required one is missing. -/
def Fields.finish? : (fields : Fields) → fields.Slots → Option fields.Value
  | .nil, _ => some ()
  | .cons _ .required shape rest, (slot, slots) =>
    match slot.or shape.absent?, rest.finish? slots with
    | some v, some vs => some (v, vs)
    | _, _ => none
  | .cons _ .free _ rest, (slot, slots) => (rest.finish? slots).map fun vs => (slot, vs)

def Fields.knows : Fields → String → Bool
  | .nil, _ => false
  | .cons name _ _ rest, key => name == key || rest.knows key

end Agora.Schema

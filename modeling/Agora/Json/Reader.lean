import Agora.Json.Document
import Agora.Schema.Shape
import Agora.Time.Reader

/-!
Reading JSON by shape, from left to right. The first thing that is wrong decides the fault: a piece
that breaks the format, or a well-formed start of a value of another shape. A record is an object
whose unknown members are passed over unread, or an array of its fields in order, which must not be
too long; a repeated member is an error.
-/

set_option autoImplicit false

namespace Agora.Json

open Lexeme
open Agora.Schema (Shape Fields)

/-- Read a name of the format after its first letter. -/
def nameRest {α : Type} (rest : String) (value : α) (bs : Bytes) : Read α :=
  match after? rest bs with
  | some bs => .ok (value, bs)
  | none => .error .malformed

def readFlag (bs : Bytes) : Read Bool :=
  match bs with
  | 0x74 :: rest => nameRest "rue" true rest
  | 0x66 :: rest => nameRest "alse" false rest
  | bs => .error (mismatch bs)

def readText (bs : Bytes) : Read String :=
  match bs with
  | 0x22 :: rest => string rest
  | bs => .error (mismatch bs)

def readWhole (least most : Int) (bs : Bytes) : Read Int :=
  match numeral bs with
  | .ok (n, rest) =>
    match n.whole? with
    | some i => if least ≤ i ∧ i ≤ most then .ok (i, rest) else .error .mismatched
    | none => .error .mismatched
  | .error _ => .error (mismatch bs)

def readMoment (bs : Bytes) : Read Time.Stamp :=
  match readText bs with
  | .ok (s, rest) =>
    match Time.Reader.stamp? s with
    | some t => .ok (t, rest)
    | none => .error .mismatched
  | .error e => .error e

/-- The start of the next element of an array; none at its end. -/
def nextElement (first : Bool) (bs : Bytes) : Except Fault (Option Bytes) :=
  match skipSpace bs with
  | [] => .error .malformed
  | 0x5D :: _ => .ok none
  | bs =>
    if first then .ok (some bs)
    else
      match mark 0x2C bs with
      | .ok rest =>
        match skipSpace rest with
        | 0x5D :: _ => .error .malformed
        | rest => .ok (some rest)
      | .error e => .error e

def readOther (others : Schema.Others) (bs : Bytes) : Except Fault Bytes :=
  match mark 0x3A bs with
  | .error e => .error e
  | .ok rest =>
    match others with
    | .ignored => skipValue rest
    | .texts => (readText (skipSpace rest)).map (·.2)

mutual

/-- Read a value of a shape, blanks before it being skipped. -/
def readShape : (shape : Shape) → Bytes → Read shape.Value
  | .text, bs => readText (skipSpace bs)
  | .flag, bs => readFlag (skipSpace bs)
  | .whole least most, bs => readWhole least most (skipSpace bs)
  | .moment, bs => readMoment (skipSpace bs)
  | .document, bs => document (deepest - 1) bs
  | .optional inner, bs =>
    match skipSpace bs with
    | 0x6E :: rest => nameRest "ull" none rest
    | bs => (readShape inner bs).map fun (v, rest) => (some v, rest)
  | .list item, bs =>
    match skipSpace bs with
    | 0x5B :: rest => items (fun bs => readShape item bs) (rest.length + 1) true [] rest
    | bs => .error (mismatch bs)
  | .record others fields, bs =>
    match skipSpace bs with
    | 0x7B :: rest =>
      match members (readMember others fields) (rest.length + 1) true fields.noSlots rest with
      | .ok (slots, rest) =>
        match fields.finish? slots with
        | some v => .ok (v, rest)
        | none => .error .mismatched
      | .error e => .error e
    | 0x5B :: rest =>
      match others with
      | .texts => .error .mismatched
      | .ignored =>
        match readElements fields true rest with
        | .ok (v, rest) => (mark 0x5D rest).map fun rest => (v, rest)
        | .error e => .error e
    | bs => .error (mismatch bs)

/-- Read what follows the name of a member into its field. -/
def readMember (others : Schema.Others) :
    (fields : Fields) → String → fields.Slots → Bytes → Read fields.Slots
  | .nil, _, slots, bs => (readOther others bs).map fun rest => (slots, rest)
  | .cons name _ shape rest, key, (slot, slots), bs =>
    if name = key then
      if slot.isSome then .error .mismatched
      else
        match mark 0x3A bs with
        | .ok bs => (readShape shape bs).map fun (v, after) => ((some v, slots), after)
        | .error e => .error e
    else (readMember others rest key slots bs).map fun (slots, after) => ((slot, slots), after)

def readElements : (fields : Fields) → Bool → Bytes → Read fields.Value
  | .nil, _, bs => .ok ((), bs)
  | .cons _ .required shape rest, first, bs =>
    match nextElement first bs with
    | .ok (some bs) =>
      match readShape shape bs with
      | .ok (v, bs) => (readElements rest false bs).map fun (vs, after) => ((v, vs), after)
      | .error e => .error e
    | .ok none => .error .mismatched
    | .error e => .error e
  | .cons _ .free shape rest, first, bs =>
    match nextElement first bs with
    | .ok (some bs) =>
      match readShape shape bs with
      | .ok (v, bs) => (readElements rest false bs).map fun (vs, after) => ((some v, vs), after)
      | .error e => .error e
    | .ok none => (readElements rest first bs).map fun (vs, after) => ((none, vs), after)
    | .error e => .error e

end

/-- Read a value of a shape that fills the text. -/
def read (shape : Shape) (text : Bytes) : Except Fault shape.Value :=
  match readShape shape text with
  | .ok (v, rest) => if (skipSpace rest).isEmpty then .ok v else .error .malformed
  | .error e => .error e

end Agora.Json

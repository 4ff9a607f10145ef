import Agora.Toml.Lexeme
import Agora.Toml.Value

/-!
Reading TOML documents: lines of keys with values under headings of tables. A table is defined
once; keys with dots and longer headings open the tables on their way, which a heading of their own
may still define if no dotted key opened them. A heading in double brackets adds a table to a list.
-/

set_option autoImplicit false

namespace Agora.Toml

open Lexeme

/-- How a table came to be. -/
inductive Origin where
  /-- By its own heading, or as the root. -/
  | defined
  /-- On the way of a longer heading. -/
  | passed
  /-- On the way of a dotted key. -/
  | dotted
  deriving DecidableEq

inductive Node where
  | leaf (v : Value)
  | table (origin : Origin) (entries : List (String × Node))
  /-- The tables of a list, the last one first. -/
  | list (origin : Origin) (last : List (String × Node)) (earlier : List (List (String × Node)))

abbrev Entries := List (String × Node)

mutual

def Node.value : Node → Value
  | .leaf v => v
  | .table _ entries => .table (Node.entryValues entries)
  | .list _ last earlier =>
    .array ((Node.listValues earlier).reverse ++ [.table (Node.entryValues last)])

def Node.entryValues : List (String × Node) → List (String × Value)
  | [] => []
  | (k, n) :: rest => (k, n.value) :: Node.entryValues rest

def Node.listValues : List (List (String × Node)) → List Value
  | [] => []
  | t :: rest => .table (Node.entryValues t) :: Node.listValues rest

end

def Entries.get? (es : Entries) (key : String) : Option Node :=
  (es.find? fun e => e.1 = key).map (·.2)

/-- File a node under a key, in place of one before. -/
def Entries.put (es : Entries) (key : String) (n : Node) : Entries :=
  if es.any (·.1 = key) then es.map fun e => if e.1 = key then (key, n) else e
  else es ++ [(key, n)]

/-- Change the table at the end of a heading's path; tables on the way are opened. -/
def Entries.underHeading (change : Entries → Option Entries) :
    List String → Entries → Option Entries
  | [], es => change es
  | key :: path, es =>
    match es.get? key with
    | none => (underHeading change path []).map fun inner => es.put key (.table .passed inner)
    | some (.table origin inner) =>
      (underHeading change path inner).map fun inner => es.put key (.table origin inner)
    | some (.list origin last earlier) =>
      (underHeading change path last).map fun last => es.put key (.list origin last earlier)
    | some (.leaf _) => none

/-- Define a table by its heading. -/
def Entries.define (key : String) (es : Entries) : Option Entries :=
  match es.get? key with
  | none => some (es.put key (.table .defined []))
  | some (.table .passed inner) => some (es.put key (.table .defined inner))
  | some _ => none

/-- Add a table to a list by its heading. -/
def Entries.extend (key : String) (es : Entries) : Option Entries :=
  match es.get? key with
  | none => some (es.put key (.list .defined [] []))
  | some (.list origin last earlier) => some (es.put key (.list origin [] (last :: earlier)))
  | some _ => none

/-- File a value under a dotted key. The last table on the way must have been opened by a dotted key
or be new; before it, headings may have passed, and a list stands for its last table. -/
def Entries.assign (value : Value) : List String → Entries → Option Entries
  | [], _ => none
  | [key], es => if (es.get? key).isSome then none else some (es.put key (.leaf value))
  | key :: next :: path, es =>
    match es.get? key with
    | none => (assign value (next :: path) []).map fun inner => es.put key (.table .dotted inner)
    | some (.table .dotted inner) =>
      (assign value (next :: path) inner).map fun inner => es.put key (.table .dotted inner)
    | some (.table .passed inner) =>
      if path.isEmpty then none
      else (assign value (next :: path) inner).map fun inner => es.put key (.table .passed inner)
    | some (.list origin last earlier) =>
      if path.isEmpty then none
      else (assign value (next :: path) last).map fun last => es.put key (.list origin last earlier)
    | some _ => none

mutual

/-- Read a value; arrays and tables may lie in one another `depth` deep. -/
def value? : Nat → List Char → Option (Value × List Char)
  | depth, cs =>
    match cs with
    | [] => none
    | c :: rest =>
      if c = '"' ∨ c = '\'' then (string? cs).map fun (s, rest) => (.string s, rest)
      else if c = '[' then
        match depth with
        | 0 => none
        | depth + 1 => (arrayItems? depth (rest.length + 1) [] rest).map fun (vs, rest) =>
            (.array vs, rest)
      else if c = '\x7b' then
        match depth with
        | 0 => none
        | depth + 1 => (inlineEntries? depth rest).map fun (es, rest) =>
            (.table (Node.entryValues es), rest)
      else if c = 't' then
        match rest with
        | 'r' :: 'u' :: 'e' :: rest => some (.flag true, rest)
        | _ => none
      else if c = 'f' then
        match rest with
        | 'a' :: 'l' :: 's' :: 'e' :: rest => some (.flag false, rest)
        | _ => none
      else
        match moment? cs with
        | some rest => some (.moment, rest)
        | none =>
          match fractional? cs <|> special? cs with
          | some rest => some (.fractional, rest)
          | none => (whole? cs).map fun (n, rest) => (.whole n, rest)

/-- Read the items of an array after its opening bracket; `seen` are those so far, reversed. -/
def arrayItems? (depth : Nat) : Nat → List Value → List Char → Option (List Value × List Char)
  | 0, _, _ => none
  | fuel + 1, seen, cs =>
    match skipLines cs with
    | ']' :: rest => some (seen.reverse, rest)
    | cs =>
      match value? depth cs with
      | none => none
      | some (v, rest) =>
        match skipLines rest with
        | ',' :: rest => arrayItems? depth fuel (v :: seen) rest
        | ']' :: rest => some ((v :: seen).reverse, rest)
        | _ => none

def inlineEntries? (depth : Nat) (cs : List Char) : Option (Entries × List Char) :=
  match skipSpace cs with
  | '\x7d' :: rest => some ([], rest)
  | cs => inlineMore? depth (cs.length + 1) [] cs

def inlineMore? (depth : Nat) : Nat → Entries → List Char → Option (Entries × List Char)
  | 0, _, _ => none
  | fuel + 1, es, cs =>
    match key? cs with
    | none => none
    | some (path, rest) =>
      match after? '=' rest with
      | none => none
      | some rest =>
        match value? depth (skipSpace rest) with
        | none => none
        | some (v, rest) =>
          match es.assign v path with
          | none => none
          | some es =>
            match skipSpace rest with
            | ',' :: rest => inlineMore? depth fuel es rest
            | '\x7d' :: rest => some (es, rest)
            | _ => none

end

/-- The path of the current heading and what has been read. -/
structure Draft where
  heading : List String := []
  root : Entries := []

def splitLast : List String → Option (List String × String)
  | [] => none
  | [key] => some ([], key)
  | key :: path => (splitLast path).map fun (front, last) => (key :: front, last)

/-- The text after blanks and a comment up to the end of the line. -/
def lineRest? (cs : List Char) : Option (List Char) :=
  match skipComment (skipSpace cs) with
  | [] => some []
  | cs => lineEnd? cs

def line? (d : Draft) (cs : List Char) : Option (Draft × List Char) :=
  match skipSpace cs with
  | '[' :: '[' :: rest => do
    let (path, rest) ← key? rest
    let rest ← after? ']' (← after? ']' rest)
    let (front, last) ← splitLast path
    let root ← d.root.underHeading (Entries.extend last) front
    return (⟨path, root⟩, ← lineRest? rest)
  | '[' :: rest => do
    let (path, rest) ← key? rest
    let rest ← after? ']' rest
    let (front, last) ← splitLast path
    let root ← d.root.underHeading (Entries.define last) front
    return (⟨path, root⟩, ← lineRest? rest)
  | cs => do
    match cs with
    | [] => return (d, [])
    | c :: _ =>
      if c = '#' ∨ c = '\n' ∨ c = '\r' then return (d, ← lineRest? cs)
      else
        let (path, rest) ← key? cs
        let (v, rest) ← value? (levelLimit - 1) (skipSpace (← after? '=' rest))
        let root ← d.root.underHeading (Entries.assign v path) d.heading
        return (⟨d.heading, root⟩, ← lineRest? rest)

def lines? : Nat → Draft → List Char → Option Draft
  | _, d, [] => some d
  | 0, _, _ => none
  | fuel + 1, d, cs => (line? d cs).bind fun (d, rest) => lines? fuel d rest

def dropMark : List Char → List Char
  | c :: rest => if c.toNat = 0xFEFF then rest else c :: rest
  | [] => []

/-- The root table of a document. -/
def parse? (s : String) : Option Value :=
  let cs := dropMark s.toList
  (lines? (cs.length + 1) {} cs).map fun d => .table (Node.entryValues d.root)

end Agora.Toml

import Agora.Binary64
import Agora.Bytes
import Agora.Text.Numeral
import Agora.Time.Stamp

/-!
The pieces of a TOML document: blanks and comments, the four kinds of strings, keys, numbers and
moments. Each reader gives what it read and the text after it, or nothing.
-/

set_option autoImplicit false

namespace Agora.Toml.Lexeme

def isSpace (c : Char) : Bool := c = ' ' || c = '\t'

/-- A character that may stand in comments and strings. -/
def isText (c : Char) : Bool := c = '\t' || (0x20 ≤ c.toNat && c.toNat ≠ 0x7F)

def skipSpace (cs : List Char) : List Char := cs.dropWhile isSpace

def lineEnd? : List Char → Option (List Char)
  | '\n' :: rest => some rest
  | '\r' :: '\n' :: rest => some rest
  | _ => none

def after? (c : Char) : List Char → Option (List Char)
  | d :: rest => if c = d then some rest else none
  | [] => none

def skipComment : List Char → List Char
  | '#' :: rest => rest.dropWhile isText
  | cs => cs

/-- The text after blanks, comments and line ends. -/
def skipFiller : Nat → List Char → List Char
  | 0, cs => cs
  | fuel + 1, cs =>
    let rest := skipComment (skipSpace cs)
    match lineEnd? rest with
    | some rest => skipFiller fuel rest
    | none => rest

def skipLines (cs : List Char) : List Char := skipFiller (cs.length + 1) cs

def scalar? (digits : List Char) : Option Char := do
  let values ← digits.mapM Bytes.hexValue?
  let n := values.foldl (fun n d => 16 * n + d) 0
  if n.isValidChar then some (Char.ofNat n) else none

def shortEscape? (c : Char) : Option Char :=
  if c = 'b' then some (Char.ofNat 8)
  else if c = 't' then some '\t'
  else if c = 'n' then some '\n'
  else if c = 'f' then some (Char.ofNat 12)
  else if c = 'r' then some '\r'
  else if c = '"' then some '"'
  else if c = '\\' then some '\\'
  else none

def escape? : List Char → Option (Char × List Char)
  | 'u' :: rest => (scalar? (rest.take 4)).bind fun c =>
      if (rest.take 4).length = 4 then some (c, rest.drop 4) else none
  | 'U' :: rest => (scalar? (rest.take 8)).bind fun c =>
      if (rest.take 8).length = 8 then some (c, rest.drop 8) else none
  | c :: rest => (shortEscape? c).map (·, rest)
  | [] => none

/-- A string of one line after its opening quote; `seen` is its text so far, reversed. -/
def quotedLine : Nat → List Char → List Char → Option (String × List Char)
  | 0, _, _ => none
  | _ + 1, _, [] => none
  | fuel + 1, seen, c :: rest =>
    if c = '"' then some (String.ofList seen.reverse, rest)
    else if c = '\\' then
      (escape? rest).bind fun (e, rest) => quotedLine fuel (e :: seen) rest
    else if isText c then quotedLine fuel (c :: seen) rest
    else none

/-- The quotes at the start of a text that close a string of several lines: how many of them belong
to the string, and the text after. -/
def closing? (quote : Char) (cs : List Char) : Option (Nat × List Char) :=
  let run := (cs.takeWhile (· = quote)).length
  if run < 3 then none else some (min run 5 - 3, cs.drop (min run 5))

def skipBlank : List Char → List Char
  | '\r' :: '\n' :: rest => skipBlank rest
  | c :: rest => if isSpace c || c = '\n' then skipBlank rest else c :: rest
  | [] => []

/-- The text after a backslash that ends a line, with all blanks and line ends that follow. -/
def joinedLine? (cs : List Char) : Option (List Char) := (lineEnd? (skipSpace cs)).map skipBlank

/-- A string of several lines after its opening quotes. -/
def quotedLines : Nat → List Char → List Char → Option (String × List Char)
  | 0, _, _ => none
  | _ + 1, _, [] => none
  | fuel + 1, seen, c :: rest =>
    match closing? '"' (c :: rest) with
    | some (own, rest) => some (String.ofList (List.replicate own '"' ++ seen).reverse, rest)
    | none =>
      if c = '\\' then
        match joinedLine? rest with
        | some rest => quotedLines fuel seen rest
        | none => (escape? rest).bind fun (e, rest) => quotedLines fuel (e :: seen) rest
      else
        match lineEnd? (c :: rest) with
        | some rest => quotedLines fuel ('\n' :: seen) rest
        | none => if isText c then quotedLines fuel (c :: seen) rest else none

def literalLines : Nat → List Char → List Char → Option (String × List Char)
  | 0, _, _ => none
  | _ + 1, _, [] => none
  | fuel + 1, seen, c :: rest =>
    match closing? '\'' (c :: rest) with
    | some (own, rest) => some (String.ofList (List.replicate own '\'' ++ seen).reverse, rest)
    | none =>
      match lineEnd? (c :: rest) with
      | some rest => literalLines fuel ('\n' :: seen) rest
      | none => if isText c then literalLines fuel (c :: seen) rest else none

def literalLine (cs : List Char) : Option (String × List Char) :=
  let body := cs.takeWhile fun c => isText c && c ≠ '\''
  (after? '\'' (cs.drop body.length)).map (String.ofList body, ·)

def dropLineEnd (cs : List Char) : List Char := (lineEnd? cs).getD cs

def lineString? : List Char → Option (String × List Char)
  | '"' :: rest => quotedLine (rest.length + 1) [] rest
  | '\'' :: rest => literalLine rest
  | _ => none

/-- A string of any kind. -/
def string? : List Char → Option (String × List Char)
  | '"' :: '"' :: '"' :: rest => quotedLines (rest.length + 1) [] (dropLineEnd rest)
  | '\'' :: '\'' :: '\'' :: rest => literalLines (rest.length + 1) [] (dropLineEnd rest)
  | cs => lineString? cs

def isBare (c : Char) : Bool := c.isAlphanum || c = '_' || c = '-'

def keyPart? (cs : List Char) : Option (String × List Char) :=
  match cs with
  | '"' :: _ => lineString? cs
  | '\'' :: _ => lineString? cs
  | _ =>
    let bare := cs.takeWhile isBare
    if bare.isEmpty then none else some (String.ofList bare, cs.drop bare.length)

/-- The parts of a key with dots between them, blanks around the dots being skipped. -/
def keyParts : Nat → List Char → Option (List String × List Char)
  | 0, _ => none
  | fuel + 1, cs => do
    let (part, rest) ← keyPart? (skipSpace cs)
    match skipSpace rest with
    | '.' :: rest =>
      let (parts, rest) ← keyParts fuel rest
      return (part :: parts, rest)
    | rest => return ([part], rest)

/-- The number of levels that a key or a value must stay below. -/
def levelLimit : Nat := 80

/-- A key; blanks around it are skipped. -/
def key? (cs : List Char) : Option (List String × List Char) := do
  let (parts, rest) ← keyParts (cs.length + 1) cs
  if parts.length < levelLimit then some (parts, rest) else none

/-- Digits with single underscores between them; the underscores are left out. -/
def digitRun (isDigit : Char → Bool) : List Char → List Char × List Char
  | [] => ([], [])
  | '_' :: d :: rest =>
    if isDigit d then let (ds, after) := digitRun isDigit rest; (d :: ds, after)
    else ([], '_' :: d :: rest)
  | c :: rest =>
    if isDigit c then let (ds, after) := digitRun isDigit rest; (c :: ds, after)
    else ([], c :: rest)

/-- Digits, the first of them without an underscore. -/
def digits? (isDigit : Char → Bool) : List Char → Option (List Char × List Char)
  | c :: rest => if isDigit c then some (digitRun isDigit (c :: rest)) else none
  | [] => none

/-- A sign, if there is one: whether it is minus, and the text after it. -/
def sign : List Char → Bool × List Char
  | '-' :: rest => (true, rest)
  | '+' :: rest => (false, rest)
  | cs => (false, cs)

/-- The digits of a decimal number: a zero stands alone. -/
def decimal? (cs : List Char) : Option (List Char × List Char) :=
  match cs with
  | '0' :: rest => some (['0'], rest)
  | _ => digits? Char.isDigit cs

def valueOf (base : Nat) (ds : List Char) : Nat :=
  ds.foldl (fun n d => base * n + (Bytes.hexValue? d).getD 0) 0

def isDigitOf (base : Nat) (c : Char) : Bool := (Bytes.hexValue? c).any (· < base)

/-- A whole number of a base named by a letter after a zero. -/
def based? : List Char → Option (Nat × List Char)
  | '0' :: 'x' :: rest => (digits? (isDigitOf 16) rest).map fun (ds, r) => (valueOf 16 ds, r)
  | '0' :: 'o' :: rest => (digits? (isDigitOf 8) rest).map fun (ds, r) => (valueOf 8 ds, r)
  | '0' :: 'b' :: rest => (digits? (isDigitOf 2) rest).map fun (ds, r) => (valueOf 2 ds, r)
  | _ => none

def whole? (cs : List Char) : Option (Int × List Char) :=
  match based? cs with
  | some (n, rest) => if n < 2 ^ 63 then some (Int.ofNat n, rest) else none
  | none => do
    let (negative, rest) := sign cs
    let (ds, rest) ← decimal? rest
    let n := valueOf 10 ds
    if negative then if n ≤ 2 ^ 63 then some (-Int.ofNat n, rest) else none
    else if n < 2 ^ 63 then some (Int.ofNat n, rest) else none

def fraction? (cs : List Char) : Option (List Char × List Char) :=
  (after? '.' cs).bind (digits? Char.isDigit)

/-- An exponent: whether it is negative, and its digits. -/
def exponent? (cs : List Char) : Option ((Bool × List Char) × List Char) :=
  match cs with
  | c :: rest =>
    if c = 'e' ∨ c = 'E' then
      let (negative, rest) := sign rest
      (digits? Char.isDigit rest).map fun (ds, rest) => ((negative, ds), rest)
    else none
  | [] => none

/-- The text after a number that is not whole; one that rounds to plus infinity is refused. -/
def fractional? (cs : List Char) : Option (List Char) := do
  let (negative, rest) := sign cs
  let (integer, rest) ← decimal? rest
  let (fraction, rest) := match fraction? rest with
    | some (ds, rest) => (some ds, rest)
    | none => (none, rest)
  let (exponent, rest) := match exponent? rest with
    | some (e, rest) => (some e, rest)
    | none => (none, rest)
  guard (fraction.isSome || exponent.isSome)
  let places := fraction.getD []
  let power : Int := match exponent with
    | some (true, ds) => -Int.ofNat (valueOf 10 ds)
    | some (false, ds) => Int.ofNat (valueOf 10 ds)
    | none => 0
  let significand := valueOf 10 (integer ++ places)
  if Binary64.overflows significand (power - places.length) && !negative then none else some rest

def special? (cs : List Char) : Option (List Char) :=
  match (sign cs).2 with
  | 'i' :: 'n' :: 'f' :: rest => some rest
  | 'n' :: 'a' :: 'n' :: rest => some rest
  | _ => none

/-- A number of exactly `width` digits from `least` to `most`. -/
def field? (width least most : Nat) (cs : List Char) : Option (Nat × List Char) :=
  let ds := cs.take width
  let n := valueOf 10 ds
  if ds.length = width && ds.all Char.isDigit && least ≤ n && n ≤ most then
    some (n, cs.drop width)
  else none

def date? (cs : List Char) : Option (List Char) := do
  let (year, rest) ← field? 4 0 9999 cs
  let (month, rest) ← field? 2 1 12 (← after? '-' rest)
  let (day, rest) ← field? 2 1 31 (← after? '-' rest)
  if day ≤ Time.daysInMonth year month then some rest else none

def clock? (cs : List Char) : Option (List Char) := do
  let (_, rest) ← field? 2 0 23 cs
  let (_, rest) ← field? 2 0 59 (← after? ':' rest)
  let (_, rest) ← field? 2 0 60 (← after? ':' rest)
  match rest with
  | '.' :: more =>
    match more with
    | d :: _ => if d.isDigit then some (more.dropWhile Char.isDigit) else some rest
    | [] => some rest
  | _ => some rest

def skipOffset (cs : List Char) : List Char :=
  let offset := match cs with
    | 'Z' :: rest => some rest
    | 'z' :: rest => some rest
    | c :: rest =>
      if c = '+' ∨ c = '-' then do
        let (_, rest) ← field? 2 0 23 rest
        let (_, rest) ← field? 2 0 59 (← after? ':' rest)
        return rest
      else none
    | [] => none
  offset.getD cs

/-- The text after a date, a time of day or both. -/
def moment? (cs : List Char) : Option (List Char) :=
  match date? cs with
  | some rest =>
    match rest with
    | c :: more =>
      if c = 'T' ∨ c = 't' ∨ c = ' ' then
        match clock? more with
        | some rest => some (skipOffset rest)
        | none => some rest
      else some rest
    | [] => some rest
  | none => clock? cs

end Agora.Toml.Lexeme

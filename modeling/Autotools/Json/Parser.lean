import Autotools.Json.Basic
import Autotools.Json.Text

/-! Reading JSON. A text with an escape that lacks its partner is read, but has no string: only
whoever needs that string must refuse it. -/

namespace Autotools.Json

/-- The characters that may stand between tokens. -/
def isSpace (c : Char) : Bool := c == ' ' || c == '\n' || c == '\t' || c == '\r'

def skipSpace (s : List Char) : List Char := s.dropWhile isSpace

/-- A run of digits that is not empty, and what follows it. -/
def digits? (s : List Char) : Option (List Char × List Char) :=
  let run := s.takeWhile Char.isDigit
  if run.isEmpty then none else some (run, s.dropWhile Char.isDigit)

/-- The whole part of a number: a zero alone, or digits that start with another one. -/
def whole? : List Char → Option (List Char × List Char)
  | '0' :: rest => some (['0'], rest)
  | s => digits? s

/-- The fraction of a number, which may be absent. -/
def fraction? : List Char → Option (List Char × List Char)
  | '.' :: rest => (digits? rest).map fun r => ('.' :: r.1, r.2)
  | s => some ([], s)

/-- The sign of an exponent, which may be absent. -/
def exponentSign : List Char → List Char × List Char
  | '+' :: rest => (['+'], rest)
  | '-' :: rest => (['-'], rest)
  | s => ([], s)

/-- The exponent of a number, which may be absent. -/
def exponent? : List Char → Option (List Char × List Char)
  | c :: rest =>
    if c == 'e' || c == 'E' then
      let (sign, rest) := exponentSign rest
      (digits? rest).map fun r => (c :: sign ++ r.1, r.2)
    else
      some ([], c :: rest)
  | [] => some ([], [])

/-- A number without its sign. -/
def unsigned? (s : List Char) : Option (List Char × List Char) := do
  let (whole, s) ← whole? s
  let (fraction, s) ← fraction? s
  let (exponent, s) ← exponent? s
  return (whole ++ fraction ++ exponent, s)

/-- The literal of a number, and what follows it. -/
def number? : List Char → Option (List Char × List Char)
  | '-' :: rest => (unsigned? rest).map fun r => ('-' :: r.1, r.2)
  | s => unsigned? s

/-- A text after its opening quote, and what follows it. -/
def text? (s : List Char) : Option (Option String × List Char) := do
  let (pieces, rest) ← pieces? s
  return ((joinPieces? pieces).map String.ofList, rest)

mutual

/-- A value, and what follows it. Nested values take a unit of fuel each. -/
def value? : Nat → List Char → Option (Json (Option String) × List Char)
  | 0, _ => none
  | fuel + 1, s =>
    match skipSpace s with
    | 'n' :: 'u' :: 'l' :: 'l' :: rest => some (.null, rest)
    | 't' :: 'r' :: 'u' :: 'e' :: rest => some (.bool true, rest)
    | 'f' :: 'a' :: 'l' :: 's' :: 'e' :: rest => some (.bool false, rest)
    | '"' :: rest => (text? rest).map fun r => (.string r.1, r.2)
    | '[' :: rest =>
      match skipSpace rest with
      | ']' :: rest => some (.array [], rest)
      | _ => (items? fuel rest).map fun r => (.array r.1, r.2)
    | '\x7b' :: rest =>
      match skipSpace rest with
      | '\x7d' :: rest => some (.object [], rest)
      | _ => (members? fuel rest).map fun r => (.object r.1, r.2)
    | s => (number? s).map fun r => (.number (String.ofList r.1), r.2)

/-- The items of an array from the first or next one to the closing bracket. -/
def items? : Nat → List Char → Option (List (Json (Option String)) × List Char)
  | 0, _ => none
  | fuel + 1, s =>
    match value? fuel s with
    | none => none
    | some (v, rest) =>
      match skipSpace rest with
      | ',' :: rest => (items? fuel rest).map fun r => (v :: r.1, r.2)
      | ']' :: rest => some ([v], rest)
      | _ => none

/-- The members of an object from the first or next one to the closing brace. -/
def members? : Nat → List Char →
    Option (List (Option String × Json (Option String)) × List Char)
  | 0, _ => none
  | fuel + 1, s =>
    match skipSpace s with
    | '"' :: rest =>
      match text? rest with
      | none => none
      | some (key, rest) =>
        match skipSpace rest with
        | ':' :: rest =>
          match value? fuel rest with
          | none => none
          | some (v, rest) =>
            match skipSpace rest with
            | ',' :: rest => (members? fuel rest).map fun r => ((key, v) :: r.1, r.2)
            | '\x7d' :: rest => some ([(key, v)], rest)
            | _ => none
        | _ => none
    | _ => none

end

/-- The one value that a text holds. -/
def parse? (s : String) : Option (Json (Option String)) := do
  let (v, rest) ← value? (s.toList.length + 1) s.toList
  if (skipSpace rest).isEmpty then some v else none

/-- The one value that a text holds, with all its texts well-formed. -/
def parseStrict? (s : String) : Option Value := (parse? s).bind strict

end Autotools.Json

import SharedChannel.Logging.Conversion
import SharedChannel.Number.Reading
import SharedChannel.Text.Word

/-!
Formats of log lines. A format is text with conversions, each a percent sign with the name of a
field in parentheses, flags, a width, a precision and a letter. `isValid` demands one well-formed
conversion; `render` splits a format into its pieces and fills in the fields, and fails as a whole
if any piece does. A conversion without a name shows the record itself, which is only possible once
and before any field.
-/

namespace SharedChannel.Logging

namespace Format

/-- The format of an empty one. -/
def plain : String := "%(message)s"

def isFlag (c : Char) : Bool := c == '#' || c == '0' || c == '+' || c == ' ' || c == '-'

/-- Letters of conversions in either case, with the three letters outside ASCII that count as one
of them when case does not matter. -/
def isLetter (c : Char) : Bool :=
  "diouxefgcrsaDIOUXEFGCRSA%İıſ".toList.contains c

/-- A number or a star, which stands for one. -/
def skipCount : List Char → List Char
  | '*' :: rest => rest
  | cs => cs.dropWhile Text.isDecimal

def skipPrecision : List Char → List Char
  | '.' :: rest =>
    let after := skipCount rest
    if after.length < rest.length then after else '.' :: rest
  | cs => cs

/-- Whether a conversion stands at the beginning. -/
def startsConversion : List Char → Bool
  | '%' :: '(' :: rest =>
    let name := rest.takeWhile Text.isWord
    match rest.dropWhile Text.isWord with
    | ')' :: after =>
      !name.isEmpty &&
        ((skipPrecision (skipCount (after.dropWhile isFlag))).head?.map isLetter).getD false
    | _ => false
  | _ => false

def hasConversion : List Char → Bool
  | [] => false
  | c :: rest => startsConversion (c :: rest) || hasConversion rest

def isValid (format : String) : Bool := hasConversion format.toList

/-- The name of a field up to its closing parenthesis, inner ones in balance; `depth` of them are
open within. -/
def fieldName : Nat → List Char → Option (List Char × List Char)
  | _, [] => none
  | 0, ')' :: rest => some ([], rest)
  | depth + 1, ')' :: rest => (fieldName depth rest).map fun r => (')' :: r.1, r.2)
  | depth, '(' :: rest => (fieldName (depth + 1) rest).map fun r => ('(' :: r.1, r.2)
  | depth, c :: rest => (fieldName depth rest).map fun r => (c :: r.1, r.2)

def precision? : List Char → Option (Option Nat × List Char)
  | '.' :: rest =>
    let n := Text.numeralValue (rest.takeWhile Numeral.isAsciiDigit)
    if n < Conversion.precisionLimit then
      some (some n, rest.dropWhile Numeral.isAsciiDigit)
    else none
  | cs => some (none, cs)

/-- A size mark in front of the letter says nothing. -/
def skipSize : List Char → List Char
  | 'h' :: rest => rest
  | 'l' :: rest => rest
  | 'L' :: rest => rest
  | cs => cs

/-- The conversion after the name of its field. -/
def conversion? (cs : List Char) : Option (Conversion × List Char) := do
  let flags := cs.takeWhile isFlag
  let cs := cs.dropWhile isFlag
  let width := Text.numeralValue (cs.takeWhile Numeral.isAsciiDigit)
  if !(width < Conversion.widthLimit) then none
  let (precision, cs) ← precision? (cs.dropWhile Numeral.isAsciiDigit)
  match skipSize cs with
  | letter :: rest => some (⟨flags, width, precision, letter⟩, rest)
  | [] => none

/-- A piece of a format: a character that stands for itself, or the conversion of a field or of the
whole record. -/
inductive Piece where
  | char (c : Char)
  | field (name : String) (c : Conversion)
  | record (c : Conversion)
deriving DecidableEq, Repr

/-- The piece behind a percent sign and the rest of the format. -/
def afterPercent : List Char → Option (Piece × List Char)
  | '%' :: rest => some (.char '%', rest)
  | '(' :: rest => do
    let (name, rest) ← fieldName 0 rest
    let (c, rest) ← conversion? rest
    some (.field (String.ofList name) c, rest)
  | cs => do
    let (c, rest) ← conversion? cs
    some (.record c, rest)

/-- The pieces from here on; `skip` characters belong to the conversion read last. -/
def piecesFrom : Nat → List Char → Option (List Piece)
  | _, [] => some []
  | skip + 1, _ :: rest => piecesFrom skip rest
  | 0, '%' :: rest => do
    let (piece, after) ← afterPercent rest
    return piece :: (← piecesFrom (rest.length - after.length) rest)
  | 0, c :: rest => (.char c :: ·) <$> piecesFrom 0 rest

def pieces? (format : String) : Option (List Piece) := piecesFrom 0 format.toList

def showField (c : Conversion) (f : Field) : Option (List Char) := (c.convert f).bind c.pad

/-- The pieces filled in; `free` as long as the record itself can be shown. -/
def renderPieces (r : Record) : Bool → List Piece → Option (List Char)
  | _, [] => some []
  | free, .char c :: rest => (c :: ·) <$> renderPieces r free rest
  | _, .field name c :: rest => do
    let shown ← showField c (← r.fields.lookup name)
    return shown ++ (← renderPieces r false rest)
  | true, .record c :: rest => do
    let shown ← showField c r.toField
    return shown ++ (← renderPieces r false rest)
  | false, .record _ :: _ => none

/-- The line of a record, if the format is well formed and everything in it can be shown. -/
def render (r : Record) (format : String) : Option String := do
  return String.ofList (← renderPieces r true (← pieces? format))

end Format

end SharedChannel.Logging

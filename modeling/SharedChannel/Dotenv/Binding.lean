import SharedChannel.Text.Blank

/-!
Bindings of a dotenv file, in the grammar of dotenv 1.2.4. A line binds a name to a value in single
quotes, double quotes or none; comments, blank lines and a leading `export` are passed over, and a
line that fits no form is dropped from where it stops fitting. `bindings` reads a whole file.
-/

namespace SharedChannel.Dotenv

abbrev Chars := List Char

/-- A name, with a value if the line has an equals sign. -/
structure Binding where
  name : String
  value : Option String
deriving DecidableEq, Repr, Inhabited

def isLineEnd (c : Char) : Bool := c == '\n' || c == '\r'

/-- A blank within a line. -/
def isSpace (c : Char) : Bool := Text.isBlank c && !isLineEnd c

def skipSpaces (cs : Chars) : Chars := cs.dropWhile isSpace

def restOfLine (cs : Chars) : Chars := cs.dropWhile (!isLineEnd ·)

def keyword : Chars := ['e', 'x', 'p', 'o', 'r', 't']

/-- Drops the keyword and the spaces behind it, of which there must be one. -/
def skipExport (cs : Chars) : Chars :=
  if keyword.isPrefixOf cs then
    match cs.drop keyword.length with
    | c :: rest => if isSpace c then skipSpaces rest else cs
    | [] => cs
  else cs

/-- What a part of a line gives with the text after it, or the place where nothing fits. -/
abbrev Part (α : Type) := Except Chars (α × Chars)

def isNameChar (c : Char) : Bool := c != '=' && c != '#' && !Text.isBlank c

/-- A name, in single quotes or bare. A comment has none. -/
def name : Chars → Part (Option String)
  | '#' :: rest => .ok (none, '#' :: rest)
  | '\'' :: rest =>
    let inner := rest.takeWhile (· != '\'')
    match rest.dropWhile (· != '\'') with
    | _ :: after =>
      if inner.isEmpty then .error ('\'' :: rest) else .ok (some (String.ofList inner), after)
    | [] => .error ('\'' :: rest)
  | cs =>
    let inner := cs.takeWhile isNameChar
    if inner.isEmpty then .error cs
    else .ok (some (String.ofList inner), cs.dropWhile isNameChar)

/-- The text up to the closing mark; a backslash takes the next character with it. -/
def quotedPart (mark : Char) : Chars → Option (Chars × Chars)
  | [] => none
  | ['\\'] => none
  | '\\' :: c :: rest => (quotedPart mark rest).map fun r => ('\\' :: c :: r.1, r.2)
  | c :: rest =>
    if c == mark then some ([], rest) else (quotedPart mark rest).map fun r => (c :: r.1, r.2)

/-- Replaces each backslash and letter that mean one character. -/
def unescape (meaning : Char → Option Char) : Chars → Chars
  | [] => []
  | '\\' :: c :: rest =>
    match meaning c with
    | some d => d :: unescape meaning rest
    | none => '\\' :: c :: unescape meaning rest
  | c :: rest => c :: unescape meaning rest

def singleQuoteEscape (c : Char) : Option Char :=
  if c == '\\' || c == '\'' then some c else none

def doubleQuoteEscape : Char → Option Char
  | '\\' => some '\\'
  | '\'' => some '\''
  | '"' => some '"'
  | 'a' => some '\x07'
  | 'b' => some '\x08'
  | 'f' => some '\x0c'
  | 'n' => some '\n'
  | 'r' => some '\r'
  | 't' => some '\t'
  | 'v' => some '\x0b'
  | _ => none

/-- What comes before the first comment sign that follows a blank. -/
def beforeComment : Chars → Chars
  | [] => []
  | c :: '#' :: rest => if Text.isBlank c then [] else c :: beforeComment ('#' :: rest)
  | c :: rest => c :: beforeComment rest

def quotedValue (mark : Char) (meaning : Char → Option Char) (rest : Chars) : Part String :=
  match quotedPart mark rest with
  | some (inner, after) => .ok (String.ofList (unescape meaning inner), after)
  | none => .error (mark :: rest)

/-- The value after the equals sign and the spaces behind it. -/
def value : Chars → Part String
  | '\'' :: rest => quotedValue '\'' singleQuoteEscape rest
  | '"' :: rest => quotedValue '"' doubleQuoteEscape rest
  | cs =>
    let line := cs.takeWhile (!isLineEnd ·)
    .ok (String.ofList (Text.trimBlanks (beforeComment line)), restOfLine cs)

/-- The equals sign with its value, or neither. -/
def assignment : Chars → Part (Option String)
  | '=' :: rest =>
    match skipSpaces rest with
    | '#' :: after =>
      if (rest.head?.map isSpace).getD false then .ok (some "", '#' :: after)
      else (value ('#' :: after)).map fun r => (some r.1, r.2)
    | cs => (value cs).map fun r => (some r.1, r.2)
  | cs => .ok (none, cs)

/-- A comment, if there is one, and the end of the line. -/
def lineEnd (cs : Chars) : Except Chars Chars :=
  let cs :=
    match skipSpaces cs with
    | '#' :: rest => restOfLine rest
    | rest => rest
  match cs with
  | [] => .ok []
  | c :: rest => if isLineEnd c then .ok rest else .error (c :: rest)

def line (cs : Chars) : Except Chars (Option Binding × Chars) := do
  let (key, cs) ← name (skipExport cs)
  let (bound, cs) ← assignment (skipSpaces cs)
  let cs ← lineEnd cs
  return (key.map (⟨·, bound⟩), cs)

/-- The next binding, if the next line has one, and the text after that line. -/
def next (cs : Chars) : Option Binding × Chars :=
  match Text.dropBlanks cs with
  | [] => (none, [])
  | cs =>
    match line cs with
    | .ok r => r
    | .error place => (none, (restOfLine place).drop 1)

/-- The bindings of a text in order. Every line takes something away from the text. -/
def bindings (cs : Chars) : List Binding :=
  if _h : (next cs).2.length < cs.length then (next cs).1.toList ++ bindings (next cs).2
  else (next cs).1.toList
termination_by cs.length

end SharedChannel.Dotenv

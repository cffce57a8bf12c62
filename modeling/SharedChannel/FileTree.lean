import SharedChannel.Association
import SharedChannel.Failure
import SharedChannel.Text.Split

/-!
The files below the current directory. A `FileTree` holds the contents of files and the directories
there are. A path is read in two ways: `Path.ofText` simplifies it without a look at the tree, and
`locate` follows it through the tree, where only directories lead further.
-/

namespace SharedChannel

/-- The names on the way from the current directory. Leading double dots lead above it, and a
leading slash to the root. -/
abbrev Path := List String

namespace Path

def root : Path := ["/"]

/-- The directories that are always there: the current one, those above it and the root. -/
def isAlwaysThere (p : Path) : Bool := p.all (· == "..") || p == root

/-- One more name: a dot stays where it is, two dots lead up. -/
def step (p : Path) (name : String) : Path :=
  if name == "" || name == "." then p
  else if name == ".." then
    if p == root then root else if p.isAlwaysThere then p ++ [name] else p.dropLast
  else p ++ [name]

/-- The names in a text. -/
def names (s : String) : List String :=
  let parts := Text.split '/' s
  if s.toList.head? == some '/' then root ++ parts else parts

/-- The path without its dots. -/
def ofText (s : String) : Path := (names s).foldl step []

def toText (p : Path) : String := "/".intercalate p

/-- The nonempty beginnings of a path. -/
def beginnings (p : Path) : List Path := (List.range p.length).map fun n => p.take (n + 1)

end Path

structure FileTree (α : Type) where
  files : List (Path × α) := []
  directories : List Path := []
deriving DecidableEq, Repr, Inhabited

namespace FileTree

variable {α : Type}

/-- The longest name, in octets. -/
def nameLimit : Nat := 255

/-- A path has fewer octets than this. -/
def pathLimit : Nat := 4096

def read? (t : FileTree α) (p : Path) : Option α := t.files.lookup p

def isFile (t : FileTree α) (p : Path) : Bool := (t.read? p).isSome

def isDirectory (t : FileTree α) (p : Path) : Bool := p.isAlwaysThere || t.directories.contains p

def write (t : FileTree α) (p : Path) (a : α) : FileTree α :=
  { t with files := Association.put p a t.files }

def remove (t : FileTree α) (p : Path) : FileTree α :=
  { t with files := Association.drop p t.files }

/-- Makes the directory and those on the way to it. -/
def makeDirectory (t : FileTree α) (p : Path) : FileTree α :=
  { t with directories := t.directories ++ p.beginnings.filter (!t.isDirectory ·) }

/-- One step on the way. -/
def enter (t : FileTree α) (p : Path) (name : String) : Except Failure Path :=
  if t.isFile p then .error .parentIsFile
  else if !t.isDirectory p then .error .noSuchFile
  else if nameLimit < name.utf8ByteSize then .error .nameTooLong
  else .ok (p.step name)

/-- The place at the end of a way, which need not be there itself. -/
def follow (t : FileTree α) (names : List String) : Except Failure Path :=
  let s := Path.toText names
  if s.toList.contains '\x00' then .error .embeddedNull
  else if pathLimit ≤ s.utf8ByteSize then .error .nameTooLong
  else names.foldlM t.enter []

/-- The place that a text names. -/
def locate (t : FileTree α) (s : String) : Except Failure Path :=
  if s.isEmpty then .error .noSuchFile else t.follow (Path.names s)

/-- The contents of the file that a text names, if it names one. -/
def find? (t : FileTree α) (s : String) : Option α := (t.locate s).toOption.bind t.read?

/-- A tree in which a file holds `a`. What ends in a slash can only be a directory. -/
def save (t : FileTree α) (s : String) (a : α) : Except Failure (FileTree α) := do
  let name := (s.toList.reverse.dropWhile (· == '/')).reverse
  let p ← t.locate (String.ofList name)
  if name.length < s.length || t.isDirectory p then throw .fileIsDirectory
  return t.write p a

/-- A tree without a file that was there. -/
def delete (t : FileTree α) (s : String) : Except Failure (FileTree α) := do
  let p ← t.locate s
  if t.isDirectory p then throw .fileIsDirectory
  if !t.isFile p then throw .noSuchFile
  return t.remove p

/-- A tree in which the file exists, with `blank` contents if it is new. -/
def openToAppend (t : FileTree α) (p : Path) (blank : α) : Except Failure (FileTree α) := do
  let p ← t.follow p
  if t.isDirectory p then throw .fileIsDirectory
  if t.isFile p then return t
  return t.write p blank

/-- The files of the current directory itself, by name. -/
def listing (t : FileTree α) : List (String × α) :=
  (t.files.filterMap fun f =>
    match f.1 with
    | [name] => some (name, f.2)
    | _ => none).mergeSort fun a b => decide (a.1 ≤ b.1)

theorem read?_write (t : FileTree α) (p x : Path) (a : α) :
    (t.write p a).read? x = if x == p then some a else t.read? x :=
  Association.lookup_put p x a t.files

theorem read?_remove (t : FileTree α) (p x : Path) :
    (t.remove p).read? x = if x == p then none else t.read? x :=
  Association.lookup_drop p x t.files

end FileTree

end SharedChannel

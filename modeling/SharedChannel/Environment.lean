import SharedChannel.Association
import SharedChannel.Failure

/-!
The process environment: variables in the order in which they were first set. `set` binds one
name and leaves the others alone, `erase` removes one, and `sorted` lists them by name. `assign`
binds only what the system takes as a name and a value.
-/

namespace SharedChannel

structure Environment where
  bindings : List (String × String)
deriving DecidableEq, Repr, Inhabited

namespace Environment

def empty : Environment := ⟨[]⟩

def get? (e : Environment) (name : String) : Option String := e.bindings.lookup name

def getD (e : Environment) (name default : String) : String := (e.get? name).getD default

def has (e : Environment) (name : String) : Bool := (e.get? name).isSome

def set (e : Environment) (name value : String) : Environment :=
  ⟨Association.put name value e.bindings⟩

/-- Names are not empty and hold no equals sign; neither names nor values hold a null. -/
def assign (e : Environment) (name value : String) : Except Failure Environment := do
  if name.toList.contains '\x00' || value.toList.contains '\x00' then throw .embeddedNull
  if name.toList.contains '=' then throw .illegalVariableName
  if name.isEmpty then throw .emptyVariableName
  return e.set name value

def erase (e : Environment) (name : String) : Environment :=
  ⟨Association.drop name e.bindings⟩

def ofList (bs : List (String × String)) : Environment :=
  bs.foldl (fun e b => e.set b.1 b.2) empty

def sorted (e : Environment) : List (String × String) :=
  e.bindings.mergeSort fun a b => decide (a.1 ≤ b.1)

theorem get?_set (e : Environment) (name value x : String) :
    (e.set name value).get? x = if x == name then some value else e.get? x :=
  Association.lookup_put name x value e.bindings

theorem get?_erase (e : Environment) (name x : String) :
    (e.erase name).get? x = if x == name then none else e.get? x :=
  Association.lookup_drop name x e.bindings

end Environment

end SharedChannel

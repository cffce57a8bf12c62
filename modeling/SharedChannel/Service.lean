import SharedChannel.Failure
import SharedChannel.Text.Split

/-!
The remote services and their generated stubs. `Service.all` is the fixed catalogue in the order in
which a client builds its stubs; `Supply.load` looks a name up by import path among the modules that
exist, where it finds stub classes and what every module has.
-/

namespace SharedChannel

/-- Import paths as lists of names. -/
abbrev ModulePath := List String

namespace ModulePath

/-- A dotted path; an empty text has one empty name. -/
def ofText (s : String) : ModulePath := Text.split '.' s

def toText (p : ModulePath) : String := ".".intercalate p

/-- The nonempty beginnings of a path, the shortest first. -/
def beginnings : ModulePath → List ModulePath
  | [] => []
  | name :: rest => [name] :: (beginnings rest).map (name :: ·)

end ModulePath

/-- Where the stub of a remote service lives. -/
structure Service where
  accessor : String
  path : ModulePath
  stub : String
deriving DecidableEq, Repr, Inhabited

namespace Service

def all : List Service := [
  ⟨"system_service", ["zitadel", "system_pb2_grpc"], "SystemServiceStub"⟩,
  ⟨"admin_service", ["zitadel", "admin_pb2_grpc"], "AdminServiceStub"⟩,
  ⟨"management_service", ["zitadel", "management_pb2_grpc"], "ManagementServiceStub"⟩,
  ⟨"auth_service", ["zitadel", "auth_pb2_grpc"], "AuthServiceStub"⟩,
  ⟨"user_service", ["zitadel", "user", "v2beta", "user_service_pb2_grpc"], "UserServiceStub"⟩,
  ⟨"user_service_v2", ["zitadel", "user", "v2", "user_service_pb2_grpc"], "UserServiceStub"⟩,
  ⟨"settings_service", ["zitadel", "settings", "v2beta", "settings_service_pb2_grpc"],
    "SettingsServiceStub"⟩,
  ⟨"settings_service_v2", ["zitadel", "settings", "v2", "settings_service_pb2_grpc"],
    "SettingsServiceStub"⟩,
  ⟨"session_service", ["zitadel", "session", "v2beta", "session_service_pb2_grpc"],
    "SessionServiceStub"⟩,
  ⟨"session_service_v2", ["zitadel", "session", "v2", "session_service_pb2_grpc"],
    "SessionServiceStub"⟩,
  ⟨"organization_service", ["zitadel", "org", "v2beta", "org_service_pb2_grpc"],
    "OrganizationServiceStub"⟩,
  ⟨"organization_service_v2", ["zitadel", "org", "v2", "org_service_pb2_grpc"],
    "OrganizationServiceStub"⟩,
  ⟨"oidc_service", ["zitadel", "oidc", "v2beta", "oidc_service_pb2_grpc"], "OIDCServiceStub"⟩,
  ⟨"oidc_service_v2", ["zitadel", "oidc", "v2", "oidc_service_pb2_grpc"], "OIDCServiceStub"⟩]

end Service

/-- What a look-up finds: a name and, if it is known, the module of its definition. -/
structure Definition where
  home : Option String
  name : String
deriving DecidableEq, Repr, Inhabited

namespace Definition

/-- The operations of every module. No module is known for them. -/
def operations : List String := [
  "__dir__", "__format__", "__getstate__", "__init_subclass__", "__new__", "__reduce__",
  "__reduce_ex__", "__sizeof__", "__subclasshook__"]

/-- The operations of every module that tell nothing of their definition. -/
def wrappers : List String := [
  "__delattr__", "__eq__", "__ge__", "__getattribute__", "__gt__", "__hash__", "__init__", "__le__",
  "__lt__", "__ne__", "__repr__", "__setattr__", "__str__"]

/-- The values that modules have under names of their own, by kind. A package also has a list. -/
def plainKinds (isPackage : Bool) : List (String × String) :=
  (if isPackage then [("__path__", "list")] else []) ++ [
    ("__annotations__", "dict"), ("__dict__", "dict"), ("__doc__", "NoneType"),
    ("__loader__", "NoneType"), ("__name__", "str"), ("__package__", "NoneType"),
    ("__spec__", "NoneType")]

/-- What every module has under a name. A plain value has no definition to look for. -/
def common? (isPackage : Bool) (name : String) : Option (Except Failure Definition) :=
  if name == "__class__" then some (.ok ⟨some "builtins", "module"⟩)
  else if operations.contains name then some (.ok ⟨none, name⟩)
  else
    let kinds := plainKinds isPackage ++ wrappers.map (·, "method-wrapper")
    (kinds.lookup name).map fun kind => .error (.unknownAttribute kind "__module__")

end Definition

/-- What there is of the generated stubs: services whose module is missing, fails to be imported or
lacks the class, and services whose stub cannot be built. -/
structure Supply where
  absent : Bool := false
  missing : List String := []
  broken : List (String × Failure) := []
  classless : List String := []
  failing : List (String × Failure) := []
deriving DecidableEq, Repr, Inhabited

namespace Supply

def modules (s : Supply) : List ModulePath :=
  if s.absent then []
  else (Service.all.filter fun service => !s.missing.contains service.accessor).map (·.path)

/-- A package is whatever lies above a generated module, be that module there or not. -/
def packages (s : Supply) : List ModulePath :=
  if s.absent then [] else Service.all.flatMap fun service => service.path.beginnings.dropLast

/-- What a module that is there fails with when it is imported. -/
def importFailure? (s : Supply) (path : ModulePath) : Option Failure :=
  (Service.all.find? (·.path == path)).bind fun service => s.broken.lookup service.accessor

/-- Imports the parents of a module before the module itself. -/
def importEach (s : Supply) (parent : Option ModulePath) : List ModulePath → Except Failure Unit
  | [] => .ok ()
  | path :: deeper =>
    if s.packages.contains path || s.modules.contains path then
      match s.importFailure? path with
      | some f => .error f
      | none => importEach s (some path) deeper
    else
      match parent with
      | some p =>
        if s.packages.contains p then .error (.missingModule path.toText)
        else .error (.notAPackage path.toText p.toText)
      | none => .error (.missingModule path.toText)

def importModule (s : Supply) (path : ModulePath) : Except Failure Unit :=
  match path with
  | [] | [""] => .error .emptyModuleName
  | "" :: _ => .error (.relativeModule path.toText)
  | _ => s.importEach none path.beginnings

def classes (s : Supply) (path : ModulePath) : List String :=
  (Service.all.filter fun service =>
    service.path == path && !s.classless.contains service.accessor).map (·.stub)

/-- Looks for the class `stub` of a module, or for what every module has under that name. -/
def load (s : Supply) (path : ModulePath) (stub : String) : Except Failure Definition := do
  s.importModule path
  if (s.classes path).contains stub then return ⟨some path.toText, stub⟩
  match Definition.common? (s.packages.contains path) stub with
  | some r => r
  | none => throw (.missingClass path.toText stub)

end Supply

end SharedChannel

import SharedChannel.Value
import SharedChannel.Text.Utf8

/-!
Failures. A `Failure` is the cause of an unsuccessful step; `kind` tells how callers may catch it
and `message` is its text. Failures of collaborators are passed on as they are, in `raised`, or in
`mute` if they have no text: then asking for one fails in its turn.
-/

namespace SharedChannel

/-- How a failure can be caught. -/
inductive FailureKind where
  | client
  | invalidEndpoint
  | transportSecurity
  | general
  | value
  | decoding
  | type
  | runtime
  | recursion
  | lookup
  | missingKey
  | importing
  | missingModule
  | missingAttribute
  | frozenField
  | arithmetic
  | overflow
  | timeout
  | system
  | missingFile
  | isDirectory
  | notDirectory
  | interrupt
  | exit
deriving DecidableEq, Repr

namespace FailureKind

/-- An ordinary failure, which cleanup handlers see. An interrupt or an exit passes them by. -/
def isOrdinary : FailureKind → Bool
  | interrupt | exit => false
  | _ => true

/-- The kinds under which a failure of this kind is caught, its own first. -/
def lineage : FailureKind → List FailureKind
  | client => [client, general]
  | invalidEndpoint => [invalidEndpoint, client, value, general]
  | transportSecurity => [transportSecurity, client, general]
  | general => [general]
  | decoding => [decoding, value, general]
  | recursion => [recursion, runtime, general]
  | missingKey => [missingKey, lookup, general]
  | missingModule => [missingModule, importing, general]
  | frozenField => [frozenField, missingAttribute, general]
  | overflow => [overflow, arithmetic, general]
  | missingFile => [missingFile, system, general]
  | isDirectory => [isDirectory, system, general]
  | notDirectory => [notDirectory, system, general]
  | interrupt => [interrupt]
  | exit => [exit]
  | k => [k, general]

def isA (k broader : FailureKind) : Bool := k.lineage.contains broader

end FailureKind

inductive Failure where
  /-- A collaborator's own failure. -/
  | raised (kind : FailureKind) (message : String)
  /-- A collaborator's own failure that has no text. To ask for one fails by the cause. -/
  | mute (kind : FailureKind) (cause : Failure)
  | emptyDomain
  | domainNotSet
  /-- With the domain as messages show it. -/
  | notBareHostname (domain : String)
  | invalidPort (port : String)
  | notANumeral (port : String)
  | tooManyDigits (count : Nat)
  | overlongNumeral
  | notSearchable (haystack : Value)
  | searchNeedsText (needle : Value)
  | searchNeedsBytes (needle : Value)
  | unhashable (v : Value)
  | missingServerDomain
  | noCertificate
  | noTransport
  | plaintextCredentials (host : String)
  | emptyPersonalToken
  | missingProvider
  | missingChannel
  | missingStubs
  | missingKey (key : String)
  | missingMethod
  | unknownAttribute (owner name : String)
  | notAClass (v : Value)
  | notADictionary (v : Value)
  | notWritable (owner name : String)
  | initializationTimeout
  | notADuration (v : Value)
  | durationOverflow
  | closedChannel
  | notAnInterceptor
  | emptyModuleName
  | relativeModule (name : String)
  | missingModule (name : String)
  | notAPackage (name parent : String)
  | missingClass (path name : String)
  | frozenField (name : String)
  | readOnlyProperty (name : String)
  | unknownLevel (name : String)
  | invalidFormat (format : String)
  | undecodable (failure : Text.Utf8Failure)
  | illegalVariableName
  | emptyVariableName
  | embeddedNull
  | nameTooLong
  | noSuchFile
  | fileIsDirectory
  | parentIsFile
deriving DecidableEq, Repr

namespace Failure

def kind : Failure → FailureKind
  | raised k _ | mute k _ => k
  | emptyDomain | domainNotSet | notBareHostname _ | invalidPort _ => .invalidEndpoint
  | missingServerDomain | noCertificate | noTransport | plaintextCredentials _ =>
    .transportSecurity
  | notANumeral _ | tooManyDigits _ | overlongNumeral | emptyPersonalToken | closedChannel
  | emptyModuleName | unknownLevel _ | invalidFormat _ | illegalVariableName | embeddedNull =>
    .value
  | notSearchable _ | searchNeedsText _ | searchNeedsBytes _ | unhashable _ | notADuration _
  | notAnInterceptor | relativeModule _ | missingStubs | missingMethod | notAClass _
  | notADictionary _ => .type
  | missingProvider | missingChannel | unknownAttribute _ _ | missingClass _ _
  | readOnlyProperty _ | notWritable _ _ => .missingAttribute
  | missingKey _ => .missingKey
  | initializationTimeout => .timeout
  | durationOverflow => .overflow
  | missingModule _ | notAPackage _ _ => .missingModule
  | frozenField _ => .frozenField
  | undecodable _ => .decoding
  | emptyVariableName | nameTooLong => .system
  | noSuchFile => .missingFile
  | fileIsDirectory => .isDirectory
  | parentIsFile => .notDirectory

def isOrdinary (f : Failure) : Bool := f.kind.isOrdinary

def utf8Reason : Text.Utf8Fault → String
  | .badStart => "invalid start byte"
  | .badContinuation => "invalid continuation byte"
  | .truncated => "unexpected end of data"

/-- One unreadable byte is shown, several are only counted. -/
def utf8Message (f : Text.Utf8Failure) : String :=
  let place :=
    if f.length == 1 then
      "byte 0x" ++ String.ofList (Text.hexDigits 2 f.byte.toNat) ++ " in position " ++
        toString f.position
    else
      "bytes in position " ++ toString f.position ++ "-" ++ toString (f.position + f.length - 1)
  "'utf-8' codec can't decode " ++ place ++ ": " ++ utf8Reason f.fault

/-- The words of a failure. A numeral that cannot be read is quoted up to 200 characters. Failures
of the system have no words of their own. -/
def wording : Failure → String
  | raised _ text => text
  | mute _ _ => ""
  | emptyDomain => "domain must not be empty"
  | domainNotSet => "ZITADEL_DOMAIN is not set"
  | notBareHostname domain => "domain must be a bare hostname, got " ++ domain
  | invalidPort port => "invalid port " ++ Text.quoted port
  | notANumeral port =>
    "invalid literal for int() with base 10: " ++
      String.ofList ((Text.quoted port).toList.take 200)
  | tooManyDigits count =>
    "Exceeds the limit (4300 digits) for integer string conversion: value has " ++
      toString count ++ " digits; use sys.set_int_max_str_digits() to increase the limit"
  | overlongNumeral =>
    "Exceeds the limit (4300 digits) for integer string conversion; use " ++
      "sys.set_int_max_str_digits() to increase the limit"
  | notSearchable haystack => "argument of type '" ++ haystack.kindName ++ "' is not iterable"
  | searchNeedsText needle =>
    "'in <string>' requires string as left operand, not " ++ needle.kindName
  | searchNeedsBytes needle => "a bytes-like object is required, not '" ++ needle.kindName ++ "'"
  | unhashable v => "unhashable type: '" ++ v.kindName ++ "'"
  | missingServerDomain => "TLS requires a server domain"
  | noCertificate => "root certificate bundle contains no PEM certificate"
  | noTransport => "no transport credentials configured"
  | plaintextCredentials host =>
    "credentials for " ++ host ++ " require transport security but the channel is plaintext"
  | emptyPersonalToken => "personal access token must not be empty"
  | missingProvider => "'NoneType' object has no attribute 'get_request_metadata'"
  | missingChannel => "'NoneType' object has no attribute 'close'"
  | missingStubs => "'NoneType' object is not subscriptable"
  | missingKey key => Text.quoted key
  | missingMethod => "'NoneType' object is not callable"
  | unknownAttribute owner name => "'" ++ owner ++ "' object has no attribute '" ++ name ++ "'"
  | notAClass v => "__class__ must be set to a class, not '" ++ v.kindName ++ "' object"
  | notADictionary v => "__dict__ must be set to a dictionary, not a '" ++ v.kindName ++ "'"
  | notWritable owner name =>
    "attribute '" ++ name ++ "' of '" ++ owner ++ "' objects is not writable"
  | initializationTimeout => ""
  | notADuration v => "unsupported operand type(s) for +: 'float' and '" ++ v.kindName ++ "'"
  | durationOverflow => "int too large to convert to float"
  | closedChannel => "Cannot invoke RPC on closed channel!"
  | notAnInterceptor =>
    "interceptor must be grpc.UnaryUnaryClientInterceptor or grpc.UnaryStreamClientInterceptor " ++
      "or grpc.StreamUnaryClientInterceptor or grpc.StreamStreamClientInterceptor"
  | emptyModuleName => "Empty module name"
  | relativeModule name =>
    "the 'package' argument is required to perform a relative import for " ++ Text.quoted name
  | missingModule name => "No module named " ++ Text.quoted name
  | notAPackage name parent =>
    "No module named " ++ Text.quoted name ++ "; " ++ Text.quoted parent ++ " is not a package"
  | missingClass path name =>
    "module '" ++ path ++ "' has no attribute '" ++ name ++ "'"
  | frozenField name => "cannot assign to field " ++ Text.quoted name
  | readOnlyProperty name => "property '" ++ name ++ "' of 'Client' object has no setter"
  | unknownLevel name => "Unknown level: " ++ Text.quoted name
  | invalidFormat format => "Invalid format '" ++ format ++ "' for '%' style"
  | undecodable failure => utf8Message failure
  | illegalVariableName => "illegal environment variable name"
  | embeddedNull => "embedded null byte"
  | emptyVariableName | nameTooLong | noSuchFile | fileIsDirectory | parentIsFile => ""

/-- The text of a failure, or what asking for it fails with. -/
def message : Failure → Except Failure String
  | mute _ cause => .error cause
  | f => .ok f.wording

end Failure

end SharedChannel

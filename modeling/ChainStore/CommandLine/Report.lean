import ChainStore.Error
import ChainStore.Storage.Script
import ChainStore.Text.Quoted

set_option autoImplicit false
set_option relaxedAutoImplicit false

/-!
How the command line reports an error: its structure, field by field, with quoted texts.
-/

namespace ChainStore.CommandLine

open Storage (Fault)
open Text (quoted)

/-- A failure inside the engine: its class, its extended code and its message. -/
def engineFailure (code : String) (extended : Nat) (message : String) : String :=
  "SqliteFailure(Error \x7b code: " ++ code ++ s!", extended_code: {extended} \x7d, Some("
    ++ quoted message ++ "))"

/-- A mistake found in a script: the failure, what was left of the script, and where in it. -/
def scriptFailure (message script : String) (offset : Nat) : String :=
  "SqlInputError \x7b error: Error \x7b code: Unknown, extended_code: 1 \x7d, msg: "
    ++ quoted message ++ ", sql: " ++ quoted script ++ s!", offset: {offset} \x7d"

def byteList (s : String) : String :=
  "[" ++ String.intercalate ", " (s.toUTF8.toList.map (fun b => toString b.toNat)) ++ "]"

def flawReport (flaw : Text.Flaw) : String :=
  let size := match flaw.size with
    | some size => s!"Some({size})"
    | none => "None"
  s!"Utf8Error \x7b valid_up_to: {flaw.position}, error_len: " ++ size ++ " \x7d"

def faultReport (fault : Fault) : String :=
  match fault with
  | .noSuchTable _ => engineFailure "Unknown" 1 fault.message
  | .tableExists table => scriptFailure fault.message (Storage.scriptFrom table) table.offset
  | .locked => engineFailure "DatabaseBusy" 5 fault.message
  | .readOnly => engineFailure "ReadOnly" 8 fault.message
  | .notADatabase => engineFailure "NotADatabase" 26 fault.message
  | .cannotOpen _ => engineFailure "CannotOpen" 14 fault.message
  | .logOutOfReach => engineFailure "CannotOpen" 14 fault.message
  | .unreadable => engineFailure "SystemIoFailure" 10 fault.message
  | .foreignAuthority _ => engineFailure "Unknown" 1 fault.message
  | .noSuchFileSystem _ => engineFailure "Unknown" 1 fault.message
  | .noSuchCacheMode _ => engineFailure "Unknown" 1 fault.message
  | .noSuchAccessMode _ => engineFailure "Unknown" 1 fault.message
  | .accessNotAllowed _ => engineFailure "PermissionDenied" 3 fault.message
  | .rejected _ => engineFailure "ConstraintViolation" 1811 fault.message
  | .nulInPath path =>
    s!"NulError(NulError({Storage.nulPosition path}, " ++ byteList path ++ "))"
  | .outOfRange column value => s!"IntegralValueOutOfRange({column}, {value})"
  | .wrongKind column name found =>
    s!"InvalidColumnType({column}, " ++ quoted name ++ ", " ++ found.name ++ ")"
  | .misencoded column flaw =>
    s!"FromSqlConversionFailure({column}, Text, " ++ flawReport flaw ++ ")"
  | .noRows => "QueryReturnedNoRows"

def fileFaultReport : FileFault → String
  | .alreadyExists => "Os \x7b code: 17, kind: AlreadyExists, message: \"File exists\" \x7d"
  | .notADirectory => "Os \x7b code: 20, kind: NotADirectory, message: \"Not a directory\" \x7d"
  | .isADirectory => "Os \x7b code: 21, kind: IsADirectory, message: \"Is a directory\" \x7d"
  | .notText =>
    "Error \x7b kind: InvalidData, message: \"stream did not contain valid UTF-8\" \x7d"
  | .nulInName =>
    "Error \x7b kind: InvalidInput, message: \"file name contained an unexpected NUL byte\" \x7d"
  | .nameTooLong =>
    "Os \x7b code: 36, kind: InvalidFilename, message: \"File name too long\" \x7d"

def errorReport : Error → String
  | .notFound subject => "NotFound \x7b what: " ++ quoted subject.text ++ " \x7d"
  | .rangeTooLarge first last limit =>
    s!"RangeTooLarge \x7b start: {first}, end: {last}, max: {limit} \x7d"
  | .invalidRange first last => s!"InvalidRange \x7b start: {first}, end: {last} \x7d"
  | .storage activity fault =>
    "Storage \x7b context: " ++ quoted activity.text ++ ", source: " ++ faultReport fault
      ++ " \x7d"
  | .consistency height fault =>
    s!"Consistency \x7b height: {height}, source: " ++ faultReport fault ++ " \x7d"
  | .layoutMismatch found expected =>
    "SchemaMismatch \x7b found: " ++ quoted found ++ s!", expected: {expected} \x7d"
  | .cancelled => "Cancelled"
  | .streamAborted => "StreamAborted"
  | .file fault => "Io(" ++ fileFaultReport fault ++ ")"
  | .settings fault => "Config(" ++ quoted fault.message ++ ")"

end ChainStore.CommandLine

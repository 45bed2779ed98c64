import ChainStore.Files.Disk
import ChainStore.Settings
import ChainStore.Toml.Reader

set_option autoImplicit false
set_option relaxedAutoImplicit false

/-!
Settings as a TOML document. A section is a table of named fields or an array of fields in order;
what is not given has its default, and what is not known is passed over.
-/

namespace ChainStore

open Toml (Value Entries)

namespace Settings

def text? : Value → Option String
  | .string s => some s
  | _ => none

def natural? (bound : Nat) : Value → Option Nat
  | .integer n => if 0 ≤ n ∧ n < (bound : Int) then some n.toNat else none
  | _ => none

/-- A field that takes its default when it is not given, and must be readable when it is. -/
def field? {α : Type} (read : Value → Option α) (default : α) : Option Value → Option α
  | none => some default
  | some v => read v

def fileSection? (path busyTimeoutMs : Option Value) : Option FileSettings := do
  let path ← field? text? ({} : FileSettings).path path
  let busyTimeoutMs ← field? (fun v => (natural? UInt64.size v).map UInt64.ofNat)
    ({} : FileSettings).busyTimeoutMs busyTimeoutMs
  return ⟨path, busyTimeoutMs⟩

def limitsSection? (maxRangeSpan streamBuffer : Option Value) : Option Limits := do
  let maxRangeSpan ← field? (fun v => (natural? UInt32.size v).map UInt32.ofNat)
    ({} : Limits).maxRangeSpan maxRangeSpan
  let streamBuffer ← field? (fun v => (natural? UInt64.size v).map UInt64.ofNat)
    ({} : Limits).streamBuffer streamBuffer
  return ⟨maxRangeSpan, streamBuffer⟩

/-- A section with two fields: by name from a table, by position from an array. A date or time
counts as a table without a known field. -/
def section? {α : Type} (build : Option Value → Option Value → Option α) (first second : String) :
    Option Value → Option α
  | none => build none none
  | some (.table entries) => build (entries.lookup first) (entries.lookup second)
  | some (.array elements) => build elements[0]? elements[1]?
  | some (.datetime _) => build none none
  | some _ => none

def ofEntries? (entries : Entries) : Option Settings := do
  let file ← section? fileSection? "path" "busy_timeout_ms" (entries.lookup "database")
  let limits ← section? limitsSection? "max_range_span" "stream_buffer" (entries.lookup "limits")
  return ⟨file, limits⟩

def ofText (file text : String) : Except Error Settings :=
  match (Toml.document? text).bind ofEntries? with
  | none => .error (.settings (.unreadable file))
  | some settings =>
    match settings.validate with
    | .ok _ => .ok settings
    | .error e => .error e

/-- Loads a settings file. Where there is none, the defaults hold. The file of a database that
has nothing in it yet is empty. -/
def load (path : String) (disk : Files.Disk) : Except Error Settings :=
  match disk.nodeAt? path with
  | none => .ok {}
  | some .directory => .error (.file .isADirectory)
  | some (.file (.database db _)) =>
    if db.logged || !db.tables.isEmpty then .error (.file .notText) else ofText path ""
  | some (.file (.bytes bytes)) =>
    match String.fromUTF8? (ByteArray.mk bytes.toArray) with
    | none => .error (.file .notText)
    | some text => ofText path text

end Settings

end ChainStore

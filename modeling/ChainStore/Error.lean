import ChainStore.Record
import ChainStore.Storage.Fault

set_option autoImplicit false
set_option relaxedAutoImplicit false

/-!
Everything that can go wrong with a cache, as causes, and the one wording of each cause.
-/

namespace ChainStore

open Storage (Fault)

inductive TransactionKey where
  | hash (value : String)
  | position (height : Height) (index : UInt32)
  | inBlock (blockHash : String) (index : UInt32)
deriving DecidableEq

def TransactionKey.text : TransactionKey → String
  | .hash value => "transaction " ++ value
  | .position height index => s!"transaction {index} in block at height {height}"
  | .inBlock blockHash index => s!"transaction {index} in block " ++ blockHash

inductive Subject where
  | blockAt (height : Height)
  | blockWithHash (hash : String)
  | tip
  | transaction (key : TransactionKey)
  | named (text : String)
deriving DecidableEq

def Subject.text : Subject → String
  | .blockAt height => s!"block at height {height}"
  | .blockWithHash hash => "block with hash " ++ hash
  | .tip => "chain state"
  | .transaction key => key.text
  | .named text => text

inductive Activity where
  | openingDatabase (path : String)
  | enablingJournal
  | creatingMetadata
  | readingVersion
  | creatingLayout (version : UInt32)
  | recordingVersion
  | startingWrite (height : Height)
  | writingBlock (height : Height) (hash : String)
  | readingBlock (height : Height)
  | readingBlockByHash (hash : String)
  | readingHash (height : Height)
  | readingForRange (height : Height)
  | deletingBlock (height : Height)
  | startingRollback (height : Height)
  | deletingBlocksAbove (height : Height)
  | deletingTransactionsAbove (height : Height)
  | readingTipHeight
  | readingTip
  | settingTip (height : Height)
  | writingTransaction (hash : String) (height : Height) (index : UInt32)
  | readingTransaction (key : TransactionKey)
  | deletingTransactions (height : Height)
  | named (text : String)
deriving DecidableEq

def Activity.text : Activity → String
  | .openingDatabase path => "opening database at " ++ path
  | .enablingJournal => "enabling WAL journal"
  | .creatingMetadata => "creating metadata table"
  | .readingVersion => "reading schema version"
  | .creatingLayout version => s!"creating schema v{version}"
  | .recordingVersion => "recording schema version"
  | .startingWrite height => s!"starting write of block {height}"
  | .writingBlock height hash => s!"writing block {height} (" ++ hash ++ ")"
  | .readingBlock height => s!"reading block {height}"
  | .readingBlockByHash hash => "reading block " ++ hash
  | .readingHash height => s!"reading hash of block {height}"
  | .readingForRange height => s!"reading block {height} for range"
  | .deletingBlock height => s!"deleting block {height}"
  | .startingRollback height => s!"starting rollback to {height}"
  | .deletingBlocksAbove height => s!"deleting blocks above {height}"
  | .deletingTransactionsAbove height => s!"deleting transactions above {height}"
  | .readingTipHeight => "reading current height"
  | .readingTip => "reading chain state"
  | .settingTip height => s!"setting current height to {height}"
  | .writingTransaction hash height index =>
    "writing transaction " ++ hash ++ s!" at {height}:{index}"
  | .readingTransaction key => "reading " ++ key.text
  | .deletingTransactions height => s!"deleting transactions of block {height}"
  | .named text => text

inductive FileFault where
  | alreadyExists
  | notADirectory
  | isADirectory
  | notText
  | nulInName
  | nameTooLong
deriving DecidableEq

def FileFault.message : FileFault → String
  | .alreadyExists => "File exists (os error 17)"
  | .notADirectory => "Not a directory (os error 20)"
  | .isADirectory => "Is a directory (os error 21)"
  | .notText => "stream did not contain valid UTF-8"
  | .nulInName => "file name contained an unexpected NUL byte"
  | .nameTooLong => "File name too long (os error 36)"

inductive SettingsFault where
  | pathUnset
  | spanZero
  | bufferZero
  | unreadable (file : String)
  | named (text : String)
deriving DecidableEq

/-- The wording. What exactly is wrong inside a settings file is left to a place holder. -/
def SettingsFault.message : SettingsFault → String
  | .pathUnset => "database.path must be set"
  | .spanZero => "limits.max_range_span must be at least 1"
  | .bufferZero => "limits.stream_buffer must be at least 1"
  | .unreadable file => file ++ ": <toml>"
  | .named text => text

inductive Error where
  /-- The key of a lookup matches no row. -/
  | notFound (subject : Subject)
  /-- The range spans more heights than the limit allows. -/
  | rangeTooLarge (first last : Height) (limit : UInt32)
  /-- The range ends below its start. -/
  | invalidRange (first last : Height)
  /-- The storage failed at something. -/
  | storage (activity : Activity) (fault : Fault)
  /-- The tip could not follow a change of the blocks; the change is undone. -/
  | consistency (height : Height) (fault : Fault)
  /-- The file has the layout of another version. -/
  | layoutMismatch (found : String) (expected : UInt32)
  /-- The caller called the operation off. -/
  | cancelled
  /-- The reader of a range went away without saying how the range ended. -/
  | streamAborted
  | file (fault : FileFault)
  | settings (fault : SettingsFault)
deriving DecidableEq

namespace Error

def message : Error → String
  | .notFound subject => "Not found: " ++ subject.text
  | .rangeTooLarge first last limit => s!"Range {first}..={last} spans more than {limit} heights"
  | .invalidRange first last => s!"Invalid range: end {last} is below start {first}"
  | .storage activity fault => "Storage error while " ++ activity.text ++ ": " ++ fault.message
  | .consistency height fault =>
    s!"Chain state update failed for block {height}: " ++ fault.message
  | .layoutMismatch found expected =>
    "Schema version mismatch: found " ++ found ++ s!", expected {expected}"
  | .cancelled => "Operation cancelled"
  | .streamAborted => "Block range stream ended without a terminal event"
  | .file fault => "IO error: " ++ fault.message
  | .settings fault => "Configuration error: " ++ fault.message

def isNotFound : Error → Bool
  | .notFound _ => true
  | _ => false

def isCancelled : Error → Bool
  | .cancelled => true
  | _ => false

end Error

/-- How an action ends that hands settings on to the machine: with an error, or by a crash where
a setting is more than the machine takes. -/
inductive Failure where
  | error (error : Error)
  | crash
deriving DecidableEq

end ChainStore

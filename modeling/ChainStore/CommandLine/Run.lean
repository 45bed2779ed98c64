import ChainStore.Cache.Operation
import ChainStore.CommandLine.Help
import ChainStore.CommandLine.Report
import ChainStore.Files.Opening
import ChainStore.Range.Pipeline
import ChainStore.Settings.Document

set_option autoImplicit false
set_option relaxedAutoImplicit false

/-!
Running a command line against a directory: load the settings, open the cache, carry out the
command, print what it found. The log goes to the same output as the answers, and what its filter
lets pass is up to whoever runs the command.
-/

namespace ChainStore.CommandLine

open Cache (Operation Answer)
open Files (Disk)
open Storage (Connection)

structure Output where
  code : Nat
  stdout : String
  stderr : String
deriving DecidableEq

inductive Outcome where
  | finished (output : Output)
  | usage
  | crash
deriving DecidableEq

def Output.success (stdout : String) : Output := ⟨0, stdout, ""⟩

def Output.failure (stdout report : String) : Output := ⟨1, stdout, "Error: " ++ report ++ "\n"⟩

/-- The log of a run. The one warning that a run may give is that a range could not be read on. It
is worded by `warning?` unless it is filtered out; since the reading may be ahead of the printing,
only the first `printed` lines stand in front of it. What is logged below the level of a warning
stands between the lines: `asides n` behind the first `n` of them, the warning included. -/
structure Log where
  warning? : Error → Option String
  printed : Nat
  asides : Nat → String

def Log.silent : Log := ⟨fun _ => none, 0, fun _ => ""⟩

/-- The filter of the log lets nothing pass but warnings. -/
def Log.Terse (log : Log) : Prop := ∀ n, log.asides n = ""

/-- The lines of a command with the warning among them, if there is one. -/
def Log.warned (log : Log) (ending : Option Error) (lines : List String) : List String :=
  match ending.bind log.warning? with
  | none => lines
  | some warning => lines.take log.printed ++ warning :: lines.drop log.printed

def woven (asides : Nat → String) : Nat → List String → String
  | n, [] => asides n
  | n, line :: lines => asides n ++ line ++ woven asides (n + 1) lines

/-- What stands on the output after a command has printed its lines. -/
def Log.written (log : Log) (ending : Option Error) (lines : List String) : String :=
  woven log.asides 0 (log.warned ending lines)

def tipLine (tip : Tip) : String :=
  s!"tip: {tip.height} (updated " ++ Calendar.timestampText tip.updatedAt ++ ")\n"

def blockLines (block : Block) (payload : Bool) : String :=
  s!"height: {block.height}\n" ++ "hash: " ++ block.hash ++ "\n" ++ "prev_hash: "
    ++ block.prevHash ++ "\n" ++ (if block.sapling then "sapling: true\n" else "sapling: false\n")
    ++ s!"payload: {block.payload.length} bytes\n"
    ++ (if payload then Text.hex block.payload ++ "\n" else "")

def transactionLines (transaction : Transaction) : String :=
  "tx_hash: " ++ transaction.hash ++ "\n"
    ++ s!"position: {transaction.blockHeight}:{transaction.index}\n"
    ++ "block_hash: " ++ transaction.blockHash ++ "\n"
    ++ "payload: " ++ Text.hex transaction.payload ++ "\n"

def rightAligned (width : Nat) (s : String) : String :=
  String.ofList (List.replicate (width - s.length) ' ') ++ s

def itemLine (item : Range.Item) : String :=
  rightAligned 10 (toString item.height) ++ s!"  {item.payload.length} bytes\n"

def rangeSummary (count : Nat) (first last : Height) : String :=
  s!"range: {count} of {(last - first).toNat + 1} heights stored\n"

def answerLines (payload : Bool) : Answer → String
  | .tip tip => tipLine tip
  | .block block => blockLines block payload
  | .transaction transaction => transactionLines transaction
  | .count removed => s!"rollback: removed {removed} blocks\n"
  | _ => ""

def answerOutput (log : Log) (payload : Bool) : Except Error Answer → Output
  | .ok answer => .success (log.written none [answerLines payload answer])
  | .error e => .failure (log.written none []) (errorReport e)

/-- The key that a transaction query selects: a hash before a height, a height before a block
hash. -/
def TransactionQuery.key? : TransactionQuery → Option TransactionKey
  | ⟨some hash, _, _, _⟩ => some (.hash hash)
  | ⟨none, some height, _, some index⟩ => some (.position height index)
  | ⟨none, none, some blockHash, some index⟩ => some (.inBlock blockHash index)
  | _ => none

def rangeOutput (log : Log) (first last : Height) (items : List Range.Item) :
    Option Error → Output
  | none =>
    .success (log.written none (items.map itemLine ++ [rangeSummary items.length first last]))
  | some e => .failure (log.written (some e) (items.map itemLine)) (errorReport e)

def carryOut (operation : Operation) (log : Log) (payload : Bool) (now : Int) (c : Connection) :
    Outcome × Connection :=
  match Cache.Call.perform ⟨operation, false, now⟩ c with
  | (answer, after) => (.finished (answerOutput log payload answer), after)

def Command.execute (command : Command) (log : Log) (limits : Limits) (now : Int)
    (c : Connection) : Outcome × Connection :=
  match command with
  | .tip => carryOut .tip log false now c
  | .block height payload => carryOut (.blockAt height) log payload now c
  | .blockByHash hash => carryOut (.blockWithHash hash) log false now c
  | .transaction query =>
    match query.key? with
    | some key => carryOut (.transaction key) log false now c
    | none =>
      (.finished (.failure (log.written none [])
        (Text.quoted "pass --hash, or --height/--block-hash with --index")), c)
  | .range first last =>
    match Range.accept limits first last with
    | .error (.error e) => (.finished (.failure (log.written none []) (errorReport e)), c)
    | .error .crash => (.crash, c)
    | .ok pipeline =>
      match pipeline.drain 0 (Cache.rangeRead c) false pipeline.questions with
      | (items, ending) => (.finished (rangeOutput log first last items ending), c)
  | .rollback height => carryOut (.rollBack height) log false now c

/-- The settings in force: those of the file, with the path given on the command line. -/
def Invocation.settings (invocation : Invocation) (loaded : Settings) : Settings :=
  match invocation.database with
  | none => loaded
  | some path => { loaded with file := { loaded.file with path := path } }

def Invocation.run (invocation : Invocation) (log : Log) (now : Int) (disk : Disk) :
    Outcome × Disk :=
  match Settings.load invocation.settingsFile disk with
  | .error e => (.finished (.failure "" (errorReport e)), disk)
  | .ok loaded =>
    let settings := invocation.settings loaded
    match Files.openCache settings [] disk with
    | (.error (.error e), disk) =>
      (.finished (.failure (log.written none []) (errorReport e)), disk)
    | (.error .crash, disk) => (.crash, disk)
    | (.ok link, disk) =>
      match invocation.command.execute log settings.limits now (link.connection disk) with
      | (outcome, c) => (outcome, (link.after c disk).2)

/-- Runs a command line. Help is printed without a look at the disk. -/
def run (arguments : List String) (log : Log) (now : Int) (disk : Disk) : Outcome × Disk :=
  match parse arguments with
  | .error .mistake => (.usage, disk)
  | .error (.help topic) => (.finished (.success (helpText topic)), disk)
  | .ok invocation => invocation.run log now disk

theorem run_of_invocation? {arguments : List String} {invocation : Invocation}
    (sensible : invocation? arguments = some invocation) (log : Log) (now : Int) (disk : Disk) :
    run arguments log now disk = invocation.run log now disk := by
  rw [run, invocation?_eq_some.mp sensible]

end ChainStore.CommandLine

import ChainStore.CommandLine.Run

set_option autoImplicit false
set_option relaxedAutoImplicit false

/-!
The command line as a program. It sees the settings file and the cache file that the arguments
name; a cache that it creates lasts as long as the run.
-/

namespace ChainStore.Main

open CommandLine (Invocation Log Outcome)
open Files (Disk)

def withFile (path : String) (disk : Disk) : IO Disk := do
  try
    let bytes ← IO.FS.readBinFile path
    return disk.write path bytes.toList
  catch _ => return disk

def gather (invocation : Invocation) : IO Disk := do
  let disk ← withFile invocation.settingsFile .empty
  match Settings.load invocation.settingsFile disk with
  | .error _ => return disk
  | .ok settings => withFile (invocation.settings settings).file.path disk

/-- The log of a program that nobody has told to be more or less talkative. -/
def log : Log where
  warning? e := some (" WARN range_stream: Range read failed err=" ++ e.message ++ "\n")
  printed := 0
  asides _ := ""

def finish : Outcome → IO UInt32
  | .finished output => do
    IO.print output.stdout
    IO.eprint output.stderr
    return UInt32.ofNat output.code
  | .usage => do
    IO.eprintln "usage: [-c FILE] [--db PATH] tip | block | block-by-hash | tx | range | rollback"
    return 2
  | .crash => return 134

end ChainStore.Main

def main (arguments : List String) : IO UInt32 := do
  let disk ← match ChainStore.CommandLine.invocation? arguments with
    | none => pure .empty
    | some invocation => ChainStore.Main.gather invocation
  ChainStore.Main.finish (ChainStore.CommandLine.run arguments ChainStore.Main.log 0 disk).1

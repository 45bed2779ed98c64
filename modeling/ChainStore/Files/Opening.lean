import ChainStore.Cache.Change
import ChainStore.Files.Link
import ChainStore.Settings

set_option autoImplicit false
set_option relaxedAutoImplicit false

/-!
Opening a cache. The directories above the file are made, the file is opened or created, the
timeout is set, the log is switched on, and only then are the settings and the layout looked at,
so a refused opening can leave directories and a file behind.
-/

namespace ChainStore.Files

open Storage (Connection Fault)

/-- The longest wait for a lock that the machine takes, in milliseconds. -/
def maxTimeoutMs : Nat := 2147483647

/-- Checks the settings and makes a database ready. -/
def makeReady (settings : Settings) (c : Connection) : Except Error Unit × Connection :=
  match settings.validate with
  | .error e => (.error e, c)
  | .ok _ => Cache.Layout.prepare.run c

def Link.makeReady (settings : Settings) (link : Link) (disk : Disk) :
    Except Error Link × Disk :=
  match Files.makeReady settings (link.connection disk) with
  | (.ok _, c) =>
    match link.after c disk with
    | (link, disk) => (.ok link, disk)
  | (.error e, c) => (.error e, (link.after c disk).2)

def openInMemory (settings : Settings) (disk : Disk) : Except Error Link :=
  (Link.unshared.makeReady settings disk).1

def makeParents (path : String) (disk : Disk) : Except Error Unit × Disk :=
  if (parentElements path).isEmpty then (.ok (), disk)
  else if (parentElements path).any (fun e => e.contains 0) then (.error (.file .nulInName), disk)
  else
    match disk.makeAll (parentElements path) with
    | (.ok _, after) => (.ok (), after)
    | (.error fault, after) => (.error (.file fault), after)

def openLink (path : String) (pools : List Link) (disk : Disk) :
    Except Fault (Address × Link × Disk) :=
  if hasNul path then .error (.nulInPath path)
  else
    match Address.ofText path with
    | .error fault => .error fault
    | .ok address =>
      match address.link path pools disk with
      | .error fault => .error fault
      | .ok (link, disk) => .ok (address, link, disk)

/-- Switches the log on for a new link. Whoever joins a pool finds that done. -/
def startLog (address : Address) (link : Link) (pools : List Link) (disk : Disk) :
    Except Fault (Link × Disk) :=
  if pools.contains link then .ok (link, disk) else link.start address.frozen disk

/-- Opens the cache that the settings name. The pools are those of the process. -/
def openCache (settings : Settings) (pools : List Link) (disk : Disk) :
    Except Failure Link × Disk :=
  let path := settings.file.path
  match makeParents path disk with
  | (.error e, disk) => (.error (.error e), disk)
  | (.ok _, disk) =>
    match openLink path pools disk with
    | .error fault => (.error (.error (.storage (.openingDatabase path) fault)), disk)
    | .ok (address, link, disk) =>
      if maxTimeoutMs < settings.file.busyTimeoutMs.toNat then (.error .crash, disk)
      else
        match startLog address link pools disk with
        | .error fault => (.error (.error (.storage .enablingJournal fault)), disk)
        | .ok (link, disk) =>
          match link.makeReady settings disk with
          | (.ok link, disk) => (.ok link, disk)
          | (.error e, disk) => (.error (.error e), disk)

end ChainStore.Files

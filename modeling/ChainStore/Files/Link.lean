import ChainStore.Files.Address
import ChainStore.Files.Disk
import ChainStore.Storage.Task

set_option autoImplicit false
set_option relaxedAutoImplicit false

/-!
Links to databases. A link outlasts the calls that are made through it: it says where the database
is, what may be done with it, and which tables have been seen. Connections that share pages share
their link.
-/

namespace ChainStore.Files

open Storage (Connection Database Fault Rights Table)

/-- Where the database of a link is: in a file, or with the link alone. -/
inductive Location where
  | file (place : Place)
  | held (db : Database)
deriving DecidableEq

/-- What sharing connections have in common: the file system and the file, or the name of a
database in memory. -/
structure Pool where
  system : FileSystem
  place : Option Place
  name : Name
deriving DecidableEq

structure Link extends Rights where
  location : Location
  known : List Table := []
  pool : Option Pool := none
deriving DecidableEq

namespace Link

def unshared : Link := { location := .held .blank }

def database (link : Link) (disk : Disk) : Database :=
  match link.location with
  | .file place => disk.databaseAt place
  | .held db => db

def connection (link : Link) (disk : Disk) : Connection :=
  { link.toRights with database := link.database disk, known := link.known }

def after (link : Link) (c : Connection) (disk : Disk) : Link × Disk :=
  match link.location with
  | .file place => ({ link with known := c.known }, disk.setDatabase place c.database)
  | .held _ => ({ link with known := c.known, location := .held c.database }, disk)

/-- Whether the link keeps the log of a file from being worked in. -/
def uses (link : Link) (place : Place) : Bool :=
  link.location == .file place

end Link

/-- A file as a database: one of at most one byte is a blank database, and other bytes are none. -/
def Content.toDatabase : Content → Except Fault Database
  | .bytes [] => .ok .blank
  | .bytes [_] => .ok .blank
  | .bytes _ => .error .notADatabase
  | .database db _ => .ok db

namespace Disk

/-- Finds a file, or creates an empty one if that is asked for. To read a directory as a file is
found out to be impossible only when it is read. -/
def openFile (disk : Disk) (path : String) (access : Access) (place : Place) :
    Except Fault Disk :=
  match disk.node? place with
  | some .directory =>
    if access = .readOnly then .error .unreadable else .error (.cannotOpen path)
  | some (.file _) => .ok disk
  | none =>
    if access = .create ∧ disk.node? place.dropLast = some .directory then
      .ok (disk.set place (.file (.bytes [])))
    else .error (.cannotOpen path)

/-- Works every log into its file where nobody is left who uses it. -/
def settleUnused (disk : Disk) (links : List Link) : Disk :=
  disk.nodes.foldl
    (fun disk entry =>
      match entry.2 with
      | .file (.database db _) =>
        if db.locked || links.any (fun link => link.uses entry.1) then disk
        else disk.settle entry.1
      | _ => disk)
    disk

end Disk

namespace Address

/-- The file of an address; a name without bytes and a database in memory have none. -/
def place? (address : Address) (disk : Disk) : Option Place :=
  if address.inMemory then none else disk.databasePlace? address.name

def pool? (address : Address) (disk : Disk) : Option Pool :=
  if address.name.isEmpty then none
  else if address.shared || (address.system == .memory && address.name.head? == some 0x2f) then
    some ⟨address.system, address.place? disk, if address.inMemory then address.name else []⟩
  else none

/-- Links to the database of an address, which the text `path` gave: joins a pool that is there,
else opens the file or makes a database in memory. -/
def link (address : Address) (path : String) (pools : List Link) (disk : Disk) :
    Except Fault (Link × Disk) :=
  let pool := address.pool? disk
  if address.inMemory then
    match pools.find? (fun link => pool.isSome && link.pool == pool) with
    | some link => .ok (link, disk)
    | none =>
      .ok ({ Link.unshared with readOnly := address.readOnly, pool := pool }, disk)
  else
    match address.place? disk with
    | none => .error (.cannotOpen path)
    | some place =>
      match pools.find? (fun link => pool.isSome && link.pool == pool) with
      | some link => .ok (link, disk)
      | none =>
        if (address.permissionsOf.map disk.nodeAt?) = some none then .error .unreadable
        else
          match disk.openFile path address.access place with
          | .error fault => .error fault
          | .ok disk =>
            .ok (⟨⟨address.readOnly, address.heedsLocks⟩, .file place, [], pool⟩, disk)

end Address

namespace Link

/-- Takes the database of a file as it stands without its log, for good. -/
def freeze (link : Link) (disk : Disk) : Link :=
  match link.location with
  | .file place =>
    { link with
      location := .held { disk.settledAt place with locked := false }
      readOnly := true
      heedsLocks := true }
  | .held _ => link

/-- Reads the file for the first time and switches its log on, which asks for the right to write
unless the log is on already. Where locks are left out there is no log to switch on. -/
def start (link : Link) (frozen : Bool) (disk : Disk) : Except Fault (Link × Disk) :=
  match link.location with
  | .held _ => .ok (link, disk)
  | .file place =>
    match disk.node? place with
    | some (.file content) =>
      match content.toDatabase with
      | .error fault => .error fault
      | .ok db =>
        if frozen then .ok (link.freeze disk, disk)
        else if db.logged || !link.heedsLocks then
          match (link.connection disk).readFault? with
          | some fault => .error fault
          | none => .ok (link, disk)
        else
          match (link.connection disk).writeFault? with
          | some fault => .error fault
          | none => .ok (link, disk.setDatabase place { db with logged := true })
    | _ => .error .logOutOfReach

end Link

end ChainStore.Files

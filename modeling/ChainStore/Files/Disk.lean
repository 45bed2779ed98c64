import ChainStore.Error
import ChainStore.Files.Path
import ChainStore.Storage.Image

set_option autoImplicit false
set_option relaxedAutoImplicit false

/-!
A directory tree with a working directory, at which relative paths begin. A file holds bytes or,
once it has been opened as one, a database.
-/

namespace ChainStore.Files

open Storage (Database)

/-- What a file holds. Beside a database stands what the file would hold without its log: the log
is worked into the file when nobody uses it any more. -/
inductive Content where
  | bytes (bytes : List UInt8)
  | database (db settled : Database)
deriving DecidableEq

def Content.ofBytes (bytes : List UInt8) : Content :=
  match Database.ofBytes? bytes with
  | some db => .database db db
  | none => .bytes bytes

inductive Node where
  | directory
  | file (content : Content)
deriving DecidableEq

/-- The nodes of a disk. The working directory `home` and those above it are always there. -/
structure Disk where
  home : Place
  nodes : List (Place × Node)
deriving DecidableEq

inductive Miss where
  | notFound
  | notADirectory
  | nameTooLong
deriving DecidableEq

namespace Disk

def bare (home : Place) : Disk := ⟨home, []⟩

/-- A bare disk on which the path of the working directory takes fifteen bytes. -/
def empty : Disk := bare [Name.ofText "tmp", Name.ofText "cache-home"]

def node? (disk : Disk) (place : Place) : Option Node :=
  if place.isPrefixOf disk.home then some .directory else disk.nodes.lookup place

def setNode (place : Place) (node : Node) : List (Place × Node) → List (Place × Node)
  | [] => [(place, node)]
  | (p, n) :: rest => if p = place then (place, node) :: rest else (p, n) :: setNode place node rest

def set (disk : Disk) (place : Place) (node : Node) : Disk :=
  { disk with nodes := setNode place node disk.nodes }

@[simp] theorem home_set (disk : Disk) (place : Place) (node : Node) :
    (disk.set place node).home = disk.home := rfl

/-- Follows elements from a place; every element needs a directory to start from. -/
def walk (disk : Disk) (place : Place) : List Name → Except Miss Place
  | [] => .ok place
  | e :: rest =>
    match disk.node? place with
    | none => .error .notFound
    | some (.file _) => .error .notADirectory
    | some .directory =>
      if e = Name.root then disk.walk [] rest
      else if e = Name.dot then disk.walk place rest
      else if e = Name.dotDot then disk.walk place.dropLast rest
      else if Name.maxLength < e.length then .error .nameTooLong
      else disk.walk (place ++ [e]) rest

def look? (disk : Disk) (elements : List Name) : Option Node :=
  match disk.walk disk.home elements with
  | .ok place => disk.node? place
  | .error _ => none

def isDirectory (disk : Disk) (elements : List Name) : Bool :=
  disk.look? elements == some .directory

/-- The node that the bytes of a path lead to. A path without bytes or with a NUL leads nowhere,
nor does one that is too long, and a slash at the end asks for a directory. -/
def nodeNamed? (disk : Disk) (path : Name) : Option Node :=
  if path.isEmpty || path.contains 0 || decide (Name.maxPathLength ≤ path.length) then none
  else
    disk.look? ((if path.isRooted then [Name.root] else []) ++
      path.pieces.map (fun e => if e = [] then Name.dot else e))

def nodeAt? (disk : Disk) (path : String) : Option Node := disk.nodeNamed? (.ofText path)

inductive Making where
  | made (disk : Disk)
  | noParent
  | refused (fault : FileFault)

def makeOne (disk : Disk) (parent : List Name) (name : Name) : Making :=
  if Name.maxPathLength ≤ pathLength (parent ++ [name]) then .refused .nameTooLong
  else
    match disk.walk disk.home parent with
    | .error .notFound => .noParent
    | .error .notADirectory => .refused .notADirectory
    | .error .nameTooLong => .refused .nameTooLong
    | .ok place =>
      match disk.node? place with
      | none => .noParent
      | some (.file _) => .refused .notADirectory
      | some .directory =>
        if name = Name.root ∨ name = Name.dot ∨ name = Name.dotDot then .refused .alreadyExists
        else if Name.maxLength < name.length then .refused .nameTooLong
        else if (disk.node? (place ++ [name])).isSome then .refused .alreadyExists
        else .made (disk.set (place ++ [name]) .directory)

/-- Makes a directory, given by its elements from the last to the first, together with those
above it that are missing. A directory that is there already will do. -/
def makeAllUp (disk : Disk) : List Name → Except FileFault Unit × Disk
  | [] => (.ok (), disk)
  | name :: above =>
    match disk.makeOne above.reverse name with
    | .made after => (.ok (), after)
    | .refused fault =>
      if disk.isDirectory (above.reverse ++ [name]) then (.ok (), disk) else (.error fault, disk)
    | .noParent =>
      match disk.makeAllUp above with
      | (.error fault, after) => (.error fault, after)
      | (.ok _, after) =>
        match after.makeOne above.reverse name with
        | .made final => (.ok (), final)
        | .refused fault =>
          if after.isDirectory (above.reverse ++ [name]) then (.ok (), after)
          else (.error fault, after)
        | .noParent => (.error .notADirectory, after)

def makeAll (disk : Disk) (elements : List Name) : Except FileFault Unit × Disk :=
  disk.makeAllUp elements.reverse

def write (disk : Disk) (path : String) (content : List UInt8) : Disk :=
  let made := (disk.makeAll (parentElements path)).2
  match made.walk made.home (elements path) with
  | .ok place => made.set place (.file (.ofBytes content))
  | .error _ => made

/-! ### Databases on the disk -/

/-- The place that elements name when they are taken one after the other from a place: a double
dot takes back the element before it, whether or not that one exists. An element below a file, or
one that is too long for its directory, leads nowhere. -/
def resolve? (disk : Disk) (place : Place) : List Name → Option Place
  | [] => some place
  | e :: rest =>
    if e = [] ∨ e = Name.dot then disk.resolve? place rest
    else if e = Name.dotDot then disk.resolve? place.dropLast rest
    else
      match disk.node? place with
      | some (.file _) => none
      | some .directory =>
        if Name.maxLength < e.length then none else disk.resolve? (place ++ [e]) rest
      | none => disk.resolve? (place ++ [e]) rest

/-- The longest path that the engine takes, counted from the root. -/
def maxDatabasePath : Nat := 504

def databasePlace? (disk : Disk) (name : Name) : Option Place :=
  match disk.resolve? (if name.isRooted then [] else disk.home) name.pieces with
  | none => none
  | some place => if maxDatabasePath < placeLength place then none else some place

def databaseAt (disk : Disk) (place : Place) : Database :=
  match disk.node? place with
  | some (.file (.database db _)) => db
  | _ => .blank

/-- What the database in a file would be without its log. -/
def settledAt (disk : Disk) (place : Place) : Database :=
  match disk.node? place with
  | some (.file (.database _ settled)) => settled
  | _ => .blank

/-- Replaces the database in a file. Without a log, what the file holds follows at once. -/
def setDatabase (disk : Disk) (place : Place) (db : Database) : Disk :=
  disk.set place (.file (.database db (if db.logged then disk.settledAt place else db)))

def settle (disk : Disk) (place : Place) : Disk :=
  match disk.node? place with
  | some (.file (.database db _)) => disk.set place (.file (.database db db))
  | _ => disk

end Disk

end ChainStore.Files

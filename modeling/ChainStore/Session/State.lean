import ChainStore.Cache.Operation
import ChainStore.Files.Opening
import ChainStore.Range.Pipeline

set_option autoImplicit false
set_option relaxedAutoImplicit false

/-!
A process that works with caches: named handles on them, named ranges being read, tokens, and the
disk. Handles and ranges lead to databases through links, which they may share.
-/

namespace ChainStore.Session

open Files (Disk Link)

/-- A way to a cache. Copies of a handle share its connection, and connections may share a link. -/
structure Handle where
  connection : Nat
  link : Nat
  limits : Limits
deriving DecidableEq

structure Stream where
  handle : Handle
  token : Option String
  pipeline : Range.Pipeline
deriving DecidableEq

abbrev Named (α : Type) := List (String × α)

def Named.give {α : Type} (name : String) (a : α) (named : Named α) : Named α :=
  (name, a) :: named.filter (fun entry => entry.1 != name)

def Named.forget {α : Type} (name : String) (named : Named α) : Named α :=
  named.filter (fun entry => entry.1 != name)

/-- Links are kept in the order in which they were made, also when nobody uses them any more. -/
structure State where
  disk : Disk
  links : List Link
  connections : Nat
  handles : Named Handle
  streams : Named Stream
  fired : List String

def Stream.working (stream : Stream) : Bool :=
  !stream.pipeline.closed && stream.pipeline.producer != .stopped

namespace State

def start (disk : Disk) : State := ⟨disk, [], 0, [], [], []⟩

def link (s : State) (handle : Handle) : Link := s.links[handle.link]?.getD .unshared

def inUse (s : State) (number : Nat) : Bool :=
  s.handles.any (fun entry => entry.2.link == number)
    || s.streams.any (fun entry => entry.2.working && entry.2.handle.link == number)

def usedLinks (s : State) : List Link :=
  (s.links.zipIdx.filter (fun entry => s.inUse entry.2)).map Prod.fst

def pools (s : State) : List Link := s.usedLinks.filter (fun link => link.pool.isSome)

def settle (s : State) : State := { s with disk := s.disk.settleUnused s.usedLinks }

/-- Whether a token has fired. Calls without a token are never cancelled. -/
def hasFired (s : State) : Option String → Bool
  | none => false
  | some token => s.fired.contains token

def fire (s : State) (token : String) : State := { s with fired := token :: s.fired }

/-- The number of the pool that a link has joined; one that has joined none is new. -/
def numberFor (s : State) (link : Link) : Nat :=
  let joined := (s.links.zipIdx.filter (fun entry => s.inUse entry.2)).find?
    (fun entry => link.pool.isSome && entry.1.pool == link.pool)
  (joined.map Prod.snd).getD s.links.length

def connect (s : State) (name : String) (link : Link) (limits : Limits) : State :=
  let number := s.numberFor link
  { s with
    links := if number < s.links.length then s.links.set number link else s.links ++ [link]
    connections := s.connections + 1
    handles := s.handles.give name ⟨s.connections, number, limits⟩ }

/-- Opens the cache of the settings under a name. If that fails, an earlier handle of the name
stays. -/
def openCache (s : State) (name : String) (settings : Settings) : Except Failure Unit × State :=
  match Files.openCache settings s.pools s.disk with
  | (.error failure, disk) => (.error failure, { s with disk := disk })
  | (.ok link, disk) => (.ok (), { s with disk := disk }.connect name link settings.limits)

def openInMemory (s : State) (name : String) (settings : Settings) : Except Error Unit × State :=
  match Files.openInMemory settings s.disk with
  | .error e => (.error e, s)
  | .ok link => (.ok (), s.connect name link settings.limits)

def perform (s : State) (handle : Handle) (call : Cache.Call) :
    Except Error Cache.Answer × State :=
  match call.perform ((s.link handle).connection s.disk) with
  | (answer, c) =>
    match (s.link handle).after c s.disk with
    | (link, disk) => (answer, { s with links := s.links.set handle.link link, disk := disk })

def reader (s : State) (stream : Stream) : Range.Reader :=
  Cache.rangeRead ((s.link stream.handle).connection s.disk)

/-- What is left behind when a stream reads: its link has had a look at the tables. -/
def lookedThrough (s : State) (stream : Stream) : State :=
  let c := (s.link stream.handle).connection s.disk
  if stream.working && !s.hasFired stream.token && c.readFault?.isNone then
    { s with links := s.links.set stream.handle.link ((s.link stream.handle).after c.look s.disk).1 }
  else s

def next (s : State) (stream : Stream) : Range.Poll × Stream :=
  match stream.pipeline.next 0 (s.reader stream) (s.hasFired stream.token) with
  | (poll, pipeline) => (poll, { stream with pipeline := pipeline })

def nextMany (s : State) : Nat → Stream → List Range.Poll × Stream
  | 0, stream => ([], stream)
  | count + 1, stream =>
    match s.next stream with
    | (poll, stream) =>
      match nextMany s count stream with
      | (polls, stream) => (poll :: polls, stream)

end State

end ChainStore.Session

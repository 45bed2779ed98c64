import ChainStore.CommandLine.Run
import ChainStore.Session.State

set_option autoImplicit false
set_option relaxedAutoImplicit false

/-!
The commands of a session and their replies.
-/

namespace ChainStore.Session

open Storage (Database Interference)

/-- A stored text is shown as characters, with a mark for every piece that is none. -/
instance : CoeOut Text String := ⟨fun text => Text.ofBytesLossy text.bytes⟩

inductive PathKind where
  | directory
  | file
  | absent
deriving DecidableEq

inductive Command where
  | openMemory (name : String) (settings : Settings)
  | openFile (name : String) (settings : Settings)
  | openConfigured (name file : String)
  | copy (name newName : String)
  | close (name : String)
  | limits (name : String)
  | describe (name : String)
  | fire (token : String)
  | call (name : String) (token : Option String) (operation : Cache.Operation)
  | streamOpen (name stream : String) (token : Option String) (first last : Height)
  | streamNext (stream : String) (count : Nat)
  | streamCollect (stream : String)
  | streamDrop (stream : String)
  | streamKill (stream : String)
  | writeFile (path : String) (content : List UInt8)
  | makeDirectory (path : String)
  | pathKind (path : String)
  | commandLine (arguments : List String)
  | interfere (path : String) (interference : Interference)
  | unlock (path : String)
  | dump (path : String)

inductive Reply where
  | done
  | failed (error : Error)
  | crashed
  | noHandle
  | answer (answer : Cache.Answer)
  | existed (existed : Bool)
  | settings (settings : Settings)
  | limits (limits : Limits)
  | text (text : String)
  | polls (polls : List Range.Poll)
  | items (items : List Range.Item)
  | kind (kind : PathKind)
  | outcome (outcome : CommandLine.Outcome)
  | contents (db : Database)

def Reply.ofResult {α : Type} (reply : α → Reply) : Except Error α → Reply
  | .ok a => reply a
  | .error e => .failed e

def Reply.ofAttempt {α : Type} (reply : α → Reply) : Except Failure α → Reply
  | .ok a => reply a
  | .error (.error e) => .failed e
  | .error .crash => .crashed

def handleText (limits : Limits) : String :=
  "CacheDb \x7b limits: LimitsConfig \x7b max_range_span: " ++ toString limits.maxRangeSpan
    ++ ", stream_buffer: " ++ toString limits.streamBuffer ++ " \x7d, .. \x7d"

namespace State

def withHandle (s : State) (name : String) (act : Handle → Reply × State) : Reply × State :=
  match s.handles.lookup name with
  | none => (.noHandle, s)
  | some handle => act handle

def withStream (s : State) (name : String) (act : Stream → Reply × State) : Reply × State :=
  match s.streams.lookup name with
  | none => (.noHandle, s)
  | some stream => act stream

def openConfigured (s : State) (name file : String) : Reply × State :=
  match Settings.load file s.disk with
  | .error e => (.failed e, s)
  | .ok settings =>
    match s.openCache name settings with
    | (result, s) => (Reply.ofAttempt (fun _ => .settings settings) result, s)

/-- Opens a stream of a range. The token is not looked at. -/
def streamOpen (s : State) (stream : String) (token : Option String) (first last : Height)
    (handle : Handle) : Reply × State :=
  match Range.accept handle.limits first last with
  | .ok pipeline => (.done, { s with streams := s.streams.give stream ⟨handle, token, pipeline⟩ })
  | .error (.error e) => (.failed e, s)
  | .error .crash => (.crashed, s)

def place? (s : State) (path : String) : Option Files.Place :=
  match Files.Address.ofText path with
  | .ok address => address.place? s.disk
  | .error _ => none

def databaseAt (s : State) (path : String) : Database :=
  ((s.place? path).map s.disk.databaseAt).getD .blank

def interfere (s : State) (path : String) (change : Database → Database) : State :=
  match s.place? path with
  | none => s
  | some place =>
    { s with disk := s.disk.setDatabase place (change (s.disk.databaseAt place)) }

/-- Looks into a file from outside. Where there is none, an empty one is left behind. -/
def visit (s : State) (path : String) : State :=
  match (s.place? path).map (s.disk.openFile path .create) with
  | some (.ok disk) => { s with disk := disk }
  | _ => s

def pathKind (s : State) (path : String) : PathKind :=
  match s.disk.nodeAt? path with
  | none => .absent
  | some .directory => .directory
  | some (.file _) => .file

def carryOut (s : State) (now : Int) : Command → Reply × State
  | .openMemory name settings =>
    match s.openInMemory name settings with
    | (result, s) => (Reply.ofResult (fun _ => .done) result, s)
  | .openFile name settings =>
    match s.openCache name settings with
    | (result, s) => (Reply.ofAttempt (fun _ => .done) result, s)
  | .openConfigured name file => s.openConfigured name file
  | .copy name newName =>
    s.withHandle name fun handle => (.done, { s with handles := s.handles.give newName handle })
  | .close name =>
    (.existed (s.handles.lookup name).isSome, { s with handles := s.handles.forget name })
  | .limits name => s.withHandle name fun handle => (.limits handle.limits, s)
  | .describe name => s.withHandle name fun handle => (.text (handleText handle.limits), s)
  | .fire token => (.done, s.fire token)
  | .call name token operation =>
    s.withHandle name fun handle =>
      match s.perform handle ⟨operation, s.hasFired token, now⟩ with
      | (result, s) => (Reply.ofResult Reply.answer result, s)
  | .streamOpen name stream token first last =>
    s.withHandle name fun handle => s.streamOpen stream token first last handle
  | .streamNext name count =>
    s.withStream name fun stream =>
      match s.nextMany count stream with
      | (polls, after) =>
        let s := if count = 0 then s else s.lookedThrough stream
        (.polls polls, { s with streams := s.streams.give name after })
  | .streamCollect name =>
    s.withStream name fun stream =>
      (Reply.ofResult Reply.items
        (stream.pipeline.collect 0 (s.reader stream) (s.hasFired stream.token)),
        { s.lookedThrough stream with streams := s.streams.forget name })
  | .streamDrop name =>
    (.existed (s.streams.lookup name).isSome, { s with streams := s.streams.forget name })
  | .streamKill name =>
    s.withStream name fun stream =>
      (.done,
        { s with
          streams := s.streams.give name { stream with pipeline := stream.pipeline.halt } })
  | .writeFile path content => (.done, { s with disk := s.disk.write path content })
  | .makeDirectory path =>
    match s.disk.makeAll (Files.elements path) with
    | (_, disk) => (.done, { s with disk := disk })
  | .pathKind path => (.kind (s.pathKind path), s)
  | .commandLine arguments =>
    match CommandLine.run arguments .silent now s.disk with
    | (outcome, disk) => (.outcome outcome, { s with disk := disk })
  | .interfere path interference => (.done, s.interfere path interference.apply)
  | .unlock path =>
    (.existed (s.databaseAt path).locked, s.interfere path Interference.unlock.apply)
  | .dump path => (.contents (s.databaseAt path), s.visit path)

def step (s : State) (now : Int) (command : Command) : Reply × State :=
  match s.carryOut now command with
  | (reply, s) => (reply, s.settle)

/-- The connection that a command needs to itself, if it needs one. -/
def connection? (s : State) : Command → Option Nat
  | .call name _ _ => (s.handles.lookup name).map Handle.connection
  | .streamNext stream _ => (s.streams.lookup stream).map (fun stream => stream.handle.connection)
  | .streamCollect stream => (s.streams.lookup stream).map (fun stream => stream.handle.connection)
  | _ => none

def fire? (s : State) : Option String → State
  | none => s
  | some token => s.fire token

/-- Two commands that run side by side while the first one holds its connection. A waiter for
the same connection is still waiting when the token fires; any other is done by then. -/
def contend (s : State) (now : Int) (holder waiter : Command) (token : Option String) :
    (Reply × Reply) × State :=
  let meets := (s.connection? holder).isSome && s.connection? holder == s.connection? waiter
  if meets then
    match s.step now holder with
    | (first, s) =>
      match (s.fire? token).step now waiter with
      | (second, s) => ((first, second), s)
  else
    match s.step now waiter with
    | (second, s) =>
      match s.step now holder with
      | (first, s) => ((first, second), s.fire? token)

end State

end ChainStore.Session

import ChainStore.Settings

set_option autoImplicit false
set_option relaxedAutoImplicit false

/-!
Which ranges of heights may be read, and a range on its way from the store to its reader. A producer
reads one height after the other and sends what it finds through a channel of bounded room; a
consumer takes it out, looks at the cancellation token first, and ends every range in exactly one of
four ways. All steps of both sides are here as functions; `next` is the schedule in which the
producer works on demand.
-/

namespace ChainStore.Range

/-- Admits a range that does not end below its start and spans at most `limit` heights. The span
of the widest range needs 33 bits, so it is counted without wrapping. -/
def check (first last : Height) (limit : UInt32) : Except Error Unit :=
  if last < first then .error (.invalidRange first last)
  else if limit.toNat < (last - first).toNat + 1 then .error (.rangeTooLarge first last limit)
  else .ok ()

structure Item where
  height : Height
  payload : Payload
deriving DecidableEq

inductive Event where
  | block (item : Item)
  | finished
  | failed (error : Error)
deriving DecidableEq

/-- Where the producer stands: about to read a height, or, past the last one, to announce the
end; holding an event until there is room; or gone. Heights are counted without wrapping. -/
inductive Producer where
  | reading (next : Nat)
  | offering (event : Event) (next : Nat)
  | stopped
deriving DecidableEq

abbrev Reader := Height → Except Error (Option Payload)

inductive Poll where
  | pending
  | item (item : Item)
  | failed (error : Error)
  | ended
deriving DecidableEq

/-- A range being read. The channel holds `capacity` events at most; `closed` says that the
consumer has heard how the range ended. -/
structure Pipeline where
  last : Height
  capacity : Nat
  producer : Producer
  queue : List Event
  closed : Bool
deriving DecidableEq

namespace Pipeline

def start (first last : Height) (capacity : Nat) : Pipeline :=
  ⟨last, capacity, .reading first.toNat, [], false⟩

/-- The producer about to read `next`: a missing height is passed over, a failure is the last
thing to send, and past the last height the end is. -/
def look (reader : Reader) (last : Height) (next : Nat) : Producer :=
  if next ≤ last.toNat then
    match reader (UInt32.ofNat next) with
    | .ok none => .reading (next + 1)
    | .ok (some payload) => .offering (.block ⟨UInt32.ofNat next, payload⟩) (next + 1)
    | .error e => .offering (.failed e) next
  else .offering .finished next

def sent (event : Event) (next : Nat) : Producer :=
  match event with
  | .block _ => .reading next
  | .finished => .stopped
  | .failed _ => .stopped

/-- One step of the producer. It waits while the channel is full and leaves when the consumer has
gone. -/
def advance (reader : Reader) (p : Pipeline) : Pipeline :=
  match p.producer with
  | .stopped => p
  | .reading next => { p with producer := look reader p.last next }
  | .offering event next =>
    if p.closed then { p with producer := .stopped }
    else if p.queue.length < p.capacity then
      { p with producer := sent event next, queue := p.queue ++ [event] }
    else p

def halt (p : Pipeline) : Pipeline := { p with producer := .stopped }

def close (p : Pipeline) : Pipeline := { p with closed := true }

/-- The first half of a question: the consumer knows the answer without the channel when the range
is over, which stays so, or when the token has fired, which wins over everything in the channel. -/
def glance (fired : Bool) (p : Pipeline) : Option (Poll × Pipeline) :=
  if p.closed then some (.ended, p)
  else if fired then some (.failed .cancelled, p.close)
  else none

/-- The second half: the consumer takes what comes next. An empty channel that no producer feeds is
an abort, unless the token has fired in the meantime. Such a channel stays as it is, so the second
look at the token may count as one moment with the attempt to take. -/
def take (fired : Bool) (p : Pipeline) : Poll × Pipeline :=
  match p.queue with
  | .block item :: rest => (.item item, { p with queue := rest })
  | .finished :: rest => (.ended, { p with queue := rest, closed := true })
  | .failed e :: rest => (.failed e, { p with queue := rest, closed := true })
  | [] =>
    match p.producer with
    | .stopped => (.failed (if fired then .cancelled else .streamAborted), p.close)
    | _ => (.pending, p)

def poll (fired : Bool) (p : Pipeline) : Poll × Pipeline := (p.glance fired).getD (p.take fired)

def wants (ahead : Nat) (p : Pipeline) : Bool :=
  match p.producer with
  | .stopped => false
  | _ => decide (p.queue.length ≤ ahead ∧ p.queue.length < p.capacity)

/-- Steps that the producer can still take: at most two a height and two for the end. -/
def patience (p : Pipeline) : Nat :=
  match p.producer with
  | .reading next => 2 * (p.last.toNat + 1 - next) + 2
  | .offering _ next => 2 * (p.last.toNat + 1 - next) + 3
  | .stopped => 0

def fill (ahead : Nat) (reader : Reader) : Nat → Pipeline → Pipeline
  | 0, p => p
  | steps + 1, p => if p.wants ahead then fill ahead reader steps (p.advance reader) else p

/-- Asks for the next block with a producer that keeps up to `ahead` events waiting behind it and
does nothing between the questions. With `ahead = 0` each height is read when it is asked for. -/
def next (ahead : Nat) (reader : Reader) (fired : Bool) (p : Pipeline) : Poll × Pipeline :=
  if p.closed || fired then p.poll fired
  else (p.fill ahead reader p.patience).poll fired

def questions (p : Pipeline) : Nat := p.queue.length + p.patience + 1

def drain (ahead : Nat) (reader : Reader) (fired : Bool) :
    Nat → Pipeline → List Item × Option Error
  | 0, _ => ([], none)
  | count + 1, p =>
    match p.next ahead reader fired with
    | (.item item, rest) =>
      match drain ahead reader fired count rest with
      | (items, ending) => (item :: items, ending)
    | (.failed e, _) => ([], some e)
    | _ => ([], none)

def collect (ahead : Nat) (reader : Reader) (fired : Bool) (p : Pipeline) :
    Except Error (List Item) :=
  match p.drain ahead reader fired p.questions with
  | (items, none) => .ok items
  | (_, some e) => .error e

end Pipeline

def maxCapacity : Nat := Nat.pow 2 61 - 1

/-- Opens a range under the limits of a cache. The range is checked before anything else. A
channel without room, or with more than the machine makes, is a crash. -/
def accept (limits : Limits) (first last : Height) : Except Failure Pipeline :=
  match check first last limits.maxRangeSpan with
  | .error e => .error (.error e)
  | .ok _ =>
    if limits.streamBuffer.toNat = 0 ∨ maxCapacity < limits.streamBuffer.toNat then .error .crash
    else .ok (.start first last limits.streamBuffer.toNat)

end ChainStore.Range

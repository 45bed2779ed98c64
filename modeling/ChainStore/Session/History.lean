import ChainStore.Session.Command

set_option autoImplicit false
set_option relaxedAutoImplicit false

/-!
Histories of a session: commands carried out one after the other, each at its own reading of the
clock. The command that asks a range has its producer work on demand; in a history of acts a range
may be asked with any number of events kept waiting behind the answer.
-/

namespace ChainStore.Session

/-- Something that happens in a session: a command, or a question to a range whose producer keeps up
to `ahead` events waiting. -/
inductive Act where
  | command (command : Command)
  | ask (stream : String) (ahead : Nat)

namespace State

def run : List (Int × Command) → State → List Reply × State
  | [], s => ([], s)
  | (now, command) :: script, s =>
    match s.step now command with
    | (reply, s) =>
      match run script s with
      | (replies, s) => (reply :: replies, s)

def ask (s : State) (name : String) (ahead : Nat) : Reply × State :=
  s.withStream name fun stream =>
    match stream.pipeline.next ahead (s.reader stream) (s.hasFired stream.token) with
    | (poll, pipeline) =>
      let s := s.lookedThrough stream
      (.polls [poll],
        { s with streams := s.streams.give name { stream with pipeline := pipeline } })

def act (s : State) (now : Int) : Act → Reply × State
  | .command command => s.step now command
  | .ask stream ahead =>
    match s.ask stream ahead with
    | (reply, s) => (reply, s.settle)

def play : List (Int × Act) → State → List (Act × Reply) × State
  | [], s => ([], s)
  | (now, act) :: acts, s =>
    match s.act now act with
    | (reply, s) =>
      match play acts s with
      | (entries, s) => ((act, reply) :: entries, s)

/-- With nothing kept waiting a question is the command that asks once. -/
theorem act_ask_zero (s : State) (now : Int) (stream : String) :
    s.act now (.ask stream 0) = s.act now (.command (.streamNext stream 1)) := by
  unfold act step
  simp only [ask, carryOut, withStream]
  cases s.streams.lookup stream with
  | none => rfl
  | some found => simp only [nextMany, next, Nat.one_ne_zero, ↓reduceIte]

end State

end ChainStore.Session

import ChainStore.Record

set_option autoImplicit false
set_option relaxedAutoImplicit false

/-!
The arguments of the command line: two options in front, a command, and the options and values of
that command. A request for help ends the reading where it is met; what was wrong before it counts,
and what would have been wrong behind it does not.
-/

namespace ChainStore.CommandLine

structure TransactionQuery where
  hash : Option String
  height : Option Height
  blockHash : Option String
  index : Option UInt32
deriving DecidableEq

inductive Command where
  | tip
  | block (height : Height) (payload : Bool)
  | blockByHash (hash : String)
  | transaction (query : TransactionQuery)
  | range (first last : Height)
  | rollback (height : Height)
deriving DecidableEq

/-- A command line that makes sense and asks for more than help. -/
structure Invocation where
  settingsFile : String
  database : Option String
  command : Command
deriving DecidableEq

/-! ### What can be given -/

structure Parameter where
  name : String
  admits : String → Bool := fun _ => true

/-- An option: its long name, its letter if it has one, the value that belongs to it if there is
one, and what is said of it. -/
structure Switch where
  name : String
  letter : Option Char := none
  value : Option Parameter := none
  about : String := ""

structure Shape where
  name : String
  about : String
  switches : List Switch := []
  parameters : List Parameter := []

/-- Reads a number of 32 bits: decimal digits with an optional sign in front. A minus is good for
zero only. -/
def word? (s : String) : Option UInt32 :=
  let (negative, ds) :=
    match s.toList with
    | '-' :: ds => (true, ds)
    | '+' :: ds => (false, ds)
    | ds => (false, ds)
  if ds.isEmpty || !ds.all Char.isDigit then none
  else
    let n := ds.foldl (fun n c => 10 * n + (c.toNat - '0'.toNat)) 0
    if negative && n != 0 then none
    else if n < UInt32.size then some (UInt32.ofNat n)
    else none

def Parameter.word (name : String) : Parameter := ⟨name, fun s => (word? s).isSome⟩

/-- The options in front of every command. The settings file must have a name. -/
def frontSwitches : List Switch :=
  [{ name := "config", letter := some 'c', value := some ⟨"CONFIG", fun file => file != ""⟩,
     about := "Path to the cache config file [default: cache.toml]" },
   { name := "db", value := some { name := "DB" },
     about := "Override the database path from the config file" }]

def shapes : List Shape :=
  [{ name := "tip", about := "Show the current tip height" },
   { name := "block", about := "Show the block stored at a height",
     switches := [{ name := "payload", about := "Print the payload as hex" }],
     parameters := [.word "HEIGHT"] },
   { name := "block-by-hash", about := "Show a block by its hash",
     parameters := [{ name := "HASH" }] },
   { name := "tx", about := "Show a transaction by hash, or by block position",
     switches := [{ name := "hash", value := some { name := "HASH" } },
       { name := "height", value := some (.word "HEIGHT") },
       { name := "block-hash", value := some { name := "BLOCK_HASH" } },
       { name := "index", value := some (.word "INDEX") }] },
   { name := "range", about := "Stream a height range and list what is stored",
     parameters := [.word "START", .word "END"] },
   { name := "rollback", about := "Drop every block above a height and lower the tip",
     parameters := [.word "HEIGHT"] }]

inductive Topic where
  | everything
  | command (shape : Shape)
  | help

inductive Stop where
  | mistake
  | help (topic : Topic)

/-! ### Reading -/

/-- What has been read so far: options with their values, and values on their own. The last option
in front of the command may be unsettled: its value has not been looked at. -/
structure Reading where
  options : List (String × String) := []
  unsettled : Option (Switch × String) := none
  values : List String := []

namespace Reading

def option (switch : Switch) (value : String) (reading : Reading) : Except Stop Reading :=
  if (reading.options.lookup switch.name).isSome then .error .mistake
  else if switch.value.any (fun parameter => !parameter.admits value) then .error .mistake
  else .ok { reading with options := reading.options ++ [(switch.name, value)] }

def settle (reading : Reading) : Except Stop Reading :=
  match reading.unsettled with
  | none => .ok reading
  | some (switch, value) => { reading with unsettled := none }.option switch value

def value (shape : Shape) (reading : Reading) (value : String) : Except Stop Reading :=
  match shape.parameters[reading.values.length]? with
  | none => .error .mistake
  | some parameter =>
    if parameter.admits value then .ok { reading with values := reading.values ++ [value] }
    else .error .mistake

def get? (name : String) (reading : Reading) : Option String := reading.options.lookup name

end Reading

def isDashed (argument : String) : Bool :=
  match argument.toList with
  | '-' :: _ :: _ => true
  | _ => false

def splitEquals (cs : List Char) : String × Option String :=
  match cs.dropWhile (fun c => c != '=') with
  | [] => (String.ofList cs, none)
  | _ :: value => (String.ofList (cs.takeWhile (fun c => c != '=')), some (String.ofList value))

/-- How one option argument is taken: with its value or as a plain switch, as an option that still
waits for its value, or as a request for help. -/
inductive Taken where
  | complete (switch : Switch) (value : String)
  | waiting (switch : Switch)
  | help

def takeLong (switches : List Switch) (cs : List Char) : Option Taken := do
  let (name, value) := splitEquals cs
  if name = "help" then
    if value.isSome then none else return .help
  let switch ← switches.find? (fun switch => switch.name == name)
  match switch.value.isSome, value with
  | true, some value => return .complete switch value
  | true, none => return .waiting switch
  | false, none => return .complete switch ""
  | false, some _ => none

/-- Takes an argument behind one dash. The value may follow the letter, with or without an equals
sign between them. -/
def takeShort (switches : List Switch) : List Char → Option Taken
  | [] => none
  | 'h' :: _ => some .help
  | c :: cs => do
    let switch ← switches.find? (fun switch => switch.letter == some c)
    match switch.value.isSome, cs with
    | true, [] => return .waiting switch
    | true, '=' :: value => return .complete switch (String.ofList value)
    | true, value => return .complete switch (String.ofList value)
    | false, [] => return .complete switch ""
    | false, _ => none

def take (switches : List Switch) (argument : String) : Option Taken :=
  match argument.toList with
  | '-' :: '-' :: cs => takeLong switches cs
  | '-' :: cs => takeShort switches cs
  | _ => none

def helpOn : List String → Stop
  | [] => .help .everything
  | ["help"] => .help .help
  | [name] =>
    match shapes.find? (fun shape => shape.name == name) with
    | some shape => .help (.command shape)
    | none => .mistake
  | _ => .mistake

/-- Reads options up to a command. `waiting` is an option whose value comes next. The result is what
was read, the command and the arguments behind it. A command is taken before the option in front of
it is settled. -/
def readFront : Option Switch → Reading → List String →
    Except Stop (Reading × Shape × List String)
  | _, _, [] => .error .mistake
  | some switch, reading, a :: rest =>
    if isDashed a then .error .mistake
    else readFront none { reading with unsettled := some (switch, a) } rest
  | none, reading, a :: rest =>
    if a = "help" then .error (helpOn rest)
    else
      match shapes.find? (fun shape => shape.name == a) with
      | some shape => .ok (reading, shape, rest)
      | none =>
        match reading.settle with
        | .error stop => .error stop
        | .ok reading =>
          match take frontSwitches a with
          | none => .error .mistake
          | some .help => .error (.help .everything)
          | some (.waiting switch) => readFront (some switch) reading rest
          | some (.complete switch value) =>
            match reading.option switch value with
            | .error stop => .error stop
            | .ok reading => readFront none reading rest

/-- Reads the options and values of a command. Behind two lone dashes everything is a value. -/
def readBack (shape : Shape) : Option Switch → Reading → List String → Except Stop Reading
  | none, reading, [] => .ok reading
  | some _, _, [] => .error .mistake
  | some switch, reading, a :: rest =>
    if isDashed a then .error .mistake
    else
      match reading.option switch a with
      | .error stop => .error stop
      | .ok reading => readBack shape none reading rest
  | none, reading, a :: rest =>
    if a = "--" then rest.foldlM (Reading.value shape) reading
    else if isDashed a then
      match take shape.switches a with
      | none => .error .mistake
      | some .help => .error (.help (.command shape))
      | some (.waiting switch) => readBack shape (some switch) reading rest
      | some (.complete switch value) =>
        match reading.option switch value with
        | .error stop => .error stop
        | .ok reading => readBack shape none reading rest
    else
      match reading.value shape a with
      | .error stop => .error stop
      | .ok reading => readBack shape none reading rest

/-! ### What has been read -/

/-- The options of a transaction query. A hash excludes a place, a height excludes a block hash,
and both kinds of place need an index. -/
def transactionQuery? (reading : Reading) : Option TransactionQuery :=
  let query : TransactionQuery :=
    ⟨reading.get? "hash", (reading.get? "height").bind word?, reading.get? "block-hash",
      (reading.get? "index").bind word?⟩
  if query.hash.isSome && (query.height.isSome || query.blockHash.isSome) then none
  else if query.height.isSome && query.blockHash.isSome then none
  else if (query.height.isSome || query.blockHash.isSome) && query.index.isNone then none
  else some query

def command? (name : String) (reading : Reading) : Option Command :=
  match name, reading.values with
  | "tip", [] => some .tip
  | "block", [height] =>
    (word? height).map (fun height => .block height (reading.get? "payload").isSome)
  | "block-by-hash", [hash] => some (.blockByHash hash)
  | "tx", [] => (transactionQuery? reading).map Command.transaction
  | "range", [first, last] => do return .range (← word? first) (← word? last)
  | "rollback", [height] => (word? height).map Command.rollback
  | _, _ => none

def parse (arguments : List String) : Except Stop Invocation :=
  match readFront none {} arguments with
  | .error stop => .error stop
  | .ok (front, shape, rest) =>
    match readBack shape none {} rest with
    | .error stop => .error stop
    | .ok back =>
      match command? shape.name back, front.settle with
      | some command, .ok front =>
        .ok ⟨(front.get? "config").getD "cache.toml", front.get? "db", command⟩
      | _, _ => .error .mistake

def invocation? (arguments : List String) : Option Invocation :=
  match parse arguments with
  | .ok invocation => some invocation
  | .error _ => none

theorem invocation?_eq_some {arguments : List String} {invocation : Invocation} :
    invocation? arguments = some invocation ↔ parse arguments = .ok invocation := by
  unfold invocation?
  cases parse arguments <;> simp

end ChainStore.CommandLine

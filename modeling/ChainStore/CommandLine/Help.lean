import ChainStore.CommandLine.Arguments

set_option autoImplicit false
set_option relaxedAutoImplicit false

/-!
The help that is printed about the command line: a line about the topic, a line about its use, and a
table for each kind of thing that can be given.
-/

namespace ChainStore.CommandLine

def programName : String := "cache-inspect"

/-- The lines of a table: each name is filled up to the width of the longest. -/
def tableLines (rows : List (String × String)) : String :=
  let width := (rows.map (fun row => row.1.length)).foldl max 0
  String.join (rows.map fun row =>
    "  " ++ row.1 ++ String.ofList (List.replicate (width + 2 - row.1.length) ' ') ++ row.2 ++ "\n")

def headed (heading : String) (rows : List (String × String)) : String :=
  if rows.isEmpty then "" else "\n" ++ heading ++ ":\n" ++ tableLines rows

def helpSwitch : Switch := { name := "help", letter := some 'h', about := "Print help" }

def Parameter.placeholder (parameter : Parameter) : String := "<" ++ parameter.name ++ ">"

def Switch.row (switch : Switch) : String × String :=
  let letter := match switch.letter with
    | some c => String.ofList ['-', c] ++ ", "
    | none => "    "
  let value := match switch.value with
    | some parameter => " " ++ parameter.placeholder
    | none => ""
  (letter ++ "--" ++ switch.name ++ value, switch.about)

def Shape.row (shape : Shape) : String × String := (shape.name, shape.about)

def helpRow : String × String :=
  ("help", "Print this message or the help of the given subcommand(s)")

def usageLine (words : List String) : String :=
  "\nUsage: " ++ String.intercalate " " (programName :: words) ++ "\n"

def Shape.usage (shape : Shape) : List String :=
  [shape.name] ++ (if shape.switches.isEmpty then [] else ["[OPTIONS]"])
    ++ shape.parameters.map Parameter.placeholder

def helpText : Topic → String
  | .everything =>
    "Read-side diagnostics for a compact block cache\n" ++ usageLine ["[OPTIONS]", "<COMMAND>"]
      ++ headed "Commands" (shapes.map Shape.row ++ [helpRow])
      ++ headed "Options" ((frontSwitches ++ [helpSwitch]).map Switch.row)
  | .command shape =>
    shape.about ++ "\n" ++ usageLine shape.usage
      ++ headed "Arguments" (shape.parameters.map fun parameter => (parameter.placeholder, ""))
      ++ headed "Options" ((shape.switches ++ [helpSwitch]).map Switch.row)
  | .help =>
    helpRow.2 ++ "\n" ++ usageLine ["help", "[COMMAND]..."]
      ++ headed "Arguments" [("[COMMAND]...", "Print help for the subcommand(s)")]

end ChainStore.CommandLine

import ChainStore.Toml.Scalar

set_option autoImplicit false
set_option relaxedAutoImplicit false

/-!
Quoted strings of the four kinds: basic ones with escapes and literal ones without, each on one
line or on several.
-/

namespace ChainStore.Toml

def isTextChar (c : Char) : Bool := c == '\t' || (' ' ≤ c && c != '\x7f')

def isBlank (c : Char) : Bool := c == ' ' || c == '\t'

def skipBlanks (cs : List Char) : List Char := cs.dropWhile isBlank

def lineBreak? : List Char → Option (List Char)
  | '\n' :: cs => some cs
  | '\r' :: '\n' :: cs => some cs
  | _ => none

def hexNumber? (count : Nat) (cs : List Char) : Option Nat :=
  if cs.length = count then
    cs.foldl (fun n c => n.bind (fun n => (hexValue? c).map (16 * n + ·))) (some 0)
  else none

def scalarChar? (n : Nat) : Option Char := if n.isValidChar then some (Char.ofNat n) else none

def escape? : List Char → Option (Char × List Char)
  | 'b' :: cs => some ('\x08', cs)
  | 't' :: cs => some ('\t', cs)
  | 'n' :: cs => some ('\n', cs)
  | 'f' :: cs => some ('\x0c', cs)
  | 'r' :: cs => some ('\r', cs)
  | '"' :: cs => some ('"', cs)
  | '\\' :: cs => some ('\\', cs)
  | 'u' :: cs => ((hexNumber? 4 (cs.take 4)).bind scalarChar?).map (fun c => (c, cs.drop 4))
  | 'U' :: cs => ((hexNumber? 8 (cs.take 8)).bind scalarChar?).map (fun c => (c, cs.drop 8))
  | _ => none

def basicRest? : Nat → List Char → Option (List Char × List Char)
  | 0, _ => none
  | _, [] => none
  | fuel + 1, c :: cs =>
    if c = '"' then some ([], cs)
    else if c = '\\' then do
      let (e, cs) ← escape? cs
      let (text, rest) ← basicRest? fuel cs
      return (e :: text, rest)
    else if isTextChar c then do
      let (text, rest) ← basicRest? fuel cs
      return (c :: text, rest)
    else none

def literalRest? : List Char → Option (List Char × List Char)
  | [] => none
  | c :: cs =>
    if c = '\'' then some ([], cs)
    else if isTextChar c then do
      let (text, rest) ← literalRest? cs
      return (c :: text, rest)
    else none

def skipSpace : Nat → List Char → List Char
  | 0, cs => cs
  | fuel + 1, cs =>
    match lineBreak? cs with
    | some rest => skipSpace fuel rest
    | none =>
      match cs with
      | c :: rest => if isBlank c then skipSpace fuel rest else cs
      | [] => []

def lineEnd? (cs : List Char) : Option (List Char) :=
  (lineBreak? (skipBlanks cs)).map (fun rest => skipSpace rest.length rest)

/-- Looks at a run of quotes inside a string of several lines. Up to two are text. From three on
the last three close the string, and up to two before them are text. -/
def quoteRun (quote : Char) (cs : List Char) : Nat × Bool :=
  let run := (cs.takeWhile (fun c => c == quote)).length
  if run < 3 then (run, false) else (min run 5 - 3, true)

/-- Reads the rest of a string of several lines behind its opening quotes. A line break is read
as a line feed. `escapes` is off for literal strings. -/
def linesRest? (quote : Char) (escapes : Bool) :
    Nat → List Char → Option (List Char × List Char)
  | 0, _ => none
  | _, [] => none
  | fuel + 1, c :: cs =>
    if c = quote then
      match quoteRun quote (c :: cs) with
      | (texts, true) => some (List.replicate texts quote, (c :: cs).drop (texts + 3))
      | (texts, false) => do
        let (text, rest) ← linesRest? quote escapes fuel ((c :: cs).drop texts)
        return (List.replicate texts quote ++ text, rest)
    else if escapes && c == '\\' then
      match lineEnd? cs with
      | some cs => linesRest? quote escapes fuel cs
      | none => do
        let (e, cs) ← escape? cs
        let (text, rest) ← linesRest? quote escapes fuel cs
        return (e :: text, rest)
    else
      match lineBreak? (c :: cs) with
      | some cs => do
        let (text, rest) ← linesRest? quote escapes fuel cs
        return ('\n' :: text, rest)
      | none =>
        if isTextChar c then do
          let (text, rest) ← linesRest? quote escapes fuel cs
          return (c :: text, rest)
        else none

/-- A line break right behind the opening quotes does not count. -/
def dropFirstBreak (cs : List Char) : List Char := (lineBreak? cs).getD cs

def lineString? : List Char → Option (String × List Char)
  | '"' :: cs => (basicRest? (cs.length + 1) cs).map (fun (text, rest) => (String.ofList text, rest))
  | '\'' :: cs => (literalRest? cs).map (fun (text, rest) => (String.ofList text, rest))
  | _ => none

def string? (cs : List Char) : Option (String × List Char) :=
  match cs with
  | '"' :: '"' :: '"' :: rest =>
    (linesRest? '"' true (rest.length + 1) (dropFirstBreak rest)).map
      (fun (text, rest) => (String.ofList text, rest))
  | '\'' :: '\'' :: '\'' :: rest =>
    (linesRest? '\'' false (rest.length + 1) (dropFirstBreak rest)).map
      (fun (text, rest) => (String.ofList text, rest))
  | _ => lineString? cs

end ChainStore.Toml

import ChainStore.Toml.Assembly
import ChainStore.Toml.Quoted

set_option autoImplicit false
set_option relaxedAutoImplicit false

/-!
Reading a TOML document: its keys, its values and its lines.
-/

namespace ChainStore.Toml

/-- Values may be nested, and keys may have parts, up to this depth. -/
def maxDepth : Nat := 79

def isBareKeyChar (c : Char) : Bool := c.isAlphanum || c == '_' || c == '-'

def keyPart? (cs : List Char) : Option (String × List Char) :=
  match cs with
  | '"' :: _ => lineString? cs
  | '\'' :: _ => lineString? cs
  | _ =>
    let bare := cs.takeWhile isBareKeyChar
    if bare.isEmpty then none else some (String.ofList bare, cs.drop bare.length)

def keyParts? : Nat → List Char → Option (List String × List Char)
  | 0, _ => none
  | fuel + 1, cs => do
    let (part, rest) ← keyPart? (skipBlanks cs)
    match skipBlanks rest with
    | '.' :: more =>
      let (parts, rest) ← keyParts? fuel more
      return (part :: parts, rest)
    | rest => return ([part], rest)

def key? (cs : List Char) : Option (List String × String × List Char) := do
  let (parts, rest) ← keyParts? maxDepth cs
  let last ← parts.getLast?
  return (parts.dropLast, last, rest)

def endsScalar (c : Char) : Bool :=
  isBlank c || c == '\n' || c == '\r' || c == ',' || c == ']' || c == '}' || c == '#'

/-- Reads a value without quotes. A date and a time may be parted by one space. -/
def scalarValue? (cs : List Char) : Option (Value × List Char) :=
  let word := cs.takeWhile (fun c => !endsScalar c)
  let rest := cs.drop word.length
  match rest with
  | ' ' :: d :: more =>
    if d.isDigit && date? word == some [] then
      let time := (d :: more).takeWhile (fun c => !endsScalar c)
      (scalar? (word ++ ' ' :: time)).map (fun v => (v, (d :: more).drop time.length))
    else (scalar? word).map (fun v => (v, rest))
  | _ => (scalar? word).map (fun v => (v, rest))

def comment? (cs : List Char) : Option (List Char) :=
  let rest := cs.dropWhile isTextChar
  match rest with
  | [] => some []
  | _ => if (lineBreak? rest).isSome then some rest else none

def skipFiller? : Nat → List Char → Option (List Char)
  | 0, cs => some cs
  | fuel + 1, cs =>
    match lineBreak? cs with
    | some rest => skipFiller? fuel rest
    | none =>
      match cs with
      | '#' :: rest => (comment? rest).bind (skipFiller? fuel)
      | c :: rest => if isBlank c then skipFiller? fuel rest else some cs
      | [] => some []

mutual

/-- Reads a value. `fuel` bounds the steps and `depth` the nesting still allowed. -/
def value? : Nat → Nat → List Char → Option (Value × List Char)
  | 0, _, _ => none
  | fuel + 1, depth, cs =>
    match cs with
    | '"' :: _ => (string? cs).map (fun (s, rest) => (.string s, rest))
    | '\'' :: _ => (string? cs).map (fun (s, rest) => (.string s, rest))
    | '[' :: rest =>
      match depth with
      | 0 => none
      | depth + 1 => (elements? fuel depth rest).map (fun (vs, rest) => (.array vs, rest))
    | '{' :: rest =>
      match depth with
      | 0 => none
      | depth + 1 =>
        match skipBlanks rest with
        | '}' :: rest => some (.table [], rest)
        | rest => do
          let (pairs, rest) ← pairs? fuel depth rest
          let table ← inlineTable pairs []
          return (table, rest)
    | _ => scalarValue? cs

def elements? : Nat → Nat → List Char → Option (List Value × List Char)
  | 0, _, _ => none
  | fuel + 1, depth, cs => do
    match ← skipFiller? cs.length cs with
    | ']' :: rest => return ([], rest)
    | cs =>
      let (v, rest) ← value? fuel depth cs
      match ← skipFiller? rest.length rest with
      | ']' :: rest => return ([v], rest)
      | ',' :: rest =>
        let (vs, rest) ← elements? fuel depth rest
        return (v :: vs, rest)
      | _ => none

def pairs? : Nat → Nat → List Char → Option (List (List String × String × Value) × List Char)
  | 0, _, _ => none
  | fuel + 1, depth, cs => do
    let (path, key, rest) ← key? cs
    match rest with
    | '=' :: rest =>
      let (v, rest) ← value? fuel depth (skipBlanks rest)
      match skipBlanks rest with
      | '}' :: rest => return ([(path, key, v)], rest)
      | ',' :: rest =>
        let (more, rest) ← pairs? fuel depth rest
        return ((path, key, v) :: more, rest)
      | _ => none
    | _ => none

end

def lineRest? (cs : List Char) : Option (List Char) :=
  let afterComment : Option (List Char) :=
    match skipBlanks cs with
    | '#' :: rest => comment? rest
    | rest => some rest
  match afterComment with
  | none => none
  | some [] => some []
  | some rest => lineBreak? rest

def line? (cs : List Char) : Option (Line × List Char) :=
  match cs with
  | '[' :: '[' :: rest => do
    let (path, key, rest) ← key? rest
    match rest with
    | ']' :: ']' :: rest => return (.element path key, ← lineRest? rest)
    | _ => none
  | '[' :: rest => do
    let (path, key, rest) ← key? rest
    match rest with
    | ']' :: rest => return (.header path key, ← lineRest? rest)
    | _ => none
  | _ => do
    let (path, key, rest) ← key? cs
    match rest with
    | '=' :: rest =>
      let (v, rest) ← value? (2 * rest.length + 2) maxDepth (skipBlanks rest)
      return (.keyValue path key v, ← lineRest? rest)
    | _ => none

def lines? : Nat → List Char → Option (List Line)
  | 0, _ => none
  | fuel + 1, cs =>
    match skipBlanks cs with
    | [] => some []
    | '#' :: rest => (lineRest? ('#' :: rest)).bind (lines? fuel)
    | cs =>
      match lineBreak? cs with
      | some rest => lines? fuel rest
      | none => do
        let (line, rest) ← line? cs
        let more ← lines? fuel rest
        return line :: more

def document? (text : String) : Option Entries :=
  let cs :=
    match text.toList with
    | '\ufeff' :: rest => rest
    | cs => cs
  (lines? (cs.length + 1) cs).bind assemble

end ChainStore.Toml

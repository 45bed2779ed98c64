import ChainStore.Toml.Scalar

set_option autoImplicit false
set_option relaxedAutoImplicit false

/-!
Putting a document together from its lines. Each table remembers how it came to be, because that
decides who may add to it: a header opens a table once, and a dotted key adds only to tables that
dotted keys made.
-/

namespace ChainStore.Toml

/-- How a table came to be: opened by a header, implied by a longer header, or made by a dotted
key. -/
inductive Shape where
  | opened
  | implied
  | dotted
deriving DecidableEq

inductive Item where
  | value (v : Value)
  | table (shape : Shape) (entries : List (String × Item))
  | tables (elements : List (List (String × Item)))

inductive Line where
  | keyValue (path : List String) (key : String) (value : Value)
  | header (path : List String) (key : String)
  | element (path : List String) (key : String)

namespace Item

def put (key : String) (item : Item) : List (String × Item) → List (String × Item)
  | [] => [(key, item)]
  | (k, i) :: rest => if k = key then (key, item) :: rest else (k, i) :: put key item rest

/-- Changes the entries that a path leads to, making the tables that are missing. Of an array of
tables the last element is meant. With `dotted`, tables opened by a header are closed to the
path. -/
def update (dotted : Bool)
    (change : Shape → List (String × Item) → Option (List (String × Item))) :
    List String → Shape → List (String × Item) → Option (List (String × Item))
  | [], shape, entries => change shape entries
  | key :: path, _, entries =>
    match entries.lookup key with
    | none =>
      let shape := if dotted then Shape.dotted else Shape.implied
      (update dotted change path shape []).map (fun inner => put key (.table shape inner) entries)
    | some (.value _) => none
    | some (.table shape inner) =>
      if dotted && shape == .opened then none
      else
        (update dotted change path shape inner).map
          (fun inner => put key (.table shape inner) entries)
    | some (.tables elements) =>
      (update dotted change path .opened (elements.getLast?.getD [])).map
        (fun inner => put key (.tables (elements.dropLast ++ [inner])) entries)

/-- Adds a key that must be new. A key without a path belongs to a table that is not dotted, and
one with a path to a table that is. -/
def insertNew (pathEmpty : Bool) (key : String) (value : Value) (shape : Shape)
    (entries : List (String × Item)) : Option (List (String × Item)) :=
  if (shape == .dotted) == pathEmpty then none
  else if (entries.lookup key).isSome then none
  else some (put key (.value value) entries)

def insertAt (path : List String) (key : String) (value : Value) (shape : Shape)
    (entries : List (String × Item)) : Option (List (String × Item)) :=
  update true (insertNew path.isEmpty key value) path shape entries

/-- Opens a table, which must be new or merely implied. -/
def openTable (key : String) (_ : Shape) (entries : List (String × Item)) :
    Option (List (String × Item)) :=
  match entries.lookup key with
  | none => some (put key (.table .opened []) entries)
  | some (.table .implied inner) => some (put key (.table .opened inner) entries)
  | some _ => none

def openElement (key : String) (_ : Shape) (entries : List (String × Item)) :
    Option (List (String × Item)) :=
  match entries.lookup key with
  | none => some (put key (.tables [[]]) entries)
  | some (.tables elements) => some (put key (.tables (elements ++ [[]])) entries)
  | some _ => none

mutual

def toValue : Item → Value
  | .value v => v
  | .table _ entries => .table (toEntries entries)
  | .tables elements => .array (toElements elements)

def toEntries : List (String × Item) → Entries
  | [] => []
  | (key, item) :: rest => (key, toValue item) :: toEntries rest

def toElements : List (List (String × Item)) → List Value
  | [] => []
  | entries :: rest => .table (toEntries entries) :: toElements rest

end

end Item

def addLines : List Line → List String → List (String × Item) → Option (List (String × Item))
  | [], _, root => some root
  | .keyValue path key value :: lines, current, root =>
    (Item.update false (Item.insertAt path key value) current .opened root).bind
      (addLines lines current)
  | .header path key :: lines, _, root =>
    (Item.update false (Item.openTable key) path .opened root).bind (addLines lines (path ++ [key]))
  | .element path key :: lines, _, root =>
    (Item.update false (Item.openElement key) path .opened root).bind
      (addLines lines (path ++ [key]))

def assemble (lines : List Line) : Option Entries :=
  (addLines lines [] []).map Item.toEntries

def inlineTable : List (List String × String × Value) → List (String × Item) → Option Value
  | [], entries => some (.table (Item.toEntries entries))
  | (path, key, value) :: rest, entries =>
    (Item.insertAt path key value .opened entries).bind (inlineTable rest)

end ChainStore.Toml

set_option autoImplicit false
set_option relaxedAutoImplicit false

/-!
Paths as texts and the elements they are made of. Names are told apart byte by byte.
-/

namespace ChainStore.Files

/-- The bytes of a name, or of a whole path. -/
abbrev Name := List UInt8

/-- The names from the root down to a node. -/
abbrev Place := List Name

namespace Name

def ofText (s : String) : Name := s.toUTF8.toList

def dot : Name := ofText "."

def dotDot : Name := ofText ".."

/-- The root, as the first element of a path that begins there. No directory has this name. -/
def root : Name := ofText "/"

def maxLength : Nat := 255

/-- The length from which on a path is refused as a whole. -/
def maxPathLength : Nat := 4096

def pieces : Name → List Name
  | [] => [[]]
  | b :: bs =>
    if b = 0x2f then [] :: pieces bs
    else
      match pieces bs with
      | [] => [[b]]
      | piece :: more => (b :: piece) :: more

def isRooted (path : Name) : Bool := path.head? == some 0x2f

end Name

def rawElements (path : String) : List Name := (Name.ofText path).pieces

/-- The elements of a path: repeated slashes count once, a slash in front stands for the root, and a
dot counts only in front. -/
def elements (path : String) : List Name :=
  let named := (rawElements path).filter (fun e => e != [] && e != Name.dot)
  if (Name.ofText path).isRooted then Name.root :: named
  else if (rawElements path).head? = some Name.dot then Name.dot :: named
  else named

def parentElements (path : String) : List Name := (elements path).dropLast

def placeLength (place : Place) : Nat := place.foldl (fun n e => n + 1 + e.length) 0

/-- The bytes of the path that elements make up. -/
def pathLength : List Name → Nat
  | [] => 0
  | e :: rest => if e = Name.root then max 1 (placeLength rest) else placeLength (e :: rest) - 1

def hasNul (path : String) : Bool := path.toList.any (fun c => c == '\x00')

end ChainStore.Files

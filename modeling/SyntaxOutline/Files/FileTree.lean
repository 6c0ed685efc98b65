import SyntaxOutline.Files.Route
import SyntaxOutline.Text.Quoted

/-
  Files and directories.

  A tree of files is kept as a list of places with what is
  there.  Two dots in a route lead back to the directory
  above, provided that what stands before them is a directory.
  Routes with an anchor start at the top of the whole system,
  which is a place of its own.  The length of names and of
  routes is limited.

  Key definitions include:
    * `FileTree`
    * `FileFault`
    * `FileTree.find?`
    * `FileTree.isTooLong`
    * `FileTree.names`
    * `FileTree.write`
    * `FileTree.makeDirectory`
-/

------------------------------------------------------------
-- Trees Of Files
------------------------------------------------------------

namespace SyntaxOutline

/- What is at a place. -/
inductive FileNode where
  | file (text : String)
  | directory
  deriving DecidableEq, Repr, Inhabited

/- Why a file cannot be written, read or deleted. -/
inductive FileFault where
  | missing (path : String)
  | isThere (path : String)
  | notDirectory (path : String)
  | isDirectory (path : String)
  | tooLong (path : String)
  | zeroOctet
  | unwritable (kind : String)
  deriving DecidableEq, Repr

/- The text of a fault. -/
def FileFault.message : FileFault → String
  | .missing path =>
      "[Errno 2] No such file or directory: " ++ Text.quote path
  | .isThere path => "[Errno 17] File exists: " ++ Text.quote path
  | .notDirectory path =>
      "[Errno 20] Not a directory: " ++ Text.quote path
  | .isDirectory path => "[Errno 21] Is a directory: " ++ Text.quote path
  | .tooLong path =>
      "[Errno 36] File name too long: " ++ Text.quote path
  | .zeroOctet => "embedded null byte"
  | .unwritable kind => "write() argument must be str, not " ++ kind

/- All files and directories by the names that lead to them. -/
structure FileTree where
  entries : List (List String × FileNode)
  deriving DecidableEq, Repr, Inhabited

namespace FileTree

/- A tree with nothing in it. -/
def empty : FileTree :=
  ⟨[]⟩

/- What is at a place; the top is a directory. -/
def at?
    (t : FileTree)
    (place : List String) : Option FileNode :=
  if place.isEmpty then some .directory else t.entries.lookup place

/- Where all routes with an anchor start. -/
def top : List String :=
  ["/"]

/-
  The place that a name leads to.  A dot stays, and nothing is
  above the top.
-/
def step
    (place : List String)
    (name : String) : List String :=
  if name = "." then place
  else if name ≠ ".." then place ++ [name]
  else if place = top then place
  else place.dropLast

/-
  The place that names lead to from a given place.  All that
  is passed on the way must be a directory.
-/
def follow?
    (t : FileTree)
    (place : List String) :
    List String → Option (List String)
  | [] => some place
  | name :: rest =>
      if t.at? place = some .directory then
        t.follow? (step place name) rest
      else none

/- Where a route starts. -/
def startOf
    (r : Route) : List String :=
  if r.anchor = "" then [] else top

/- The place that a route leads to. -/
def place?
    (t : FileTree)
    (r : Route) : Option (List String) :=
  t.follow? (startOf r) r.names

/- What a route leads to. -/
def find?
    (t : FileTree)
    (r : Route) : Option FileNode :=
  (t.place? r).bind t.at?

/- The most octets that a name may have. -/
def maxName : Nat := 255

/- The most octets that a route may have. -/
def maxRoute : Nat := 4095

/- The number of octets of a text. -/
def octets
    (text : String) : Nat :=
  text.utf8ByteSize

/- A name that is too long is met on the way. -/
def meetsLongName
    (t : FileTree)
    (place : List String) :
    List String → Bool
  | [] => false
  | name :: rest =>
      t.at? place = some .directory &&
        (maxName < octets name || t.meetsLongName (step place name) rest)

/-
  The route cannot be followed because of its length.  A name
  counts only if all that stands before it is there.
-/
def isTooLong
    (t : FileTree)
    (r : Route) : Bool :=
  maxRoute < octets r.text || t.meetsLongName (startOf r) r.names

/- The route leads to a directory. -/
def isDirectory
    (t : FileTree)
    (r : Route) : Bool :=
  t.find? r = some .directory

/- The route leads to a file. -/
def isFile
    (t : FileTree)
    (r : Route) : Bool :=
  match t.find? r with
  | some (.file _) => true
  | _ => false

/- The name that a place has inside a directory. -/
def nameIn?
    (directory place : List String) : Option String :=
  match place.getLast? with
  | some name =>
      if place.dropLast = directory then some name else none
  | none => none

/- The names inside a directory, in order. -/
def names
    (t : FileTree)
    (r : Route) : List String :=
  match t.place? r with
  | none => []
  | some directory =>
      (t.entries.filterMap fun (place, _) => nameIn? directory place)
        |>.mergeSort fun a b => decide (a ≤ b)

------------------------------------------------------------
-- Changes
------------------------------------------------------------

/- The tree without what is at a place. -/
def erase
    (t : FileTree)
    (place : List String) : FileTree :=
  ⟨t.entries.filter (·.1 ≠ place)⟩

/- The tree with something new at a place. -/
def put
    (t : FileTree)
    (place : List String)
    (node : FileNode) : FileTree :=
  ⟨(t.erase place).entries ++ [(place, node)]⟩

/-
  Make directories along names from a place on, where there is
  nothing; also the place to which the names then lead.
-/
def makeAlong
    (t : FileTree)
    (place : List String) :
    List String → FileTree × List String
  | [] => (t, place)
  | name :: rest =>
      if name = ".." then t.makeAlong place.dropLast rest
      else
        let inner := place ++ [name]
        if (t.at? inner).isSome then t.makeAlong inner rest
        else (t.put inner .directory).makeAlong inner rest

/- Make a directory and those above it. -/
def makeDirectory
    (t : FileTree)
    (r : Route) : FileTree :=
  (t.makeAlong [] (startOf r ++ r.names)).1

/- Write a file, making the directories above it. -/
def write
    (t : FileTree)
    (r : Route)
    (text : String) : FileTree :=
  match r.names.getLast? with
  | none => t
  | some name =>
      let (tree, place) :=
        t.makeAlong [] (startOf r ++ r.names.dropLast)
      tree.put (place ++ [name]) (.file text)

end FileTree

end SyntaxOutline

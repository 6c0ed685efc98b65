import SyntaxOutline.Files.FileTree
import SyntaxOutline.Value.Basic

/-
  Changing files by their paths.

  A path is a text, and messages give it as it was written.  The
  names along it stand between slashes; a single dot stays where
  it is, and so does a slash at the end.  Files are written after
  the directories above them have been made.  What was made
  before a fault stays.

  Key definitions include:
    * `FileTree.pathIn`
    * `FileTree.walk`
    * `FileTree.makeDirectories`
    * `FileTree.writeAt`
    * `FileTree.putAt`
    * `FileTree.deleteAt`
-/

------------------------------------------------------------
-- Paths
------------------------------------------------------------

namespace SyntaxOutline

namespace FileTree

/- A path seen from a directory; one from the top stays. -/
def pathIn
    (directory path : String) : String :=
  if path.toList.head? = some '/' then path
  else directory ++ "/" ++ path

/- The names along a path. -/
def namesAlong
    (path : String) : List String :=
  (Text.splitAt '/' path).filter (· ≠ "")

/- Where a path starts. -/
def startOfPath
    (path : String) : List String :=
  if path.toList.head? = some '/' then top else []

/- The names along a path, with a dot for a slash at the end. -/
def stepsAlong
    (path : String) : List String :=
  namesAlong path ++
    if path.toList.getLast? = some '/' then ["."] else []

/-
  The paths that lead to each name along a path, with that name,
  given what stands before them.
-/
def stagesFrom
    (before : String) :
    List String → List (String × String)
  | [] => []
  | name :: rest =>
      let here := before ++ name
      let later := stagesFrom (here ++ "/") rest
      if name = "" then later else (name, here) :: later

/- The stages of a path, the last one first. -/
def stages
    (path : String) : List (String × String) :=
  match (stagesFrom "" (Text.splitAt '/' path)).reverse with
  | [] => []
  | (name, _) :: above => (name, path) :: above

/- The path to the directory around. -/
def aroundPath
    (path : String) : String :=
  let before := path.toList.reverse.dropWhile (· ≠ '/')
  if before.all (· = '/') then String.ofList before.reverse
  else String.ofList (before.dropWhile (· = '/')).reverse

------------------------------------------------------------
-- Walking
------------------------------------------------------------

/-
  The place that steps lead to from a given place, for a path.
  All that is passed on the way must be a directory.
-/
def walkFrom
    (t : FileTree)
    (path : String)
    (place : List String) :
    List String → Except FileFault (List String)
  | [] => .ok place
  | name :: rest =>
      match t.at? place with
      | none => .error (.missing path)
      | some (.file _) => .error (.notDirectory path)
      | some .directory =>
          if maxName < octets name then .error (.tooLong path)
          else t.walkFrom path (step place name) rest

/- The place that a path with these steps leads to. -/
def walk
    (t : FileTree)
    (path : String)
    (steps : List String) : Except FileFault (List String) :=
  if path.toList.contains '\x00' then .error .zeroOctet
  else if maxRoute < octets path then .error (.tooLong path)
  else t.walkFrom path (startOfPath path) steps

/- Something is where a path leads to. -/
def isThere
    (t : FileTree)
    (path : String) : Bool :=
  match t.walk path (stepsAlong path) with
  | .ok place => (t.at? place).isSome
  | .error _ => false

/-
  The directory around the last of the steps of a path, and the
  place of that step, if it has a name of its own.
-/
def lastPlace
    (t : FileTree)
    (path : String)
    (steps : List String) :
    Except FileFault (Option (List String)) := do
  let directory ← t.walk path (steps.dropLast ++ ["."])
  match steps.getLast? with
  | none => return none
  | some name =>
      if name = "." ∨ name = ".." then return none
      else if maxName < octets name then throw (.tooLong path)
      else return some (directory ++ [name])

------------------------------------------------------------
-- Changes
------------------------------------------------------------

/- Make one directory, unless it is there. -/
def makeOne
    (t : FileTree)
    (path : String) : FileTree × Option FileFault :=
  match t.lastPlace path (namesAlong path) with
  | .error fault => (t, some fault)
  | .ok none => (t, none)
  | .ok (some place) =>
      match t.at? place with
      | some .directory => (t, none)
      | some (.file _) => (t, some (.isThere path))
      | none => (t.put place .directory, none)

/- The fault is that something else is there. -/
def isOccupied : Option FileFault → Bool
  | some (.isThere _) => true
  | _ => false

/- Make the directory of the first stage, after missing ones above. -/
def makeStages
    (t : FileTree) :
    List (String × String) → FileTree × Option FileFault
  | [] => (t, none)
  | [(_, path)] => t.makeOne path
  | (name, path) :: (above, aboveIt) :: rest =>
      if t.isThere aboveIt then t.makeOne path
      else
        let (made, fault) := t.makeStages ((above, aboveIt) :: rest)
        if fault.isSome && !isOccupied fault then (made, fault)
        else if name = "." then (made, none)
        else made.makeOne path

/- Make a directory, after those above it that are missing. -/
def makeDirectories
    (t : FileTree)
    (path : String) : FileTree × Option FileFault :=
  t.makeStages (stages path)

/- Write a file whose directory is there. -/
def writeFile
    (t : FileTree)
    (path text : String) : FileTree × Option FileFault :=
  match t.lastPlace path (stepsAlong path) with
  | .error fault => (t, some fault)
  | .ok none => (t, some (.isDirectory path))
  | .ok (some place) =>
      if t.at? place = some .directory then
        (t, some (.isDirectory path))
      else (t.put place (.file text), none)

/- Write a file, after making the directories above it. -/
def writeAt
    (t : FileTree)
    (path text : String) : FileTree × Option FileFault :=
  match t.makeDirectories (aroundPath path) with
  | (made, some fault) => (made, some fault)
  | (made, none) => made.writeFile path text

/-
  Put something at a path: a directory for null, or a file with a
  text.  Anything else leaves an empty file.
-/
def putAt
    (t : FileTree)
    (path : String) :
    Value → FileTree × Option FileFault
  | .null => t.makeDirectories path
  | .str text => t.writeAt path text
  | other =>
      match t.writeAt path "" with
      | (made, some fault) => (made, some fault)
      | (made, none) => (made, some (.unwritable other.kindName))

/- Delete a file. -/
def deleteAt
    (t : FileTree)
    (path : String) : FileTree × Option FileFault :=
  match t.lastPlace path (stepsAlong path) with
  | .error fault => (t, some fault)
  | .ok none => (t, some (.isDirectory path))
  | .ok (some place) =>
      match t.at? place with
      | none => (t, some (.missing path))
      | some .directory => (t, some (.isDirectory path))
      | some (.file _) => (t.erase place, none)

end FileTree

end SyntaxOutline

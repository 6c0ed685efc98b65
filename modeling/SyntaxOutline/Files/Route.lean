import SyntaxOutline.Text.Pieces

/-
  Routes to files.

  A route is an anchor and the names along the way.  Empty
  names and single dots vanish when a route is read; two dots
  stay.  Exactly two slashes at the start are an anchor of
  their own, any other number of them is one slash.

  Key definitions include:
    * `Route`
    * `Route.ofText`
    * `Route.text`
    * `Route.join`
    * `Route.suffix`
-/

------------------------------------------------------------
-- Routes
------------------------------------------------------------

namespace SyntaxOutline

/- The way to a file. -/
structure Route where
  anchor : String
  names : List String
  deriving DecidableEq, Repr, Inhabited

namespace Route

/- The number of slashes at the start. -/
def leadingSlashes : List Char → Nat
  | '/' :: rest => leadingSlashes rest + 1
  | _ => 0

/- The anchor that a number of slashes makes. -/
def anchorOf : Nat → String
  | 0 => ""
  | 2 => "//"
  | _ => "/"

/- The names between slashes. -/
def namesOf
    (text : String) : List String :=
  (Text.splitAt '/' text).filter fun name => name ≠ "" ∧ name ≠ "."

/- The route that a text gives. -/
def ofText
    (text : String) : Route :=
  ⟨anchorOf (leadingSlashes text.toList), namesOf text⟩

/- The text of a route; a route to nowhere else is a dot. -/
def text
    (r : Route) : String :=
  if r.anchor = "" ∧ r.names.isEmpty then "."
  else r.anchor ++ "/".intercalate r.names

/- Follow one route and then the other. -/
def join
    (r s : Route) : Route :=
  if s.anchor = "" then ⟨r.anchor, r.names ++ s.names⟩ else s

/- The route to the directory around. -/
def parent
    (r : Route) : Route :=
  { r with names := r.names.dropLast }

/- The route to something inside. -/
def child
    (r : Route)
    (name : String) : Route :=
  { r with names := r.names ++ [name] }

------------------------------------------------------------
-- Suffixes
------------------------------------------------------------

/- What follows the last dot, and what stands before it. -/
def splitAtLastDot
    (name : List Char) : List Char × List Char :=
  let after := name.reverse.takeWhile (· ≠ '.')
  let before := name.reverse.dropWhile (· ≠ '.')
  ((before.drop 1).reverse, after.reverse)

/-
  The suffix of a name starts at its last dot, unless that is
  its first or its last character.
-/
def suffixOf
    (name : String) : String :=
  let chars := name.toList
  let (before, after) := splitAtLastDot chars
  if before.isEmpty ∨ after.isEmpty then ""
  else String.ofList ('.' :: after)

/- The suffix of the last name of a route. -/
def suffix
    (r : Route) : String :=
  match r.names.getLast? with
  | none => ""
  | some name => suffixOf name

end Route

end SyntaxOutline

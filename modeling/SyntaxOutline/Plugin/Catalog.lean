import SyntaxOutline.Plugin.Basic
import SyntaxOutline.Text.Pieces

/-
  Plugin classes by module and name.

  A configuration names its plugin class by a module and a name
  in it, with a colon between.  Modules form packages: to find
  a module, all packages above it must be found first.  Names
  are compared by their code points.

  Key definitions include:
    * `Catalog`
    * `Catalog.Failure`
    * `Catalog.find`
    * `Catalog.build`
-/

------------------------------------------------------------
-- Catalogs
------------------------------------------------------------

namespace SyntaxOutline

namespace Catalog

/- Why a plugin cannot be made. -/
inductive Failure where
  | badReference (reference : List Nat)
  | misuse (cause : Misuse)
  | relative (module : List Nat)
  | noModule (module : List Nat)
  | notPackage (module : List Nat) (parent : String)
  | noName (module name : List Nat)
  | notPlugin (reference : List Nat)
  | notBuilt (kind : Raised.Kind) (message : String)
  deriving DecidableEq, Repr

/- The text of a failure inside a sentence. -/
def Failure.sentence : Failure → String
  | .badReference reference =>
      "plugin_class must look like 'module:Class', got " ++
        Text.quotePoints reference
  | .misuse cause => cause.sentence
  | .relative module =>
      "the 'package' argument is required to perform a relative " ++
        "import for " ++ Text.quotePoints module
  | .noModule module => "No module named " ++ Text.quotePoints module
  | .notPackage module parent =>
      "No module named " ++ Text.quotePoints module ++ "; " ++
        Text.quote parent ++ " is not a package"
  | .noName module name =>
      "module '" ++ Text.joined module ++ "' has no attribute '" ++
        Text.joined name ++ "'"
  | .notPlugin reference =>
      Text.joined reference ++ " is not a GrammarPlugin"
  | .notBuilt kind message => (Raised.of kind (.str message)).text

/- What a name of a module stands for. -/
inductive Entry where
  | plugin
      (build : (config : Value) → Logged (Except Failure Plugin))
  | other

/- A module: its name, whether it is a package, and its names. -/
structure Module where
  name : String
  isPackage : Bool
  entries : List (String × Entry)

end Catalog

/- All modules that can be found. -/
abbrev Catalog :=
  List Catalog.Module

namespace Catalog

------------------------------------------------------------
-- Finding Modules
------------------------------------------------------------

/- The module with exactly this name. -/
def module?
    (catalog : Catalog)
    (name : List Nat) : Option Module :=
  List.find? (fun m => Text.points m.name = name) catalog

/- The code point of the mark between a package and its parts. -/
def dot : Nat :=
  '.'.toNat

/- The code point of the mark between a module and its names. -/
def colon : Nat :=
  ':'.toNat

/-
  The names of the packages above a module and of the module
  itself, from the outermost on.
-/
def path
    (name : List Nat) : List (List Nat) :=
  let parts := Text.pieces dot name
  (List.range parts.length).map fun n =>
    [dot].intercalate (parts.take (n + 1))

/-
  Follow the packages to a module.  What is not a package has
  nothing below it.
-/
def follow
    (catalog : Catalog)
    (parent : Option Module) :
    List (List Nat) → Except Failure (Option Module)
  | [] => .ok parent
  | name :: rest =>
      match parent.filter (!·.isPackage) with
      | some above => .error (.notPackage name above.name)
      | none =>
          match module? catalog name with
          | none => .error (.noModule name)
          | some found => follow catalog (some found) rest

/- The module with a name. -/
def findModule
    (catalog : Catalog)
    (name : List Nat) : Except Failure Module :=
  if name.head? = some dot then .error (.relative name)
  else
    match follow catalog none (path name) with
    | .error failure => .error failure
    | .ok none => .error (.noModule name)
    | .ok (some found) => .ok found

------------------------------------------------------------
-- Finding Plugins
------------------------------------------------------------

/- The module and the name that a reference gives. -/
def split
    (reference : List Nat) : Except Failure (List Nat × List Nat) :=
  let module := reference.takeWhile (· ≠ colon)
  let name := (reference.dropWhile (· ≠ colon)).drop 1
  if module.isEmpty || name.isEmpty then .error (.badReference reference)
  else .ok (module, name)

/- The text of a reference. -/
def referenceText
    (reference : Value) : Except Failure (List Nat) :=
  match reference.points?, reference with
  | some points, _ => .ok points
  | none, .bytes _ => .error (.misuse .octetsNeeded)
  | none, other => .error (.misuse (.lacks other.kindName "partition"))

/- The plugin class that a reference names. -/
def find
    (catalog : Catalog)
    (reference : Value) :
    Except Failure
      ((config : Value) → Logged (Except Failure Plugin)) := do
  let text ← referenceText reference
  let (module, name) ← split text
  let found ← findModule catalog module
  match found.entries.find? fun (n, _) => Text.points n = name with
  | none => .error (.noName module name)
  | some (_, .other) => .error (.notPlugin text)
  | some (_, .plugin build) => .ok build

/- The plugin of a class that a reference names. -/
def build
    (catalog : Catalog)
    (reference config : Value) : Logged (Except Failure Plugin) :=
  match find catalog reference with
  | .error failure => .quiet (.error failure)
  | .ok make => make config

end Catalog

end SyntaxOutline

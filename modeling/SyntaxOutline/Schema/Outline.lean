import SyntaxOutline.Classification
import SyntaxOutline.Outline
import SyntaxOutline.Schema.Scalar

/-
  Outlines and classifications out of plain data.

  Nothing in the data says whether a part of an outline is a
  branch or a leaf.  Both readings are tried.  If both succeed
  the one that uses more fields wins, the fields of its own
  parts counted in; then one that took every value as it stood;
  then the branch.

  Key definitions include:
    * `Schema.Graded`
    * `Schema.leaf`
    * `Schema.branch`
    * `Schema.prefer`
    * `Schema.classification`
-/

------------------------------------------------------------
-- Graded Readings
------------------------------------------------------------

namespace SyntaxOutline

namespace Schema

/-
  A reading of data: how many fields it used, and whether it
  had to change the kind of some value.
-/
structure Graded (α : Type) where
  value : α
  fields : Nat
  coerced : Bool
  deriving Repr

namespace Graded

variable {α β : Type}

/- The same reading of something else. -/
def map
    (f : α → β)
    (g : Graded α) : Graded β :=
  ⟨f g.value, g.fields, g.coerced⟩

/- Two readings side by side. -/
def apply
    (f : Graded (α → β))
    (g : Graded α) : Graded β :=
  ⟨f.value g.value, f.fields + g.fields, f.coerced || g.coerced⟩

end Graded

variable {α β : Type}

/- Supply one more graded part. -/
def takingGraded
    (part : Checked (Graded α))
    (rest : Checked (Graded (α → β))) : Checked (Graded β) :=
  .ok Graded.apply |> taking rest |> taking part

/- A field that was left out. -/
def unused
    (default : α) : Graded α :=
  ⟨default, 0, false⟩

/- A field that is taken as it stands, if it is there. -/
def plain
    (check : Value → Checked α) :
    Value → Checked (Graded α) :=
  fun value => (check value).map (⟨·, 1, false⟩)

/- A truth value, and whether it was given as something else. -/
def flag : Value → Checked (Graded (Option Bool))
  | .null => .ok ⟨none, 1, false⟩
  | .bool b => .ok ⟨some b, 1, false⟩
  | value => (bool value).map fun b => ⟨some b, 1, true⟩

------------------------------------------------------------
-- Leaves
------------------------------------------------------------

/- A field with a second name; the first name wins. -/
def aliased
    (first second : String)
    (default : α)
    (check : Value → Checked (Graded α))
    (entries : List (Value × Value)) : Checked (Graded α) :=
  match Value.fieldOf? first entries with
  | some value => under (.name first) (check value)
  | none => optional second (unused default) check entries

/- The mark of a leaf can only be true. -/
def leafMark
    (value : Value) : Checked (Graded Unit) :=
  if isTrue value then .ok ⟨(), 1, false⟩
  else fail (.notLiteral "True")

/- The fields of a leaf. -/
def leafFields
    (entries : List (Value × Value)) : Checked (Graded Leaf) :=
  .ok (unused fun token (_ : Unit) => Leaf.mk token)
    |> takingGraded (required "token" (plain text) entries)
    |> takingGraded (aliased "isLeaf" "is_leaf" () leafMark entries)
    |> takingGraded
        (aliased "isVariable" "is_variable" none flag entries)
    |> takingGraded
        (aliased "isCapitalized" "is_capitalized" none flag entries)
    |> takingGraded
        (optional "leading" (unused none) (plain (orNull text)) entries)
    |> takingGraded
        (optional "trailing" (unused none) (plain (orNull text)) entries)

/- A leaf of an outline. -/
def gradedLeaf : Value → Checked (Graded Leaf) :=
  object "SimpleParseTreeLeaf" leafFields

/- A leaf of an outline. -/
def leaf
    (value : Value) : Checked Leaf :=
  (gradedLeaf value).map (·.value)

------------------------------------------------------------
-- Branches
------------------------------------------------------------

/- The better of two readings as a branch and as a leaf. -/
def better
    (branch leaf : Graded Outline) : Graded Outline :=
  if branch.fields < leaf.fields then leaf
  else if leaf.fields < branch.fields then branch
  else if branch.coerced && !leaf.coerced then leaf
  else branch

/- The part that two readings of the same data give. -/
def prefer
    (branch : Checked (Graded Branch))
    (leaf : Checked (Graded Leaf)) : Checked (Graded Outline) :=
  match branch, leaf with
  | .ok b, .ok l => .ok (better (b.map Branch.toOutline) (l.map .leaf))
  | .ok b, .error _ => .ok (b.map Branch.toOutline)
  | .error _, .ok l => .ok (l.map .leaf)
  | .error _, .error _ =>
      .ok (fun b _ => b.map Branch.toOutline)
        |> taking (under (.name "SimpleParseTree") branch)
        |> taking (under (.name "SimpleParseTreeLeaf") leaf)

/- The fields of a branch, its parts having been checked. -/
def branchFields
    (entries : List (Value × Value))
    (parts : Option (Checked (Graded (List Outline)))) :
    Checked (Graded Branch) :=
  .ok (unused Branch.mk)
    |> takingGraded (optional "label" (unused "") (plain text) entries)
    |> takingGraded
        (match parts with
          | none => .ok (unused [])
          | some parts =>
              (under (.name "children") parts).map fun g =>
                { g with fields := g.fields + 1 })

mutual

/- A branch of an outline. -/
def gradedBranch : Value → Checked (Graded Branch)
  | .map entries => branchFields entries (branchParts entries)
  | _ => fail (.notModel "SimpleParseTree")

/- The parts that the last entry of this name gives. -/
def branchParts :
    List (Value × Value) → Option (Checked (Graded (List Outline)))
  | [] => none
  | (key, value) :: rest =>
      match branchParts rest with
      | some later => some later
      | none =>
          if key.text? = some "children" then some (partList value)
          else none

/- A list of parts. -/
def partList : Value → Checked (Graded (List Outline))
  | .list items => partsFrom 0 items
  | _ => fail .notList

/- Parts from a position on. -/
def partsFrom
    (position : Nat) :
    List Value → Checked (Graded (List Outline))
  | [] => .ok (unused [])
  | item :: rest =>
      .ok (unused List.cons)
        |> takingGraded
            (under (.position position)
              (prefer (gradedBranch item) (gradedLeaf item)))
        |> takingGraded (partsFrom (position + 1) rest)

end

/- A branch of an outline. -/
def branch
    (value : Value) : Checked Branch :=
  (gradedBranch value).map (·.value)

------------------------------------------------------------
-- Classifications
------------------------------------------------------------

/- A classification. -/
def classification : Value → Checked Classification :=
  object "LeafClassification" fun entries =>
    .ok Classification.mk
      |> taking (optional "rule_names" [] textSet entries)
      |> taking (optional "symbolic_names" [] textSet entries)
      |> taking
          (optional "identifier_symbolic_name" "Identifier" text entries)

end Schema

end SyntaxOutline

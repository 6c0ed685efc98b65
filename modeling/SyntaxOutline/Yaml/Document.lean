import SyntaxOutline.Yaml.Construction

/-
  The value of a document.

  What is made of the nodes is put together into one value.  A
  product that is in several places is put together once.  A
  collection on whose way down it comes up again is tied, and a
  loop stands for it there.

  A document is read in portions as it is needed.  A character
  that may not stand in a document is noticed when its portion
  is read, before anything is made of that portion.

  Key definitions include:
    * `Yaml.Assembly`
    * `Yaml.assemble`
    * `Yaml.portionEnd`
    * `Yaml.load`
-/

------------------------------------------------------------
-- Putting Values Together
------------------------------------------------------------

namespace SyntaxOutline

namespace Yaml

/- A step of putting together, with the values that are done. -/
abbrev Assembly :=
  StateM (Array (Option Value))

/- A value, and the labels of the loops in it that are not tied. -/
structure Loose where
  value : Value
  labels : List Nat := []

namespace Loose

/- A value without such loops. -/
def done
    (v : Value) : Loose :=
  ⟨v, []⟩

/- The labels of several values, each one once. -/
def allLabels
    (parts : List Loose) : List Nat :=
  (parts.flatMap (·.labels)).eraseDups

end Loose

/- The product as a value, once its parts are put together. -/
def withParts
    (part : Nat → Assembly Loose) :
    Product → Assembly Loose
  | .value v => return .done v
  | .list items => do
      let parts ← items.mapM part
      return ⟨.list (parts.map (·.value)), Loose.allLabels parts⟩
  | .pairs items => do
      let firsts ← items.mapM fun (first, _) => part first
      let seconds ← items.mapM fun (_, second) => part second
      return ⟨.list (List.zipWith (fun a b => .pair a.value b.value)
          firsts seconds),
        Loose.allLabels (firsts ++ seconds)⟩
  | .map entries => do
      let parts ← entries.mapM fun (_, item) => part item
      return ⟨.map (List.zipWith (fun entry p => (entry.1, p.value))
          entries parts),
        Loose.allLabels parts⟩

/-
  The value of a product.  `above` are the products on the way
  down to it.  What has loops to one of them is on a circle, so
  it is tied itself.
-/
def assembleAt
    (products : Array (Option Product)) :
    (fuel : Nat) → (above : List Nat) → Nat → Assembly Loose
  | 0, _, n => return ⟨.loop n, [n]⟩
  | fuel + 1, above, n => do
      match ((← get)[n]?).join with
      | some v => return .done v
      | none =>
          if above.contains n then return ⟨.loop n, [n]⟩
          else
            let product := ((products[n]?).join).getD (.value .null)
            let body ←
              withParts (assembleAt products fuel (n :: above)) product
            let outer := body.labels.filter (· ≠ n)
            let v :=
              if body.labels.isEmpty then body.value
              else .tied n body.value
            if outer.isEmpty then
              modify fun values => values.setIfInBounds n (some v)
            return ⟨v, outer⟩

/- The value of a root. -/
def assemble
    (products : Array (Option Product))
    (root : Nat) : Value :=
  ((assembleAt products (products.size + 1) [] root).run
    (Array.replicate products.size none)).1.value

------------------------------------------------------------
-- Documents
------------------------------------------------------------

/- How many characters are read at a time; at first it is twice that. -/
def portion : Nat := 4096

/- Where the portion with a place ends. -/
def portionEnd
    (place : Nat) : Nat :=
  max 2 (place / portion + 1) * portion

/- The value of the only document of a text. -/
def load
    (origin text : String) : Except Failure Value :=
  let chars := text.toList
  match compose chars with
  | .error fault =>
      if (chars.take (portionEnd fault.reach)).all isAllowed then
        .error fault.cause
      else .error .unprintable
  | .ok (graph, root) =>
      if chars.all isAllowed then
        match root with
        | none => .ok .null
        | some root =>
            (construct origin graph root).map fun products =>
              assemble products root
      else .error .unprintable

end Yaml

end SyntaxOutline

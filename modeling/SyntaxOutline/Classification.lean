import SyntaxOutline.Token

/-
  Which terminals are atomic.

  A terminal is atomic when the rule it stands under, or its
  token type, has a name that the classification lists.  A
  number outside a table of names has no name.

  Key definitions include:
    * `Classification`
    * `nameAt?`
    * `Classification.IsAtomic`
-/

------------------------------------------------------------
-- Names By Number
------------------------------------------------------------

namespace SyntaxOutline

/- The name at a number, if the table has one there. -/
def nameAt?
    (names : List (Option String)) :
    Option Int → Option String
  | none => none
  | some index =>
      if index < 0 then none
      else (names[index.toNat]?).join

/- A negative number has no name. -/
theorem nameAt?_of_neg
    (names : List (Option String))
    {index : Int}
    (h : index < 0) :
    nameAt? names (some index) = none := by
  simp [nameAt?, h]

------------------------------------------------------------
-- Classifications
------------------------------------------------------------

/-
  The names of the rules and token types that are atomic, and
  the name of the token type of identifiers.  The names are
  sets: order and repetition have no meaning.
-/
structure Classification where
  ruleNames : List String := []
  symbolNames : List String := []
  identifierName : String := "Identifier"
  deriving DecidableEq, Repr, Inhabited

namespace Classification

/- The two names, of the rule and of the token type, are atomic. -/
def IsAtomic
    (c : Classification)
    (ruleName symbolName : Option String) : Prop :=
  (∃ name ∈ c.ruleNames, ruleName = some name) ∨
    ∃ name ∈ c.symbolNames, symbolName = some name

instance
    (c : Classification)
    (ruleName symbolName : Option String) :
    Decidable (c.IsAtomic ruleName symbolName) := by
  unfold IsAtomic
  infer_instance

end Classification

------------------------------------------------------------
-- Sets Of Names In Order
------------------------------------------------------------

/- The names in order of their characters, each once. -/
def sortedNames
    (names : List String) : List String :=
  names.eraseDups.mergeSort fun a b => decide (a ≤ b)

end SyntaxOutline

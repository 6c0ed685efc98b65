import SyntaxOutline.Bracket.Node
import Mathlib.Data.List.Range

/-
  The nodes of a tree in pre-order, and trees whose numbers
  count along it.

  Statements about a tree are mostly statements about lists of
  trees, since the children of a node are such a list.
  `Node.forest_induction` is the induction that follows: over
  the first tree of a list, down into its children and on to
  the trees behind it.

  Key definitions include:
    * `Bracket.Node.preorder`
    * `Bracket.Node.IsNumbered`
    * `Bracket.Node.renumber`

  Main statements:
    * `Bracket.Node.length_preorderAll`
    * `Bracket.Node.renumber_eq_self_iff`
-/

------------------------------------------------------------
-- Induction Over Lists Of Trees
------------------------------------------------------------

namespace SyntaxOutline

namespace Bracket

namespace Node

/-
  A property of lists of trees holds of all of them when it
  passes from the children of a tree and from the trees behind
  it to the whole list.
-/
@[elab_as_elim]
theorem forest_induction
    {motive : List Node → Prop}
    (nil : motive [])
    (cons :
      ∀ id value children rest,
        motive children → motive rest →
          motive (mk id value children :: rest))
    (trees : List Node) :
    motive trees :=
  match trees with
  | [] => nil
  | mk id value children :: rest =>
      cons id value children rest
        (forest_induction nil cons children)
        (forest_induction nil cons rest)

------------------------------------------------------------
-- Pre-Order
------------------------------------------------------------

mutual

/- The nodes of a tree, each before its children. -/
def preorder : Node → List Node
  | mk id value children =>
      mk id value children :: preorderAll children

/- The nodes of trees that stand side by side. -/
def preorderAll : List Node → List Node
  | [] => []
  | child :: rest => preorder child ++ preorderAll rest

end

@[simp] theorem id_mk
    (id : Int)
    (value : String)
    (children : List Node) :
    (mk id value children).id = id := rfl

@[simp] theorem value_mk
    (id : Int)
    (value : String)
    (children : List Node) :
    (mk id value children).value = value := rfl

@[simp] theorem children_mk
    (id : Int)
    (value : String)
    (children : List Node) :
    (mk id value children).children = children := rfl

@[simp] theorem preorderAll_nil :
    preorderAll [] = [] := by
  simp [preorderAll]

@[simp] theorem preorderAll_cons
    (id : Int)
    (value : String)
    (children rest : List Node) :
    preorderAll (mk id value children :: rest) =
      mk id value children ::
        (preorderAll children ++ preorderAll rest) := by
  simp [preorderAll, preorder]

@[simp] theorem countAll_nil :
    countAll [] = 0 := by
  simp [countAll]

@[simp] theorem countAll_cons
    (id : Int)
    (value : String)
    (children rest : List Node) :
    countAll (mk id value children :: rest) =
      1 + countAll children + countAll rest := by
  simp [countAll, count]

/- One tree is a list of one tree. -/
theorem preorder_eq_preorderAll
    (tree : Node) :
    tree.preorder = preorderAll [tree] := by
  simp [preorderAll]

theorem count_eq_countAll
    (tree : Node) :
    tree.count = countAll [tree] := by
  simp [countAll]

/- Pre-order passes over lists put together. -/
theorem preorderAll_append
    (front back : List Node) :
    preorderAll (front ++ back) =
      preorderAll front ++ preorderAll back := by
  induction front with
  | nil => simp
  | cons tree front ih => simp [preorderAll, ih]

/- Pre-order goes through trees one after another. -/
theorem preorderAll_eq_flatMap
    (trees : List Node) :
    preorderAll trees = trees.flatMap preorder := by
  induction trees with
  | nil => simp
  | cons tree trees ih =>
      rw [preorderAll, ih, List.flatMap_cons]

/- Pre-order visits every node once. -/
theorem length_preorderAll
    (trees : List Node) :
    (preorderAll trees).length = countAll trees := by
  induction trees using forest_induction with
  | nil => simp
  | cons id value children rest ihChildren ihRest =>
      simp only [preorderAll_cons, List.length_cons,
        List.length_append, countAll_cons,
        ihChildren, ihRest]
      omega

------------------------------------------------------------
-- Numbers In Order
------------------------------------------------------------

/- The numbers of some nodes, as they stand. -/
def numbers
    (nodes : List Node) : List Int :=
  nodes.map id

/- The whole numbers from one on, as many as asked for. -/
def numbersFrom
    (start size : Nat) : List Int :=
  (List.range' start size).map Int.ofNat

/- The numbers of a tree count its nodes in pre-order. -/
def IsNumbered
    (tree : Node) : Prop :=
  numbers tree.preorder =
    (List.range tree.count).map Int.ofNat

instance
    (tree : Node) :
    Decidable tree.IsNumbered := by
  unfold IsNumbered
  infer_instance

mutual

/- The tree with its nodes numbered from a start. -/
def renumber
    (start : Nat) : Node → Node
  | mk _ value children =>
      mk start value (renumberAll (start + 1) children)

/- Trees side by side with their nodes numbered on. -/
def renumberAll
    (start : Nat) : List Node → List Node
  | [] => []
  | child :: rest =>
      renumber start child ::
        renumberAll (start + count child) rest

end

@[simp] theorem renumberAll_cons
    (start : Nat)
    (id : Int)
    (value : String)
    (children rest : List Node) :
    renumberAll start (mk id value children :: rest) =
      mk start value (renumberAll (start + 1) children) ::
        renumberAll (start + 1 + countAll children)
          rest := by
  simp [renumberAll, renumber, count, Nat.add_assoc]

/-
  Numbering anew changes nothing exactly when the numbers
  already count on from the start.
-/
theorem renumberAll_eq_self_iff
    (start : Nat)
    (trees : List Node) :
    renumberAll start trees = trees ↔
      numbers (preorderAll trees) =
        numbersFrom start (countAll trees) := by
  induction trees using forest_induction
    generalizing start with
  | nil => simp [renumberAll, numbers, numbersFrom]
  | cons id value children rest ihChildren ihRest =>
      -- The numbers split behind the root and behind its
      -- children, at the same places on both sides.
      have hSplit :
          numbersFrom start
              (countAll (mk id value children :: rest)) =
            (start : Int) ::
              (numbersFrom (start + 1)
                  (countAll children) ++
                numbersFrom
                  (start + 1 + countAll children)
                  (countAll rest)) := by
        have hSize :
            countAll (mk id value children :: rest) =
              countAll children + countAll rest + 1 := by
          rw [countAll_cons]
          omega
        rw [hSize, numbersFrom, List.range'_succ,
          ← List.range'_append_1, List.map_cons,
          List.map_append]
        rfl
      have hLength :
          (numbers (preorderAll children)).length =
            (numbersFrom (start + 1)
              (countAll children)).length := by
        simp [numbers, numbersFrom, length_preorderAll]
      have hNumbers :
          numbers
              (preorderAll (mk id value children :: rest)) =
            id ::
              (numbers (preorderAll children) ++
                numbers (preorderAll rest)) := by
        simp [numbers]
      rw [hSplit, hNumbers, renumberAll_cons,
        List.cons.injEq, List.cons.injEq, Node.mk.injEq,
        ihChildren, ihRest]
      constructor
      · rintro ⟨⟨hId, -, hChildren⟩, hRest⟩
        exact ⟨hId.symm, by rw [hChildren, hRest]⟩
      · rintro ⟨hId, hBelow⟩
        rcases List.append_inj hBelow hLength with
          ⟨hChildren, hRest⟩
        exact ⟨⟨hId.symm, rfl, hChildren⟩, hRest⟩

/- A tree is numbered exactly when numbering keeps it. -/
theorem renumber_eq_self_iff
    (tree : Node) :
    tree.renumber 0 = tree ↔ tree.IsNumbered := by
  have hSelf := renumberAll_eq_self_iff 0 [tree]
  rw [← preorder_eq_preorderAll,
    ← count_eq_countAll] at hSelf
  simpa [renumberAll, IsNumbered, numbersFrom,
    List.range_eq_range'] using hSelf

end Node

end Bracket

end SyntaxOutline

import SyntaxOutline.Proofs.Collapse.Expansion

/-
  Outlines are no larger than twice their tokens.

  A tree may have any number of rules over few terminals, but
  its outline does not grow with them.  Every part of a
  contribution is charged to terminals: the branches and leaves
  of all its parts, and each part once more, are at most twice
  the terminals.  The part that is counted once more pays for
  the branch that may be put above it, since a branch takes the
  place of two parts or more, or of none.  In the last case its
  label has come from a terminal, which pays for it.

  Key definitions include:
    * `Outline.nodeCount`
    * `Collapse.keptTerminals`
    * `Collapse.Fits`

  Main statements:
    * `Collapse.Fits.join`
    * `Collapse.Fits.absorbed`
    * `Collapse.Contributes.fits`
    * `Collapse.nodeCount_le_of_collapse`
-/

------------------------------------------------------------
-- Counting Nodes
------------------------------------------------------------

namespace SyntaxOutline

namespace Outline

/- The branches and the leaves at any depth of some parts. -/
def nodeCount
    (parts : List Outline) : Nat :=
  (branchesAll parts).length + (leavesAll parts).length

theorem nodeCount_nil :
    nodeCount [] = 0 := rfl

theorem nodeCount_leaf
    (leaf : Leaf) :
    nodeCount [.leaf leaf] = 1 := by
  simp [nodeCount, branchesAll, branches, leavesAll, leaves]

theorem nodeCount_append
    (front back : List Outline) :
    nodeCount (front ++ back) =
      nodeCount front + nodeCount back := by
  simp only [nodeCount, branchesAll_append,
    leavesAll_append, List.length_append]
  omega

/- A branch counts as one more than its parts. -/
theorem nodeCount_toOutline
    (b : Branch) :
    nodeCount [b.toOutline] = nodeCount b.children + 1 := by
  simp only [nodeCount, Branch.toOutline, branchesAll,
    branches, leavesAll, leaves, List.append_nil,
    List.length_cons]
  omega

end Outline

------------------------------------------------------------
-- Contributions That Fit Their Terminals
------------------------------------------------------------

namespace Collapse

open Outline

/-
  The parts of a contribution are paid for by a number of
  terminals, and without any of them it has no label.
-/
structure Fits
    (b : Branch)
    (terminals : Nat) : Prop where
  parts :
    nodeCount b.children + b.children.length ≤
      2 * terminals
  label : b.label ≠ "" → 0 < terminals

theorem fits_nothing
    (n : Nat) :
    Fits nothing n := by
  constructor
  · simp [nothing, nodeCount_nil]
  · intro hLabel
    exact absurd rfl hLabel

theorem fits_leaf
    (leaf : Leaf) :
    Fits ⟨placeholder, [.leaf leaf]⟩ 1 := by
  constructor
  · simp [nodeCount_leaf]
  · intro _
    exact Nat.one_pos

theorem fits_text
    (text : String) :
    Fits ⟨text, []⟩ 1 := by
  constructor
  · simp [nodeCount_nil]
  · intro _
    exact Nat.one_pos

/- Contributions side by side fit their terminals together. -/
theorem Fits.join
    {a b : Branch}
    {m n : Nat}
    (hFirst : Fits a m)
    (hSecond : Fits b n) :
    Fits (join a b) (m + n) := by
  constructor
  · have hA := hFirst.parts
    have hB := hSecond.parts
    simp only [Collapse.join, nodeCount_append,
      List.length_append]
    omega
  · intro hLabel
    by_cases hEmpty : a.label = ""
    · have hOther : b.label ≠ "" := by
        simpa [Collapse.join, hEmpty] using hLabel
      have hPositive := hSecond.label hOther
      omega
    · have hPositive := hFirst.label hEmpty
      omega

/-
  A rule that becomes a part takes the place of several parts,
  or of none and then it has a label.
-/
theorem Fits.absorbed
    {inner : Branch}
    {n : Nat}
    (hInner : Fits inner n) :
    Fits (absorbed inner) n := by
  rcases absorbed_cases inner with
    ⟨-, hNothing⟩ | ⟨-, -, hSelf⟩ | ⟨hLabel, hOne, hPart⟩
  · rw [hNothing]
    exact fits_nothing n
  · rw [hSelf]
    exact hInner
  · have hPositive := hInner.label hLabel
    have hParts := hInner.parts
    rw [hPart]
    constructor
    · rw [nodeCount_toOutline, List.length_singleton]
      by_cases hNone : inner.children.length = 0
      · have hNil : inner.children = [] :=
          List.length_eq_zero_iff.mp hNone
        rw [hNil, nodeCount_nil]
        omega
      · omega
    · intro _
      exact hPositive

------------------------------------------------------------
-- Derivations
------------------------------------------------------------

variable (policy : Policy) {source : Source}

/- The terminals that do not stand for the end of the input. -/
def keptTerminals
    (terminals : List Terminal) : List Terminal :=
  terminals.filter fun t => policy.endText ≠ some t.text

variable {policy}

/- What trees contribute fits the terminals that they keep. -/
theorem Contributes.fits
    {trees : List Cst}
    {branch : Branch}
    (hRun : Contributes policy source trees branch) :
    Fits branch
      (keptTerminals policy
        (Cst.terminalsAll trees)).length := by
  induction hRun with
  | nil => exact fits_nothing 0
  | @ended t rest others hEnd _ ih =>
      simpa [Cst.terminalsAll, Cst.terminals,
        keptTerminals, hEnd] using ih
  | @atomic t symbol leaf rest others hEnd _ _ _ _ ih =>
      have hJoined := (fits_leaf leaf).join ih
      simpa [Cst.terminalsAll, Cst.terminals,
        keptTerminals, hEnd, Nat.add_comm] using hJoined
  | @plain t symbol rest others hEnd _ _ _ ih =>
      have hJoined := (fits_text t.text).join ih
      simpa [Cst.terminalsAll, Cst.terminals,
        keptTerminals, hEnd, Nat.add_comm] using hJoined
  | rule _ _ ihChildren ihRest =>
      have hJoined := ihChildren.absorbed.join ihRest
      simpa [Cst.terminalsAll, Cst.terminals,
        keptTerminals] using hJoined

------------------------------------------------------------
-- Outlines
------------------------------------------------------------

/-
  An outline has at most twice as many branches and leaves as
  the tree has terminals apart from the end of the input, if it
  has any; otherwise it is its root alone.
-/
theorem nodeCount_le_of_collapse
    {root : Rule}
    {branch : Branch}
    (hRun :
      collapse policy source root = .ok (some branch)) :
    branch.branches.length + branch.leaves.length ≤
      max 1
        (2 *
          (keptTerminals policy
            root.toCst.terminals).length) := by
  rcases (collapse_eq_some_iff policy source root
      branch).mp hRun with
    ⟨-, hDerivation⟩
  have hParts := hDerivation.fits.parts
  have hCount :
      branch.branches.length + branch.leaves.length =
        nodeCount branch.children + 1 := by
    rw [Branch.branches_eq, Branch.leaves, nodeCount,
      List.length_cons]
    omega
  rw [hCount, Rule.toCst, Cst.terminals]
  by_cases hNone : branch.children = []
  · rw [hNone, nodeCount_nil]
    omega
  · have hSome := List.length_pos_iff.mpr hNone
    omega

/- Two names with rules over them and an empty rule between. -/
def namesTree : Rule where
  index := some 0
  children :=
    [.rule (some 1)
      [.rule none
        [.rule (some 2)
          [.terminal ⟨"F", some ⟨"F", 1, 0, 0⟩, none⟩]],
       .rule (some 2) [.rule none []],
       .rule none
        [.terminal ⟨"x", some ⟨"x", 1, 3, 0⟩, none⟩]],
     .terminal
      ⟨"<EOF>", some ⟨"<EOF>", -1, 5, 0⟩, some 0⟩]

def namesOutline : Branch where
  label := "#"
  children :=
    [.branch "##"
      [.leaf ⟨"F", some true, some true, none, none⟩,
       .leaf ⟨"x", some true, none, some " ", none⟩]]

/- Two names make four nodes, which is as many as can be. -/
theorem nodeCount_of_names :
    collapse callPolicy callSource namesTree =
        .ok (some namesOutline) ∧
      namesOutline.branches.length +
          namesOutline.leaves.length = 4 ∧
      namesOutline.branches.length +
          namesOutline.leaves.length ≤
        max 1
          (2 *
            (keptTerminals callPolicy
              namesTree.toCst.terminals).length) ∧
      (keptTerminals callPolicy
        namesTree.toCst.terminals).length = 2 := by
  have hRun :
      collapse callPolicy callSource namesTree =
        .ok (some namesOutline) := rfl
  exact ⟨hRun, rfl, nodeCount_le_of_collapse hRun, rfl⟩

end Collapse

end SyntaxOutline

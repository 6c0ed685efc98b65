import SyntaxOutline.Proofs.Collapse.Expansion

/-
  Outlines are compact.

  Below the root every branch has a label, and not just one
  part.  A rule looks only at what its own children join to,
  and a single part moves up without being looked at again.  So
  the parts that a contribution carries have to be compact at
  every step: joining puts such parts side by side, and
  absorbing adds at most one branch above them.

  Key definitions include:
    * `Branch.IsCompact`
    * `Outline.AreCompact`

  Main statements:
    * `Collapse.areCompact_absorbed`
    * `Collapse.Contributes.areCompact`
    * `Collapse.isCompact_of_collapse`
-/

------------------------------------------------------------
-- Compact Branches
------------------------------------------------------------

namespace SyntaxOutline

/-
  A branch that stands for itself: it has a label, and its
  parts could not be left to the branch above it.
-/
structure Branch.IsCompact
    (b : Branch) : Prop where
  label : b.label ≠ ""
  children : b.children.length ≠ 1

namespace Outline

/- All branches at any depth of these parts are compact. -/
def AreCompact
    (parts : List Outline) : Prop :=
  ∀ inner ∈ branchesAll parts, inner.IsCompact

theorem areCompact_nil :
    AreCompact [] := by
  intro inner hInner
  simp [branchesAll] at hInner

theorem areCompact_leaf
    (leaf : Leaf) :
    AreCompact [.leaf leaf] := by
  intro inner hInner
  simp [branchesAll, branches] at hInner

theorem AreCompact.append
    {front back : List Outline}
    (hFront : AreCompact front)
    (hBack : AreCompact back) :
    AreCompact (front ++ back) := by
  intro inner hInner
  rw [branchesAll_append, List.mem_append] at hInner
  rcases hInner with hInner | hInner
  · exact hFront inner hInner
  · exact hBack inner hInner

/- A compact branch over compact parts is one such part. -/
theorem AreCompact.toOutline
    {b : Branch}
    (hParts : AreCompact b.children)
    (hBranch : b.IsCompact) :
    AreCompact [b.toOutline] := by
  intro inner hInner
  rw [branchesAll, branchesAll, List.append_nil] at hInner
  change inner ∈ b.branches at hInner
  rw [Branch.branches_eq, List.mem_cons] at hInner
  rcases hInner with hRoot | hBelow
  · rw [hRoot]
    exact hBranch
  · exact hParts inner hBelow

end Outline

------------------------------------------------------------
-- Compact Contributions
------------------------------------------------------------

namespace Collapse

open Outline

theorem areCompact_join
    {a b : Branch}
    (hFirst : AreCompact a.children)
    (hSecond : AreCompact b.children) :
    AreCompact (join a b).children :=
  hFirst.append hSecond

/-
  A rule becomes a part only when it has a label and not just
  one part; otherwise it adds no branch at all.
-/
theorem areCompact_absorbed
    {inner : Branch}
    (hInner : AreCompact inner.children) :
    AreCompact (absorbed inner).children := by
  rcases absorbed_cases inner with
    ⟨-, hNothing⟩ | ⟨-, -, hSelf⟩ | ⟨hLabel, hOne, hPart⟩
  · rw [hNothing]
    exact areCompact_nil
  · rw [hSelf]
    exact hInner
  · rw [hPart]
    exact hInner.toOutline ⟨hLabel, hOne⟩

variable {policy : Policy} {source : Source}

/- What trees contribute has compact parts only. -/
theorem Contributes.areCompact
    {trees : List Cst}
    {branch : Branch}
    (hRun : Contributes policy source trees branch) :
    AreCompact branch.children := by
  induction hRun with
  | nil => exact areCompact_nil
  | ended _ _ ih => exact ih
  | atomic _ _ _ _ _ ih =>
      exact areCompact_join (areCompact_leaf _) ih
  | plain _ _ _ _ ih =>
      exact areCompact_join areCompact_nil ih
  | rule _ _ ihChildren ihRest =>
      exact areCompact_join
        (areCompact_absorbed ihChildren) ihRest

------------------------------------------------------------
-- Compact Outlines
------------------------------------------------------------

/-
  Every branch of an outline below its root has a label and a
  number of parts other than one, and every branch with parts
  has a label, the root included.
-/
theorem isCompact_of_collapse
    {root : Rule}
    {branch : Branch}
    (hRun :
      collapse policy source root = .ok (some branch)) :
    (∀ inner ∈ branchesAll branch.children,
      inner.label ≠ "" ∧ inner.children.length ≠ 1) ∧
    ∀ inner ∈ branch.branches,
      inner.children ≠ [] → inner.label ≠ "" := by
  rcases (collapse_eq_some_iff policy source root
      branch).mp hRun with
    ⟨-, hDerivation⟩
  have hBelow := hDerivation.areCompact
  constructor
  · intro inner hInner
    have hCompact := hBelow inner hInner
    exact ⟨hCompact.label, hCompact.children⟩
  · intro inner hInner hParts
    rw [Branch.branches_eq, List.mem_cons] at hInner
    rcases hInner with hRoot | hInner
    · -- The root may be empty, but not its label over parts.
      rw [hRoot] at hParts ⊢
      intro hLabel
      exact hParts (hDerivation.children_eq_nil hLabel)
    · exact (hBelow inner hInner).label

/-
  Two names around a rule that has marks only.  One name stands
  under three rules, beside an empty one.
-/
def marksTree : Rule where
  index := some 0
  children :=
    [.rule (some 1)
      [.rule none
        [.rule none [],
         .rule (some 2)
          [.rule none
            [.terminal ⟨"F", some ⟨"F", 1, 0, 0⟩, none⟩]]],
       .rule (some 2)
        [.terminal ⟨"(", some ⟨"(", 2, 1, 0⟩, some 1⟩,
         .terminal ⟨")", some ⟨")", 2, 4, 0⟩, some 1⟩],
       .terminal ⟨"x", some ⟨"x", 1, 3, 0⟩, none⟩]]

/- Three parts, of which the one in the middle has none. -/
def marksInner : Branch where
  label := "###"
  children :=
    [.leaf ⟨"F", some true, some true, none, none⟩,
     .branch "()" [],
     .leaf ⟨"x", some true, none, some " ", none⟩]

/- Both branches below the root of the outline are compact. -/
theorem isCompact_of_marks :
    collapse callPolicy callSource marksTree =
        .ok (some ⟨"#", [marksInner.toOutline]⟩) ∧
      branchesAll [marksInner.toOutline] =
        [marksInner, ⟨"()", []⟩] ∧
      (∀ inner ∈ [marksInner, ⟨"()", []⟩],
        inner.label ≠ "" ∧ inner.children.length ≠ 1) ∧
      ∀ inner ∈ [⟨"#", [marksInner.toOutline]⟩, marksInner,
          ⟨"()", []⟩],
        inner.children ≠ [] → inner.label ≠ "" := by
  have hRun :
      collapse callPolicy callSource marksTree =
        .ok (some ⟨"#", [marksInner.toOutline]⟩) := rfl
  have hCompact := isCompact_of_collapse hRun
  exact ⟨hRun, rfl, hCompact.1, hCompact.2⟩

end Collapse

end SyntaxOutline

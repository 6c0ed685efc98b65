import SyntaxOutline.Proofs.Collapse.Derivation
import Mathlib.Data.List.Forall2

/-
  The leaves of an outline are its atomic terminals.

  Leaves travel up through rules that vanish, rules that are
  absorbed and rules that stay.  None is lost on the way: a
  rule vanishes only when its label is empty, and every part
  writes something into the label.

  Key definitions include:
    * `Collapse.atomicTerminals`
    * `Collapse.IsLeafOf`

  Main statements:
    * `Collapse.Contributes.children_eq_nil`
    * `Collapse.Contributes.forall₂_leaves`
    * `Collapse.forall₂_leaves_of_collapse`
-/

------------------------------------------------------------
-- Leaves Side By Side
------------------------------------------------------------

namespace SyntaxOutline

namespace Outline

/- The leaves of lists put together. -/
theorem leavesAll_append
    (front back : List Outline) :
    leavesAll (front ++ back) =
      leavesAll front ++ leavesAll back := by
  induction front with
  | nil => simp [leavesAll]
  | cons part front ih => simp [leavesAll, ih]

end Outline

namespace Collapse

theorem leaves_join
    (a b : Branch) :
    (join a b).leaves = a.leaves ++ b.leaves := by
  simp [join, Branch.leaves, Outline.leavesAll_append]

------------------------------------------------------------
-- Empty Labels
------------------------------------------------------------

/- A rule that writes nothing has no parts. -/
theorem children_absorbed_of_label_eq
    {inner : Branch}
    (hLabel : (absorbed inner).label = "") :
    (absorbed inner).children = [] := by
  rcases absorbed_cases inner with
    ⟨-, hNothing⟩ | ⟨hInner, -, hSelf⟩ | ⟨-, -, hPart⟩
  · rw [hNothing, nothing]
  · rw [hSelf] at hLabel
    exact absurd hLabel hInner
  · simp [hPart, placeholder] at hLabel

variable {policy : Policy} {source : Source}

/- What writes nothing into a label has no parts. -/
theorem Contributes.children_eq_nil
    {trees : List Cst}
    {branch : Branch}
    (hRun : Contributes policy source trees branch)
    (hLabel : branch.label = "") :
    branch.children = [] := by
  induction hRun with
  | nil => rfl
  | ended _ _ ih => exact ih hLabel
  | atomic _ _ _ _ _ _ =>
      simp [join, placeholder] at hLabel
  | plain _ _ _ _ ih =>
      have hOthers := (String.append_eq_empty_iff.mp hLabel).2
      simpa [join] using ih hOthers
  | rule _ _ _ ihRest =>
      have hLabels := String.append_eq_empty_iff.mp hLabel
      have hFirst :=
        children_absorbed_of_label_eq hLabels.1
      simpa [join, hFirst] using ihRest hLabels.2

/- A rule passes on the leaves of what it absorbs. -/
theorem leaves_absorbed
    {inner : Branch}
    (hParts : inner.label = "" → inner.children = []) :
    (absorbed inner).leaves = inner.leaves := by
  rcases absorbed_cases inner with
    ⟨hLabel, hNothing⟩ | ⟨-, -, hSelf⟩ | ⟨-, -, hPart⟩
  · simp [hNothing, nothing, Branch.leaves, hParts hLabel]
  · rw [hSelf]
  · simp [hPart, Branch.leaves, Branch.toOutline,
      Outline.leavesAll, Outline.leaves]

------------------------------------------------------------
-- Leaves Of Derivations
------------------------------------------------------------

variable (policy source)

/-
  The terminals that become leaves: the atomic ones that do not
  stand for the end of the input, in document order.
-/
def atomicTerminals
    (terminals : List Terminal) : List Terminal :=
  terminals.filter fun t =>
    policy.endText ≠ some t.text ∧
      IsAtomicTerminal policy source t

/- The leaf is made from the terminal and its token. -/
def IsLeafOf
    (t : Terminal)
    (leaf : Leaf) : Prop :=
  ∃ symbol, t.symbol = some symbol ∧
    leafOf policy source t symbol = .ok leaf

variable {policy source}

/- Each leaf is made from its terminal, in document order. -/
theorem Contributes.forall₂_leaves
    {trees : List Cst}
    {branch : Branch}
    (hRun : Contributes policy source trees branch) :
    List.Forall₂ (IsLeafOf policy source)
      (atomicTerminals policy source
        (Cst.terminalsAll trees))
      branch.leaves := by
  induction hRun with
  | nil => exact .nil
  | ended hEnd _ ih =>
      simpa [Cst.terminalsAll, Cst.terminals,
        atomicTerminals, hEnd] using ih
  | @atomic t symbol leaf rest others hEnd hSymbol hAtomic
      hLeaf _ ih =>
      have hTerminal :=
        (isAtomicTerminal_iff policy source hSymbol).mpr
          hAtomic
      have hFirst : IsLeafOf policy source t leaf :=
        ⟨symbol, hSymbol, hLeaf⟩
      rw [leaves_join]
      simpa [Cst.terminalsAll, Cst.terminals,
        atomicTerminals, hEnd, hTerminal, Branch.leaves,
        Outline.leavesAll, Outline.leaves] using
        And.intro hFirst ih
  | @plain t symbol rest others hEnd hSymbol hAtomic _ ih =>
      have hTerminal :=
        (isAtomicTerminal_iff policy source hSymbol).not.mpr
          hAtomic
      rw [leaves_join]
      simpa [Cst.terminalsAll, Cst.terminals,
        atomicTerminals, hTerminal, Branch.leaves,
        Outline.leavesAll] using ih
  | @rule index children rest inner others hChildren _
      ihChildren ihRest =>
      rw [leaves_join,
        leaves_absorbed hChildren.children_eq_nil,
        Cst.terminalsAll, Cst.terminals, atomicTerminals,
        List.filter_append]
      exact List.rel_append ihChildren ihRest

------------------------------------------------------------
-- Leaves Of Outlines
------------------------------------------------------------

/-
  Collapsing loses, invents and reorders no atomic token: the
  leaves of an outline are made, one by one, from the atomic
  terminals of the tree.
-/
theorem forall₂_leaves_of_collapse
    {root : Rule}
    {branch : Branch}
    (hRun :
      collapse policy source root = .ok (some branch)) :
    List.Forall₂ (IsLeafOf policy source)
      (atomicTerminals policy source
        root.toCst.terminals)
      branch.leaves := by
  rcases (collapse_eq_some_iff policy source root
      branch).mp hRun with
    ⟨-, hDerivation⟩
  exact hDerivation.forall₂_leaves

/- Identifiers are atomic, and channel 1 is hidden. -/
def callPolicy : Policy :=
  ⟨{ symbolNames := ["Identifier"] }, some "<EOF>", some 1⟩

/- The tokens of `F( x)`, with a hidden space. -/
def callSource : Source where
  ruleNames := [some "program", some "call"]
  symbolNames := [none, some "Identifier", some "Mark"]
  stream :=
    ⟨[⟨"F", 1, 0, 0⟩, ⟨"(", 2, 1, 0⟩, ⟨" ", 0, 2, 1⟩,
      ⟨"x", 1, 3, 0⟩, ⟨")", 2, 4, 0⟩, ⟨"<EOF>", -1, 5, 0⟩]⟩

/-
  The call under a rule of its own, beside an empty rule and
  the end of the input.  Its argument stands under two rules.
-/
def callTree : Rule where
  index := some 0
  children :=
    [.rule (some 1)
      [.rule none
        [.terminal ⟨"F", some ⟨"F", 1, 0, 0⟩, none⟩],
       .terminal ⟨"(", some ⟨"(", 2, 1, 0⟩, some 1⟩,
       .rule (some 2)
        [.rule none
          [.terminal ⟨"x", some ⟨"x", 1, 3, 0⟩, none⟩]],
       .terminal ⟨")", some ⟨")", 2, 4, 0⟩, some 1⟩],
     .rule (some 2) [],
     .terminal
      ⟨"<EOF>", some ⟨"<EOF>", -1, 5, 0⟩, some 0⟩]

/- One part with two leaves. -/
def callOutline : Branch where
  label := "#"
  children :=
    [.branch "#(#)"
      [.leaf ⟨"F", some true, some true, none, none⟩,
       .leaf ⟨"x", some true, none, some " ", none⟩]]

/- Both identifiers of the call become leaves. -/
theorem forall₂_leaves_of_call :
    collapse callPolicy callSource callTree =
        .ok (some callOutline) ∧
      List.Forall₂ (IsLeafOf callPolicy callSource)
        (atomicTerminals callPolicy callSource
          callTree.toCst.terminals)
        callOutline.leaves := by
  have hRun :
      collapse callPolicy callSource callTree =
        .ok (some callOutline) := rfl
  exact ⟨hRun, forall₂_leaves_of_collapse hRun⟩

end Collapse

end SyntaxOutline

import SyntaxOutline.Proofs.Collapse.Leaves

/-
  Chains of rules and empty trees are invisible.

  A slot is a place among the children of a rule at any depth.
  What fills it matters to collapsing only through what it
  contributes, failures included.  One more rule around a rule
  or around an atomic terminal contributes the same, as
  absorbing twice is absorbing once, and a tree that holds only
  ends of the input contributes nothing.

  Key definitions include:
    * `Cst.Slot`
    * `Cst.Slot.fill`
    * `Collapse.IsChainable`
    * `Collapse.IsSilent`

  Main statements:
    * `Collapse.contributions_append`
    * `Collapse.contributions_fill`
    * `Collapse.absorbed_absorbed`
    * `Collapse.contribution_chained`
    * `Collapse.contributions_of_silent`
    * `Collapse.collapse_fill`
-/

------------------------------------------------------------
-- Slots
------------------------------------------------------------

namespace SyntaxOutline

/-
  A place in a list of children: between two of its trees, or
  below a rule that stands between two of them.
-/
inductive Cst.Slot where
  | here (front back : List Cst)
  | under
      (front : List Cst)
      (index : Option Int)
      (inner : Slot)
      (back : List Cst)

namespace Cst.Slot

/- The list of children with some trees in the slot. -/
def fill : Slot → List Cst → List Cst
  | here front back, trees => front ++ (trees ++ back)
  | under front index inner back, trees =>
      front ++ .rule index (inner.fill trees) :: back

/- The trees that share a list of children with the slot. -/
def siblings : Slot → List Cst
  | here front back => front ++ back
  | under _ _ inner _ => inner.siblings

theorem fill_cons_ne_nil
    (slot : Slot)
    (tree : Cst)
    (trees : List Cst) :
    slot.fill (tree :: trees) ≠ [] := by
  cases slot <;> simp [fill]

/- A slot beside other trees leaves no list without children. -/
theorem fill_ne_nil
    {slot : Slot}
    (hSiblings : slot.siblings ≠ [])
    (trees : List Cst) :
    slot.fill trees ≠ [] := by
  intro hEmpty
  cases slot with
  | here front back =>
      apply hSiblings
      rw [fill, List.append_eq_nil_iff,
        List.append_eq_nil_iff] at hEmpty
      rw [siblings, hEmpty.1, hEmpty.2.2, List.append_nil]
  | under front index inner back =>
      simp [fill] at hEmpty

end Cst.Slot

------------------------------------------------------------
-- Contributions Side By Side
------------------------------------------------------------

namespace Collapse

theorem join_nothing_right
    (branch : Branch) :
    join branch nothing = branch := by
  simp [join, nothing]

theorem join_assoc
    (a b c : Branch) :
    join (join a b) c = join a (join b c) := by
  simp [join, String.append_assoc]

variable (policy : Policy) (source : Source)

/- Lists of trees put together join what they contribute. -/
theorem contributions_append
    (front back : List Cst) :
    contributions policy source (front ++ back) = do
      let first ← contributions policy source front
      let others ← contributions policy source back
      return join first others := by
  induction front with
  | nil =>
      rw [List.nil_append, contributions]
      cases contributions policy source back with
      | error failure => rfl
      | ok others =>
          exact congrArg Except.ok
            (join_nothing_left others).symm
  | cons tree front ih =>
      rw [List.cons_append, contributions, contributions, ih]
      cases contribution policy source tree with
      | error failure => rfl
      | ok first =>
          cases contributions policy source front with
          | error failure => rfl
          | ok middle =>
              cases contributions policy source back with
              | error failure => rfl
              | ok others =>
                  exact congrArg Except.ok
                    (join_assoc first middle others).symm

/- A tree alone contributes what it contributes to a list. -/
theorem contributions_singleton
    (tree : Cst) :
    contributions policy source [tree] =
      contribution policy source tree := by
  rw [contributions, contributions]
  cases contribution policy source tree with
  | error failure => rfl
  | ok branch =>
      exact congrArg Except.ok (join_nothing_right branch)

variable {policy source}

/-
  Trees that contribute the same, or fail the same, can stand
  for each other in any slot.
-/
theorem contributions_fill
    {trees trees' : List Cst}
    (hSame :
      contributions policy source trees =
        contributions policy source trees')
    (slot : Cst.Slot) :
    contributions policy source (slot.fill trees) =
      contributions policy source (slot.fill trees') := by
  induction slot with
  | here front back =>
      rw [Cst.Slot.fill, Cst.Slot.fill]
      simp only [contributions_append, hSame]
  | under front index inner back ih =>
      rw [Cst.Slot.fill, Cst.Slot.fill]
      simp only [contributions_append, contributions,
        contribution, ih]

/- Such roots have the same outline if both have children. -/
theorem collapse_congr
    {root root' : Rule}
    (hRoot : root.children ≠ [])
    (hRoot' : root'.children ≠ [])
    (hSame :
      contributions policy source root.children =
        contributions policy source root'.children) :
    collapse policy source root =
      collapse policy source root' := by
  have hSome : root.children.isEmpty = false := by
    simpa using hRoot
  have hSome' : root'.children.isEmpty = false := by
    simpa using hRoot'
  rw [collapse, collapse, hSome, hSome', hSame]

------------------------------------------------------------
-- One More Rule
------------------------------------------------------------

/-
  A rule around a single rule does what that one does: it
  vanishes with it, or finds exactly one part to leave alone.
-/
theorem absorbed_absorbed
    (inner : Branch) :
    absorbed (absorbed inner) = absorbed inner := by
  rcases absorbed_cases inner with
    ⟨-, hNothing⟩ | ⟨-, -, hSelf⟩ | ⟨-, -, hPart⟩
  · rw [hNothing]
    rfl
  · rw [hSelf, hSelf]
  · rw [hPart]
    rfl

variable (policy source)

/-
  A rule may be put around this tree: it is a rule, or an
  atomic terminal with a token, or an end of the input.
-/
def IsChainable : Cst → Prop
  | .rule _ _ => True
  | .terminal t =>
      policy.endText = some t.text ∨
        (t.symbol ≠ none ∧ IsAtomicTerminal policy source t)

variable {policy source}

/- What such a tree contributes is absorbed as it is. -/
theorem absorbed_of_isChainable
    {tree : Cst}
    {branch : Branch}
    (hTree : IsChainable policy source tree)
    (hRun : contribution policy source tree = .ok branch) :
    absorbed branch = branch := by
  cases tree with
  | rule index children =>
      rcases (contribution_rule_eq_ok_iff policy source
          _ _ _).mp hRun with
        ⟨inner, -, rfl⟩
      exact absorbed_absorbed inner
  | terminal t =>
      rw [contribution, ofTerminal_eq_ok_iff] at hRun
      rcases hRun with
        ⟨-, rfl⟩ | ⟨hOpen, symbol, hSymbol, hKind⟩
      · rfl
      · rcases hKind with ⟨-, leaf, -, rfl⟩ | ⟨hPlain, -⟩
        · rfl
        · -- A text that only shapes a label is ruled out.
          rcases hTree with hEnd | ⟨-, hAtomic⟩
          · exact absurd hEnd hOpen
          · rw [isAtomicTerminal_iff policy source hSymbol]
              at hAtomic
            exact absurd hAtomic hPlain

/- One more rule around it changes nothing. -/
theorem contribution_chained
    {tree : Cst}
    (hTree : IsChainable policy source tree)
    (rule : Option Int) :
    contribution policy source (.rule rule [tree]) =
      contribution policy source tree := by
  rw [contribution, contributions_singleton]
  cases hRun : contribution policy source tree with
  | error failure => rfl
  | ok branch =>
      exact congrArg Except.ok
        (absorbed_of_isChainable hTree hRun)

------------------------------------------------------------
-- Silent Trees
------------------------------------------------------------

variable (policy)

/-
  All terminals of the tree, if it has any, stand for the end
  of the input.
-/
def IsSilent
    (tree : Cst) : Prop :=
  ∀ t ∈ tree.terminals, policy.endText = some t.text

instance
    (tree : Cst) :
    Decidable (IsSilent policy tree) := by
  unfold IsSilent
  infer_instance

variable {policy}

/- Trees without other terminals contribute nothing. -/
theorem contributions_of_silent
    {trees : List Cst}
    (hTrees :
      ∀ t ∈ Cst.terminalsAll trees,
        policy.endText = some t.text) :
    contributions policy source trees = .ok nothing := by
  induction trees using Cst.forest_induction with
  | nil => rfl
  | terminal t rest ihRest =>
      rw [Cst.terminalsAll, Cst.terminals,
        List.singleton_append, List.forall_mem_cons]
        at hTrees
      rw [contributions, contribution, ofTerminal,
        if_pos hTrees.1, ihRest hTrees.2]
      rfl
  | rule index children rest ihChildren ihRest =>
      rw [Cst.terminalsAll, Cst.terminals,
        List.forall_mem_append] at hTrees
      rw [contributions, contribution, ihChildren hTrees.1,
        ihRest hTrees.2]
      rfl

------------------------------------------------------------
-- Outlines
------------------------------------------------------------

variable (policy source)

/-
  In any slot of a tree, one more rule around a rule, around
  an atomic terminal with a token or around an end of the input
  does not change what collapsing comes to.  Neither does a
  silent tree that is put beside other children.
-/
theorem collapse_fill
    (index : Option Int)
    (slot : Cst.Slot)
    (tree : Cst) :
    (IsChainable policy source tree →
      ∀ rule : Option Int,
        collapse policy source
            ⟨index, slot.fill [.rule rule [tree]]⟩ =
          collapse policy source
            ⟨index, slot.fill [tree]⟩) ∧
    (IsSilent policy tree → slot.siblings ≠ [] →
      collapse policy source ⟨index, slot.fill [tree]⟩ =
        collapse policy source ⟨index, slot.fill []⟩) := by
  constructor
  · intro hTree rule
    apply collapse_congr
    · exact slot.fill_cons_ne_nil _ _
    · exact slot.fill_cons_ne_nil _ _
    · apply contributions_fill
      rw [contributions_singleton, contributions_singleton]
      exact contribution_chained hTree rule
  · intro hTree hSiblings
    apply collapse_congr
    · exact slot.fill_cons_ne_nil _ _
    · exact Cst.Slot.fill_ne_nil hSiblings []
    · apply contributions_fill
      rw [contributions]
      apply contributions_of_silent
      rw [Cst.terminalsAll, Cst.terminalsAll,
        List.append_nil]
      exact hTree

/- The call with a slot where its argument stands. -/
def argumentSlot : Cst.Slot :=
  .under []
    (some 1)
    (.under
      [.rule none
        [.terminal ⟨"F", some ⟨"F", 1, 0, 0⟩, none⟩],
       .terminal ⟨"(", some ⟨"(", 2, 1, 0⟩, some 1⟩]
      (some 2)
      (.under [] none (.here [] []) [])
      [.terminal ⟨")", some ⟨")", 2, 4, 0⟩, some 1⟩])
    [.rule (some 2) [],
     .terminal
      ⟨"<EOF>", some ⟨"<EOF>", -1, 5, 0⟩, some 0⟩]

/- The argument of the call. -/
def argument : Terminal :=
  ⟨"x", some ⟨"x", 1, 3, 0⟩, none⟩

/- The call with a slot right before its argument. -/
def openSlot : Cst.Slot :=
  .under []
    (some 1)
    (.here
      [.rule none
        [.terminal ⟨"F", some ⟨"F", 1, 0, 0⟩, none⟩],
       .terminal ⟨"(", some ⟨"(", 2, 1, 0⟩, some 1⟩]
      [.rule (some 2) [.rule none [.terminal argument]],
       .terminal ⟨")", some ⟨")", 2, 4, 0⟩, some 1⟩])
    [.rule (some 2) [],
     .terminal
      ⟨"<EOF>", some ⟨"<EOF>", -1, 5, 0⟩, some 0⟩]

/- Two rules, one without children, over an end without token. -/
def silentTree : Cst :=
  .rule (some 9)
    [.rule none [], .terminal ⟨"<EOF>", none, none⟩]

/-
  The call has the same outline with a third rule around its
  argument, and with a silent tree before the argument.
-/
theorem collapse_fill_of_call :
    collapse callPolicy callSource callTree =
        .ok (some callOutline) ∧
      callTree =
        ⟨some 0, argumentSlot.fill [.terminal argument]⟩ ∧
      IsChainable callPolicy callSource
        (.terminal argument) ∧
      collapse callPolicy callSource
          ⟨some 0, argumentSlot.fill
            [.rule (some 7) [.terminal argument]]⟩ =
        .ok (some callOutline) ∧
      callTree = ⟨some 0, openSlot.fill []⟩ ∧
      IsSilent callPolicy silentTree ∧
      openSlot.siblings ≠ [] ∧
      collapse callPolicy callSource
          ⟨some 0, openSlot.fill [silentTree]⟩ =
        .ok (some callOutline) := by
  have hRun :
      collapse callPolicy callSource callTree =
        .ok (some callOutline) := rfl
  have hArgument :
      IsChainable callPolicy callSource
        (.terminal argument) :=
    .inr (by decide)
  have hSilent : IsSilent callPolicy silentTree := by
    decide
  have hSiblings : openSlot.siblings ≠ [] := by
    simp [openSlot, Cst.Slot.siblings]
  have hChained :=
    (collapse_fill callPolicy callSource (some 0)
      argumentSlot (.terminal argument)).1 hArgument (some 7)
  have hBeside :=
    (collapse_fill callPolicy callSource (some 0) openSlot
      silentTree).2 hSilent hSiblings
  exact ⟨hRun, rfl, hArgument, hChained.trans hRun, rfl,
    hSilent, hSiblings, hBeside.trans hRun⟩

end Collapse

end SyntaxOutline

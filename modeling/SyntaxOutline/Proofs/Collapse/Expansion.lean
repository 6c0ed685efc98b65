import SyntaxOutline.Proofs.Collapse.Leaves

/-
  Labels and parts together spell the source.

  Each placeholder of a label stands for one part, in order.
  Filling the placeholders with what the parts expand to, down
  to the leaves, gives back the text of the terminals.  The two
  facts are carried together through joining and absorbing:
  labels side by side can be filled one after the other only
  when each has as many placeholders as parts.

  Key definitions include:
    * `Outline.branches`
    * `Branch.IsMatched`
    * `Branch.expansion`
    * `Collapse.keptText`

  Main statements:
    * `Collapse.fill_append`
    * `Collapse.Spells.join`
    * `Collapse.Spells.absorbed`
    * `Collapse.expansion_of_collapse`
-/

------------------------------------------------------------
-- Branches And Their Placeholders
------------------------------------------------------------

namespace SyntaxOutline

namespace Outline

mutual

/- The branches of an outline, each before its parts. -/
def branches : Outline → List Branch
  | .leaf _ => []
  | .branch label children =>
      ⟨label, children⟩ :: branchesAll children

/- The branches of outlines that stand side by side. -/
def branchesAll : List Outline → List Branch
  | [] => []
  | child :: rest => branches child ++ branchesAll rest

end

theorem branchesAll_append
    (front back : List Outline) :
    branchesAll (front ++ back) =
      branchesAll front ++ branchesAll back := by
  induction front with
  | nil => simp [branchesAll]
  | cons part front ih => simp [branchesAll, ih]

end Outline

namespace Branch

/- The branches of an outline, its root included. -/
def branches
    (b : Branch) : List Branch :=
  b.toOutline.branches

/- The label has one placeholder for each part. -/
def IsMatched
    (b : Branch) : Prop :=
  b.label.toList.count '#' = b.children.length

instance
    (b : Branch) :
    Decidable b.IsMatched := by
  unfold IsMatched
  infer_instance

theorem branches_eq
    (b : Branch) :
    b.branches = b :: Outline.branchesAll b.children := by
  simp [branches, toOutline, Outline.branches]

end Branch

------------------------------------------------------------
-- Expansion
------------------------------------------------------------

/-
  A label with its placeholders replaced, one after the other,
  by some texts.  Placeholders beyond the last text stay.
-/
def fill : List Char → List String → String
  | [], _ => ""
  | '#' :: label, text :: texts => text ++ fill label texts
  | c :: label, texts =>
      String.singleton c ++ fill label texts

namespace Outline

mutual

/- The text of a leaf, or the filled label of a branch. -/
def expand : Outline → String
  | .leaf l => l.token
  | .branch label children =>
      fill label.toList (expandAll children)

/- What outlines side by side expand to, one by one. -/
def expandAll : List Outline → List String
  | [] => []
  | child :: rest => expand child :: expandAll rest

end

theorem expandAll_eq_map
    (parts : List Outline) :
    expandAll parts = parts.map expand := by
  induction parts with
  | nil => rfl
  | cons part parts ih => simp [expandAll, ih]

end Outline

/- What a branch expands to. -/
def Branch.expansion
    (b : Branch) : String :=
  b.toOutline.expand

theorem Branch.expansion_eq
    (b : Branch) :
    b.expansion =
      fill b.label.toList
        (b.children.map Outline.expand) := by
  simp [expansion, toOutline, Outline.expand,
    Outline.expandAll_eq_map]

/- A label without placeholders is its own filling. -/
theorem fill_nil
    (label : List Char) :
    fill label [] = String.ofList label := by
  induction label with
  | nil => rfl
  | cons c label ih => simp [fill, ih, String.ofList_cons]

theorem fill_placeholder
    (label : List Char)
    (text : String)
    (texts : List String) :
    fill ('#' :: label) (text :: texts) =
      text ++ fill label texts := rfl

theorem fill_of_ne
    {c : Char}
    (hChar : c ≠ '#')
    (label : List Char)
    (texts : List String) :
    fill (c :: label) texts =
      String.singleton c ++ fill label texts := by
  rw [fill]
  intro _ _ _ hEq
  exact hChar hEq

/-
  Two labels side by side are filled one after the other, if
  the first one takes all the texts meant for it.
-/
theorem fill_append
    {front : List Char}
    {texts : List String}
    (hMatched : front.count '#' = texts.length)
    (back : List Char)
    (others : List String) :
    fill (front ++ back) (texts ++ others) =
      fill front texts ++ fill back others := by
  induction front generalizing texts with
  | nil =>
      have hTexts : texts = [] := by
        simpa using hMatched.symm
      simp [hTexts, fill]
  | cons c front ih =>
      by_cases hChar : c = '#'
      · subst hChar
        cases texts with
        | nil => simp at hMatched
        | cons text texts =>
            have hRest : front.count '#' = texts.length := by
              simpa using hMatched
            rw [List.cons_append, List.cons_append,
              fill_placeholder, fill_placeholder, ih hRest,
              String.append_assoc]
      · have hRest : front.count '#' = texts.length := by
          rw [← hMatched, List.count_cons_of_ne hChar]
        rw [List.cons_append, fill_of_ne hChar,
          fill_of_ne hChar, ih hRest, String.append_assoc]

------------------------------------------------------------
-- Contributions That Spell A Text
------------------------------------------------------------

namespace Collapse

/-
  A contribution spells a text: the text is its expansion, and
  all its branches have as many placeholders as parts.
-/
structure Spells
    (b : Branch)
    (text : String) : Prop where
  matched : ∀ inner ∈ b.branches, inner.IsMatched
  spelled : b.expansion = text

theorem spells_nothing :
    Spells nothing "" where
  matched := by
    simp [Branch.branches_eq, nothing, Branch.IsMatched,
      Outline.branchesAll]
  spelled := by
    simp [Branch.expansion_eq, nothing, fill]

/- A leaf behind its placeholder spells its token. -/
theorem spells_leaf
    (leaf : Leaf) :
    Spells ⟨placeholder, [.leaf leaf]⟩ leaf.token where
  matched := by
    simp [Branch.branches_eq, placeholder,
      Branch.IsMatched, Outline.branchesAll,
      Outline.branches]
  spelled := by
    simp [Branch.expansion_eq, placeholder, Outline.expand,
      fill]

/- A text without placeholders spells itself. -/
theorem spells_text
    {text : String}
    (hText : '#' ∉ text.toList) :
    Spells ⟨text, []⟩ text where
  matched := by
    simpa [Branch.branches_eq, Branch.IsMatched,
      Outline.branchesAll, List.count_eq_zero] using hText
  spelled := by
    simp [Branch.expansion_eq, fill_nil]

/- Contributions side by side spell one text. -/
theorem Spells.join
    {a b : Branch}
    {front back : String}
    (hFront : Spells a front)
    (hBack : Spells b back) :
    Spells (join a b) (front ++ back) where
  matched := by
    have hA := hFront.matched
    have hB := hBack.matched
    rw [Branch.branches_eq, List.forall_mem_cons] at hA hB
    rw [Branch.branches_eq, List.forall_mem_cons]
    constructor
    · have hRootA := hA.1
      have hRootB := hB.1
      simp only [Branch.IsMatched] at hRootA hRootB ⊢
      simp [Collapse.join, hRootA, hRootB]
    · intro inner hInner
      simp only [Collapse.join,
        Outline.branchesAll_append,
        List.mem_append] at hInner
      rcases hInner with hInner | hInner
      · exact hA.2 inner hInner
      · exact hB.2 inner hInner
  spelled := by
    have hRoot : a.IsMatched :=
      hFront.matched a (by simp [Branch.branches_eq])
    have hCount :
        a.label.toList.count '#' =
          (a.children.map Outline.expand).length := by
      simpa [Branch.IsMatched] using hRoot
    rw [Branch.expansion_eq, Collapse.join,
      String.toList_append, List.map_append,
      fill_append hCount, ← Branch.expansion_eq,
      ← Branch.expansion_eq, hFront.spelled,
      hBack.spelled]

/- A rule spells what its children spell. -/
theorem Spells.absorbed
    {inner : Branch}
    {text : String}
    (hInner : Spells inner text) :
    Spells (absorbed inner) text := by
  rcases absorbed_cases inner with
    ⟨hLabel, hNothing⟩ | ⟨-, -, hSelf⟩ | ⟨-, -, hPart⟩
  · -- An empty label has nothing to be filled.
    have hEmpty : text = "" := by
      rw [← hInner.spelled, Branch.expansion_eq, hLabel]
      simp [fill]
    rw [hNothing, hEmpty]
    exact spells_nothing
  · rw [hSelf]
    exact hInner
  · rw [hPart]
    refine ⟨?_, ?_⟩
    · rw [Branch.branches_eq, List.forall_mem_cons]
      refine ⟨by simp [Branch.IsMatched, placeholder], ?_⟩
      simpa [Outline.branchesAll, Branch.branches] using
        hInner.matched
    · rw [Branch.expansion_eq, ← hInner.spelled]
      simp [placeholder, fill, Branch.expansion]

------------------------------------------------------------
-- Derivations Spell Their Terminals
------------------------------------------------------------

/- A leaf carries the text of its terminal. -/
theorem token_of_leafOf
    {policy : Policy}
    {source : Source}
    {t : Terminal}
    {symbol : Token}
    {leaf : Leaf}
    (hLeaf : leafOf policy source t symbol = .ok leaf) :
    leaf.token = t.text := by
  unfold leafOf at hLeaf
  rcases bind_eq_ok_iff.mp hLeaf with ⟨_, _, hAfter⟩
  rcases bind_eq_ok_iff.mp hAfter with ⟨_, _, hResult⟩
  rw [← Except.ok.inj hResult]

variable (policy : Policy) (source : Source)

/-
  The text of some terminals, one after the other, without the
  end of the input.
-/
def keptText
    (texts : List String) : String :=
  String.join
    (texts.filter fun text => policy.endText ≠ some text)

/-
  No terminal that only shapes a label holds a placeholder.
-/
def AvoidsPlaceholder
    (terminals : List Terminal) : Prop :=
  ∀ t ∈ terminals, policy.endText ≠ some t.text →
    ¬ IsAtomicTerminal policy source t →
      '#' ∉ t.text.toList

instance
    (terminals : List Terminal) :
    Decidable
      (AvoidsPlaceholder policy source terminals) := by
  unfold AvoidsPlaceholder
  infer_instance

theorem avoidsPlaceholder_append_iff
    (front back : List Terminal) :
    AvoidsPlaceholder policy source (front ++ back) ↔
      AvoidsPlaceholder policy source front ∧
        AvoidsPlaceholder policy source back :=
  List.forall_mem_append

variable {policy source}

/- What trees contribute spells the text of their terminals. -/
theorem Contributes.spells
    {trees : List Cst}
    {branch : Branch}
    (hRun : Contributes policy source trees branch)
    (hAvoids :
      AvoidsPlaceholder policy source
        (Cst.terminalsAll trees)) :
    Spells branch
      (keptText policy
        ((Cst.terminalsAll trees).map (·.text))) := by
  induction hRun with
  | nil => exact spells_nothing
  | @ended t rest others hEnd _ ih =>
      rw [Cst.terminalsAll,
        avoidsPlaceholder_append_iff] at hAvoids
      simpa [Cst.terminalsAll, Cst.terminals, keptText,
        hEnd] using ih hAvoids.2
  | @atomic t symbol leaf rest others hEnd _ _ hLeaf _ ih =>
      rw [Cst.terminalsAll,
        avoidsPlaceholder_append_iff] at hAvoids
      have hFirst := spells_leaf leaf
      rw [token_of_leafOf hLeaf] at hFirst
      simpa [Cst.terminalsAll, Cst.terminals, keptText,
        hEnd] using hFirst.join (ih hAvoids.2)
  | @plain t symbol rest others hEnd hSymbol hAtomic _ ih =>
      rw [Cst.terminalsAll,
        avoidsPlaceholder_append_iff] at hAvoids
      have hText : '#' ∉ t.text.toList := by
        apply hAvoids.1 t (by simp [Cst.terminals]) hEnd
        exact (isAtomicTerminal_iff policy source
          hSymbol).not.mpr hAtomic
      simpa [Cst.terminalsAll, Cst.terminals, keptText,
        hEnd] using (spells_text hText).join (ih hAvoids.2)
  | @rule index children rest inner others _ _ ihChildren
      ihRest =>
      rw [Cst.terminalsAll, Cst.terminals,
        avoidsPlaceholder_append_iff] at hAvoids
      have hBoth :=
        (ihChildren hAvoids.1).absorbed.join
          (ihRest hAvoids.2)
      simpa [Cst.terminalsAll, Cst.terminals, keptText,
        String.join_append] using hBoth

------------------------------------------------------------
-- Outlines Spell Their Source
------------------------------------------------------------

/-
  Where no terminal that only shapes a label holds a
  placeholder, every branch of an outline has as many
  placeholders as parts, and the outline expands to the text of
  all terminals but the end of the input.
-/
theorem expansion_of_collapse
    {root : Rule}
    {branch : Branch}
    (hAvoids :
      AvoidsPlaceholder policy source
        root.toCst.terminals)
    (hRun :
      collapse policy source root = .ok (some branch)) :
    (∀ inner ∈ branch.branches, inner.IsMatched) ∧
      branch.expansion =
        keptText policy root.toCst.texts := by
  rcases (collapse_eq_some_iff policy source root
      branch).mp hRun with
    ⟨-, hDerivation⟩
  have hSpells := hDerivation.spells hAvoids
  exact ⟨hSpells.matched, hSpells.spelled⟩

/- The call expands to its text without the hidden space. -/
theorem expansion_of_call :
    AvoidsPlaceholder callPolicy callSource
        callTree.toCst.terminals ∧
      collapse callPolicy callSource callTree =
        .ok (some callOutline) ∧
      (∀ inner ∈ callOutline.branches, inner.IsMatched) ∧
        callOutline.expansion = "F(x)" := by
  have hAvoids :
      AvoidsPlaceholder callPolicy callSource
        callTree.toCst.terminals := by
    decide
  have hRun :
      collapse callPolicy callSource callTree =
        .ok (some callOutline) := rfl
  have hText :
      keptText callPolicy callTree.toCst.texts = "F(x)" := by
    rfl
  have hExpansion := expansion_of_collapse hAvoids hRun
  rw [hText] at hExpansion
  exact ⟨hAvoids, hRun, hExpansion⟩

end Collapse

end SyntaxOutline

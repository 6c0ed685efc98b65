import SyntaxOutline.Collapse
import SyntaxOutline.Proofs.Stream.Runs
import Mathlib.Data.List.Basic

/-
  Successful runs of collapsing, as derivations.

  `Contributes` says what some trees contribute, with one rule
  for each way in which a tree takes part: the end of the
  input, an atomic terminal, any other terminal, and a rule.
  Collapsing succeeds exactly along these derivations, so a
  fact about its results is an induction with these cases.

  Key definitions include:
    * `HasName`
    * `Collapse.IsAtomicTerminal`
    * `Collapse.Contributes`

  Main statements:
    * `Collapse.isAtomicTerminal_iff`
    * `Collapse.contributions_eq_ok_iff`
    * `Collapse.collapse_eq_some_iff`
    * `Collapse.exists_contributes`
-/

------------------------------------------------------------
-- Names
------------------------------------------------------------

namespace SyntaxOutline

/-
  A table has a name at a number.  No number and a number
  outside the table have no name.
-/
def HasName
    (names : List (Option String))
    (index : Option Int)
    (name : String) : Prop :=
  ∃ i : Nat, index = some (i : Int) ∧
    names[i]? = some (some name)

theorem nameAt?_eq_some_iff
    (names : List (Option String))
    (index : Option Int)
    (name : String) :
    nameAt? names index = some name ↔
      HasName names index name := by
  cases index with
  | none => simp [nameAt?, HasName]
  | some index =>
      by_cases hNegative : index < 0
      · rw [nameAt?_of_neg names hNegative]
        constructor
        · intro hNone
          cases hNone
        · rintro ⟨i, hIndex, -⟩
          have hEq : index = (i : Int) :=
            Option.some.inj hIndex
          omega
      · have hIndex : index = (index.toNat : Int) := by
          omega
        simp only [nameAt?, hNegative, if_false,
          Option.join_eq_some_iff]
        constructor
        · intro hName
          exact ⟨index.toNat, congrArg some hIndex, hName⟩
        · rintro ⟨i, hEq, hName⟩
          have hNat : index.toNat = i := by
            have hEq := Option.some.inj hEq
            omega
          rw [hNat, hName]

instance
    (names : List (Option String))
    (index : Option Int)
    (name : String) :
    Decidable (HasName names index name) :=
  decidable_of_iff _ (nameAt?_eq_some_iff names index name)

------------------------------------------------------------
-- Induction Over Lists Of Trees
------------------------------------------------------------

/-
  A property of lists of trees holds of all of them when it
  passes on from the trees behind a terminal, and from the
  children of a rule and the trees behind it.
-/
@[elab_as_elim]
theorem Cst.forest_induction
    {motive : List Cst → Prop}
    (nil : motive [])
    (terminal :
      ∀ t rest, motive rest → motive (.terminal t :: rest))
    (rule :
      ∀ index children rest,
        motive children → motive rest →
          motive (.rule index children :: rest))
    (trees : List Cst) :
    motive trees :=
  match trees with
  | [] => nil
  | .terminal t :: rest =>
      terminal t rest
        (forest_induction nil terminal rule rest)
  | .rule index children :: rest =>
      rule index children rest
        (forest_induction nil terminal rule children)
        (forest_induction nil terminal rule rest)

------------------------------------------------------------
-- Atomic Terminals
------------------------------------------------------------

namespace Collapse

variable (policy : Policy) (source : Source)

/-
  A terminal is atomic when the name of its own rule, or the
  name of the type of its token, is listed.
-/
def IsAtomicTerminal
    (t : Terminal) : Prop :=
  (∃ name ∈ policy.classification.ruleNames,
    HasName source.ruleNames t.rule name) ∨
    ∃ symbol ∈ t.symbol,
      ∃ name ∈ policy.classification.symbolNames,
        HasName source.symbolNames (some symbol.type) name

instance
    (t : Terminal) :
    Decidable (IsAtomicTerminal policy source t) := by
  unfold IsAtomicTerminal
  infer_instance

/- With its token a terminal is atomic as collapsing asks. -/
theorem isAtomicTerminal_iff
    {t : Terminal}
    {symbol : Token}
    (hSymbol : t.symbol = some symbol) :
    IsAtomicTerminal policy source t ↔
      IsAtomic policy source t symbol := by
  simp [IsAtomicTerminal, IsAtomic,
    Classification.IsAtomic, symbolName, hSymbol,
    nameAt?_eq_some_iff]

------------------------------------------------------------
-- Derivations
------------------------------------------------------------

/- What trees that stand side by side contribute. -/
inductive Contributes :
    List Cst → Branch → Prop where
  | nil : Contributes [] nothing
  | ended
      {t : Terminal}
      {rest : List Cst}
      {others : Branch}
      (hEnd : policy.endText = some t.text)
      (hRest : Contributes rest others) :
      Contributes (.terminal t :: rest) others
  | atomic
      {t : Terminal}
      {symbol : Token}
      {leaf : Leaf}
      {rest : List Cst}
      {others : Branch}
      (hEnd : policy.endText ≠ some t.text)
      (hSymbol : t.symbol = some symbol)
      (hAtomic : IsAtomic policy source t symbol)
      (hLeaf : leafOf policy source t symbol = .ok leaf)
      (hRest : Contributes rest others) :
      Contributes (.terminal t :: rest)
        (join ⟨placeholder, [.leaf leaf]⟩ others)
  | plain
      {t : Terminal}
      {symbol : Token}
      {rest : List Cst}
      {others : Branch}
      (hEnd : policy.endText ≠ some t.text)
      (hSymbol : t.symbol = some symbol)
      (hAtomic : ¬ IsAtomic policy source t symbol)
      (hRest : Contributes rest others) :
      Contributes (.terminal t :: rest)
        (join ⟨t.text, []⟩ others)
  | rule
      {index : Option Int}
      {children rest : List Cst}
      {inner others : Branch}
      (hChildren : Contributes children inner)
      (hRest : Contributes rest others) :
      Contributes (.rule index children :: rest)
        (join (absorbed inner) others)

/-
  A rule vanishes when its label is empty, leaves its only part
  to its parent as it is, or becomes a part itself.
-/
theorem absorbed_cases
    (inner : Branch) :
    (inner.label = "" ∧ absorbed inner = nothing) ∨
      (inner.label ≠ "" ∧ inner.children.length = 1 ∧
        absorbed inner = inner) ∨
      (inner.label ≠ "" ∧ inner.children.length ≠ 1 ∧
        absorbed inner =
          ⟨placeholder, [inner.toOutline]⟩) := by
  rcases inner with ⟨label, children⟩
  by_cases hLabel : label = ""
  · exact .inl ⟨hLabel, by simp [absorbed, hLabel]⟩
  · right
    match children with
    | [] =>
        exact .inr ⟨hLabel, by simp, by
          simp [absorbed, hLabel]⟩
    | [only] =>
        exact .inl ⟨hLabel, rfl, by
          simp [absorbed, hLabel]⟩
    | first :: second :: others =>
        exact .inr ⟨hLabel, by simp, by
          simp [absorbed, hLabel]⟩

/- What a rule does rests on its label and number of parts. -/
theorem absorbed_eq
    (inner : Branch) :
    absorbed inner =
      if inner.label = "" then nothing
      else if inner.children.length = 1 then inner
      else ⟨placeholder, [inner.toOutline]⟩ := by
  rcases absorbed_cases inner with
    ⟨hLabel, hNothing⟩ | ⟨hLabel, hOne, hSelf⟩ |
      ⟨hLabel, hOne, hPart⟩
  · rw [if_pos hLabel, hNothing]
  · rw [if_neg hLabel, if_pos hOne, hSelf]
  · rw [if_neg hLabel, if_neg hOne, hPart]

/- A computation goes on only from a result. -/
theorem bind_eq_ok_iff
    {α β : Type}
    {first : Except Failure α}
    {next : α → Except Failure β}
    {result : β} :
    (first >>= next) = .ok result ↔
      ∃ value, first = .ok value ∧
        next value = .ok result := by
  cases first with
  | error failure => simp [bind, Except.bind]
  | ok value => simp [bind, Except.bind]

/- The contribution of one terminal, case by case. -/
theorem ofTerminal_eq_ok_iff
    (t : Terminal)
    (branch : Branch) :
    ofTerminal policy source t = .ok branch ↔
      (policy.endText = some t.text ∧
        branch = nothing) ∨
      (policy.endText ≠ some t.text ∧
        ∃ symbol, t.symbol = some symbol ∧
          ((IsAtomic policy source t symbol ∧
            ∃ leaf,
              leafOf policy source t symbol = .ok leaf ∧
                branch =
                  ⟨placeholder, [.leaf leaf]⟩) ∨
          (¬ IsAtomic policy source t symbol ∧
            branch = ⟨t.text, []⟩))) := by
  by_cases hEnd : policy.endText = some t.text
  · simp [ofTerminal, hEnd, eq_comm]
  · cases hSymbol : t.symbol with
    | none => simp [ofTerminal, hEnd, hSymbol]
    | some symbol =>
        by_cases hAtomic : IsAtomic policy source t symbol
        · simp only [ofTerminal, hEnd, hSymbol, hAtomic,
            if_false, if_true, bind_eq_ok_iff]
          simp [pure, Except.pure, hEnd, hAtomic, eq_comm]
        · simp [ofTerminal, hEnd, hSymbol, hAtomic,
            eq_comm]

theorem contributions_cons_eq_ok_iff
    (tree : Cst)
    (rest : List Cst)
    (branch : Branch) :
    contributions policy source (tree :: rest) =
        .ok branch ↔
      ∃ first others,
        contribution policy source tree = .ok first ∧
          contributions policy source rest = .ok others ∧
            branch = join first others := by
  rw [contributions, bind_eq_ok_iff]
  constructor
  · rintro ⟨first, hFirst, hOthers⟩
    rcases bind_eq_ok_iff.mp hOthers with
      ⟨others, hRest, hJoin⟩
    exact ⟨first, others, hFirst, hRest,
      (Except.ok.inj hJoin).symm⟩
  · rintro ⟨first, others, hFirst, hRest, rfl⟩
    exact ⟨first, hFirst,
      bind_eq_ok_iff.mpr ⟨others, hRest, rfl⟩⟩

theorem contribution_rule_eq_ok_iff
    (index : Option Int)
    (children : List Cst)
    (branch : Branch) :
    contribution policy source (.rule index children) =
        .ok branch ↔
      ∃ inner,
        contributions policy source children = .ok inner ∧
          branch = absorbed inner := by
  rw [contribution, bind_eq_ok_iff]
  constructor
  · rintro ⟨inner, hInner, hAbsorbed⟩
    exact ⟨inner, hInner,
      (Except.ok.inj hAbsorbed).symm⟩
  · rintro ⟨inner, hInner, rfl⟩
    exact ⟨inner, hInner, rfl⟩

------------------------------------------------------------
-- Runs Are Derivations
------------------------------------------------------------

/- Nothing beside a contribution is that contribution. -/
theorem join_nothing_left
    (branch : Branch) :
    join nothing branch = branch := by
  simp [join, nothing]

/- Collapsing succeeds exactly along the derivations. -/
theorem contributions_eq_ok_iff
    (trees : List Cst)
    (branch : Branch) :
    contributions policy source trees = .ok branch ↔
      Contributes policy source trees branch := by
  constructor
  · intro hRun
    induction trees using Cst.forest_induction
      generalizing branch with
    | nil =>
        have hNothing : nothing = branch := by
          simpa [contributions] using hRun
        rw [← hNothing]
        exact .nil
    | terminal t rest ihRest =>
        rcases (contributions_cons_eq_ok_iff policy source
            _ _ _).mp hRun with
          ⟨first, others, hFirst, hOthers, rfl⟩
        have hRest := ihRest others hOthers
        rw [contribution, ofTerminal_eq_ok_iff] at hFirst
        rcases hFirst with
          ⟨hEnd, rfl⟩ | ⟨hEnd, symbol, hSymbol, hKind⟩
        · rw [join_nothing_left]
          exact .ended hEnd hRest
        · rcases hKind with
            ⟨hAtomic, leaf, hLeaf, rfl⟩ | ⟨hAtomic, rfl⟩
          · exact .atomic hEnd hSymbol hAtomic hLeaf hRest
          · exact .plain hEnd hSymbol hAtomic hRest
    | rule index children rest ihChildren ihRest =>
        rcases (contributions_cons_eq_ok_iff policy source
            _ _ _).mp hRun with
          ⟨first, others, hFirst, hOthers, rfl⟩
        rcases (contribution_rule_eq_ok_iff policy source
            _ _ _).mp hFirst with
          ⟨inner, hInner, rfl⟩
        exact .rule (ihChildren inner hInner)
          (ihRest others hOthers)
  · intro hDerivation
    induction hDerivation with
    | nil => simp [contributions]
    | @ended t rest others hEnd _ ih =>
        rw [contributions_cons_eq_ok_iff]
        refine ⟨nothing, others, ?_, ih,
          (join_nothing_left others).symm⟩
        rw [contribution, ofTerminal_eq_ok_iff]
        exact .inl ⟨hEnd, rfl⟩
    | @atomic t symbol leaf rest others hEnd hSymbol
        hAtomic hLeaf _ ih =>
        rw [contributions_cons_eq_ok_iff]
        refine ⟨_, others, ?_, ih, rfl⟩
        rw [contribution, ofTerminal_eq_ok_iff]
        exact .inr ⟨hEnd, symbol, hSymbol,
          .inl ⟨hAtomic, leaf, hLeaf, rfl⟩⟩
    | @plain t symbol rest others hEnd hSymbol hAtomic _
        ih =>
        rw [contributions_cons_eq_ok_iff]
        refine ⟨_, others, ?_, ih, rfl⟩
        rw [contribution, ofTerminal_eq_ok_iff]
        exact .inr ⟨hEnd, symbol, hSymbol,
          .inr ⟨hAtomic, rfl⟩⟩
    | @rule index children rest inner others _ _
        ihChildren ihRest =>
        rw [contributions_cons_eq_ok_iff]
        refine ⟨absorbed inner, others, ?_, ihRest, rfl⟩
        rw [contribution_rule_eq_ok_iff]
        exact ⟨inner, ihChildren, rfl⟩

/- A root with children has what these contribute. -/
theorem collapse_eq_ok_iff
    {root : Rule}
    (hChildren : root.children ≠ [])
    (outline : Option Branch) :
    collapse policy source root = .ok outline ↔
      ∃ branch,
        contributions policy source root.children =
            .ok branch ∧
          outline = some branch := by
  have hSome : root.children.isEmpty = false := by
    simpa using hChildren
  rw [collapse, hSome, if_neg (by simp), bind_eq_ok_iff]
  simp [pure, Except.pure, eq_comm]

/- A tree has an outline exactly when one is derived. -/
theorem collapse_eq_some_iff
    (root : Rule)
    (branch : Branch) :
    collapse policy source root = .ok (some branch) ↔
      root.children ≠ [] ∧
        Contributes policy source root.children
          branch := by
  rw [← contributions_eq_ok_iff]
  by_cases hEmpty : root.children = []
  · simp [collapse, hEmpty]
  · rw [collapse_eq_ok_iff policy source hEmpty]
    simp [hEmpty]

/- Only a root without children has no outline. -/
theorem collapse_eq_none_iff
    (root : Rule) :
    collapse policy source root = .ok none ↔
      root.children = [] := by
  by_cases hEmpty : root.children = []
  · simp [collapse, hEmpty]
  · rw [collapse_eq_ok_iff policy source hEmpty]
    simp [hEmpty]

------------------------------------------------------------
-- Runs That Succeed
------------------------------------------------------------

variable {policy source}

/- A leaf carries the hidden text around its token. -/
theorem leafOf_eq_ok
    {symbol : Token}
    {before after : List Token}
    (hBefore :
      source.stream.hiddenBefore symbol.index
        policy.hiddenChannel = .ok before)
    (hAfter :
      source.stream.hiddenAfter symbol.index
        policy.hiddenChannel = .ok after)
    (t : Terminal) :
    ∃ isVariable isCapitalized,
      leafOf policy source t symbol =
        .ok ⟨t.text, isVariable, isCapitalized,
          trivia before, trivia after⟩ := by
  rw [leafOf, hBefore, hAfter]
  exact ⟨_, _, rfl⟩

/- A token of the stream gives a leaf. -/
theorem exists_leafOf
    {symbol : Token}
    (hRange : source.stream.InRange symbol.index)
    (t : Terminal) :
    ∃ leaf, leafOf policy source t symbol = .ok leaf := by
  rcases leafOf_eq_ok
      (Stream.hiddenBefore_of_inRange hRange
        policy.hiddenChannel)
      (Stream.hiddenAfter_of_inRange hRange
        policy.hiddenChannel) t with
    ⟨_, _, hLeaf⟩
  exact ⟨_, hLeaf⟩

/-
  Collapsing succeeds where every terminal has a token of the
  stream.
-/
theorem exists_contributes
    {trees : List Cst}
    (hTerminals :
      ∀ t ∈ Cst.terminalsAll trees,
        ∃ symbol, t.symbol = some symbol ∧
          source.stream.InRange symbol.index) :
    ∃ branch, Contributes policy source trees branch := by
  induction trees using Cst.forest_induction with
  | nil => exact ⟨_, .nil⟩
  | terminal t rest ihRest =>
      rw [Cst.terminalsAll, Cst.terminals,
        List.singleton_append, List.forall_mem_cons]
        at hTerminals
      rcases hTerminals with
        ⟨⟨symbol, hSymbol, hRange⟩, hOthers⟩
      rcases ihRest hOthers with ⟨others, hRest⟩
      by_cases hEnd : policy.endText = some t.text
      · exact ⟨_, .ended hEnd hRest⟩
      · by_cases hAtomic : IsAtomic policy source t symbol
        · rcases exists_leafOf hRange t with ⟨_, hLeaf⟩
          exact ⟨_, .atomic hEnd hSymbol hAtomic hLeaf
            hRest⟩
        · exact ⟨_, .plain hEnd hSymbol hAtomic hRest⟩
  | rule index children rest ihChildren ihRest =>
      rw [Cst.terminalsAll, Cst.terminals,
        List.forall_mem_append] at hTerminals
      rcases ihChildren hTerminals.1 with ⟨inner, hInner⟩
      rcases ihRest hTerminals.2 with ⟨others, hRest⟩
      exact ⟨_, .rule hInner hRest⟩

end Collapse

end SyntaxOutline

import SyntaxOutline.Proofs.Collapse.Leaves

/-
  When collapsing fails, and with what.

  A terminal without a token offends, and so does an atomic
  terminal whose token is not in the stream; what stands for
  the end of the input never does.  Trees are gone through in
  document order, so a run fails with the offence of the first
  terminal that offends, at whatever depth it stands and
  whatever would have become of the rules above it.

  Key definitions include:
    * `Collapse.Offends`
    * `Collapse.offence`
    * `Collapse.FailsBy`

  Main statements:
    * `Collapse.failsBy_ofTerminal`
    * `Collapse.failsBy_contributions`
    * `Collapse.collapse_of_offences`
-/

------------------------------------------------------------
-- Offences
------------------------------------------------------------

namespace SyntaxOutline

namespace Collapse

variable (policy : Policy) (source : Source)

/-
  A terminal that does not stand for the end of the input, and
  has no token, or is atomic and has a token whose number is
  not an index of the stream.
-/
def Offends
    (t : Terminal) : Prop :=
  policy.endText ≠ some t.text ∧
    (t.symbol = none ∨
      IsAtomicTerminal policy source t ∧
        ∃ symbol ∈ t.symbol,
          ¬ source.stream.InRange symbol.index)

instance
    (t : Terminal) :
    Decidable (Offends policy source t) := by
  unfold Offends
  infer_instance

/-
  What a run says of a terminal that offends: its text if it
  has no token, and otherwise the number of its token.
-/
def offence
    (t : Terminal) : Failure :=
  match t.symbol with
  | none => .missingToken t.text
  | some symbol =>
      .outOfRange ⟨symbol.index, source.stream.size⟩

/- The first of some terminals that offends. -/
def firstOffender?
    (terminals : List Terminal) : Option Terminal :=
  terminals.find? fun t => decide (Offends policy source t)

theorem firstOffender?_append
    (front back : List Terminal) :
    firstOffender? policy source (front ++ back) =
      (firstOffender? policy source front).or
        (firstOffender? policy source back) := by
  simp [firstOffender?]

theorem firstOffender?_eq_none_iff
    (terminals : List Terminal) :
    firstOffender? policy source terminals = none ↔
      ∀ t ∈ terminals, ¬ Offends policy source t := by
  simp [firstOffender?]

variable {policy source}

/- With no other before it, an offender is the first. -/
theorem firstOffender?_eq_some
    {front back : List Terminal}
    {t : Terminal}
    (hFront :
      ∀ earlier ∈ front, ¬ Offends policy source earlier)
    (hOffends : Offends policy source t) :
    firstOffender? policy source (front ++ t :: back) =
      some t := by
  rw [firstOffender?, List.find?_eq_some_iff_append]
  refine ⟨decide_eq_true hOffends, front, back, rfl, ?_⟩
  simpa using hFront

theorem firstOffender?_singleton
    {t : Terminal}
    (hOffends : Offends policy source t) :
    firstOffender? policy source [t] = some t := by
  simp [firstOffender?, hOffends]

theorem firstOffender?_singleton_of_not
    {t : Terminal}
    (hOffends : ¬ Offends policy source t) :
    firstOffender? policy source [t] = none := by
  rw [firstOffender?_eq_none_iff]
  simpa using hOffends

------------------------------------------------------------
-- Runs And Their Offenders
------------------------------------------------------------

/-
  A run fails with the offence of the given terminal, and
  succeeds when none is given.
-/
def FailsBy
    {α : Type}
    (source : Source)
    (offender : Option Terminal)
    (run : Except Failure α) : Prop :=
  match offender with
  | none => ∃ value, run = .ok value
  | some t => run = .error (offence source t)

/- Such a run fails exactly when a terminal is given. -/
theorem FailsBy.exists_error_iff
    {α : Type}
    {offender : Option Terminal}
    {run : Except Failure α}
    (hRun : FailsBy source offender run) :
    (∃ failure, run = .error failure) ↔
      offender ≠ none := by
  cases offender with
  | none =>
      rcases hRun with ⟨value, rfl⟩
      simp
  | some t =>
      have hFails : run = .error (offence source t) := hRun
      simp [hFails]

/- Of two runs in a row, the second one needs the first. -/
theorem FailsBy.bind
    {α β : Type}
    {first second : Option Terminal}
    {run : Except Failure α}
    {next : α → Except Failure β}
    (hRun : FailsBy source first run)
    (hNext : ∀ value, FailsBy source second (next value)) :
    FailsBy source (first.or second) (run >>= next) := by
  cases first with
  | none =>
      rcases hRun with ⟨value, rfl⟩
      exact hNext value
  | some t =>
      have hFails : run = .error (offence source t) := hRun
      rw [hFails]
      rfl

/- What is made of a result does not make a run fail. -/
theorem FailsBy.map
    {α β : Type}
    {offender : Option Terminal}
    {run : Except Failure α}
    (hRun : FailsBy source offender run)
    (make : α → β) :
    FailsBy source offender
      (run >>= fun value => pure (make value)) := by
  have hMade :
      FailsBy source (offender.or none)
        (run >>= fun value => pure (make value)) :=
    hRun.bind fun value => ⟨make value, rfl⟩
  rwa [Option.or_none] at hMade

------------------------------------------------------------
-- Terminals
------------------------------------------------------------

/- A token outside the stream has nothing before it. -/
theorem leafOf_of_not_inRange
    {symbol : Token}
    (hRange : ¬ source.stream.InRange symbol.index)
    (t : Terminal) :
    leafOf policy source t symbol =
      .error (.outOfRange
        ⟨symbol.index, source.stream.size⟩) := by
  rw [leafOf, Stream.hiddenBefore_of_not_inRange hRange]
  rfl

/- A terminal that offends fails with its offence. -/
theorem ofTerminal_of_offends
    {t : Terminal}
    (hOffends : Offends policy source t) :
    ofTerminal policy source t =
      .error (offence source t) := by
  rcases hOffends with
    ⟨hEnd, hNone | ⟨hAtomic, symbol, hSymbol, hRange⟩⟩
  · simp [ofTerminal, offence, hEnd, hNone]
  · have hSymbol : t.symbol = some symbol := hSymbol
    rw [isAtomicTerminal_iff policy source hSymbol]
      at hAtomic
    simp only [ofTerminal, offence, hEnd, hSymbol, hAtomic,
      if_false, if_true, leafOf_of_not_inRange hRange]
    rfl

/- Otherwise the token of an atomic terminal is there. -/
theorem inRange_of_not_offends
    {t : Terminal}
    {symbol : Token}
    (hOffends : ¬ Offends policy source t)
    (hEnd : policy.endText ≠ some t.text)
    (hSymbol : t.symbol = some symbol)
    (hAtomic : IsAtomic policy source t symbol) :
    source.stream.InRange symbol.index := by
  by_contra hRange
  rw [← isAtomicTerminal_iff policy source hSymbol]
    at hAtomic
  exact hOffends
    ⟨hEnd, .inr ⟨hAtomic, symbol, hSymbol, hRange⟩⟩

/- A terminal that does not offend contributes something. -/
theorem exists_ofTerminal
    {t : Terminal}
    (hOffends : ¬ Offends policy source t) :
    ∃ branch, ofTerminal policy source t = .ok branch := by
  by_cases hEnd : policy.endText = some t.text
  · exact ⟨nothing, by simp [ofTerminal, hEnd]⟩
  · cases hSymbol : t.symbol with
    | none => exact absurd ⟨hEnd, .inl hSymbol⟩ hOffends
    | some symbol =>
        by_cases hAtomic : IsAtomic policy source t symbol
        · have hRange :=
            inRange_of_not_offends hOffends hEnd hSymbol
              hAtomic
          rcases exists_leafOf hRange t with ⟨leaf, hLeaf⟩
          refine ⟨⟨placeholder, [.leaf leaf]⟩, ?_⟩
          rw [ofTerminal_eq_ok_iff]
          exact .inr ⟨hEnd, symbol, hSymbol,
            .inl ⟨hAtomic, leaf, hLeaf, rfl⟩⟩
        · refine ⟨⟨t.text, []⟩, ?_⟩
          rw [ofTerminal_eq_ok_iff]
          exact .inr ⟨hEnd, symbol, hSymbol,
            .inr ⟨hAtomic, rfl⟩⟩

/- A terminal fails by itself alone. -/
theorem failsBy_ofTerminal
    (t : Terminal) :
    FailsBy source (firstOffender? policy source [t])
      (ofTerminal policy source t) := by
  by_cases hOffends : Offends policy source t
  · rw [firstOffender?_singleton hOffends]
    exact ofTerminal_of_offends hOffends
  · rw [firstOffender?_singleton_of_not hOffends]
    exact exists_ofTerminal hOffends

------------------------------------------------------------
-- Trees
------------------------------------------------------------

/-
  Trees fail by the first terminal in document order that
  offends.
-/
theorem failsBy_contributions
    (trees : List Cst) :
    FailsBy source
      (firstOffender? policy source
        (Cst.terminalsAll trees))
      (contributions policy source trees) := by
  induction trees using Cst.forest_induction with
  | nil => exact ⟨nothing, rfl⟩
  | terminal t rest ihRest =>
      rw [Cst.terminalsAll, Cst.terminals, contributions,
        contribution, firstOffender?_append]
      apply (failsBy_ofTerminal t).bind
      intro first
      exact ihRest.map (join first)
  | rule index children rest ihChildren ihRest =>
      -- What becomes of a rule is asked only when its children
      -- are through, so one that would vanish fails as well.
      rw [Cst.terminalsAll, Cst.terminals, contributions,
        contribution, firstOffender?_append]
      apply (ihChildren.map absorbed).bind
      intro first
      exact ihRest.map (join first)

/- A root without children has no terminal to fail by. -/
theorem failsBy_collapse
    (root : Rule) :
    FailsBy source
      (firstOffender? policy source root.toCst.terminals)
      (collapse policy source root) := by
  rw [Rule.toCst, Cst.terminals, collapse]
  by_cases hChildren : root.children = []
  · rw [hChildren]
    exact ⟨none, rfl⟩
  · rw [List.isEmpty_eq_false_iff.mpr hChildren]
    exact (failsBy_contributions root.children).map some

------------------------------------------------------------
-- Failing Runs
------------------------------------------------------------

variable (policy source)

/-
  Collapsing fails exactly if a terminal of the tree offends,
  with the offence of the first one in document order.  When
  none does there is a result, which is no outline exactly for
  a root without children.
-/
theorem collapse_of_offences
    (root : Rule) :
    ((∃ failure,
        collapse policy source root = .error failure) ↔
      ∃ t ∈ root.toCst.terminals,
        Offends policy source t) ∧
    (∀ front t back,
      root.toCst.terminals = front ++ t :: back →
        (∀ earlier ∈ front,
          ¬ Offends policy source earlier) →
        Offends policy source t →
          collapse policy source root =
            .error (offence source t)) ∧
    ((∀ t ∈ root.toCst.terminals,
        ¬ Offends policy source t) →
      ∃ outline,
        collapse policy source root = .ok outline ∧
          (outline = none ↔ root.children = [])) := by
  have hRun :
      FailsBy source
        (firstOffender? policy source
          root.toCst.terminals)
        (collapse policy source root) :=
    failsBy_collapse root
  refine ⟨?_, ?_, ?_⟩
  · rw [hRun.exists_error_iff, Ne,
      firstOffender?_eq_none_iff]
    simp
  · intro front t back hTerminals hFront hOffends
    rw [hTerminals, firstOffender?_eq_some hFront hOffends]
      at hRun
    exact hRun
  · intro hNone
    rw [(firstOffender?_eq_none_iff policy source _).mpr
      hNone] at hRun
    rcases hRun with ⟨outline, hOutline⟩
    refine ⟨outline, hOutline, ?_⟩
    rw [← collapse_eq_none_iff policy source root,
      hOutline, Except.ok.injEq]

/-
  Terminals that point outside the stream or nowhere.  The end
  of the input and a mark do no harm; the name under two rules
  comes before a terminal whose rule would vanish.
-/
def strayTree : Rule where
  index := none
  children :=
    [.terminal ⟨"<EOF>", none, none⟩,
     .terminal ⟨"(", some ⟨"(", 2, 8, 0⟩, none⟩,
     .rule none
      [.rule none
        [.terminal ⟨"x", some ⟨"x", 1, 9, 0⟩, none⟩]],
     .rule none [.terminal ⟨"", none, none⟩]]

/-
  The name decides before the empty terminal does, and on its
  own the empty terminal decides.  The call fails by nothing.
-/
theorem collapse_of_stray :
    collapse callPolicy callSource strayTree =
        .error (.outOfRange ⟨9, 6⟩) ∧
      (Failure.outOfRange ⟨9, 6⟩).message =
        "token index 9 out of range 0..5" ∧
      collapse callPolicy callSource
          ⟨none, strayTree.children.drop 3⟩ =
        .error (.missingToken "") ∧
      (Failure.missingToken "").message =
        "Terminal node '' has no token" ∧
      ∃ outline,
        collapse callPolicy callSource callTree =
            .ok outline ∧
          (outline = none ↔ callTree.children = []) := by
  have hStray :=
    (collapse_of_offences callPolicy callSource
      strayTree).2.1
  have hEmpty :=
    (collapse_of_offences callPolicy callSource
      ⟨none, strayTree.children.drop 3⟩).2.1
  have hCall :=
    (collapse_of_offences callPolicy callSource
      callTree).2.2
  refine ⟨?_, by decide, ?_, by decide, ?_⟩
  · exact hStray
      [⟨"<EOF>", none, none⟩,
       ⟨"(", some ⟨"(", 2, 8, 0⟩, none⟩]
      ⟨"x", some ⟨"x", 1, 9, 0⟩, none⟩
      [⟨"", none, none⟩] rfl (by decide) (by decide)
  · exact hEmpty [] ⟨"", none, none⟩ [] rfl (by decide)
      (by decide)
  · exact hCall (by decide)

end Collapse

end SyntaxOutline

import SyntaxOutline.Proofs.Collapse.Leaves

/-
  Labels do not depend on what atomic tokens say.

  Two trees of one shape are collapsed by the same rules, where
  the texts of atomic terminals, the streams and the hidden
  channels may differ.  Texts decide on the way whether a
  terminal ends the input, whether a rule vanishes and whether
  it is absorbed.  Both runs decide alike at every rule, as
  each writes the same label over as many parts.

  Key definitions include:
    * `Cst.Alike`
    * `Collapse.Interchangeable`
    * `Outline.SameLabels`
    * `Branch.SameLabels`

  Main statements:
    * `Collapse.sameLabels_ofTerminal`
    * `Branch.SameLabels.absorbed`
    * `Collapse.sameLabels_contributions`
    * `Collapse.sameLabels_of_collapse`
-/

------------------------------------------------------------
-- Trees Of One Shape
------------------------------------------------------------

namespace SyntaxOutline

/-
  Trees side by side have the same shape, and terminals at the
  same places are related.  The numbers of rules may differ.
-/
inductive Cst.Alike
    (related : Terminal → Terminal → Prop) :
    List Cst → List Cst → Prop where
  | nil : Alike related [] []
  | terminal
      {t u : Terminal}
      {rest rest' : List Cst}
      (hTerminal : related t u)
      (hRest : Alike related rest rest') :
      Alike related (.terminal t :: rest)
        (.terminal u :: rest')
  | rule
      {index index' : Option Int}
      {children children' rest rest' : List Cst}
      (hChildren : Alike related children children')
      (hRest : Alike related rest rest') :
      Alike related (.rule index children :: rest)
        (.rule index' children' :: rest')

/- Both lists are empty, or none of them is. -/
theorem Cst.Alike.eq_nil_iff
    {related : Terminal → Terminal → Prop}
    {trees trees' : List Cst}
    (hTrees : Alike related trees trees') :
    trees = [] ↔ trees' = [] := by
  cases hTrees <;> simp

/-
  Outlines have the same shape and the same labels, and leaves
  at the same places.
-/
inductive Outline.SameLabels :
    Outline → Outline → Prop where
  | leaf
      (a b : Leaf) :
      SameLabels (.leaf a) (.leaf b)
  | branch
      {label : String}
      {parts parts' : List Outline}
      (hParts : List.Forall₂ SameLabels parts parts') :
      SameLabels (.branch label parts) (.branch label parts')

/- The same for branches. -/
structure Branch.SameLabels
    (a b : Branch) : Prop where
  label : a.label = b.label
  children :
    List.Forall₂ Outline.SameLabels a.children b.children

------------------------------------------------------------
-- Joining And Absorbing
------------------------------------------------------------

namespace Branch

theorem sameLabels_text
    (text : String) :
    SameLabels ⟨text, []⟩ ⟨text, []⟩ :=
  ⟨rfl, .nil⟩

theorem SameLabels.toOutline
    {a b : Branch}
    (hSame : a.SameLabels b) :
    Outline.SameLabels a.toOutline b.toOutline := by
  rw [Branch.toOutline, Branch.toOutline, hSame.label]
  exact .branch hSame.children

theorem SameLabels.join
    {a b a' b' : Branch}
    (hFirst : a.SameLabels a')
    (hSecond : b.SameLabels b') :
    (Collapse.join a b).SameLabels
      (Collapse.join a' b') where
  label := by
    rw [Collapse.join, Collapse.join, hFirst.label,
      hSecond.label]
  children :=
    List.rel_append hFirst.children hSecond.children

/-
  Two rules take the same decision, as it rests on the label
  and the number of parts only.
-/
theorem SameLabels.absorbed
    {a b : Branch}
    (hSame : a.SameLabels b) :
    (Collapse.absorbed a).SameLabels
      (Collapse.absorbed b) := by
  rw [Collapse.absorbed_eq, Collapse.absorbed_eq,
    hSame.label, hSame.children.length_eq]
  by_cases hLabel : b.label = ""
  · rw [if_pos hLabel, if_pos hLabel]
    exact sameLabels_text ""
  · rw [if_neg hLabel, if_neg hLabel]
    by_cases hOne : b.children.length = 1
    · rw [if_pos hOne, if_pos hOne]
      exact hSame
    · rw [if_neg hOne, if_neg hOne]
      exact ⟨rfl, .cons hSame.toOutline .nil⟩

end Branch

------------------------------------------------------------
-- Terminals
------------------------------------------------------------

namespace Collapse

variable (policy : Policy) (source : Source)

/-
  Terminals under rules of the same number and with tokens of
  the same type, which have the same text, or are both atomic
  and both do not stand for the end of the input.
-/
structure Interchangeable
    (t u : Terminal) : Prop where
  rule : t.rule = u.rule
  type : t.symbol.map (·.type) = u.symbol.map (·.type)
  text :
    t.text = u.text ∨
      (IsAtomicTerminal policy source t ∧
        IsAtomicTerminal policy source u ∧
        policy.endText ≠ some t.text ∧
        policy.endText ≠ some u.text)

variable {policy source}

/- Both stand for the end of the input, or none of them does. -/
theorem Interchangeable.end_iff
    {t u : Terminal}
    (hPair : Interchangeable policy source t u) :
    policy.endText = some t.text ↔
      policy.endText = some u.text := by
  rcases hPair.text with hText | ⟨-, -, hFirst, hSecond⟩
  · rw [hText]
  · exact iff_of_false hFirst hSecond

/- Both are atomic, or none of them is. -/
theorem Interchangeable.isAtomic_iff
    {t u : Terminal}
    {symbol symbol' : Token}
    (hPair : Interchangeable policy source t u)
    (hSymbol : t.symbol = some symbol)
    (hSymbol' : u.symbol = some symbol')
    (channel : Option Int)
    (stream : Stream) :
    IsAtomic policy source t symbol ↔
      IsAtomic { policy with hiddenChannel := channel }
        { source with stream := stream } u symbol' := by
  have hType : symbol.type = symbol'.type := by
    simpa [hSymbol, hSymbol'] using hPair.type
  simp only [IsAtomic, symbolName, hPair.rule, hType]

/- Interchangeable terminals contribute the same label. -/
theorem sameLabels_ofTerminal
    {t u : Terminal}
    {a b : Branch}
    {channel : Option Int}
    {stream : Stream}
    (hPair : Interchangeable policy source t u)
    (hFirst : ofTerminal policy source t = .ok a)
    (hSecond :
      ofTerminal { policy with hiddenChannel := channel }
        { source with stream := stream } u = .ok b) :
    a.SameLabels b := by
  rw [ofTerminal_eq_ok_iff] at hFirst hSecond
  rcases hFirst with
    ⟨hEnd, rfl⟩ | ⟨hEnd, symbol, hSymbol, hKind⟩
  · rcases hSecond with ⟨-, rfl⟩ | ⟨hOpen, -⟩
    · exact Branch.sameLabels_text ""
    · exact absurd (hPair.end_iff.mp hEnd) hOpen
  · rcases hSecond with
      ⟨hClosed, -⟩ | ⟨-, symbol', hSymbol', hKind'⟩
    · exact absurd (hPair.end_iff.mpr hClosed) hEnd
    · have hAtomic :=
        hPair.isAtomic_iff hSymbol hSymbol' channel stream
      rcases hKind with
        ⟨hFirst, leaf, -, rfl⟩ | ⟨hFirst, rfl⟩
      · rcases hKind' with
          ⟨-, leaf', -, rfl⟩ | ⟨hSecond, -⟩
        · exact ⟨rfl, .cons (.leaf leaf leaf') .nil⟩
        · exact absurd (hAtomic.mp hFirst) hSecond
      · rcases hKind' with
          ⟨hSecond, -⟩ | ⟨-, rfl⟩
        · exact absurd (hAtomic.mpr hSecond) hFirst
        · -- A text that is no leaf is the same in both.
          rcases hPair.text with hText | ⟨hLeaf, -⟩
          · rw [hText]
            exact Branch.sameLabels_text u.text
          · rw [isAtomicTerminal_iff policy source hSymbol]
              at hLeaf
            exact absurd hLeaf hFirst

------------------------------------------------------------
-- Runs Over Two Trees
------------------------------------------------------------

/- Trees of one shape contribute the same labels. -/
theorem sameLabels_contributions
    {trees trees' : List Cst}
    {a b : Branch}
    {channel : Option Int}
    {stream : Stream}
    (hTrees :
      Cst.Alike (Interchangeable policy source) trees trees')
    (hFirst : contributions policy source trees = .ok a)
    (hSecond :
      contributions { policy with hiddenChannel := channel }
        { source with stream := stream } trees' = .ok b) :
    a.SameLabels b := by
  induction hTrees generalizing a b with
  | nil =>
      rw [contributions] at hFirst hSecond
      rw [← Except.ok.inj hFirst, ← Except.ok.inj hSecond]
      exact Branch.sameLabels_text ""
  | terminal hPair _ ihRest =>
      rw [contributions_cons_eq_ok_iff] at hFirst hSecond
      rcases hFirst with
        ⟨first, others, hHead, hTail, rfl⟩
      rcases hSecond with
        ⟨first', others', hHead', hTail', rfl⟩
      rw [contribution] at hHead hHead'
      exact (sameLabels_ofTerminal hPair hHead hHead').join
        (ihRest hTail hTail')
  | rule _ _ ihChildren ihRest =>
      rw [contributions_cons_eq_ok_iff] at hFirst hSecond
      rcases hFirst with
        ⟨first, others, hHead, hTail, rfl⟩
      rcases hSecond with
        ⟨first', others', hHead', hTail', rfl⟩
      rw [contribution_rule_eq_ok_iff] at hHead hHead'
      rcases hHead with ⟨inner, hInner, rfl⟩
      rcases hHead' with ⟨inner', hInner', rfl⟩
      exact (ihChildren hInner hInner').absorbed.join
        (ihRest hTail hTail')

/-
  Two trees of one shape whose terminals are interchangeable
  have no outlines, or outlines with the same labels and with
  leaves at the same places, whatever their streams and their
  hidden channels are.
-/
theorem sameLabels_of_collapse
    {first second : Rule}
    {outline outline' : Option Branch}
    {channel : Option Int}
    {stream : Stream}
    (hTrees :
      Cst.Alike (Interchangeable policy source)
        first.children second.children)
    (hFirst : collapse policy source first = .ok outline)
    (hSecond :
      collapse { policy with hiddenChannel := channel }
        { source with stream := stream } second =
          .ok outline') :
    Option.Rel Branch.SameLabels outline outline' := by
  cases outline with
  | none =>
      rw [collapse_eq_none_iff, hTrees.eq_nil_iff,
        ← collapse_eq_none_iff] at hFirst
      cases Except.ok.inj (hFirst.symm.trans hSecond)
      exact .none
  | some branch =>
      cases outline' with
      | none =>
          rw [collapse_eq_none_iff, ← hTrees.eq_nil_iff,
            ← collapse_eq_none_iff policy source] at hSecond
          cases Except.ok.inj (hSecond.symm.trans hFirst)
      | some branch' =>
          rw [collapse_eq_some_iff,
            ← contributions_eq_ok_iff] at hFirst hSecond
          exact .some (sameLabels_contributions hTrees
            hFirst.2 hSecond.2)

/- The tokens of `G(yy)`, with comments around its argument. -/
def renamedStream : Stream :=
  ⟨[⟨"G", 1, 0, 0⟩, ⟨"(", 2, 1, 0⟩, ⟨"/**/", 0, 2, 2⟩,
    ⟨"yy", 1, 3, 0⟩, ⟨"/**/", 0, 4, 2⟩, ⟨")", 2, 5, 0⟩,
    ⟨"<EOF>", -1, 6, 0⟩]⟩

/- The call under other rules and with other names. -/
def renamedTree : Rule where
  index := none
  children :=
    [.rule (some 0)
      [.rule (some 5)
        [.terminal ⟨"G", some ⟨"G", 1, 0, 0⟩, none⟩],
       .terminal ⟨"(", some ⟨"(", 2, 1, 0⟩, some 1⟩,
       .rule none
        [.rule (some 1)
          [.terminal ⟨"yy", some ⟨"yy", 1, 3, 0⟩, none⟩]],
       .terminal ⟨")", some ⟨")", 2, 5, 0⟩, some 1⟩],
     .rule none [],
     .terminal
      ⟨"<EOF>", some ⟨"<EOF>", -1, 6, 0⟩, some 0⟩]

/- The same labels over other leaves. -/
def renamedOutline : Branch where
  label := "#"
  children :=
    [.branch "#(#)"
      [.leaf ⟨"G", some true, some true, none, none⟩,
       .leaf ⟨"yy", some true, none, some "/**/",
        some "/**/"⟩]]

/- The call and its renaming differ in names and rules only. -/
theorem alike_renamed :
    Cst.Alike (Interchangeable callPolicy callSource)
      callTree.children renamedTree.children := by
  refine .rule (.rule (.terminal ?_ .nil)
    (.terminal ?_ (.rule (.rule (.terminal ?_ .nil) .nil)
      (.terminal ?_ .nil)))) (.rule .nil (.terminal ?_ .nil))
  · exact ⟨rfl, rfl, .inr (by decide)⟩
  · exact ⟨rfl, rfl, .inl rfl⟩
  · exact ⟨rfl, rfl, .inr (by decide)⟩
  · exact ⟨rfl, rfl, .inl rfl⟩
  · exact ⟨rfl, rfl, .inl rfl⟩

/-
  A call and its renaming, with comments hidden on a channel
  of their own, have the same labels.
-/
theorem sameLabels_of_renamed :
    collapse callPolicy callSource callTree =
        .ok (some callOutline) ∧
      collapse { callPolicy with hiddenChannel := some 2 }
          { callSource with stream := renamedStream }
          renamedTree =
        .ok (some renamedOutline) ∧
      Option.Rel Branch.SameLabels (some callOutline)
        (some renamedOutline) := by
  have hFirst :
      collapse callPolicy callSource callTree =
        .ok (some callOutline) := rfl
  have hSecond :
      collapse { callPolicy with hiddenChannel := some 2 }
          { callSource with stream := renamedStream }
          renamedTree =
        .ok (some renamedOutline) := rfl
  exact ⟨hFirst, hSecond,
    sameLabels_of_collapse alike_renamed hFirst hSecond⟩

end Collapse

end SyntaxOutline

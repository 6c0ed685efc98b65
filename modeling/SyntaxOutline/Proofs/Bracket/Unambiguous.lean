import SyntaxOutline.Proofs.Bracket.Legible
import SyntaxOutline.Proofs.Bracket.RoundTrip

/-
  Written trees are unambiguous.

  Nothing is written between the text of a node and its
  children but the parentheses of the children.  So when no
  text has a parenthesis in it, every text ends at the first
  parenthesis behind it, and the children of a node end at the
  first closing one that is not theirs.  Written trees then tell
  shape and texts, also where reading them back would take a
  parenthesis between spaces for text.

  Key definitions include:
    * `Bracket.Node.Alike`
    * `Bracket.Node.IsBare`

  Main statements:
    * `Bracket.Node.dumpAll_eq_of_alikeAll`
    * `Bracket.Node.alikeAll_of_dumpAll_append`
    * `Bracket.dump_eq_iff_alike`
-/

------------------------------------------------------------
-- Trees But For Their Numbers
------------------------------------------------------------

namespace SyntaxOutline

namespace Bracket

namespace Node

mutual

/- The trees have the same shape and the same texts. -/
def Alike : Node → Node → Prop
  | mk _ value children, mk _ other others =>
      value = other ∧ AlikeAll children others

/- The trees are alike one by one. -/
def AlikeAll : List Node → List Node → Prop
  | [], [] => True
  | [], _ :: _ => False
  | _ :: _, [] => False
  | tree :: trees, other :: others =>
      Alike tree other ∧ AlikeAll trees others

end

@[simp] theorem alikeAll_nil :
    AlikeAll [] [] := by
  simp [AlikeAll]

@[simp] theorem alikeAll_cons_cons
    (id otherId : Int)
    (value other : String)
    (children nodes trees others : List Node) :
    AlikeAll (mk id value children :: trees)
        (mk otherId other nodes :: others) ↔
      value = other ∧ AlikeAll children nodes ∧
        AlikeAll trees others := by
  simp [AlikeAll, Alike, and_assoc]

theorem alike_iff_alikeAll
    (tree other : Node) :
    tree.Alike other ↔ AlikeAll [tree] [other] := by
  simp [AlikeAll]

/- Numbers are not written. -/
theorem dumpAll_eq_of_alikeAll
    {trees others : List Node}
    (hAlike : AlikeAll trees others) :
    dumpAll trees = dumpAll others := by
  induction trees using forest_induction
    generalizing others with
  | nil =>
      cases others with
      | nil => rfl
      | cons other others => simp [AlikeAll] at hAlike
  | cons id value children trees ihChildren ihTrees =>
      rcases others with
        - | ⟨⟨otherId, other, nodes⟩, others⟩
      · simp [AlikeAll] at hAlike
      · rw [alikeAll_cons_cons] at hAlike
        rcases hAlike with ⟨rfl, hChildren, hTrees⟩
        rw [dumpAll, dumpAll, dump, dump,
          ihChildren hChildren, ihTrees hTrees]

------------------------------------------------------------
-- Where Texts And Children End
------------------------------------------------------------

/- No text among the nodes has a parenthesis in it. -/
def IsBare
    (nodes : List Node) : Prop :=
  ∀ node ∈ nodes, ∀ c ∈ node.value.toList,
    ¬ Mark.IsParen c

/- What is behind the text of a node starts with a parenthesis. -/
theorem isParen_of_mem_head?
    (children : List Node)
    (behind : List Char) :
    ∀ c ∈ ((dumpAll children).toList ++
        ')' :: behind).head?,
      Mark.IsParen c := by
  rcases children with
    - | ⟨⟨id, value, nodes⟩, children⟩
  · simp [Mark.IsParen]
  · simp [Mark.IsParen]

/- A text without parentheses ends at the first parenthesis. -/
theorem eq_of_append_eq
    {value other : String}
    {behind beyond : List Char}
    (hValue : ∀ c ∈ value.toList, ¬ Mark.IsParen c)
    (hOther : ∀ c ∈ other.toList, ¬ Mark.IsParen c)
    (hBehind : ∀ c ∈ behind.head?, Mark.IsParen c)
    (hBeyond : ∀ c ∈ beyond.head?, Mark.IsParen c)
    (hTexts :
      value.toList ++ behind = other.toList ++ beyond) :
    value = other ∧ behind = beyond := by
  rcases span_of_stop
      (p := fun c => ¬ Mark.IsParen c)
      (by simpa using hValue) (by simpa using hBehind) with
    ⟨hFront, hBack⟩
  rcases span_of_stop
      (p := fun c => ¬ Mark.IsParen c)
      (by simpa using hOther) (by simpa using hBeyond) with
    ⟨hOtherFront, hOtherBack⟩
  rw [hTexts] at hFront hBack
  exact ⟨String.toList_inj.mp (hFront.symm.trans hOtherFront),
    hBack.symm.trans hOtherBack⟩

/-
  Trees written in front of a closing parenthesis can be told
  from what comes behind it.
-/
theorem alikeAll_of_dumpAll_append
    {trees others : List Node}
    {rest more : List Char}
    (hTrees : IsBare (preorderAll trees))
    (hOthers : IsBare (preorderAll others))
    (hTexts :
      (dumpAll trees).toList ++ ')' :: rest =
        (dumpAll others).toList ++ ')' :: more) :
    AlikeAll trees others ∧ rest = more := by
  -- Behind the children of the first tree there is a closing
  -- parenthesis again, so the same holds one level down.
  induction trees using forest_induction
    generalizing others rest more with
  | nil =>
      rcases others with
        - | ⟨⟨otherId, other, nodes⟩, others⟩
      · simpa using hTexts
      · simp at hTexts
  | cons id value children trees ihChildren ihTrees =>
      rcases others with
        - | ⟨⟨otherId, other, nodes⟩, others⟩
      · simp at hTexts
      · rw [preorderAll_cons] at hTrees hOthers
        rcases List.forall_mem_cons.mp hTrees with
          ⟨hValue, hTrees⟩
        rcases List.forall_mem_append.mp hTrees with
          ⟨hChildren, hTrees⟩
        rcases List.forall_mem_cons.mp hOthers with
          ⟨hOther, hOthers⟩
        rcases List.forall_mem_append.mp hOthers with
          ⟨hNodes, hOthers⟩
        simp only [toList_dumpAll_cons, List.cons_append,
          List.append_assoc, List.cons.injEq,
          true_and] at hTexts
        rcases eq_of_append_eq hValue hOther
            (isParen_of_mem_head? children _)
            (isParen_of_mem_head? nodes _) hTexts with
          ⟨hSame, hBelow⟩
        rcases ihChildren hChildren hNodes hBelow with
          ⟨hAlike, hBehind⟩
        rcases ihTrees hTrees hOthers hBehind with
          ⟨hAlikeTrees, hEnd⟩
        exact ⟨(alikeAll_cons_cons ..).mpr
          ⟨hSame, hAlike, hAlikeTrees⟩, hEnd⟩

end Node

------------------------------------------------------------
-- Written Trees Tell Shape And Texts
------------------------------------------------------------

/-
  Two trees whose texts have no parentheses are written alike
  exactly when they have the same shape and the same texts,
  whatever their numbers are and wherever spaces stand.
-/
theorem dump_eq_iff_alike
    {tree other : Node}
    (hTree : Node.IsBare tree.preorder)
    (hOther : Node.IsBare other.preorder) :
    tree.dump = other.dump ↔ tree.Alike other := by
  rw [Node.preorder_eq_preorderAll] at hTree hOther
  rw [Node.alike_iff_alikeAll]
  constructor
  · intro hDump
    have hTexts :
        (Node.dumpAll [tree]).toList ++ [')'] =
          (Node.dumpAll [other]).toList ++ [')'] := by
      rw [← Node.toList_dump, ← Node.toList_dump, hDump]
    exact (Node.alikeAll_of_dumpAll_append hTree hOther
      hTexts).1
  · intro hAlike
    rw [← String.toList_inj, Node.toList_dump,
      Node.toList_dump, Node.dumpAll_eq_of_alikeAll hAlike]

/- A text that ends with a space, over one that begins so. -/
def spacedTree : Node :=
  .mk 7 "a " [.mk 7 " b" [], .mk 3 "" []]

/- The same texts with the last node one level deeper. -/
def deepenedTree : Node :=
  .mk 7 "a " [.mk 7 " b" [.mk 3 "" []]]

/-
  Reading takes a node of the tree for text, but what is written
  tells it from a tree of another shape, and from no other.
-/
theorem dump_eq_iff_alike_of_spaced :
    Node.IsBare spacedTree.preorder ∧
      read spacedTree.dump =
        some (.mk 0 "a ( b" [.mk 1 "" []]) ∧
      spacedTree.Alike (spacedTree.renumber 0) ∧
      spacedTree.dump ≠ deepenedTree.dump := by
  have hTree : Node.IsBare spacedTree.preorder := by
    simp [Node.IsBare, spacedTree, Node.preorder,
      Node.preorderAll, Mark.IsParen]
  have hNumbered :
      Node.IsBare (spacedTree.renumber 0).preorder := by
    simp [Node.IsBare, spacedTree, Node.renumber,
      Node.renumberAll, Node.preorder, Node.preorderAll,
      Mark.IsParen]
  have hDeepened : Node.IsBare deepenedTree.preorder := by
    simp [Node.IsBare, deepenedTree, Node.preorder,
      Node.preorderAll, Mark.IsParen]
  have hDump : spacedTree.dump = "(a ( b)())" := by
    simp [spacedTree, Node.dump, Node.dumpAll]
  refine ⟨hTree, ?_, ?_, ?_⟩
  · rw [hDump]
    rfl
  · rw [← dump_eq_iff_alike hTree hNumbered, hDump]
    simp [spacedTree, Node.renumber, Node.renumberAll,
      Node.dump, Node.dumpAll]
  · rw [Ne, dump_eq_iff_alike hTree hDeepened]
    simp [spacedTree, deepenedTree, Node.Alike,
      Node.AlikeAll]

end Bracket

end SyntaxOutline

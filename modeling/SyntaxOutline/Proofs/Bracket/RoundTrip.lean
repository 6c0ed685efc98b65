import SyntaxOutline.Proofs.Bracket.Produced
import Mathlib.Data.List.Count

/-
  When reading undoes writing.

  A written tree is read back as it was when its nodes are
  numbered in pre-order, the parentheses in its texts are
  enclosed, and no opening parenthesis was written between two
  spaces.  Nothing else is read back: numbers and enclosed
  parentheses are what every tree has that was read, and a
  parenthesis between two spaces costs a node that nothing
  makes up for.

  Key definitions include:
    * `Bracket.Node.HasSeam`
    * `Bracket.writtenMarks`

  Main statements:
    * `Bracket.marks_dump`
    * `Bracket.count_writtenMarks`
    * `Bracket.read_dump_of_seamless`
    * `Bracket.read_dump_eq_some_iff`
-/

------------------------------------------------------------
-- Seams
------------------------------------------------------------

namespace SyntaxOutline

namespace Bracket

namespace Node

/- The first character of the text of the first of some trees. -/
def firstCharacter
    (trees : List Node) : Option Char :=
  trees.head?.bind fun tree => tree.value.toList.head?

/-
  The text of a node ends with a space, and the text of its
  first child begins with one.
-/
def HasSeam
    (node : Node) : Prop :=
  node.value.toList.getLast? = some ' ' ∧
    firstCharacter node.children = some ' '

instance
    (node : Node) :
    Decidable node.HasSeam := by
  unfold HasSeam
  infer_instance

------------------------------------------------------------
-- Written Trees
------------------------------------------------------------

@[simp] theorem toList_dumpAll_nil :
    (dumpAll []).toList = [] := by
  simp [dumpAll]

@[simp] theorem toList_dumpAll_cons
    (id : Int)
    (value : String)
    (children rest : List Node) :
    (dumpAll (mk id value children :: rest)).toList =
      '(' :: (value.toList ++
        ((dumpAll children).toList ++
          ')' :: (dumpAll rest).toList)) := by
  simp [dumpAll, dump]

theorem toList_dump
    (tree : Node) :
    tree.dump.toList = (dumpAll [tree]).toList := by
  simp [dumpAll]

/- Trees written before no space do not begin with one. -/
theorem head?_dumpAll_append_ne_space
    (trees : List Node)
    {rest : List Char}
    (hRest : rest.head? ≠ some ' ') :
    ((dumpAll trees).toList ++ rest).head? ≠
      some ' ' := by
  cases trees with
  | nil => simpa using hRest
  | cons tree trees =>
      rcases tree with ⟨id, value, children⟩
      simp

end Node

------------------------------------------------------------
-- Marks Of Written Trees
------------------------------------------------------------

/-
  The marks of trees written after `before`.  Only an opening
  parenthesis can be misread.
-/
def writtenMarks
    (before : Option Char) :
    List Node → List Mark
  | [] => []
  | .mk _ value children :: rest =>
      Mark.of before '(' value.toList.head? ::
        (value.toList.map .text ++
          (writtenMarks
              (value.toList.getLast?.or (some '('))
              children ++
            .closing :: writtenMarks (some ')') rest))

/- A neighbour that is no space is as good as none. -/
theorem Mark.of_or_of_ne_space
    (before after : Option Char)
    {further : Option Char}
    (hFurther : further ≠ some ' ')
    (c : Char) :
    Mark.of before c (after.or further) =
      Mark.of before c after := by
  have hFlanked :
      Mark.Flanked before (after.or further) ↔
        Mark.Flanked before after := by
    cases after with
    | none => simp [Mark.Flanked, hFurther]
    | some d => simp [Mark.Flanked]
  simp only [Mark.of, hFlanked]

/-
  Trees whose texts have only enclosed parentheses are marked
  as written, whatever stands around them, if no space comes
  right after them.
-/
theorem marksAfter_dumpAll
    {trees : List Node}
    (hEnclosed :
      ∀ node ∈ Node.preorderAll trees,
        Enclosed node.value)
    (before : Option Char)
    (rest : List Char)
    (hRest : rest.head? ≠ some ' ') :
    marksAfter before
        ((Node.dumpAll trees).toList ++ rest) =
      writtenMarks before trees ++
        marksAfter
          ((Node.dumpAll trees).toList.getLast?.or before)
          rest := by
  induction trees using Node.forest_induction
    generalizing before rest with
  | nil => simp [writtenMarks]
  | cons id value children others ihChildren ihOthers =>
      simp only [Node.preorderAll_cons,
        List.forall_mem_cons, List.forall_mem_append,
        Node.value_mk] at hEnclosed
      rcases hEnclosed with
        ⟨hValue, hChildren, hOthers⟩
      -- What stands behind the closing parenthesis, and
      -- what stands behind the text.
      let behind := (Node.dumpAll others).toList ++ rest
      let below :=
        (Node.dumpAll children).toList ++ ')' :: behind
      have hBehind : behind.head? ≠ some ' ' :=
        Node.head?_dumpAll_append_ne_space others hRest
      have hBelow : below.head? ≠ some ' ' :=
        Node.head?_dumpAll_append_ne_space children
          (by simp)
      have hClosing :
          ∀ last, Mark.of last ')' behind.head? = .closing :=
        fun last =>
          Mark.of_closing_of_not_flanked
            fun hFlanked => hBehind hFlanked.2
      have hBelowMarks :
          ∀ last,
            marksAfter last below =
              writtenMarks last children ++
                .closing :: marksAfter (some ')')
                  behind := by
        intro last
        rw [ihChildren hChildren last _ (by simp),
          marksAfter, hClosing]
      have hValueMarks :
          marksAfter (some '(') (value.toList ++ below) =
            value.toList.map .text ++
              marksAfter
                (value.toList.getLast?.or (some '('))
                below := by
        rw [marksAfter_append, hValue.isPlain]
      have hLast :
          (Node.dumpAll
              (.mk id value children ::
                others)).toList.getLast?.or before =
            (Node.dumpAll others).toList.getLast?.or
              (some ')') := by
        cases hOther :
            (Node.dumpAll others).toList.getLast? with
        | none =>
            simp [List.getLast?_cons, List.getLast?_append,
              hOther]
        | some c =>
            simp [List.getLast?_cons, List.getLast?_append,
              hOther]
      calc
        marksAfter before
            ((Node.dumpAll
              (.mk id value children :: others)).toList ++
                rest)
          = marksAfter before
              ('(' :: (value.toList ++ below)) := by
            simp [below, behind]
        _ = Mark.of before '(' value.toList.head? ::
              marksAfter (some '(')
                (value.toList ++ below) := by
            rw [marksAfter, List.head?_append,
              Mark.of_or_of_ne_space before _ hBelow]
        _ = writtenMarks before
                (.mk id value children :: others) ++
              marksAfter
                ((Node.dumpAll others).toList.getLast?.or
                  (some ')')) rest := by
            rw [hValueMarks, hBelowMarks,
              ihOthers hOthers _ rest hRest, writtenMarks]
            simp
        _ = _ := by rw [hLast]

/- The marks of a written tree on its own. -/
theorem marks_dump
    {tree : Node}
    (hEnclosed :
      ∀ node ∈ tree.preorder, Enclosed node.value) :
    marks tree.dump.toList =
      writtenMarks none [tree] := by
  rw [Node.preorder_eq_preorderAll] at hEnclosed
  have hMarks :=
    marksAfter_dumpAll hEnclosed none [] (by simp)
  simpa [marks, Node.toList_dump, marksAfter] using hMarks

------------------------------------------------------------
-- Openings Of Written Trees
------------------------------------------------------------

/-
  A first child is written between two spaces exactly when
  there is a seam above it.
-/
theorem flanked_below_iff
    (id : Int)
    (value : String)
    (children : List Node) :
    Mark.Flanked (value.toList.getLast?.or (some '('))
        (Node.firstCharacter children) ↔
      (Node.mk id value children).HasSeam := by
  cases hLast : value.toList.getLast? with
  | none => simp [Mark.Flanked, Node.HasSeam, hLast]
  | some c => simp [Mark.Flanked, Node.HasSeam, hLast]

/- An opening parenthesis is lost only between two spaces. -/
theorem count_of_opening
    (before after : Option Char) :
    [Mark.of before '(' after].count .opening =
      if Mark.Flanked before after then 0 else 1 := by
  by_cases hFlanked : Mark.Flanked before after
  · simp [Mark.of, hFlanked, Mark.IsParen]
  · simp [Mark.of_opening_of_not_flanked hFlanked,
      hFlanked]

/-
  The opening parentheses of written trees: one for each node,
  but none for a first child behind a seam, and none for the
  first tree if it is written between two spaces.
-/
theorem count_writtenMarks
    (before : Option Char)
    (trees : List Node) :
    (writtenMarks before trees).count .opening +
        (Node.preorderAll trees).countP
          (fun node => decide node.HasSeam) +
        (if Mark.Flanked before
            (Node.firstCharacter trees) then 1 else 0) =
      Node.countAll trees := by
  induction trees using Node.forest_induction
    generalizing before with
  | nil =>
      simp [writtenMarks, Node.firstCharacter,
        Mark.Flanked]
  | cons id value children rest ihChildren ihRest =>
      have hChildren :=
        ihChildren (value.toList.getLast?.or (some '('))
      have hRest := ihRest (some ')')
      have hOpening :=
        count_of_opening before value.toList.head?
      have hText :
          (value.toList.map Mark.text).count .opening =
            0 := by
        simp [List.count_eq_zero]
      have hFirst :
          Node.firstCharacter
              (.mk id value children :: rest) =
            value.toList.head? := by
        simp [Node.firstCharacter]
      have hBehind :
          ¬ Mark.Flanked (some ')')
            (Node.firstCharacter rest) := by
        simp [Mark.Flanked]
      rw [if_neg hBehind] at hRest
      simp only [flanked_below_iff id] at hChildren
      have hSplit :
          (writtenMarks before
              (.mk id value children :: rest)).count
                .opening =
            [Mark.of before '(' value.toList.head?].count
                .opening +
              (writtenMarks
                (value.toList.getLast?.or (some '('))
                children).count .opening +
              (writtenMarks (some ')') rest).count
                .opening := by
        rw [writtenMarks, List.count_cons,
          List.count_append, List.count_append,
          List.count_cons, hText, List.count_singleton]
        simp
        omega
      rw [hSplit, hOpening, hFirst, Node.preorderAll_cons,
        List.countP_cons, List.countP_append,
        Node.countAll_cons]
      simp only [decide_eq_true_eq]
      by_cases hFlanked :
          Mark.Flanked before value.toList.head?
      · rw [if_pos hFlanked, if_pos hFlanked]
        omega
      · rw [if_neg hFlanked, if_neg hFlanked]
        omega

------------------------------------------------------------
-- Reading Written Trees
------------------------------------------------------------

namespace Reading

/- Characters of text go to the tip. -/
theorem foldl_text
    (next depth : Nat)
    (tip : Frame)
    (above : List Frame)
    (text : List Char) :
    (text.map Mark.text).foldl step
        ⟨next, depth, tip :: above⟩ =
      ⟨next, depth,
        { tip with
          value := tip.value ++ String.ofList text } ::
          above⟩ := by
  induction text generalizing tip with
  | nil => simp
  | cons c text ih =>
      have hValue :
          tip.value.push c ++ String.ofList text =
            tip.value ++ String.ofList (c :: text) := by
        rw [← String.toList_inj]
        simp
      rw [List.map_cons, List.foldl_cons, step, ih,
        Frame.push, hValue]

/-
  Reading written trees without seams attaches them to the
  tip, numbered on from the next number.
-/
theorem foldl_writtenMarks
    {trees : List Node}
    (hSeamless :
      ∀ node ∈ Node.preorderAll trees, ¬ node.HasSeam)
    {before : Option Char}
    (hBefore :
      ¬ Mark.Flanked before (Node.firstCharacter trees))
    (next depth : Nat)
    (tip : Frame)
    (above : List Frame) :
    (writtenMarks before trees).foldl step
        ⟨next, depth + 1, tip :: above⟩ =
      ⟨next + Node.countAll trees, depth + 1,
        { tip with
          finished :=
            tip.finished ++ Node.renumberAll next trees } ::
          above⟩ := by
  induction trees using Node.forest_induction
    generalizing before next depth tip above with
  | nil => simp [writtenMarks, Node.renumberAll]
  | cons id value children rest ihChildren ihRest =>
      simp only [Node.preorderAll_cons,
        List.forall_mem_cons,
        List.forall_mem_append] at hSeamless
      rcases hSeamless with ⟨hRoot, hChildren, hRest⟩
      have hFirst :
          ¬ Mark.Flanked before value.toList.head? := by
        simpa [Node.firstCharacter] using hBefore
      have hBelow :=
        (flanked_below_iff id value children).not.mpr hRoot
      have hBehind :
          ¬ Mark.Flanked (some ')')
            (Node.firstCharacter rest) := by
        simp [Mark.Flanked]
      rw [writtenMarks,
        Mark.of_opening_of_not_flanked hFirst,
        List.foldl_cons, step, List.foldl_append,
        foldl_text, List.foldl_append,
        ihChildren hChildren hBelow, List.foldl_cons, step,
        ihRest hRest hBehind, Node.renumberAll_cons]
      simp [Frame.attach, Frame.close, Nat.add_assoc]

end Reading

/-
  A tree with enclosed parentheses and without seams is read
  back, with its nodes numbered in order.
-/
theorem read_dump_of_seamless
    {tree : Node}
    (hEnclosed :
      ∀ node ∈ tree.preorder, Enclosed node.value)
    (hSeamless : ∀ node ∈ tree.preorder, ¬ node.HasSeam) :
    read tree.dump = some (tree.renumber 0) := by
  rw [read, marks_dump hEnclosed]
  rcases tree with ⟨id, value, children⟩
  simp only [Node.preorder,
    List.forall_mem_cons] at hSeamless
  have hBelow :=
    (flanked_below_iff id value children).not.mpr
      hSeamless.1
  have hFirst :
      ¬ Mark.Flanked none value.toList.head? := by
    simp [Mark.Flanked]
  -- The root is no child, and its closing parenthesis leaves
  -- it at the tip.
  rw [writtenMarks,
    Mark.of_opening_of_not_flanked hFirst,
    List.foldl_cons, Reading.start, Reading.step,
    List.foldl_append, Reading.foldl_text,
    List.foldl_append,
    Reading.foldl_writtenMarks hSeamless.2 hBelow]
  simp [writtenMarks, Reading.step, Reading.root?,
    Reading.closeOver, Frame.close, Node.renumber]

------------------------------------------------------------
-- The Round Trip
------------------------------------------------------------

/-
  Reading undoes writing exactly for the trees whose numbers
  count along pre-order, whose texts have only enclosed
  parentheses, and in which no text that ends with a space
  stands over a first child whose text begins with one.
-/
theorem read_dump_eq_some_iff
    (tree : Node) :
    read tree.dump = some tree ↔
      tree.IsNumbered ∧
        (∀ node ∈ tree.preorder, Enclosed node.value) ∧
          ∀ node ∈ tree.preorder, ¬ node.HasSeam := by
  constructor
  · intro hRead
    have hEnclosed :
        ∀ node ∈ tree.preorder, Enclosed node.value :=
      fun _ hNode => enclosed_of_read hRead hNode
    refine ⟨isNumbered_of_read hRead, hEnclosed, ?_⟩
    -- Every seam costs an opening parenthesis, and the tree
    -- that was read has a node for each of them.
    have hCount := count_of_read hRead
    rw [marks_dump hEnclosed] at hCount
    have hSeams := count_writtenMarks none [tree]
    rw [← hCount, ← Node.count_eq_countAll,
      ← Node.preorder_eq_preorderAll] at hSeams
    have hNone :
        tree.preorder.countP
          (fun node => decide node.HasSeam) = 0 := by
      omega
    simpa [List.countP_eq_zero] using hNone
  · rintro ⟨hNumbered, hEnclosed, hSeamless⟩
    rw [read_dump_of_seamless hEnclosed hSeamless,
      (Node.renumber_eq_self_iff tree).mpr hNumbered]

end Bracket

end SyntaxOutline

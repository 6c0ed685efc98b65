import SyntaxOutline.Bracket.Reading
import SyntaxOutline.Proofs.Bracket.Neighbours
import SyntaxOutline.Proofs.Bracket.Preorder

/-
  What a reading can produce, whatever the text.

  The nodes of a reading, from the root along the spine, are
  already the nodes of its tree in pre-order.  Two facts are
  carried along the marks.  The numbers of these nodes count
  up, since a new node is the last one.  And every parenthesis
  in a node's text is enclosed there, since a space next to a
  literal parenthesis goes to the same node.

  Key definitions include:
    * `Bracket.Reading.entries`
    * `Bracket.Reading.KeepsText`

  Main statements:
    * `Bracket.read_eq_none_iff`
    * `Bracket.isNumbered_of_read`
    * `Bracket.count_of_read`
    * `Bracket.enclosed_of_read`
    * `Bracket.produced_of_read`
-/

------------------------------------------------------------
-- Entries
------------------------------------------------------------

namespace SyntaxOutline

namespace Bracket

/- The number and the text of each of some nodes. -/
def Node.entries
    (nodes : List Node) : List (Int × String) :=
  nodes.map fun node => (node.id, node.value)

/- The entries of a frame and of what is finished in it. -/
def Frame.entries
    (f : Frame) : List (Int × String) :=
  (f.id, f.value) ::
    Node.entries (Node.preorderAll f.finished)

namespace Frame

/- Closing a frame keeps its entries. -/
theorem entries_close
    (f : Frame) :
    Node.entries f.close.preorder = f.entries := by
  simp [close, entries, Node.entries, Node.preorder]

/- The entries of an attached child come last. -/
theorem entries_attach
    (f : Frame)
    (child : Node) :
    (f.attach child).entries =
      f.entries ++ Node.entries child.preorder := by
  simp [attach, entries, Node.entries,
    Node.preorderAll_append, Node.preorder_eq_preorderAll]

end Frame

namespace Reading

/- The entries of the tree read so far, from its root on. -/
def entries
    (r : Reading) : List (Int × String) :=
  r.spine.reverse.flatMap Frame.entries

/- Closing frames over a child puts the child's entries last. -/
theorem entries_closeOver
    (child : Node)
    (above : List Frame) :
    Node.entries (closeOver child above).preorder =
      above.reverse.flatMap Frame.entries ++
        Node.entries child.preorder := by
  induction above generalizing child with
  | nil => simp [closeOver]
  | cons parent above ih =>
      rw [closeOver, ih, Frame.entries_close,
        Frame.entries_attach]
      simp

/- The entries of a reading are those of its tree. -/
theorem entries_of_root?
    {r : Reading}
    {tree : Node}
    (hRoot : r.root? = some tree) :
    Node.entries tree.preorder = r.entries := by
  cases hSpine : r.spine with
  | nil => simp [root?, hSpine] at hRoot
  | cons tip above =>
      have hTree : closeOver tip.close above = tree := by
        simpa [root?, hSpine] using hRoot
      rw [← hTree, entries_closeOver, Frame.entries_close,
        entries, hSpine]
      simp

/- Only a reading without entries has no tree. -/
theorem root?_eq_none_iff
    (r : Reading) :
    r.root? = none ↔ r.entries = [] := by
  cases hSpine : r.spine with
  | nil => simp [root?, entries, hSpine]
  | cons tip above =>
      simp [root?, entries, hSpine, Frame.entries]

------------------------------------------------------------
-- Steps
------------------------------------------------------------

/-
  A closing parenthesis moves the tip into its parent, or it
  changes only how many nodes wait.
-/
theorem step_closing_cases
    (r : Reading) :
    (∃ depth tip parent above,
      r.depth = depth + 2 ∧
        r.spine = tip :: parent :: above ∧
          r.step .closing =
            { r with
              depth := depth + 1
              spine :=
                parent.attach tip.close :: above }) ∨
      ((r.depth ≤ 1 ∨ r.spine.length ≤ 1) ∧
        r.step .closing =
          { r with depth := r.depth - 1 }) := by
  rcases r with ⟨next, depth, spine⟩
  match depth, spine with
  | depth + 2, tip :: parent :: above =>
      exact .inl
        ⟨depth, tip, parent, above, rfl, rfl, rfl⟩
  | 0, spine =>
      exact .inr ⟨.inl (Nat.zero_le 1), rfl⟩
  | 1, spine =>
      exact .inr ⟨.inl (Nat.le_refl 1), rfl⟩
  | depth + 2, [] =>
      exact .inr ⟨.inr (by simp), rfl⟩
  | depth + 2, [tip] =>
      exact .inr ⟨.inr (by simp), rfl⟩

theorem entries_step_opening
    (r : Reading) :
    (r.step .opening).entries =
      r.entries ++ [((r.next : Int), "")] := by
  simp [step, entries, Frame.entries, Node.entries]

theorem entries_step_closing
    (r : Reading) :
    (r.step .closing).entries = r.entries := by
  rcases r.step_closing_cases with
    ⟨depth, tip, parent, above, -, hSpine, hStep⟩ |
      ⟨-, hStep⟩
  · rw [hStep, entries, entries, hSpine]
    simp [Frame.entries_attach, Frame.entries_close]
  · rw [hStep, entries, entries]

/- Only an opening parenthesis takes a number. -/
theorem next_step
    (r : Reading)
    (mark : Mark) :
    (r.step mark).next =
      r.next + if mark = .opening then 1 else 0 := by
  cases mark with
  | opening => rfl
  | closing =>
      rcases r.step_closing_cases with
        ⟨_, _, _, _, -, -, hStep⟩ | ⟨-, hStep⟩
      · simp [hStep]
      · simp [hStep]
  | text c =>
      cases hSpine : r.spine with
      | nil => simp [step, hSpine]
      | cons tip above => simp [step, hSpine]

/- Every opening parenthesis of a text takes a number. -/
theorem next_foldl
    (r : Reading)
    (marked : List Mark) :
    (marked.foldl step r).next =
      r.next + marked.count .opening := by
  induction marked generalizing r with
  | nil => simp
  | cons mark marked ih =>
      rw [List.foldl_cons, ih, next_step, List.count_cons]
      simp only [beq_iff_eq]
      omega

------------------------------------------------------------
-- Numbers Count Up
------------------------------------------------------------

/- The numbers of all nodes read so far. -/
def numbers
    (r : Reading) : List Int :=
  r.entries.map Prod.fst

/- Text changes no number. -/
theorem numbers_step_text
    (r : Reading)
    (c : Char) :
    (r.step (.text c)).numbers = r.numbers := by
  cases hSpine : r.spine with
  | nil => simp [step, hSpine]
  | cons tip above =>
      simp [step, hSpine, numbers, entries, Frame.push,
        Frame.entries]

/- The nodes read so far are numbered up to the next one. -/
def CountsUp
    (r : Reading) : Prop :=
  r.numbers = (List.range r.next).map Int.ofNat

theorem countsUp_start :
    CountsUp start := by
  simp [CountsUp, numbers, entries, start]

/- One mark keeps the numbers counting up. -/
theorem CountsUp.step
    {r : Reading}
    (hCounts : r.CountsUp)
    (mark : Mark) :
    (r.step mark).CountsUp := by
  unfold CountsUp at hCounts ⊢
  rw [next_step]
  cases mark with
  | opening =>
      rw [numbers, entries_step_opening, if_pos rfl,
        List.range_succ, List.map_append, List.map_append,
        ← hCounts]
      rfl
  | closing =>
      rw [numbers, entries_step_closing]
      exact hCounts
  | text c =>
      rw [numbers_step_text]
      exact hCounts

/- All marks keep the numbers counting up. -/
theorem CountsUp.foldl
    {r : Reading}
    (hCounts : r.CountsUp)
    (marked : List Mark) :
    (marked.foldl Reading.step r).CountsUp := by
  induction marked generalizing r with
  | nil => exact hCounts
  | cons mark marked ih => exact ih (hCounts.step mark)

------------------------------------------------------------
-- Parentheses Stay Enclosed
------------------------------------------------------------

/-
  All parentheses in the nodes of a reading are enclosed, those
  at its tip as far as the text goes.  A space that was read
  last is the last character of the tip.
-/
structure KeepsText
    (r : Reading)
    (before after : Option Char) : Prop where
  finished :
    ∀ frame ∈ r.spine,
      ∀ node ∈ Node.preorderAll frame.finished,
        Enclosed node.value
  waiting : ∀ frame ∈ r.spine.tail, Enclosed frame.value
  plain :
    ∀ tip, r.spine.head? = some tip →
      IsPlain none tip.value.toList after
  space :
    ∀ tip, r.spine.head? = some tip →
      before = some ' ' →
        tip.value.toList.getLast? = some ' '

theorem keepsText_start
    (before after : Option Char) :
    KeepsText start before after where
  finished := by simp [start]
  waiting := by simp [start]
  plain := by simp [start]
  space := by simp [start]

/- Before a parenthesis the text at the tip is complete. -/
theorem KeepsText.enclosed_tip
    {r : Reading}
    {before : Option Char}
    {c : Char}
    (hKeeps : r.KeepsText before (some c))
    (hParen : Mark.IsParen c)
    {tip : Frame}
    (hTip : r.spine.head? = some tip) :
    Enclosed tip.value := by
  rw [enclosed_iff_isPlain]
  apply (hKeeps.plain tip hTip).isolated_right
  rcases hParen with rfl | rfl
  · decide
  · decide

theorem KeepsText.step_opening
    {r : Reading}
    {before : Option Char}
    (hKeeps : r.KeepsText before (some '('))
    (after : Option Char) :
    (r.step .opening).KeepsText (some '(') after where
  finished := by
    intro frame hFrame
    simp only [step, List.mem_cons] at hFrame
    rcases hFrame with rfl | hFrame
    · simp
    · exact hKeeps.finished frame hFrame
  waiting := by
    intro frame hFrame
    simp only [step, List.tail_cons] at hFrame
    cases hSpine : r.spine with
    | nil => simp [hSpine] at hFrame
    | cons tip above =>
        rw [hSpine, List.mem_cons] at hFrame
        rcases hFrame with rfl | hFrame
        · exact hKeeps.enclosed_tip (.inl rfl)
            (by simp [hSpine])
        · exact hKeeps.waiting frame (by simpa [hSpine])
  plain := by
    intro tip hTip
    simp only [step, List.head?_cons,
      Option.some.injEq] at hTip
    subst hTip
    exact isPlain_nil none after
  space := by simp

theorem KeepsText.step_closing
    {r : Reading}
    {before : Option Char}
    (hKeeps : r.KeepsText before (some ')'))
    (after : Option Char) :
    (r.step .closing).KeepsText (some ')') after := by
  have hTip :
      ∀ tip, r.spine.head? = some tip →
        Enclosed tip.value :=
    fun _ h => hKeeps.enclosed_tip (.inr rfl) h
  rcases r.step_closing_cases with
    ⟨depth, tip, parent, above, -, hSpine, hStep⟩ |
      ⟨-, hStep⟩
  · have hFinished := hKeeps.finished
    have hWaiting := hKeeps.waiting
    simp only [hSpine, List.tail_cons,
      List.forall_mem_cons] at hFinished hWaiting
    rw [hStep]
    refine ⟨?_, ?_, ?_, by simp⟩
    · intro frame hFrame
      rw [List.mem_cons] at hFrame
      rcases hFrame with rfl | hFrame
      · -- The finished tip joins the children of its parent.
        simp only [Frame.attach, Node.preorderAll_append,
          Frame.close, Node.preorderAll_cons,
          Node.preorderAll_nil, List.append_nil]
        intro node hNode
        rw [List.mem_append, List.mem_cons] at hNode
        rcases hNode with hNode | rfl | hNode
        · exact hFinished.2.1 node hNode
        · exact hTip tip (by simp [hSpine])
        · exact hFinished.1 node hNode
      · exact hFinished.2.2 frame hFrame
    · exact hWaiting.2
    · intro frame hFrame
      simp only [List.head?_cons,
        Option.some.injEq] at hFrame
      subst hFrame
      exact hWaiting.1.isPlain none after
  · rw [hStep]
    refine ⟨hKeeps.finished, hKeeps.waiting, ?_, by simp⟩
    intro tip hSpine
    exact (hTip tip hSpine).isPlain none after

theorem KeepsText.step_text
    {r : Reading}
    {before after : Option Char}
    {c : Char}
    (hKeeps : r.KeepsText before (some c))
    (hFlanked :
      Mark.IsParen c → Mark.Flanked before after) :
    (r.step (.text c)).KeepsText (some c) after := by
  cases hSpine : r.spine with
  | nil =>
      have hStep : r.step (.text c) = r := by
        simp [step, hSpine]
      rw [hStep]
      refine ⟨hKeeps.finished, hKeeps.waiting, ?_, ?_⟩
      · simp [hSpine]
      · simp [hSpine]
  | cons tip above =>
      have hFinished := hKeeps.finished
      have hWaiting := hKeeps.waiting
      simp only [hSpine, List.tail_cons,
        List.forall_mem_cons] at hFinished hWaiting
      have hHead : r.spine.head? = some tip := by
        simp [hSpine]
      have hStep :
          r.step (.text c) =
            { r with spine := tip.push c :: above } := by
        simp [step, hSpine]
      rw [hStep]
      refine ⟨?_, hWaiting, ?_, ?_⟩
      · intro frame hFrame
        rw [List.mem_cons] at hFrame
        rcases hFrame with rfl | hFrame
        · exact hFinished.1
        · exact hFinished.2 frame hFrame
      · intro frame hFrame
        simp only [List.head?_cons,
          Option.some.injEq] at hFrame
        subst hFrame
        rw [Frame.push, String.toList_push,
          isPlain_append_singleton_iff, Option.or_none]
        refine ⟨hKeeps.plain tip hHead, ?_⟩
        intro hParen
        rcases hFlanked hParen with ⟨hBefore, hAfter⟩
        exact ⟨hKeeps.space tip hHead hBefore, hAfter⟩
      · intro frame hFrame hSpace
        simp only [List.head?_cons,
          Option.some.injEq] at hFrame
        subst hFrame
        simpa [Frame.push] using hSpace

/- One character keeps all parentheses enclosed. -/
theorem KeepsText.step
    {r : Reading}
    {before : Option Char}
    {c : Char}
    (hKeeps : r.KeepsText before (some c))
    (after : Option Char) :
    (r.step (Mark.of before c after)).KeepsText
      (some c) after := by
  by_cases hText : Mark.of before c after = .text c
  · rw [hText]
    exact hKeeps.step_text
      ((Mark.of_eq_text_iff before after c).mp hText)
  · have hFlanked : ¬ Mark.Flanked before after := by
      intro hFlanked
      apply hText
      exact (Mark.of_eq_text_iff before after c).mpr
        fun _ => hFlanked
    rcases Mark.isParen_of_of_ne_text hText with rfl | rfl
    · rw [Mark.of_opening_of_not_flanked hFlanked]
      exact hKeeps.step_opening after
    · rw [Mark.of_closing_of_not_flanked hFlanked]
      exact hKeeps.step_closing after

/- A whole text keeps all parentheses enclosed. -/
theorem KeepsText.foldl
    {r : Reading}
    {before : Option Char}
    {text : List Char}
    (hKeeps : r.KeepsText before text.head?) :
    ((marksAfter before text).foldl
      Reading.step r).KeepsText
        (text.getLast?.or before) none := by
  induction text generalizing r before with
  | nil => simpa [marksAfter] using hKeeps
  | cons c rest ih =>
      have hRest := ih (hKeeps.step rest.head?)
      cases hLast : rest.getLast? with
      | none =>
          simpa [marksAfter, List.getLast?_cons, hLast]
            using hRest
      | some d =>
          simpa [marksAfter, List.getLast?_cons, hLast]
            using hRest

/- At the end of a text every entry is enclosed. -/
theorem KeepsText.enclosed_entries
    {r : Reading}
    {before : Option Char}
    (hKeeps : r.KeepsText before none)
    {entry : Int × String}
    (hEntry : entry ∈ r.entries) :
    Enclosed entry.2 := by
  rw [entries, List.mem_flatMap] at hEntry
  rcases hEntry with ⟨frame, hFrame, hEntry⟩
  rw [List.mem_reverse] at hFrame
  rw [Frame.entries, List.mem_cons] at hEntry
  rcases hEntry with rfl | hEntry
  · cases hSpine : r.spine with
    | nil => simp [hSpine] at hFrame
    | cons tip above =>
        rw [hSpine, List.mem_cons] at hFrame
        rcases hFrame with rfl | hFrame
        · exact (enclosed_iff_isPlain _).mpr
            (hKeeps.plain frame (by simp [hSpine]))
        · exact hKeeps.waiting frame (by simpa [hSpine])
  · rcases List.mem_map.mp hEntry with
      ⟨node, hNode, rfl⟩
    exact hKeeps.finished frame hFrame node hNode

end Reading

------------------------------------------------------------
-- Trees That Were Read
------------------------------------------------------------

/- What is read has the entries of its reading. -/
theorem entries_of_read
    {text : String}
    {tree : Node}
    (hRead : read text = some tree) :
    Node.entries tree.preorder =
      ((marks text.toList).foldl
        Reading.step .start).entries :=
  Reading.entries_of_root? hRead

/- The number of nodes read is the number of entries. -/
theorem length_entries_read
    (text : String) :
    ((marks text.toList).foldl
        Reading.step .start).entries.length =
      (marks text.toList).count .opening := by
  have hCounts :=
    Reading.countsUp_start.foldl (marks text.toList)
  have hLength := congrArg List.length hCounts
  rw [Reading.next_foldl] at hLength
  simpa [Reading.numbers, Reading.start] using hLength

/- A text has no tree when no parenthesis in it opens. -/
theorem read_eq_none_iff
    (text : String) :
    read text = none ↔ .opening ∉ marks text.toList := by
  rw [read, Reading.root?_eq_none_iff,
    ← List.length_eq_zero_iff, length_entries_read,
    List.count_eq_zero]

/- A tree has a node for every parenthesis that opens. -/
theorem count_of_read
    {text : String}
    {tree : Node}
    (hRead : read text = some tree) :
    tree.count = (marks text.toList).count .opening := by
  rw [Node.count_eq_countAll, ← Node.length_preorderAll,
    ← Node.preorder_eq_preorderAll, ← length_entries_read,
    ← entries_of_read hRead, Node.entries, List.length_map]

/- The numbers of a tree that was read are in order. -/
theorem isNumbered_of_read
    {text : String}
    {tree : Node}
    (hRead : read text = some tree) :
    tree.IsNumbered := by
  have hCounts :=
    Reading.countsUp_start.foldl (marks text.toList)
  rw [Reading.CountsUp, Reading.numbers,
    ← entries_of_read hRead, Reading.next_foldl] at hCounts
  rw [Node.IsNumbered, count_of_read hRead]
  simpa [Node.numbers, Node.entries, Reading.start,
    Function.comp_def] using hCounts

/- The parentheses in a tree that was read are enclosed. -/
theorem enclosed_of_read
    {text : String}
    {tree : Node}
    (hRead : read text = some tree)
    {node : Node}
    (hNode : node ∈ tree.preorder) :
    Enclosed node.value := by
  have hKeeps :=
    (Reading.keepsText_start none
      text.toList.head?).foldl
  have hEntry :
      (node.id, node.value) ∈
        ((marks text.toList).foldl
          Reading.step .start).entries := by
    rw [← entries_of_read hRead]
    exact List.mem_map.mpr ⟨node, hNode, rfl⟩
  exact hKeeps.enclosed_entries hEntry

/-
  Whatever the text, the numbers of its tree count along
  pre-order, there is a node for every parenthesis of the text
  that opens one, and every parenthesis left in a node's text
  lies strictly inside it, between two spaces.
-/
theorem produced_of_read
    {text : String}
    {tree : Node}
    (hRead : read text = some tree) :
    tree.IsNumbered ∧
      tree.count =
        (classify text.toList).count .opening ∧
        ∀ node ∈ tree.preorder, Enclosed node.value := by
  refine ⟨isNumbered_of_read hRead, ?_, ?_⟩
  · rw [← marks_eq_classify]
    exact count_of_read hRead
  · intro node hNode
    exact enclosed_of_read hRead hNode

/-
  A text that closes too early and too often and leaves two
  nodes open, with two parentheses between spaces.
-/
def carelessText : String := "x) (a ( b )(c ) )) (d( e"

def carelessTree : Node :=
  .mk 0 "a ( b "
    [.mk 1 "c )  " [.mk 2 "d" [.mk 3 " e" []]]]

/-
  Two of its ten parentheses are text, and four of the others
  open a node.
-/
theorem produced_of_careless :
    read carelessText = some carelessTree ∧
      carelessTree.IsNumbered ∧
      carelessTree.count =
        (classify carelessText.toList).count .opening ∧
      ∀ node ∈ carelessTree.preorder,
        Enclosed node.value := by
  have hRead : read carelessText = some carelessTree := rfl
  exact ⟨hRead, produced_of_read hRead⟩

end Bracket

end SyntaxOutline

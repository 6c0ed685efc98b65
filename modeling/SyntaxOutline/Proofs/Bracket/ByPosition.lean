import SyntaxOutline.Proofs.Bracket.Line
import SyntaxOutline.Proofs.Bracket.Produced

/-
  Reading a text builds the tree of its positions.

  After some marks the spine of a reading is the line of the
  next position.  The node at the tip has everything that was
  owned so far; every other node on the spine still misses the
  last node it owns, which is the one below it.

  Key definitions include:
    * `Bracket.frames`
    * `Bracket.Stands`

  Main statements:
    * `Bracket.Stands.step`
    * `Bracket.exists_stands`
    * `Bracket.root?_of_stands`
    * `Bracket.read_by_position`
-/

------------------------------------------------------------
-- Frames Of A Line
------------------------------------------------------------

namespace SyntaxOutline

namespace Bracket

variable {marked : List Mark}
variable {line above children : List Nat}
variable {i j tip : Nat}

/- An opening with its text and some finished children. -/
def frameAt
    (marked : List Mark)
    (children : List Nat)
    (j : Nat) : Frame :=
  ⟨(openings marked).idxOf j, ownedText marked j,
    children.map (nodeAt marked)⟩

/- The frame of a node that has all it owns. -/
def tipFrame
    (marked : List Mark)
    (j : Nat) : Frame :=
  frameAt marked (ownedOpenings marked j) j

/- The frame of a node that misses the last node it owns. -/
def waitingFrame
    (marked : List Mark)
    (j : Nat) : Frame :=
  frameAt marked (ownedOpenings marked j).dropLast j

/- The spine that a line stands for. -/
def frames
    (marked : List Mark) :
    List Nat → List Frame
  | [] => []
  | tip :: above =>
      tipFrame marked tip :: above.map (waitingFrame marked)

theorem close_tipFrame
    (marked : List Mark)
    (j : Nat) :
    (tipFrame marked j).close = nodeAt marked j := by
  rw [nodeAt_eq, tipFrame, frameAt, Frame.close]

/- The last node that a node owns completes it. -/
theorem attach_waitingFrame
    (hLast :
      (ownedOpenings marked j).getLast? = some tip) :
    (waitingFrame marked j).attach (nodeAt marked tip) =
      tipFrame marked j := by
  have hChildren :=
    List.dropLast_append_getLast? tip hLast
  rw [tipFrame, ← hChildren]
  simp [waitingFrame, frameAt, Frame.attach]

------------------------------------------------------------
-- Frames Going On
------------------------------------------------------------

/- Nodes that are not on the line stay. -/
theorem map_nodeAt_append_singleton
    {mark : Mark}
    (hLine : IsLine marked marked.length line)
    (hChildren : ∀ i ∈ children,
      i ∈ openings marked ∧
        (mark = .closing ∨ i ∉ line)) :
    children.map (nodeAt (marked ++ [mark])) =
      children.map (nodeAt marked) := by
  apply List.map_congr_left
  intro i hMem
  rcases hChildren i hMem with ⟨hChild, hKept⟩
  exact nodeAt_append_singleton hLine hChild hKept

/- Frames without new text and with complete children stay. -/
theorem frameAt_append_singleton
    {mark : Mark}
    (hLine : IsLine marked marked.length line)
    (hOpening : j ∈ openings marked)
    (hText :
      mark = .closing ∨ mark = .opening ∨
        owner marked marked.length ≠ some j)
    (hChildren : ∀ i ∈ children,
      i ∈ openings marked ∧
        (mark = .closing ∨ i ∉ line)) :
    frameAt (marked ++ [mark]) children j =
      frameAt marked children j := by
  rw [frameAt, frameAt,
    map_nodeAt_append_singleton hLine hChildren,
    idxOf_openings_append_singleton hOpening,
    ownedText_append_of_kept hText]

/- What waits above the tip does not change. -/
theorem waitingFrame_append_singleton
    (hLine : IsLine marked marked.length (tip :: above))
    (hTrails : Trails marked (tip :: above))
    (hMem : j ∈ above)
    (mark : Mark) :
    waitingFrame (marked ++ [mark]) j =
      waitingFrame marked j := by
  have hOwner := hLine.owner_ne_of_above hMem
  have hOpening :=
    (hLine.spec_of_mem (List.mem_cons_of_mem _ hMem)).1
  rw [waitingFrame,
    ownedOpenings_append_of_kept (fun _ => hOwner)]
  apply frameAt_append_singleton hLine hOpening
    (.inr (.inr hOwner))
  intro i hChild
  refine ⟨?_, .inr
    (hTrails.not_mem_of_mem_dropLast hChild)⟩
  have hOwned := List.dropLast_subset _ hChild
  exact ((mem_ownedOpenings_iff i j).mp hOwned).1

/- The children of the tip do not change. -/
theorem complete_of_mem_tip
    (hLine : IsLine marked marked.length (tip :: above))
    {i : Nat}
    (hMem : i ∈ ownedOpenings marked tip) :
    i ∈ openings marked ∧ i ∉ tip :: above := by
  rcases (mem_ownedOpenings_iff i tip).mp hMem with
    ⟨hChild, hOwner⟩
  exact ⟨hChild, hLine.not_mem_of_tip hOwner⟩

/- A new node makes the tip wait. -/
theorem waitingFrame_append_opening
    (hLine : IsLine marked marked.length (tip :: above)) :
    waitingFrame (marked ++ [.opening]) tip =
      tipFrame marked tip := by
  have hOpening :=
    (hLine.spec_of_mem List.mem_cons_self).1
  have hOwned :
      ownedOpenings (marked ++ [.opening]) tip =
        ownedOpenings marked tip ++ [marked.length] := by
    rw [ownedOpenings_append_singleton,
      if_pos ⟨rfl, hLine.1⟩]
  rw [waitingFrame, hOwned, List.dropLast_concat, tipFrame]
  apply frameAt_append_singleton hLine hOpening
    (.inr (.inl rfl))
  intro i hMem
  exact (complete_of_mem_tip hLine hMem).imp_right .inr

/- The position after a text owns nothing yet. -/
theorem owner_ne_length
    (marked : List Mark)
    (i : Nat) :
    owner marked i ≠ some marked.length := by
  intro hOwner
  exact Nat.lt_irrefl _
    (lt_length_of_mem_openings (owner_spec hOwner).1)

/- A new node is numbered next and is empty. -/
theorem tipFrame_append_opening
    (marked : List Mark) :
    tipFrame (marked ++ [.opening]) marked.length =
      ⟨(openings marked).length, "", []⟩ := by
  have hNew : marked.length ∉ openings marked :=
    fun hMem =>
      Nat.lt_irrefl _ (lt_length_of_mem_openings hMem)
  have hRank :
      (openings (marked ++ [.opening])).idxOf
          marked.length =
        (openings marked).length := by
    rw [openings_append_singleton,
      List.idxOf_append_of_notMem hNew]
    simp
  have hText :
      ownedText (marked ++ [.opening]) marked.length =
        "" := by
    rw [ownedText_append_singleton, ownedText]
    simp only [owner_ne_length, if_false,
      String.append_empty, String.ofList_eq_empty_iff,
      List.filterMap_eq_nil_iff]
    intro i _
    split
    · rfl
    · rfl
  have hChildren :
      ownedOpenings (marked ++ [.opening]) marked.length =
        [] := by
    rw [ownedOpenings_append_singleton, ownedOpenings]
    simp [owner_ne_length]
  rw [tipFrame, frameAt, hRank, hText, hChildren,
    List.map_nil]

/- Text goes to the tip. -/
theorem tipFrame_append_text
    (hLine : IsLine marked marked.length (tip :: above))
    (c : Char) :
    tipFrame (marked ++ [.text c]) tip =
      (tipFrame marked tip).push c := by
  have hOpening :=
    (hLine.spec_of_mem List.mem_cons_self).1
  have hText :
      ownedText (marked ++ [.text c]) tip =
        (ownedText marked tip).push c := by
    rw [ownedText_append_singleton,
      ← String.append_singleton]
    simp [hLine.1]
  have hNodes :
      (ownedOpenings marked tip).map
          (nodeAt (marked ++ [.text c])) =
        (ownedOpenings marked tip).map
          (nodeAt marked) := by
    apply map_nodeAt_append_singleton hLine
    intro i hMem
    exact (complete_of_mem_tip hLine hMem).imp_right .inr
  rw [tipFrame, frameAt, hText,
    ownedOpenings_append_of_kept (by simp), hNodes,
    idxOf_openings_append_singleton hOpening, tipFrame,
    frameAt, Frame.push]

/- A closing parenthesis changes no frame. -/
theorem frames_append_closing
    (hLine : IsLine marked marked.length above)
    (hOpenings : ∀ j ∈ line, j ∈ openings marked) :
    frames (marked ++ [.closing]) line =
      frames marked line := by
  have hFrame :
      ∀ j ∈ line, ∀ children,
        children ⊆ ownedOpenings marked j →
          frameAt (marked ++ [.closing]) children j =
            frameAt marked children j := by
    intro j hMem children hChildren
    apply frameAt_append_singleton hLine
      (hOpenings j hMem) (.inl rfl)
    intro i hChild
    have hOwned := hChildren hChild
    exact ⟨((mem_ownedOpenings_iff i j).mp hOwned).1,
      .inl rfl⟩
  have hOwned :
      ∀ j, ownedOpenings (marked ++ [.closing]) j =
        ownedOpenings marked j :=
    fun j => ownedOpenings_append_of_kept (by simp)
  cases line with
  | nil => rfl
  | cons tip above =>
      have hTip :
          tipFrame (marked ++ [.closing]) tip =
            tipFrame marked tip := by
        rw [tipFrame, hOwned]
        exact hFrame tip List.mem_cons_self _
          (List.Subset.refl _)
      have hAbove :
          above.map (waitingFrame (marked ++ [.closing])) =
            above.map (waitingFrame marked) := by
        apply List.map_congr_left
        intro j hMem
        rw [waitingFrame, hOwned]
        exact hFrame j (List.mem_cons_of_mem _ hMem) _
          (List.dropLast_subset _)
      rw [frames, frames, hTip, hAbove]

------------------------------------------------------------
-- Readings
------------------------------------------------------------

/-
  A reading of some marks stands at the next position, with
  the line of that position as its spine.
-/
structure Stands
    (marked : List Mark)
    (line : List Nat)
    (r : Reading) : Prop where
  next : r.next = (openings marked).length
  depth : r.depth = depthAt marked marked.length
  isLine : IsLine marked marked.length line
  trails : Trails marked line
  spine : r.spine = frames marked line

theorem stands_start :
    Stands [] [] Reading.start where
  next := rfl
  depth := rfl
  isLine := rfl
  trails := by simp [Trails]
  spine := rfl

variable {r : Reading}

theorem Stands.step_opening
    (hStands : Stands marked line r) :
    Stands (marked ++ [.opening])
      (marked.length :: line) (r.step .opening) where
  next := by
    simp [Reading.step, hStands.next,
      openings_append_singleton]
  depth := by
    rw [List.length_append, List.length_singleton,
      depthAt_length_append_singleton]
    simp [Reading.step, hStands.depth]
  isLine := by
    simpa using hStands.isLine.after_opening
  trails := hStands.trails.append_opening hStands.isLine
  spine := by
    have hAbove :
        frames marked line =
          line.map
            (waitingFrame (marked ++ [.opening])) := by
      cases line with
      | nil => rfl
      | cons tip above =>
          rw [List.map_cons, frames,
            waitingFrame_append_opening hStands.isLine]
          congr 1
          apply List.map_congr_left
          intro j hMem
          exact (waitingFrame_append_singleton
            hStands.isLine hStands.trails hMem _).symm
    rw [frames, tipFrame_append_opening, ← hAbove,
      ← hStands.spine, ← hStands.next]
    rfl

theorem Stands.step_text
    (hStands : Stands marked line r)
    (c : Char) :
    Stands (marked ++ [.text c]) line
      (r.step (.text c)) where
  next := by
    rw [Reading.next_step, hStands.next,
      openings_append_singleton]
    simp
  depth := by
    rw [List.length_append, List.length_singleton,
      depthAt_length_append_singleton]
    cases hSpine : r.spine with
    | nil => simp [Reading.step, hSpine, hStands.depth]
    | cons tip above =>
        simp [Reading.step, hSpine, hStands.depth]
  isLine := by
    simpa using hStands.isLine.after_text c
  trails :=
    hStands.trails.append_of_ne_opening hStands.isLine
      (by simp)
  spine := by
    have hSpine := hStands.spine
    cases line with
    | nil =>
        rw [frames] at hSpine
        simp [Reading.step, hSpine, frames]
    | cons tip above =>
        have hAbove :
            above.map
                (waitingFrame (marked ++ [.text c])) =
              above.map (waitingFrame marked) := by
          apply List.map_congr_left
          intro j hMem
          exact waitingFrame_append_singleton
            hStands.isLine hStands.trails hMem _
        rw [frames] at hSpine
        rw [frames, hAbove,
          tipFrame_append_text hStands.isLine]
        simp [Reading.step, hSpine]

/- A closing parenthesis moves the spine with the line. -/
theorem Stands.step_closing
    (hStands : Stands marked line r) :
    ∃ line',
      Stands (marked ++ [.closing]) line'
        (r.step .closing) := by
  have hNext :
      (r.step .closing).next =
        (openings (marked ++ [.closing])).length := by
    rw [Reading.next_step, hStands.next,
      openings_append_singleton]
    simp
  have hTrails :=
    hStands.trails.append_of_ne_opening hStands.isLine
      (show Mark.closing ≠ .opening by simp)
  have hDepth :
      depthAt (marked ++ [.closing])
          (marked ++ [Mark.closing]).length =
        r.depth - 1 := by
    rw [List.length_append, List.length_singleton,
      depthAt_length_append_singleton, hStands.depth]
  have hFrames :
      ∀ line' ⊆ line,
        frames (marked ++ [.closing]) line' =
          frames marked line' := by
    intro line' hSubset
    apply frames_append_closing hStands.isLine
    intro j hMem
    exact (hStands.isLine.spec_of_mem (hSubset hMem)).1
  rcases hStands.isLine.after_closing with
    ⟨hShallow, hLine⟩ |
      ⟨tip, parent, above, hDeep, rfl, hLine⟩
  · -- Nothing waits above, so the spine stays.
    rcases r.step_closing_cases with
      ⟨depth, _, _, _, hTwo, -, -⟩ | ⟨-, hStep⟩
    · have := hStands.depth
      omega
    · refine ⟨line, hNext, ?_, by simpa using hLine,
        hTrails, ?_⟩
      · rw [hStep, hDepth]
      · rw [hStep, hFrames line (List.Subset.refl _)]
        exact hStands.spine
  · have hSpine := hStands.spine
    rw [frames, List.map_cons] at hSpine
    have hLast :
        (ownedOpenings marked parent).getLast? =
          some tip :=
      hStands.trails tip List.mem_cons_self parent
        hStands.isLine.2.1
    rcases r.step_closing_cases with
      ⟨depth, tip', parent', above', hTwo, hSpine',
        hStep⟩ | ⟨hOr, -⟩
    · refine ⟨parent :: above, hNext, ?_,
        by simpa using hLine, ?_, ?_⟩
      · rw [hStep, hDepth, hTwo]
        rfl
      · intro i hMem
        exact hTrails i (List.mem_cons_of_mem _ hMem)
      · rw [hSpine] at hSpine'
        simp only [List.cons.injEq] at hSpine'
        rcases hSpine' with ⟨rfl, rfl, rfl⟩
        rw [hStep, hFrames _ (List.subset_cons_self _ _),
          frames, close_tipFrame,
          attach_waitingFrame hLast]
    · have hDepth := hStands.depth
      rw [hSpine] at hOr
      simp only [List.length_cons] at hOr
      omega

/- One mark keeps a reading on the line. -/
theorem Stands.step
    (hStands : Stands marked line r)
    (mark : Mark) :
    ∃ line',
      Stands (marked ++ [mark]) line' (r.step mark) := by
  cases mark with
  | opening => exact ⟨_, hStands.step_opening⟩
  | closing => exact hStands.step_closing
  | text c => exact ⟨_, hStands.step_text c⟩

/- Reading any marks ends at the next position. -/
theorem exists_stands
    (marked : List Mark) :
    ∃ line,
      Stands marked line
        (marked.foldl Reading.step .start) := by
  induction marked using List.reverseRecOn with
  | nil => exact ⟨[], stands_start⟩
  | append_singleton marked mark ih =>
      rcases ih with ⟨line, hStands⟩
      rw [List.foldl_append]
      exact hStands.step mark

------------------------------------------------------------
-- The Root
------------------------------------------------------------

variable {first : Nat}

/- Only the first opening has no owner. -/
theorem eq_first_of_owner_eq_none
    (hFirst : (openings marked).head? = some first)
    (hOpening : j ∈ openings marked)
    (hOwner : owner marked j = none) :
    j = first := by
  have hSorted :
      (openings marked).Pairwise (· < ·) :=
    List.pairwise_lt_range.filter _
  have hMem := List.mem_of_head? hFirst
  have hLength := lt_length_of_mem_openings hOpening
  have hNotAfter : ¬ first < j := by
    intro hAfter
    rcases exists_owner marked hMem hAfter
      (Nat.le_of_lt hLength) with ⟨parent, hParent⟩
    rw [hOwner] at hParent
    exact absurd hParent (by simp)
  cases hOpenings : openings marked with
  | nil => simp [hOpenings] at hOpening
  | cons head rest =>
      rw [hOpenings] at hFirst hOpening hSorted
      have hHead : head = first := by simpa using hFirst
      rcases List.mem_cons.mp hOpening with hEq | hRest
      · exact hEq.trans hHead
      · have hLess :=
          (List.pairwise_cons.mp hSorted).1 j hRest
        omega

/- Closing a line over its first node gives the first opening. -/
theorem closeOver_line
    (hFirst : (openings marked).head? = some first)
    (hOpening : tip ∈ openings marked)
    (hLine : IsLine marked tip above)
    (hTrails : Trails marked (tip :: above)) :
    Reading.closeOver (nodeAt marked tip)
        (above.map (waitingFrame marked)) =
      nodeAt marked first := by
  induction above generalizing tip with
  | nil =>
      rw [List.map_nil, Reading.closeOver,
        eq_first_of_owner_eq_none hFirst hOpening hLine]
  | cons parent above ih =>
      have hLast :=
        hTrails tip List.mem_cons_self parent hLine.1
      rw [List.map_cons, Reading.closeOver,
        attach_waitingFrame hLast, close_tipFrame]
      apply ih (owner_spec hLine.1).1 hLine.2
      intro i hMem
      exact hTrails i (List.mem_cons_of_mem _ hMem)

theorem root?_of_stands
    (hStands : Stands marked line r)
    (hFirst : (openings marked).head? = some first) :
    r.root? = some (nodeAt marked first) := by
  have hMem := List.mem_of_head? hFirst
  cases line with
  | nil =>
      rcases exists_owner marked hMem
        (lt_length_of_mem_openings hMem)
        (Nat.le_refl _) with ⟨j, hOwner⟩
      have hNone := hStands.isLine
      rw [IsLine, hOwner] at hNone
      exact absurd hNone (by simp)
  | cons tip above =>
      have hOpening :=
        (hStands.isLine.spec_of_mem List.mem_cons_self).1
      rw [Reading.root?, hStands.spine, frames]
      simp only [close_tipFrame]
      rw [closeOver_line hFirst hOpening hStands.isLine.2
        hStands.trails]

/- A text is read as the tree of its first opening. -/
theorem read_eq_nodeAt
    {text : String}
    (hFirst :
      (openings (marks text.toList)).head? = some first) :
    read text =
      some (nodeAt (marks text.toList) first) := by
  rcases exists_stands (marks text.toList) with
    ⟨line, hStands⟩
  exact root?_of_stands hStands hFirst

------------------------------------------------------------
-- All Nodes
------------------------------------------------------------

theorem length_openings
    (marked : List Mark) :
    (openings marked).length = marked.count .opening := by
  rcases exists_stands marked with ⟨line, hStands⟩
  rw [← hStands.next, Reading.next_foldl, Reading.start,
    Nat.zero_add]

theorem openings_eq_nil_iff
    (marked : List Mark) :
    openings marked = [] ↔ .opening ∉ marked := by
  rw [← List.length_eq_zero_iff, length_openings,
    List.count_eq_zero]

theorem id_nodeAt
    (marked : List Mark)
    (j : Nat) :
    (nodeAt marked j).id = (openings marked).idxOf j := by
  rw [nodeAt_eq, Node.id_mk]

/- The nodes below an opening are those of openings. -/
theorem exists_nodeAt_of_mem_preorder
    {node : Node}
    (hOpening : j ∈ openings marked)
    (hNode : node ∈ (nodeAt marked j).preorder) :
    ∃ i ∈ openings marked, node = nodeAt marked i := by
  induction hMeasure : marked.length - j
    using Nat.strongRecOn generalizing j with
  | ind measure ih =>
      rw [nodeAt_eq, Node.preorder, ← nodeAt_eq,
        Node.preorderAll_eq_flatMap, List.flatMap_map,
        List.mem_cons, List.mem_flatMap] at hNode
      rcases hNode with hNode | ⟨i, hMem, hNode⟩
      · exact ⟨j, hOpening, hNode⟩
      · have hBounds := bounds_of_mem_ownedOpenings hMem
        exact ih (marked.length - i) (by omega)
          ((mem_ownedOpenings_iff i j).mp hMem).1 hNode rfl

/- Numbered nodes of openings are those of all openings. -/
theorem eq_map_nodeAt
    {nodes : List Node}
    (hNodes : ∀ node ∈ nodes,
      ∃ i ∈ openings marked, node = nodeAt marked i)
    (hNumbers :
      Node.numbers nodes =
        (List.range (openings marked).length).map
          Int.ofNat) :
    nodes = (openings marked).map (nodeAt marked) := by
  have hLength :
      nodes.length = (openings marked).length := by
    simpa [Node.numbers] using congrArg List.length hNumbers
  apply List.ext_getElem
  · rw [hLength, List.length_map]
  · intro k hLeft hRight
    rcases hNodes _ (List.getElem_mem hLeft) with
      ⟨i, hOpening, hNode⟩
    have hNumber : nodes[k].id = Int.ofNat k := by
      have hAt := congrArg (·[k]?) hNumbers
      have hBound : k < (openings marked).length := by
        omega
      simpa [Node.numbers, hLeft, hBound] using hAt
    have hRank : (openings marked).idxOf i = k := by
      rw [hNode, id_nodeAt] at hNumber
      exact Int.ofNat.inj hNumber
    rw [hNode, List.getElem_map]
    congr 1
    subst hRank
    exact (List.getElem_idxOf _).symm

/- The nodes of a tree that was read are all openings. -/
theorem preorder_nodeAt_of_read
    {text : String}
    (hFirst :
      (openings (marks text.toList)).head? = some first) :
    (nodeAt (marks text.toList) first).preorder =
      (openings (marks text.toList)).map
        (nodeAt (marks text.toList)) := by
  have hRead := read_eq_nodeAt hFirst
  apply eq_map_nodeAt
  · intro node hNode
    exact exists_nodeAt_of_mem_preorder
      (List.mem_of_head? hFirst) hNode
  · have hNumbered := isNumbered_of_read hRead
    rw [Node.IsNumbered, count_of_read hRead,
      ← length_openings] at hNumbered
    exact hNumbered

/-
  Reading any text gives the tree of its positions.  There is
  no tree exactly when no parenthesis opens.  Otherwise the
  root is the first opening and the nodes in pre-order are all
  openings in the order of the text.  Each has its rank as its
  number, the text it owns, and the openings it owns as its
  children.  Every position after the first opening has exactly
  one owner.
-/
theorem read_by_position :
    read? none = none ∧
      ∀ text : String,
        let marked := classify text.toList
        (read? (some text) = none ↔
          openings marked = []) ∧
          ∀ first, (openings marked).head? = some first →
            read? (some text) =
                some (nodeAt marked first) ∧
              (nodeAt marked first).preorder =
                (openings marked).map (nodeAt marked) ∧
              (∀ j ∈ openings marked,
                nodeAt marked j =
                  .mk ((openings marked).idxOf j)
                    (ownedText marked j)
                    ((ownedOpenings marked j).map
                      (nodeAt marked))) ∧
              ∀ i, first < i → i < marked.length →
                ∃! j, j ∈ openings marked ∧
                  owner marked i = some j := by
  refine ⟨rfl, ?_⟩
  intro text
  rw [← marks_eq_classify]
  refine ⟨?_, ?_⟩
  · rw [openings_eq_nil_iff]
    exact read_eq_none_iff text
  · intro first hFirst
    refine ⟨read_eq_nodeAt hFirst,
      preorder_nodeAt_of_read hFirst,
      fun j _ => nodeAt_eq _ j, ?_⟩
    intro i hAfter hLength
    rcases exists_owner _ (List.mem_of_head? hFirst) hAfter
      (Nat.le_of_lt hLength) with ⟨j, hOwner⟩
    refine ⟨j, ⟨(owner_spec hOwner).1, hOwner⟩, ?_⟩
    rintro k ⟨-, hOther⟩
    exact Option.some.inj (hOther.symm.trans hOwner)

/-
  Text before the root, a group after it, an extra closing
  parenthesis and a node left open.
-/
theorem read_of_unbalanced :
    (openings
        (classify "x(a)) (b(c".toList)).head? =
      some 1 ∧
      read? (some "x(a)) (b(c") =
        some (.mk 0 "a " [.mk 1 "b" [.mk 2 "c" []]]) ∧
      read? (some "x(a)) (b(c") =
        some
          (nodeAt (classify "x(a)) (b(c".toList) 1) := by
  have hFirst :
      (openings
          (classify "x(a)) (b(c".toList)).head? =
        some 1 := by
    decide
  have hPosition :=
    (read_by_position.2 "x(a)) (b(c").2 1 hFirst
  exact ⟨hFirst, rfl, hPosition.1⟩

end Bracket

end SyntaxOutline

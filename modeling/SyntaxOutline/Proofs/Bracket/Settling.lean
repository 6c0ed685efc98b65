import SyntaxOutline.Proofs.Bracket.RoundTrip

/-
  Writing a tree and reading it again, over and over.

  Once is not enough.  A first child behind a seam is taken
  into the text above it, and the longer text may make a seam
  with the child that comes first then.  But every tree that
  was read loses exactly as many nodes as it has seams, and
  without seams it comes back as it was.  So the number of
  nodes goes down until nothing changes any more.

  Key definitions include:
    * `Bracket.Node.reread`
    * `Bracket.Node.seams`
    * `Bracket.Node.rereadTimes`

  Main statements:
    * `Bracket.exists_reread`
    * `Bracket.count_reread_add_seams`
    * `Bracket.count_reread_eq_iff`
    * `Bracket.exists_settled`
    * `Bracket.settles_of_read`
-/

------------------------------------------------------------
-- Writing And Reading
------------------------------------------------------------

namespace SyntaxOutline

namespace Bracket

namespace Node

/- The tree that is read when a tree has been written. -/
def reread
    (tree : Node) : Option Node :=
  read tree.dump

/- The number of nodes of a tree that have a seam. -/
def seams
    (tree : Node) : Nat :=
  tree.preorder.countP fun node => decide node.HasSeam

/- The tree after it has been written and read some times. -/
def rereadTimes
    (tree : Node) :
    Nat → Option Node
  | 0 => some tree
  | times + 1 =>
      tree.reread.bind fun again => again.rereadTimes times

theorem count_pos
    (tree : Node) :
    0 < tree.count := by
  rcases tree with ⟨id, value, children⟩
  rw [count]
  omega

theorem seams_eq_zero_iff
    (tree : Node) :
    tree.seams = 0 ↔
      ∀ node ∈ tree.preorder, ¬ node.HasSeam := by
  simp [seams, List.countP_eq_zero]

end Node

/- The first parenthesis of a written tree opens its root. -/
theorem exists_reread
    (tree : Node) :
    ∃ again, tree.reread = some again := by
  rw [← Option.ne_none_iff_exists', Node.reread, Ne,
    read_eq_none_iff, not_not]
  have hOpening :
      ∀ after, Mark.of none '(' after = .opening :=
    fun after =>
      Mark.of_opening_of_not_flanked
        (by simp [Mark.Flanked])
  rcases tree with ⟨id, value, children⟩
  simp [Node.dump, marks, marksAfter, hOpening]

------------------------------------------------------------
-- Trees That Were Read
------------------------------------------------------------

variable {text : String}
variable {tree again : Node}

/- Every seam costs a node, and nothing else does. -/
theorem count_reread_add_seams
    (hRead : read text = some tree)
    (hAgain : tree.reread = some again) :
    again.count + tree.seams = tree.count := by
  have hMarks :=
    marks_dump fun _ hNode => enclosed_of_read hRead hNode
  have hCount := count_writtenMarks none [tree]
  rw [← hMarks, ← count_of_read hAgain,
    ← Node.preorder_eq_preorderAll,
    ← Node.count_eq_countAll,
    if_neg (by simp [Mark.Flanked]), Nat.add_zero] at hCount
  exact hCount

/- Without seams a tree comes back, numbers included. -/
theorem reread_of_seams_eq_zero
    (hRead : read text = some tree)
    (hSeams : tree.seams = 0) :
    tree.reread = some tree := by
  have hSame :=
    read_dump_of_seamless
      (fun _ hNode => enclosed_of_read hRead hNode)
      ((Node.seams_eq_zero_iff tree).mp hSeams)
  have hNumbers :=
    (Node.renumber_eq_self_iff tree).mpr
      (isNumbered_of_read hRead)
  rw [Node.reread, hSame, hNumbers]

/- A tree keeps its nodes exactly when it comes back. -/
theorem count_reread_eq_iff
    (hRead : read text = some tree)
    (hAgain : tree.reread = some again) :
    again.count = tree.count ↔ again = tree := by
  have hCount := count_reread_add_seams hRead hAgain
  constructor
  · intro hKept
    have hSame :=
      reread_of_seams_eq_zero hRead (by omega)
    rw [hAgain] at hSame
    exact Option.some.inj hSame
  · rintro rfl
    rfl

------------------------------------------------------------
-- Settling
------------------------------------------------------------

/-
  A tree that was read comes, by writing and reading, to one
  that stays as it is, in fewer steps than it has nodes.
-/
theorem exists_settled
    (hRead : read text = some tree) :
    ∃ times < tree.count, ∃ settled,
      tree.rereadTimes times = some settled ∧
        settled.reread = some settled := by
  -- The tree that comes next was read from a text as well.
  induction hSize : tree.count
    using Nat.strongRecOn generalizing text tree with
  | ind size ih =>
      rcases exists_reread tree with ⟨again, hAgain⟩
      have hCount := count_reread_add_seams hRead hAgain
      by_cases hSame : again = tree
      · rw [hSame] at hAgain
        have hPositive := tree.count_pos
        exact ⟨0, by omega, tree, rfl, hAgain⟩
      · have hLess : again.count < size := by
          have hKept :=
            (count_reread_eq_iff hRead hAgain).not.mpr hSame
          omega
        rcases ih again.count hLess hAgain rfl with
          ⟨times, hTimes, settled, hReach, hStays⟩
        refine ⟨times + 1, by omega, settled, ?_, hStays⟩
        rw [Node.rereadTimes, hAgain]
        exact hReach

/-
  Written and read again, a tree that was read loses nodes or
  comes back as it was.  So after fewer steps than it has nodes
  it has become a tree that comes back.
-/
theorem settles_of_read
    (hRead : read text = some tree) :
    (∃ again,
      tree.reread = some again ∧
        again.count ≤ tree.count ∧
          (again.count = tree.count ↔ again = tree)) ∧
      ∃ times ≤ tree.count - 1, ∃ settled,
        tree.rereadTimes times = some settled ∧
          settled.reread = some settled := by
  constructor
  · rcases exists_reread tree with ⟨again, hAgain⟩
    have hCount := count_reread_add_seams hRead hAgain
    exact ⟨again, hAgain, by omega,
      count_reread_eq_iff hRead hAgain⟩
  · rcases exists_settled hRead with
      ⟨times, hTimes, settled, hReach, hStays⟩
    exact ⟨times, by omega, settled, hReach, hStays⟩

/- Behind the first seam another one comes up. -/
def seamedTree : Node :=
  .mk 0 "p " [.mk 1 " c " [], .mk 2 " e" []]

/- The same tree when its first child is taken in. -/
def reseamedTree : Node :=
  .mk 0 "p ( c " [.mk 1 " e" []]

/- Three nodes that settle in two steps and not in one. -/
theorem settles_of_seamed :
    read "(p( c )( e) )" = some seamedTree ∧
      seamedTree.reread = some reseamedTree ∧
      reseamedTree.reread =
        some (.mk 0 "p ( c ( e" []) ∧
      (∃ again,
        seamedTree.reread = some again ∧
          again.count ≤ seamedTree.count ∧
            (again.count = seamedTree.count ↔
              again = seamedTree)) ∧
        ∃ times ≤ seamedTree.count - 1, ∃ settled,
          seamedTree.rereadTimes times = some settled ∧
            settled.reread = some settled := by
  have hRead :
      read "(p( c )( e) )" = some seamedTree := rfl
  have hFirst : seamedTree.dump = "(p ( c )( e))" := by
    simp [seamedTree, Node.dump, Node.dumpAll]
  have hSecond : reseamedTree.dump = "(p ( c ( e))" := by
    simp [reseamedTree, Node.dump, Node.dumpAll]
  refine ⟨hRead, ?_, ?_, settles_of_read hRead⟩
  · rw [Node.reread, hFirst]
    rfl
  · rw [Node.reread, hSecond]
    rfl

end Bracket

end SyntaxOutline

import SyntaxOutline.Proofs.Bracket.Ownership
import Mathlib.Data.List.Nodup

/-
  Lines of owners.

  The line of a position starts with its owner and goes on with
  the owner's owner, up to the first opening.  Reading a text,
  only the nodes on the line of the next position can still
  change: all other nodes have everything they will own.

  Key definitions include:
    * `Bracket.IsLine`
    * `Bracket.Trails`

  Main statements:
    * `Bracket.IsLine.after_closing`
    * `Bracket.nodeAt_append_singleton`
-/

------------------------------------------------------------
-- Lines
------------------------------------------------------------

namespace SyntaxOutline

namespace Bracket

/- The owners of a position, from its own owner upwards. -/
def IsLine
    (marked : List Mark) :
    Nat → List Nat → Prop
  | i, [] => owner marked i = none
  | i, j :: above =>
      owner marked i = some j ∧ IsLine marked j above

variable {marked : List Mark}
variable {line above : List Nat}
variable {i j tip : Nat}

/- Positions with the same owner have the same line. -/
theorem IsLine.of_owner_eq
    (hLine : IsLine marked i line)
    (hOwner : owner marked j = owner marked i) :
    IsLine marked j line := by
  cases line with
  | nil => exact hOwner.trans hLine
  | cons tip above =>
      exact ⟨hOwner.trans hLine.1, hLine.2⟩

/- The line of a position does not change later on. -/
theorem IsLine.append_singleton
    (hLine : IsLine marked i line)
    (hLength : i ≤ marked.length)
    (mark : Mark) :
    IsLine (marked ++ [mark]) i line := by
  have hOwner :=
    owner_append_singleton marked mark hLength
  induction line generalizing i with
  | nil => exact hOwner.trans hLine
  | cons tip above ih =>
      have hTip := (owner_spec hLine.1).2
      have hAbove : tip ≤ marked.length := by omega
      exact ⟨hOwner.trans hLine.1,
        ih hLine.2 hAbove
          (owner_append_singleton marked mark hAbove)⟩

/- A line holds openings to the left of its position. -/
theorem IsLine.spec_of_mem
    (hLine : IsLine marked i line)
    (hMem : j ∈ line) :
    j ∈ openings marked ∧ j < i := by
  induction line generalizing i with
  | nil => exact absurd hMem (by simp)
  | cons tip above ih =>
      have hTip := owner_spec hLine.1
      rcases List.mem_cons.mp hMem with rfl | hMem
      · exact hTip
      · have hAbove := ih hLine.2 hMem
        exact ⟨hAbove.1, by omega⟩

theorem IsLine.mem_of_owner
    (hLine : IsLine marked i line)
    (hOwner : owner marked i = some j) :
    j ∈ line := by
  cases line with
  | nil =>
      rw [IsLine, hOwner] at hLine
      exact absurd hLine (by simp)
  | cons tip above =>
      have hTip : some j = some tip :=
        hOwner.symm.trans hLine.1
      rw [Option.some.inj hTip]
      exact List.mem_cons_self

/- With a node its owner is on the line. -/
theorem IsLine.owner_mem
    (hLine : IsLine marked i line)
    (hMem : tip ∈ line)
    (hOwner : owner marked tip = some j) :
    j ∈ line := by
  induction line generalizing i with
  | nil => exact absurd hMem (by simp)
  | cons head above ih =>
      rcases List.mem_cons.mp hMem with rfl | hMem
      · exact List.mem_cons_of_mem _
          (hLine.2.mem_of_owner hOwner)
      · exact List.mem_cons_of_mem _ (ih hLine.2 hMem)

/- The first node of a line owns nothing on the line. -/
theorem IsLine.not_mem_of_tip
    (hLine : IsLine marked i (tip :: above))
    (hOwner : owner marked j = some tip) :
    j ∉ tip :: above := by
  intro hMem
  have hBefore := (owner_spec hOwner).2
  rcases List.mem_cons.mp hMem with hEq | hMem
  · omega
  · have hAbove := (hLine.2.spec_of_mem hMem).2
    omega

/- The first node of a line is the owner, and no other is. -/
theorem IsLine.owner_ne_of_above
    (hLine : IsLine marked i (tip :: above))
    (hMem : j ∈ above) :
    owner marked i ≠ some j := by
  intro hOwner
  have hEq : some tip = some j :=
    hLine.1.symm.trans hOwner
  have hBefore := (hLine.2.spec_of_mem hMem).2
  have := Option.some.inj hEq
  omega

------------------------------------------------------------
-- The Line Of The Next Position
------------------------------------------------------------

/- The new opening comes in front of the line. -/
theorem IsLine.after_opening
    (hLine : IsLine marked marked.length line) :
    IsLine (marked ++ [.opening]) (marked.length + 1)
      (marked.length :: line) :=
  ⟨owner_after_opening marked,
    hLine.append_singleton (Nat.le_refl _) .opening⟩

/- Text keeps the line. -/
theorem IsLine.after_text
    (hLine : IsLine marked marked.length line)
    (c : Char) :
    IsLine (marked ++ [.text c]) (marked.length + 1)
      line := by
  apply (hLine.append_singleton
    (Nat.le_refl _) (.text c)).of_owner_eq
  rw [owner_after_text, owner_append_singleton _ _
    (Nat.le_refl _)]

/-
  A closing parenthesis takes the first node off the line when
  another one waits, and else keeps the line.
-/
theorem IsLine.after_closing
    (hLine : IsLine marked marked.length line) :
    (depthAt marked marked.length ≤ 1 ∧
      IsLine (marked ++ [.closing]) (marked.length + 1)
        line) ∨
      ∃ tip parent above,
        2 ≤ depthAt marked marked.length ∧
          line = tip :: parent :: above ∧
            IsLine (marked ++ [.closing])
              (marked.length + 1) (parent :: above) := by
  by_cases hDepth : depthAt marked marked.length ≤ 1
  · refine .inl ⟨hDepth, ?_⟩
    apply (hLine.append_singleton
      (Nat.le_refl _) .closing).of_owner_eq
    have hSame :
        depthAt marked marked.length - 1 - 1 =
          depthAt marked marked.length - 1 := by
      omega
    rw [owner_after_closing, owner_append_singleton _ _
      (Nat.le_refl _), owner_length, hSame]
  · -- The two deepest waiting openings head the line.
    have hLinked := linked_of_openings_ne_nil marked
      (openings_ne_nil_of_depth marked (by omega))
    rcases hLinked _ (Nat.le_refl _) with
      ⟨tip, hTip, hOwner⟩
    rcases hLinked
        (depthAt marked marked.length - 1 - 1)
        (by omega) with ⟨parent, hParent, -⟩
    rw [hParent] at hOwner
    rw [← owner_length] at hTip
    cases line with
    | nil =>
        rw [IsLine, hTip] at hLine
        exact absurd hLine (by simp)
    | cons head rest =>
        have hHead : tip = head :=
          Option.some.inj (hTip.symm.trans hLine.1)
        subst hHead
        have hOwner := hOwner (by omega)
        have hRest := hLine.2
        cases rest with
        | nil =>
            rw [IsLine, hOwner] at hRest
            exact absurd hRest (by simp)
        | cons next above =>
            have hTipBefore := (owner_spec hTip).2
            refine .inr ⟨tip, next, above, by omega, rfl,
              ?_⟩
            apply (hRest.append_singleton (by omega)
              .closing).of_owner_eq
            rw [owner_after_closing, hParent,
              owner_append_singleton _ _ (by omega),
              hOwner]

------------------------------------------------------------
-- Nodes That Are Complete
------------------------------------------------------------

/- What does not own the next position gets no text there. -/
theorem ownedText_append_of_kept
    {mark : Mark}
    (hKept :
      mark = .closing ∨ mark = .opening ∨
        owner marked marked.length ≠ some j) :
    ownedText (marked ++ [mark]) j = ownedText marked j := by
  rw [ownedText_append_singleton]
  cases mark with
  | opening => simp
  | closing => simp
  | text c =>
      have hOwner :
          owner marked marked.length ≠ some j := by
        simpa using hKept
      simp [hOwner]

/- What does not own the next position gets no child there. -/
theorem ownedOpenings_append_of_kept
    {mark : Mark}
    (hKept :
      mark = .opening →
        owner marked marked.length ≠ some j) :
    ownedOpenings (marked ++ [mark]) j =
      ownedOpenings marked j := by
  rw [ownedOpenings_append_singleton, if_neg,
    List.append_nil]
  rintro ⟨hOpening, hOwner⟩
  exact hKept hOpening hOwner

/- The rank of an opening does not change later on. -/
theorem idxOf_openings_append_singleton
    (hOpening : j ∈ openings marked)
    (mark : Mark) :
    (openings (marked ++ [mark])).idxOf j =
      (openings marked).idxOf j := by
  rw [openings_append_singleton,
    List.idxOf_append_of_mem hOpening]

/- A node that is not on the line does not change. -/
theorem nodeAt_append_singleton
    {mark : Mark}
    (hLine : IsLine marked marked.length line)
    (hOpening : j ∈ openings marked)
    (hKept : mark = .closing ∨ j ∉ line) :
    nodeAt (marked ++ [mark]) j = nodeAt marked j := by
  -- What a node owns lies to its right, so the positions to
  -- the right of it are the measure.
  induction hMeasure : marked.length - j
    using Nat.strongRecOn generalizing j with
  | ind measure ih =>
      have hOwner :
          mark = .closing ∨
            owner marked marked.length ≠ some j :=
        hKept.imp_right fun hMem hEq =>
          hMem (hLine.mem_of_owner hEq)
      have hChildren :
          ownedOpenings (marked ++ [mark]) j =
            ownedOpenings marked j := by
        apply ownedOpenings_append_of_kept
        rintro rfl
        simpa using hOwner
      have hNodes :
          (ownedOpenings marked j).map
              (nodeAt (marked ++ [mark])) =
            (ownedOpenings marked j).map
              (nodeAt marked) := by
        apply List.map_congr_left
        intro i hMem
        have hBounds := bounds_of_mem_ownedOpenings hMem
        rcases (mem_ownedOpenings_iff i j).mp hMem with
          ⟨hChild, hParent⟩
        refine ih (marked.length - i) (by omega) hChild
          ?_ rfl
        exact hKept.imp_right fun hNot hOn =>
          hNot (hLine.owner_mem hOn hParent)
      rw [nodeAt_eq, nodeAt_eq, hChildren, hNodes,
        idxOf_openings_append_singleton hOpening,
        ownedText_append_of_kept
          (hOwner.imp_right .inr)]

------------------------------------------------------------
-- Trailing Nodes
------------------------------------------------------------

/- Every node on a line is the last that its owner owns. -/
def Trails
    (marked : List Mark)
    (line : List Nat) : Prop :=
  ∀ i ∈ line, ∀ j, owner marked i = some j →
    (ownedOpenings marked j).getLast? = some i

theorem nodup_ownedOpenings
    (marked : List Mark)
    (j : Nat) :
    (ownedOpenings marked j).Nodup :=
  (List.nodup_range.filter _).filter _

/- The others that it owns are not on the line. -/
theorem Trails.not_mem_of_mem_dropLast
    (hTrails : Trails marked line)
    (hMem : i ∈ (ownedOpenings marked j).dropLast) :
    i ∉ line := by
  intro hOn
  have hOwned := List.dropLast_subset _ hMem
  have hOwner := ((mem_ownedOpenings_iff i j).mp hOwned).2
  have hNodup := nodup_ownedOpenings marked j
  rw [← List.dropLast_append_getLast? i
    (hTrails i hOn j hOwner)] at hNodup
  exact List.disjoint_of_nodup_append hNodup hMem
    List.mem_cons_self

/- A mark that opens no node keeps the trailing nodes. -/
theorem Trails.append_of_ne_opening
    (hLine : IsLine marked marked.length line)
    (hTrails : Trails marked line)
    {mark : Mark}
    (hMark : mark ≠ .opening) :
    Trails (marked ++ [mark]) line := by
  intro i hMem j hOwner
  have hBefore := (hLine.spec_of_mem hMem).2
  rw [owner_append_singleton _ _ (by omega)] at hOwner
  rw [ownedOpenings_append_of_kept
    (fun hEq => absurd hEq hMark)]
  exact hTrails i hMem j hOwner

/- A new node trails, and so do those above it. -/
theorem Trails.append_opening
    (hLine : IsLine marked marked.length line)
    (hTrails : Trails marked line) :
    Trails (marked ++ [.opening])
      (marked.length :: line) := by
  intro i hMem j hOwner
  rcases List.mem_cons.mp hMem with rfl | hMem
  · rw [owner_append_singleton _ _ (Nat.le_refl _)]
      at hOwner
    simp [ownedOpenings_append_singleton, hOwner]
  · have hBefore := (hLine.spec_of_mem hMem).2
    rw [owner_append_singleton _ _ (by omega)] at hOwner
    rw [ownedOpenings_append_of_kept]
    · exact hTrails i hMem j hOwner
    · -- Only the first of the line owns the new node, and
      -- that one owns nothing on the line.
      intro _ hNext
      cases line with
      | nil => exact absurd hMem (by simp)
      | cons tip above =>
          have hTip : some j = some tip :=
            hNext.symm.trans hLine.1
          rw [hTip] at hOwner
          exact hLine.not_mem_of_tip hOwner hMem

end Bracket

end SyntaxOutline

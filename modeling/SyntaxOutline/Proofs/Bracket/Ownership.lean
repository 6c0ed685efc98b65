import SyntaxOutline.Proofs.Bracket.Neighbours
import SyntaxOutline.Bracket.Node
import Mathlib.Data.List.Induction

/-
  The tree of a text by position, without a stack.

  Every structural opening parenthesis is a node.  The depth
  before a position counts the parentheses that were opened and
  not closed.  A position is owned by the last opening
  parenthesis before it that was opened one level up; at depth
  zero it is owned by the last one that was opened there.  A
  node takes the text it owns and the nodes it owns, in the
  order of the text.

  Everything here looks only to the left, so a text can be
  built up mark by mark: what is known of the positions of a
  text stays when the text goes on.

  Key definitions include:
    * `Bracket.depthAt`
    * `Bracket.openings`
    * `Bracket.owner`
    * `Bracket.nodeAt`
    * `Bracket.Linked`

  Main statements:
    * `Bracket.owner_append_singleton`
    * `Bracket.linked_of_openings_ne_nil`
    * `Bracket.exists_owner`
-/

------------------------------------------------------------
-- Owners
------------------------------------------------------------

namespace SyntaxOutline

namespace Bracket

variable (marked : List Mark)

/- The number of open parentheses before a position. -/
def depthAt : Nat → Nat
  | 0 => 0
  | i + 1 =>
      match marked[i]? with
      | some .opening => depthAt i + 1
      | some .closing => depthAt i - 1
      | _ => depthAt i

/- The positions that open a node, in order. -/
def openings : List Nat :=
  (List.range marked.length).filter fun i =>
    marked[i]? = some .opening

/-
  The last opening before a position that is one level up, or
  on the same level where there is none up.
-/
def owner
    (i : Nat) : Option Nat :=
  ((openings marked).filter fun j =>
    j < i ∧ depthAt marked j = depthAt marked i - 1).getLast?

/- The characters of text that an opening owns, in order. -/
def ownedText
    (j : Nat) : String :=
  String.ofList <|
    (List.range marked.length).filterMap fun i : Nat =>
      match marked[i]? with
      | some (.text c) =>
          if owner marked i = some j then some c else none
      | _ => none

/- The openings that an opening owns, in order. -/
def ownedOpenings
    (j : Nat) : List Nat :=
  (openings marked).filter fun i =>
    owner marked i = some j

variable {marked}

theorem mem_openings_iff
    (i : Nat) :
    i ∈ openings marked ↔
      marked[i]? = some .opening := by
  constructor
  · intro hMem
    simpa using (List.mem_filter.mp hMem).2
  · intro hMark
    have hLength : i < marked.length :=
      (List.getElem?_eq_some_iff.mp hMark).1
    exact List.mem_filter.mpr
      ⟨List.mem_range.mpr hLength, by simpa using hMark⟩

theorem lt_length_of_mem_openings
    {i : Nat}
    (hMem : i ∈ openings marked) :
    i < marked.length :=
  List.mem_range.mp (List.mem_filter.mp hMem).1

/- An owner is an opening to the left. -/
theorem owner_spec
    {i j : Nat}
    (hOwner : owner marked i = some j) :
    j ∈ openings marked ∧ j < i := by
  have hMem := List.mem_of_getLast? hOwner
  rw [List.mem_filter, decide_eq_true_eq] at hMem
  exact ⟨hMem.1, hMem.2.1⟩

theorem mem_ownedOpenings_iff
    (i j : Nat) :
    i ∈ ownedOpenings marked j ↔
      i ∈ openings marked ∧ owner marked i = some j := by
  simp [ownedOpenings]

/- What a node owns lies to its right, within the text. -/
theorem bounds_of_mem_ownedOpenings
    {i j : Nat}
    (hMem : i ∈ ownedOpenings marked j) :
    j < i ∧ i < marked.length := by
  rcases (mem_ownedOpenings_iff i j).mp hMem with
    ⟨hOpening, hOwner⟩
  exact ⟨(owner_spec hOwner).2,
    lt_length_of_mem_openings hOpening⟩

variable (marked)

/-
  The node of an opening: its rank among the openings, the text
  it owns, and the nodes of the openings it owns.
-/
def nodeAt
    (j : Nat) : Node :=
  .mk ((openings marked).idxOf j) (ownedText marked j)
    ((ownedOpenings marked j).attach.map fun i =>
      nodeAt i.1)
termination_by marked.length - j
decreasing_by
  have hBounds := bounds_of_mem_ownedOpenings i.2
  omega

theorem nodeAt_eq
    (j : Nat) :
    nodeAt marked j =
      .mk ((openings marked).idxOf j) (ownedText marked j)
        ((ownedOpenings marked j).map (nodeAt marked)) := by
  rw [nodeAt, List.attach_map_val]

------------------------------------------------------------
-- Going On
------------------------------------------------------------

/- The depth before a position does not change later on. -/
theorem depthAt_append
    (more : List Mark)
    {i : Nat}
    (hLength : i ≤ marked.length) :
    depthAt (marked ++ more) i = depthAt marked i := by
  induction i with
  | zero => rfl
  | succ i ih =>
      have hMark : (marked ++ more)[i]? = marked[i]? :=
        List.getElem?_append_left hLength
      rw [depthAt, depthAt, hMark, ih (by omega)]

/- Going on by one mark adds an opening at most. -/
theorem openings_append_singleton
    (mark : Mark) :
    openings (marked ++ [mark]) =
      openings marked ++
        if mark = .opening then [marked.length] else [] := by
  have hOld :
      (List.range marked.length).filter
          (fun i =>
            (marked ++ [mark])[i]? = some Mark.opening) =
        openings marked := by
    apply List.filter_congr
    intro i hMem
    rw [List.getElem?_append_left
      (List.mem_range.mp hMem)]
  rw [openings, List.length_append, List.length_singleton,
    List.range_succ, List.filter_append, hOld]
  by_cases hMark : mark = .opening
  · simp [hMark]
  · simp [hMark]

/- The owner of a position does not change later on. -/
theorem owner_append_singleton
    (mark : Mark)
    {i : Nat}
    (hLength : i ≤ marked.length) :
    owner (marked ++ [mark]) i = owner marked i := by
  have hOld :
      (openings marked).filter
          (fun j =>
            j < i ∧
              depthAt (marked ++ [mark]) j =
                depthAt (marked ++ [mark]) i - 1) =
        (openings marked).filter
          (fun j =>
            j < i ∧
              depthAt marked j = depthAt marked i - 1) := by
    apply List.filter_congr
    intro j hMem
    have hBefore := lt_length_of_mem_openings hMem
    rw [depthAt_append marked [mark] hLength,
      depthAt_append marked [mark] (by omega)]
  rw [owner, openings_append_singleton,
    List.filter_append, hOld, owner]
  by_cases hMark : mark = .opening
  · have hNew : ¬ marked.length < i := by omega
    simp [hMark, hNew]
  · simp [hMark]

/- A new opening goes to the owner of its position. -/
theorem ownedOpenings_append_singleton
    (mark : Mark)
    (j : Nat) :
    ownedOpenings (marked ++ [mark]) j =
      ownedOpenings marked j ++
        if mark = .opening ∧
            owner marked marked.length = some j then
          [marked.length]
        else [] := by
  have hOld :
      (openings marked).filter
          (fun i => owner (marked ++ [mark]) i = some j) =
        ownedOpenings marked j := by
    apply List.filter_congr
    intro i hMem
    have hBefore := lt_length_of_mem_openings hMem
    rw [owner_append_singleton marked mark (by omega)]
  rw [ownedOpenings, openings_append_singleton,
    List.filter_append, hOld]
  by_cases hMark : mark = .opening
  · simp [hMark, List.filter_singleton,
      owner_append_singleton]
  · simp [hMark]

/- A new character goes to the owner of its position. -/
theorem ownedText_append_singleton
    (mark : Mark)
    (j : Nat) :
    ownedText (marked ++ [mark]) j =
      ownedText marked j ++
        match mark with
        | .text c =>
            if owner marked marked.length = some j then
              String.singleton c
            else ""
        | _ => "" := by
  have hOld :
      (List.range marked.length).filterMap
          (fun i : Nat =>
            match (marked ++ [mark])[i]? with
            | some (.text c) =>
                if owner (marked ++ [mark]) i = some j then
                  some c
                else none
            | _ => none) =
        (ownedText marked j).toList := by
    rw [ownedText, String.toList_ofList]
    apply List.filterMap_congr
    intro i hMem
    have hBefore := List.mem_range.mp hMem
    rw [List.getElem?_append_left hBefore,
      owner_append_singleton marked mark (by omega)]
  rw [ownedText, List.length_append,
    List.length_singleton, List.range_succ,
    List.filterMap_append, hOld, String.ofList_append,
    String.ofList_toList]
  congr 1
  simp only [List.filterMap_cons, List.filterMap_nil,
    List.getElem?_concat_length,
    owner_append_singleton marked mark (Nat.le_refl _)]
  cases mark with
  | opening => rfl
  | closing => rfl
  | text c =>
      by_cases hOwner :
          owner marked marked.length = some j
      · simp [hOwner]
      · simp [hOwner]

------------------------------------------------------------
-- The Owner Of The Next Position
------------------------------------------------------------

theorem depthAt_length_append_singleton
    (mark : Mark) :
    depthAt (marked ++ [mark]) (marked.length + 1) =
      match mark with
      | .opening => depthAt marked marked.length + 1
      | .closing => depthAt marked marked.length - 1
      | .text _ => depthAt marked marked.length := by
  rw [depthAt, List.getElem?_concat_length,
    depthAt_append marked [mark] (Nat.le_refl _)]
  cases mark with
  | opening => rfl
  | closing => rfl
  | text c => rfl

/- The last position that opened a node at a depth. -/
def lastAt
    (depth : Nat) : Option Nat :=
  ((openings marked).filter fun j =>
    depthAt marked j = depth).getLast?

/- The position after a text is owned from one level up. -/
theorem owner_length :
    owner marked marked.length =
      lastAt marked (depthAt marked marked.length - 1) := by
  rw [owner, lastAt]
  congr 1
  apply List.filter_congr
  intro j hMem
  simp [lt_length_of_mem_openings hMem]

theorem lastAt_append_singleton
    (mark : Mark)
    (depth : Nat) :
    lastAt (marked ++ [mark]) depth =
      if mark = .opening ∧
          depthAt marked marked.length = depth then
        some marked.length
      else lastAt marked depth := by
  have hOld :
      (openings marked).filter
          (fun j => depthAt (marked ++ [mark]) j = depth) =
        (openings marked).filter
          (fun j => depthAt marked j = depth) := by
    apply List.filter_congr
    intro j hMem
    have hBefore := lt_length_of_mem_openings hMem
    rw [depthAt_append marked [mark] (by omega)]
  rw [lastAt, openings_append_singleton,
    List.filter_append, hOld, lastAt]
  by_cases hMark : mark = .opening
  · by_cases hDepth :
        depthAt marked marked.length = depth
    · simp [hMark, hDepth, depthAt_append]
    · simp [hMark, hDepth, depthAt_append]
  · simp [hMark]

theorem owner_length_append_singleton
    (mark : Mark) :
    owner (marked ++ [mark]) (marked.length + 1) =
      lastAt (marked ++ [mark])
        (depthAt (marked ++ [mark])
          (marked.length + 1) - 1) := by
  simpa using owner_length (marked ++ [mark])

/- A new node owns what follows directly. -/
theorem owner_after_opening :
    owner (marked ++ [.opening]) (marked.length + 1) =
      some marked.length := by
  rw [owner_length_append_singleton,
    depthAt_length_append_singleton,
    lastAt_append_singleton]
  simp

theorem owner_after_text
    (c : Char) :
    owner (marked ++ [.text c]) (marked.length + 1) =
      owner marked marked.length := by
  rw [owner_length_append_singleton,
    depthAt_length_append_singleton,
    lastAt_append_singleton, owner_length]
  simp

/- After a closing parenthesis the owner is one level up. -/
theorem owner_after_closing :
    owner (marked ++ [.closing]) (marked.length + 1) =
      lastAt marked
        (depthAt marked marked.length - 1 - 1) := by
  rw [owner_length_append_singleton,
    depthAt_length_append_singleton,
    lastAt_append_singleton]
  simp

/- A depth above zero comes from an opening. -/
theorem openings_ne_nil_of_depth
    (hDepth : 0 < depthAt marked marked.length) :
    openings marked ≠ [] := by
  induction marked using List.reverseRecOn with
  | nil => simp [depthAt] at hDepth
  | append_singleton marked mark ih =>
      rw [List.length_append, List.length_singleton,
        depthAt_length_append_singleton] at hDepth
      rw [openings_append_singleton]
      cases mark with
      | opening => simp
      | closing =>
          have hBefore :
              0 < depthAt marked marked.length :=
            Nat.lt_of_lt_of_le hDepth (Nat.sub_le _ 1)
          simpa using ih hBefore
      | text c => simpa using ih hDepth

theorem lt_length_of_lastAt
    {depth j : Nat}
    (hLast : lastAt marked depth = some j) :
    j < marked.length := by
  have hMem := List.mem_of_getLast? hLast
  exact lt_length_of_mem_openings
    (List.mem_filter.mp hMem).1

/-
  Every depth up to that of the owner of the next position has
  a last opening, and each of them owns the one below it.
-/
def Linked : Prop :=
  ∀ depth ≤ depthAt marked marked.length - 1,
    ∃ j,
      lastAt marked depth = some j ∧
        (0 < depth →
          owner marked j = lastAt marked (depth - 1))

/- Depths that the next mark leaves alone stay linked. -/
theorem Linked.append_singleton
    {marked : List Mark}
    (hLinked : Linked marked)
    (mark : Mark)
    {depth : Nat}
    (hDepth : depth ≤ depthAt marked marked.length - 1)
    (hMark :
      mark = .opening →
        depth < depthAt marked marked.length) :
    ∃ j,
      lastAt (marked ++ [mark]) depth = some j ∧
        (0 < depth →
          owner (marked ++ [mark]) j =
            lastAt (marked ++ [mark]) (depth - 1)) := by
  rcases hLinked depth hDepth with ⟨j, hLast, hOwner⟩
  have hBefore := lt_length_of_lastAt marked hLast
  have hKept :
      ∀ below ≤ depth,
        lastAt (marked ++ [mark]) below =
          lastAt marked below := by
    intro below hBelow
    rw [lastAt_append_singleton, if_neg]
    rintro ⟨hOpening, hEq⟩
    have := hMark hOpening
    omega
  refine ⟨j, ?_, ?_⟩
  · rw [hKept depth (Nat.le_refl _), hLast]
  · intro hPositive
    rw [owner_append_singleton marked mark (by omega),
      hKept (depth - 1) (by omega), hOwner hPositive]

/- Once a node was opened, all depths are linked. -/
theorem linked_of_openings_ne_nil
    (hOpenings : openings marked ≠ []) :
    Linked marked := by
  induction marked using List.reverseRecOn with
  | nil => exact absurd rfl hOpenings
  | append_singleton marked mark ih =>
      intro depth hDepth
      rw [List.length_append, List.length_singleton,
        depthAt_length_append_singleton] at hDepth
      rw [openings_append_singleton] at hOpenings
      cases mark with
      | opening =>
          simp only [Nat.add_sub_cancel] at hDepth
          rcases Nat.lt_or_eq_of_le hDepth with
            hLess | hEq
          · have hOld :=
              openings_ne_nil_of_depth marked (by omega)
            exact (ih hOld).append_singleton .opening
              (by omega) (fun _ => hLess)
          · -- The new opening is the last one at its depth.
            refine ⟨marked.length, ?_, ?_⟩
            · rw [lastAt_append_singleton,
                if_pos ⟨rfl, hEq.symm⟩]
            · intro hPositive
              rw [owner_append_singleton marked .opening
                  (Nat.le_refl _),
                owner_length, lastAt_append_singleton,
                if_neg (by omega), hEq]
      | closing =>
          have hOld : openings marked ≠ [] := by
            simpa using hOpenings
          simp only at hDepth
          exact (ih hOld).append_singleton .closing
            (by omega) (by simp)
      | text c =>
          have hOld : openings marked ≠ [] := by
            simpa using hOpenings
          exact (ih hOld).append_singleton (.text c)
            hDepth (by simp)

/- After the first opening every position has an owner. -/
theorem exists_owner
    {first i : Nat}
    (hFirst : first ∈ openings marked)
    (hAfter : first < i)
    (hLength : i ≤ marked.length) :
    ∃ j, owner marked i = some j := by
  induction marked using List.reverseRecOn with
  | nil => simp [openings] at hFirst
  | append_singleton marked mark ih =>
      rcases Nat.lt_or_eq_of_le hLength with hLess | rfl
      · simp only [List.length_append,
          List.length_singleton] at hLess
        have hOld : first ∈ openings marked := by
          rw [mem_openings_iff,
            List.getElem?_append_left (by omega),
            ← mem_openings_iff] at hFirst
          exact hFirst
        rw [owner_append_singleton marked mark (by omega)]
        exact ih hOld (by omega)
      · have hLinked :=
          linked_of_openings_ne_nil (marked ++ [mark])
            (List.ne_nil_of_mem hFirst)
        rcases hLinked _ (Nat.le_refl _) with
          ⟨j, hLast, -⟩
        exact ⟨j, by rw [owner_length, hLast]⟩

end Bracket

end SyntaxOutline

import SyntaxOutline.Proofs.Bracket.Layout
import Mathlib

/-
  A drawing tells its tree.

  A text may hold every character that margins are made of, so
  the text of a node does not show where its margin ends.  The
  number between the two does: no margin holds a digit or a
  sign, and no number holds a space.  So every line tells the
  depth, the number and the text of its node, as long as no
  text has a line end in it.  The depths of nodes in pre-order
  tell the tree, because the nodes below a node are the deeper
  ones up to the next node that is not deeper.

  Key definitions include:
    * `Bracket.Row`
    * `Bracket.Row.ofLine`
    * `Bracket.Place.rowAt`
    * `Bracket.Place.line`

  Main statements:
    * `Bracket.Row.ofLine_line`
    * `Bracket.Node.map_ofLine_draw`
    * `Bracket.Node.eq_of_map_rowAt_append`
    * `Bracket.eq_of_draw_eq`
-/

------------------------------------------------------------
-- Margins
------------------------------------------------------------

namespace SyntaxOutline

namespace Bracket

/- The character occurs in margins. -/
def isMarginal
    (c : Char) : Bool :=
  c ∈ ['│', '├', '└', '─', ' ']

/- All characters of a text occur in margins. -/
def IsMargin
    (text : String) : Prop :=
  ∀ c ∈ text.toList, isMarginal c = true

theorem IsMargin.append
    {front back : String}
    (hFront : IsMargin front)
    (hBack : IsMargin back) :
    IsMargin (front ++ back) := by
  intro c hMem
  rw [String.toList_append, List.mem_append] at hMem
  rcases hMem with hMem | hMem
  · exact hFront c hMem
  · exact hBack c hMem

theorem isMargin_branchOf
    (isLast : Bool) :
    IsMargin (branchOf isLast) := by
  unfold IsMargin
  cases isLast with
  | false => simp [branchOf, isMarginal]
  | true => simp [branchOf, isMarginal]

theorem isMargin_indentOf
    (isLast : Bool) :
    IsMargin (indentOf isLast) := by
  unfold IsMargin
  cases isLast with
  | false => simp [indentOf, isMarginal]
  | true => simp [indentOf, isMarginal]

namespace Place

theorem firstMargin_singleton
    (isLast : Bool) :
    firstMargin [isLast] = branchOf isLast := by
  simp [firstMargin]

theorem isMargin_firstMargin
    (path : List Bool) :
    IsMargin (firstMargin path) := by
  induction path with
  | nil =>
      intro c hMem
      simp [firstMargin] at hMem
  | cons isLast path ih =>
      cases path with
      | nil =>
          rw [firstMargin_singleton]
          exact isMargin_branchOf isLast
      | cons next path =>
          rw [firstMargin_cons (by simp)]
          exact (isMargin_indentOf isLast).append ih

/- A margin has three characters for each node on the path. -/
theorem length_firstMargin
    (path : List Bool) :
    (firstMargin path).toList.length = 3 * path.length := by
  induction path with
  | nil => simp [firstMargin]
  | cons isLast path ih =>
      cases path with
      | nil =>
          rw [firstMargin_singleton]
          cases isLast with
          | false => decide
          | true => decide
      | cons next path =>
          have hIndent :
              (indentOf isLast).toList.length = 3 := by
            cases isLast with
            | false => decide
            | true => decide
          rw [firstMargin_cons (by simp),
            String.toList_append, List.length_append,
            hIndent, ih]
          simp only [List.length_cons]
          omega

end Place

------------------------------------------------------------
-- Numbers Behind Margins
------------------------------------------------------------

/- A number is written with digits, maybe behind a sign. -/
theorem eq_sign_or_isDigit
    {number : Int}
    {c : Char}
    (hMem : c ∈ (toString number).toList) :
    c = '-' ∨ c.isDigit = true := by
  have hDigits :
      ∀ n : Nat, c ∈ n.repr.toList → c.isDigit = true := by
    intro n hDigit
    rw [Nat.repr_eq_ofList_toDigits,
      String.toList_ofList] at hDigit
    exact Nat.isDigit_of_mem_toDigits (by decide)
      (by decide) hDigit
  rw [Int.toString_eq_repr, Int.repr_eq_if] at hMem
  split at hMem
  · exact .inr (hDigits _ hMem)
  · rw [String.toList_append, List.mem_append] at hMem
    rcases hMem with hSign | hDigit
    · exact .inl (by simpa using hSign)
    · exact .inr (hDigits _ hDigit)

theorem toString_ne_nil
    (number : Int) :
    (toString number).toList ≠ [] := by
  rw [Int.toString_eq_repr, Int.repr_eq_if]
  split
  · rw [Nat.repr_eq_ofList_toDigits, String.toList_ofList]
    exact Nat.toDigits_ne_nil
  · simp

/- No character of a number occurs in margins. -/
theorem not_isMarginal_of_mem_toString
    {number : Int}
    {c : Char}
    (hMem : c ∈ (toString number).toList) :
    isMarginal c = false := by
  rcases eq_sign_or_isDigit hMem with rfl | hDigit
  · decide
  · cases hMargin : isMarginal c with
    | false => rfl
    | true =>
        have hCases :
            c = '│' ∨ c = '├' ∨ c = '└' ∨ c = '─' ∨
              c = ' ' := by
          simpa [isMarginal] using hMargin
        rcases hCases with rfl | rfl | rfl | rfl | rfl <;>
          exact absurd hDigit (by decide)

theorem lineEnd_not_mem_toString
    (number : Int) :
    '\n' ∉ (toString number).toList := by
  intro hMem
  rcases eq_sign_or_isDigit hMem with hSign | hDigit
  · exact absurd hSign (by decide)
  · exact absurd hDigit (by decide)

------------------------------------------------------------
-- Rows
------------------------------------------------------------

/- What a line tells about its node. -/
structure Row where
  depth : Nat
  id : Int
  value : String
  deriving DecidableEq, Repr

/-
  A line is taken apart at the end of its margin and at the
  first space behind it.
-/
def Row.ofLine
    (line : String) : Row :=
  let heading := line.toList.dropWhile isMarginal
  { depth := (line.toList.takeWhile isMarginal).length / 3
    id :=
      ((String.ofList
        (heading.takeWhile (· ≠ ' '))).toInt?).getD 0
    value :=
      String.ofList ((heading.dropWhile (· ≠ ' ')).drop 1) }

namespace Place

/- The row of a place in a tree whose root is at a depth. -/
def rowAt
    (depth : Nat)
    (place : Place) : Row :=
  ⟨depth + place.path.length, place.node.id,
    place.node.value⟩

/- The only line of a place whose text has no line end. -/
def line
    (place : Place) : String :=
  firstMargin place.path ++
    (toString place.node.id ++ " " ++ place.node.value)

theorem lines_of_single
    {place : Place}
    (hValue : '\n' ∉ place.node.value.toList) :
    place.lines = [place.line] := by
  let heading :=
    toString place.node.id ++ " " ++ place.node.value
  have hHeading : '\n' ∉ heading.toList := by
    simp only [heading, String.toList_append,
      List.mem_append, not_or]
    exact ⟨⟨lineEnd_not_mem_toString _, by decide⟩, hValue⟩
  have hPieces :
      Text.splitAt '\n' heading = [heading] := by
    rw [Text.splitAt, ← List.append_nil heading.toList,
      Text.pieces_append_of_not_mem hHeading]
    simp [Text.pieces]
  change hang _ _ (Text.splitAt '\n' heading) = _
  rw [hPieces]
  rfl

end Place

/- What is written before a stop can be told from the rest. -/
theorem span_of_stop
    {p : Char → Bool}
    {front back : List Char}
    (hFront : ∀ c ∈ front, p c = true)
    (hBack : ∀ c ∈ back.head?, p c = false) :
    (front ++ back).takeWhile p = front ∧
      (front ++ back).dropWhile p = back := by
  rw [List.takeWhile_append_of_pos hFront,
    List.dropWhile_append_of_pos hFront]
  cases back with
  | nil => simp
  | cons c back =>
      have hStop : p c = false := hBack c rfl
      simp [hStop]

/- A line tells depth, number and text of its node. -/
theorem Row.ofLine_line
    (place : Place) :
    Row.ofLine place.line = place.rowAt 0 := by
  let number := (toString place.node.id).toList
  let behind := ' ' :: place.node.value.toList
  have hLine :
      place.line.toList =
        (Place.firstMargin place.path).toList ++
          (number ++ behind) := by
    simp [Place.line, number, behind]
  have hHeading :
      ∀ c ∈ (number ++ behind).head?,
        isMarginal c = false := by
    intro c hHead
    have hFirst : c ∈ number.head? := by
      rwa [List.head?_append_of_ne_nil _
        (toString_ne_nil place.node.id)] at hHead
    exact not_isMarginal_of_mem_toString
      (List.mem_of_mem_head? hFirst)
  have hNumber :
      ∀ c ∈ number, decide (c ≠ ' ') = true := by
    intro c hMem
    have hMargin := not_isMarginal_of_mem_toString hMem
    simp only [decide_eq_true_eq]
    rintro rfl
    exact absurd hMargin (by decide)
  rcases span_of_stop
      (Place.isMargin_firstMargin place.path) hHeading with
    ⟨hMargin, hRest⟩
  have hSpace :
      ∀ c ∈ behind.head?, decide (c ≠ ' ') = false := by
    simp [behind]
  rcases span_of_stop hNumber hSpace with ⟨hId, hValue⟩
  have hRead :
      (String.ofList number).toInt? =
        some place.node.id := by
    simp [number, Int.toString_eq_repr]
  simp only [Row.ofLine, hLine, hMargin, hRest, hId,
    hValue, hRead, Place.length_firstMargin]
  simp [Place.rowAt, behind]

------------------------------------------------------------
-- Depths Tell The Tree
------------------------------------------------------------

namespace Node

theorem rowAt_below
    (depth : Nat)
    (isLast : Bool)
    (place : Place) :
    (place.below isLast).rowAt depth =
      place.rowAt (depth + 1) := by
  simp only [Place.rowAt, Place.below, List.length_cons]
  congr 1
  omega

/- A tree is its root, what is below it, what is behind it. -/
theorem map_rowAt_placesBelow
    (depth : Nat)
    (id : Int)
    (value : String)
    (children rest : List Node) :
    (placesBelow (mk id value children :: rest)).map
        (Place.rowAt depth) =
      ⟨depth + 1, id, value⟩ ::
        ((placesBelow children).map
            (Place.rowAt (depth + 1)) ++
          (placesBelow rest).map (Place.rowAt depth)) := by
  have hBelow :
      Place.rowAt depth ∘ Place.below rest.isEmpty =
        Place.rowAt (depth + 1) := by
    funext place
    exact rowAt_below depth rest.isEmpty place
  rw [placesBelow, List.map_append, List.map_map, hBelow,
    places, List.map_cons, List.cons_append]
  rfl

/- The first row of some trees is that of the first root. -/
theorem head?_map_rowAt
    (depth : Nat)
    (id : Int)
    (value : String)
    (children trees : List Node)
    (rest : List Row) :
    ((placesBelow (mk id value children :: trees)).map
        (Place.rowAt depth) ++ rest).head? =
      some ⟨depth + 1, id, value⟩ := by
  rw [map_rowAt_placesBelow]
  rfl

/-
  Siblings come before a row that is not as deep as they are,
  so they are not as deep as what is below them.
-/
theorem depth_head?_le
    {depth : Nat}
    {rest : List Row}
    (hRest : ∀ row ∈ rest.head?, row.depth ≤ depth)
    (trees : List Node) :
    ∀ row ∈ ((placesBelow trees).map (Place.rowAt depth) ++
        rest).head?,
      row.depth ≤ depth + 1 := by
  intro row hRow
  rcases trees with - | ⟨⟨id, value, children⟩, trees⟩
  · have hDepth : row.depth ≤ depth := hRest row hRow
    omega
  · rw [head?_map_rowAt] at hRow
    rw [← Option.some.inj hRow]

/-
  Trees can be told from their rows, and from the rows that
  follow, when these begin with one that is not as deep.
-/
theorem eq_of_map_rowAt_append
    {depth : Nat}
    {trees others : List Node}
    {rest more : List Row}
    (hRest : ∀ row ∈ rest.head?, row.depth ≤ depth)
    (hMore : ∀ row ∈ more.head?, row.depth ≤ depth)
    (hRows :
      (placesBelow trees).map (Place.rowAt depth) ++ rest =
        (placesBelow others).map (Place.rowAt depth) ++
          more) :
    trees = others ∧ rest = more := by
  -- The rows behind the children of the first tree are those
  -- of its siblings, so both hypotheses hold one level down.
  induction trees using forest_induction
    generalizing depth others rest more with
  | nil =>
      rcases others with - | ⟨⟨id, value, children⟩, others⟩
      · exact ⟨rfl, hRows⟩
      · have hHead :
            rest.head? = some ⟨depth + 1, id, value⟩ := by
          rw [← head?_map_rowAt depth id value children
            others more, ← hRows]
          rfl
        exact absurd (hRest _ hHead)
          (Nat.not_succ_le_self depth)
  | cons id value children trees ihChildren ihTrees =>
      rcases others with
        - | ⟨⟨otherId, otherValue, nodes⟩, others⟩
      · have hHead :
            more.head? = some ⟨depth + 1, id, value⟩ := by
          rw [← head?_map_rowAt depth id value children
            trees rest, hRows]
          rfl
        exact absurd (hMore _ hHead)
          (Nat.not_succ_le_self depth)
      · rw [map_rowAt_placesBelow, map_rowAt_placesBelow,
          List.cons_append, List.cons_append,
          List.append_assoc, List.append_assoc,
          List.cons.injEq, Row.mk.injEq] at hRows
        rcases hRows with ⟨⟨-, rfl, rfl⟩, hBelow⟩
        rcases ihChildren (depth_head?_le hRest trees)
            (depth_head?_le hMore others) hBelow with
          ⟨rfl, hBehind⟩
        rcases ihTrees hRest hMore hBehind with ⟨rfl, hEnd⟩
        exact ⟨rfl, hEnd⟩

/- The rows of a tree in pre-order tell the tree. -/
theorem eq_of_map_rowAt
    {tree other : Node}
    (hRows :
      tree.places.map (Place.rowAt 0) =
        other.places.map (Place.rowAt 0)) :
    tree = other := by
  rcases tree with ⟨id, value, children⟩
  rcases other with ⟨id', value', children'⟩
  rw [places, places, List.map_cons, List.map_cons,
    List.cons.injEq] at hRows
  rcases hRows with ⟨hRoot, hBelow⟩
  have hSame : id = id' ∧ value = value' := by
    simpa [Place.rowAt] using hRoot
  have hNone :
      ∀ row ∈ ([] : List Row).head?, row.depth ≤ 0 := by
    simp
  rcases eq_of_map_rowAt_append hNone hNone
      (by simpa using hBelow) with
    ⟨hChildren, -⟩
  rw [hSame.1, hSame.2, hChildren]

------------------------------------------------------------
-- Drawings Tell The Tree
------------------------------------------------------------

/- Read line by line, a drawing gives the rows of its tree. -/
theorem map_ofLine_draw
    {tree : Node}
    (hValues :
      ∀ node ∈ tree.preorder, '\n' ∉ node.value.toList) :
    (Text.splitAt '\n' tree.draw).map Row.ofLine =
      tree.places.map (Place.rowAt 0) := by
  have hLines :
      tree.places.flatMap Place.lines =
        tree.places.map Place.line := by
    rw [← List.flatMap_pure_eq_map]
    apply List.flatMap_congr
    intro place hMem
    apply Place.lines_of_single
    apply hValues
    rw [← map_node_places]
    exact List.mem_map_of_mem hMem
  rw [splitAt_draw, hLines, List.map_map]
  apply List.map_congr_left
  intro place _
  exact Row.ofLine_line place

end Node

/-
  Two trees whose texts have no line ends have the same drawing
  only if they are the same tree, whatever their numbers are
  and whatever else their texts hold.
-/
theorem eq_of_draw_eq
    {tree other : Node}
    (hTree :
      ∀ node ∈ tree.preorder, '\n' ∉ node.value.toList)
    (hOther :
      ∀ node ∈ other.preorder, '\n' ∉ node.value.toList)
    (hDraw : draw (some tree) = draw (some other)) :
    tree = other := by
  apply Node.eq_of_map_rowAt
  rw [← Node.map_ofLine_draw hTree,
    ← Node.map_ofLine_draw hOther, Except.ok.inj hDraw]

/- Two children whose texts look like lines of a drawing. -/
def branchLike : Node :=
  .mk 0 "a" [.mk 1 "├──2 b" [], .mk 2 "│  └──-3 c" []]

/- A tree that is drawn like them once it is numbered. -/
theorem eq_of_draw_eq_of_branchLike :
    (∀ node ∈ branchLike.preorder,
        '\n' ∉ node.value.toList) ∧
      draw (some branchLike) =
        .ok "0 a\n├──1 ├──2 b\n└──2 │  └──-3 c" ∧
      draw (some (branchLike.renumber 0)) =
        draw (some branchLike) ∧
      branchLike.renumber 0 = branchLike := by
  have hTexts :
      ∀ node ∈ branchLike.preorder,
        '\n' ∉ node.value.toList := by
    decide
  have hNumbered :
      ∀ node ∈ (branchLike.renumber 0).preorder,
        '\n' ∉ node.value.toList := by
    decide
  have hDraw :
      draw (some (branchLike.renumber 0)) =
        draw (some branchLike) := rfl
  exact ⟨hTexts, by decide, hDraw,
    eq_of_draw_eq hNumbered hTexts hDraw⟩

/- With a line end in it, a text can pass for a child. -/
example :
    (Node.mk 0 "a\n└──1 b" []).draw =
      (Node.mk 0 "a" [.mk 1 "b" []]).draw := by
  decide

end Bracket

end SyntaxOutline

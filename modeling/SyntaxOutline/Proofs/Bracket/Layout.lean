import SyntaxOutline.Bracket.Drawing
import SyntaxOutline.Proofs.Bracket.Preorder
import SyntaxOutline.Text.Pieces

/-
  The lines of a drawing, from the root down.

  A drawing is made from the bottom up: every node moves the
  finished drawings of its children to the right, line by line.
  Here the lines are given from the top.  A place is a node
  with its path, which says of every node from below the root
  down to it whether it is the last of its siblings.  The path
  alone tells what stands before the lines of a node, and the
  lines of all places in pre-order are the drawing.

  Key definitions include:
    * `Bracket.Place`
    * `Bracket.Place.lines`
    * `Bracket.Node.places`

  Main statements:
    * `Bracket.splitAt_hang`
    * `Bracket.Place.lines_below`
    * `Bracket.Node.splitAt_drawBelow`
    * `Bracket.draw_eq_lines`
-/

------------------------------------------------------------
-- Places
------------------------------------------------------------

namespace SyntaxOutline

namespace Bracket

/-
  A node and, for every node on the way down to it, the root
  left out, whether it is the last of its siblings.
-/
structure Place where
  path : List Bool
  node : Node
  deriving Repr

namespace Place

/- The place as it is seen from the parent of its root. -/
def below
    (isLast : Bool)
    (place : Place) : Place :=
  { place with path := isLast :: place.path }

end Place

namespace Node

mutual

/- The places of a tree in pre-order. -/
def places : Node → List Place
  | mk id value children =>
      ⟨[], mk id value children⟩ :: placesBelow children

/- The places of siblings, of which the last one is known. -/
def placesBelow : List Node → List Place
  | [] => []
  | child :: rest =>
      (places child).map (Place.below rest.isEmpty) ++
        placesBelow rest

end

theorem map_node_below
    (isLast : Bool)
    (places : List Place) :
    (places.map (Place.below isLast)).map Place.node =
      places.map Place.node := by
  rw [List.map_map]
  rfl

/- The places of siblings are their nodes in pre-order. -/
theorem map_node_placesBelow
    (trees : List Node) :
    (placesBelow trees).map Place.node =
      preorderAll trees := by
  induction trees using forest_induction with
  | nil => simp [placesBelow]
  | cons id value children rest ihChildren ihRest =>
      rw [placesBelow, List.map_append, map_node_below,
        places, List.map_cons, ihChildren, ihRest,
        preorderAll_cons]
      rfl

/- The places of a tree are its nodes in pre-order. -/
theorem map_node_places
    (tree : Node) :
    tree.places.map Place.node = tree.preorder := by
  rcases tree with ⟨id, value, children⟩
  rw [places, List.map_cons, map_node_placesBelow, preorder]

/- Below a root every path leads somewhere. -/
theorem path_ne_nil_of_mem_placesBelow
    {trees : List Node}
    {place : Place}
    (hMem : place ∈ placesBelow trees) :
    place.path ≠ [] := by
  induction trees with
  | nil => simp [placesBelow] at hMem
  | cons child rest ih =>
      rw [placesBelow, List.mem_append, List.mem_map] at hMem
      rcases hMem with ⟨inner, -, rfl⟩ | hMem
      · simp [Place.below]
      · exact ih hMem

end Node

------------------------------------------------------------
-- Lines Of A Place
------------------------------------------------------------

/- What leads from the line above to a node. -/
def branchOf
    (isLast : Bool) : String :=
  if isLast then "└──" else "├──"

/- What runs past everything that is below a node. -/
def indentOf
    (isLast : Bool) : String :=
  if isLast then "   " else "│  "

/-
  Put one text before the first of some lines and another one
  before all further lines.
-/
def hang
    (first further : String) :
    List String → List String
  | [] => []
  | line :: others =>
      (first ++ line) :: others.map (further ++ ·)

namespace Place

/- Before the first line: past the path, then to the node. -/
def firstMargin
    (path : List Bool) : String :=
  String.join (path.dropLast.map indentOf) ++
    (path.getLast?.map branchOf).getD ""

/- Before the further lines: past the whole path. -/
def furtherMargin
    (path : List Bool) : String :=
  String.join (path.map indentOf)

/- Number, space and text of the node, line by line. -/
def lines
    (place : Place) : List String :=
  hang (firstMargin place.path) (furtherMargin place.path)
    (Text.splitAt '\n'
      (toString place.node.id ++ " " ++ place.node.value))

end Place

theorem hang_empty
    (lines : List String) :
    hang "" "" lines = lines := by
  cases lines with
  | nil => rfl
  | cons line others => simp [hang]

/- Lines added at the end are further lines. -/
theorem hang_append
    {lines : List String}
    (hLines : lines ≠ [])
    (first further : String)
    (more : List String) :
    hang first further (lines ++ more) =
      hang first further lines ++ more.map (further ++ ·) := by
  cases lines with
  | nil => exact absurd rfl hLines
  | cons line others => simp [hang]

/- A text before all lines goes before both margins. -/
theorem map_hang
    (pad first further : String)
    (lines : List String) :
    (hang first further lines).map (pad ++ ·) =
      hang (pad ++ first) (pad ++ further) lines := by
  cases lines with
  | nil => rfl
  | cons line others =>
      simp [hang, String.append_assoc]

namespace Place

theorem firstMargin_cons
    {path : List Bool}
    (hPath : path ≠ [])
    (isLast : Bool) :
    firstMargin (isLast :: path) =
      indentOf isLast ++ firstMargin path := by
  cases path with
  | nil => exact absurd rfl hPath
  | cons flag path =>
      simp [firstMargin, String.append_assoc]

theorem furtherMargin_cons
    (isLast : Bool)
    (path : List Bool) :
    furtherMargin (isLast :: path) =
      indentOf isLast ++ furtherMargin path := by
  simp [furtherMargin]

/- Deeper places are indented once more from above. -/
theorem lines_below
    {place : Place}
    (hPath : place.path ≠ [])
    (isLast : Bool) :
    (place.below isLast).lines =
      place.lines.map (indentOf isLast ++ ·) := by
  rw [lines, lines, map_hang, below,
    firstMargin_cons hPath, furtherMargin_cons]

/- The lines of a root have no margin. -/
theorem lines_root
    (node : Node) :
    lines ⟨[], node⟩ =
      Text.splitAt '\n'
        (toString node.id ++ " " ++ node.value) :=
  hang_empty _

theorem lines_root_ne_nil
    (node : Node) :
    lines ⟨[], node⟩ ≠ [] := by
  rw [lines_root, Text.splitAt, Ne, List.map_eq_nil_iff]
  exact Text.pieces_ne_nil _ _

/- A root hangs from the branch that leads to it. -/
theorem lines_root_below
    (node : Node)
    (isLast : Bool) :
    (below isLast ⟨[], node⟩).lines =
      hang (branchOf isLast) (indentOf isLast)
        (lines ⟨[], node⟩) := by
  rw [lines_root]
  simp [below, lines, firstMargin, furtherMargin]

end Place

------------------------------------------------------------
-- Lines Of A Moved Block
------------------------------------------------------------

/- A pad behind every line end starts every further line. -/
theorem pieces_flatMap_pad
    {pad block line : List Char}
    {others : List (List Char)}
    (hPad : '\n' ∉ pad)
    (hBlock : Text.pieces '\n' block = line :: others) :
    Text.pieces '\n'
        (block.flatMap fun c =>
          if c = '\n' then c :: pad else [c]) =
      line :: others.map (pad ++ ·) := by
  induction block generalizing line others with
  | nil =>
      rw [Text.pieces, List.cons.injEq] at hBlock
      rcases hBlock with ⟨rfl, rfl⟩
      rfl
  | cons c rest ih =>
      cases hRest : Text.pieces '\n' rest with
      | nil => exact absurd hRest (Text.pieces_ne_nil _ _)
      | cons next more =>
          have hPadded := ih hRest
          by_cases hEnd : c = '\n'
          · simp only [Text.pieces, hEnd, if_true, hRest,
              List.cons.injEq] at hBlock
            rcases hBlock with ⟨rfl, rfl⟩
            simp [hEnd, Text.pieces,
              Text.pieces_append_of_not_mem hPad, hPadded]
          · simp only [Text.pieces, hEnd, if_false, hRest,
              Text.prepend, List.cons.injEq] at hBlock
            rcases hBlock with ⟨rfl, rfl⟩
            simp [hEnd, Text.pieces, hPadded, Text.prepend]

/- A block behind a branch hangs from it. -/
theorem splitAt_hang
    {first further : String}
    (hFirst : '\n' ∉ first.toList)
    (hFurther : '\n' ∉ further.toList)
    (block : String) :
    Text.splitAt '\n' (first ++ indent further block) =
      hang first further (Text.splitAt '\n' block) := by
  cases hBlock : Text.pieces '\n' block.toList with
  | nil => exact absurd hBlock (Text.pieces_ne_nil _ _)
  | cons line others =>
      rw [Text.splitAt, Text.splitAt, String.toList_append,
        indent, String.toList_ofList,
        Text.pieces_append_of_not_mem hFirst,
        pieces_flatMap_pad hFurther hBlock, hBlock]
      simp [hang, String.ofList_append,
        Function.comp_def]

/- A line end divides a text into the lines on both sides. -/
theorem splitAt_append_lineEnd
    (front back : String) :
    Text.splitAt '\n' (front ++ "\n" ++ back) =
      Text.splitAt '\n' front ++ Text.splitAt '\n' back := by
  simp [Text.splitAt, Text.pieces_append_mark]

/- Joined by line ends, the lines of a text are the text. -/
theorem intercalate_splitAt
    (text : String) :
    "\n".intercalate (Text.splitAt '\n' text) = text := by
  rw [← String.toList_inj, String.toList_intercalate,
    Text.splitAt, List.map_map]
  simpa [Function.comp_def] using
    Text.intercalate_pieces '\n' text.toList

------------------------------------------------------------
-- Lines Of A Drawing
------------------------------------------------------------

theorem not_mem_branchOf
    (isLast : Bool) :
    '\n' ∉ (branchOf isLast).toList := by
  cases isLast with
  | false => decide
  | true => decide

theorem not_mem_indentOf
    (isLast : Bool) :
    '\n' ∉ (indentOf isLast).toList := by
  cases isLast with
  | false => decide
  | true => decide

namespace Node

/- Siblings follow each other, each behind its own branch. -/
theorem drawBelow_cons
    (child : Node)
    (rest : List Node) :
    drawBelow (child :: rest) =
      "\n" ++
        (branchOf rest.isEmpty ++
          indent (indentOf rest.isEmpty) child.draw) ++
        drawBelow rest := by
  cases rest with
  | nil =>
      rw [drawBelow, drawBelow, String.append_empty,
        String.append_assoc]
      rfl
  | cons sibling rest =>
      have hBlock :
          "\n" ++ branch ++ indent pipeIndent child.draw =
            "\n" ++
              (branch ++ indent pipeIndent child.draw) :=
        String.append_assoc
      rw [drawBelow, hBlock]
      rfl

/-
  All lines of a tree, seen from the parent of its root, hang
  from the branch that leads to the root.
-/
theorem flatMap_lines_below
    (tree : Node)
    (isLast : Bool) :
    (tree.places.map (Place.below isLast)).flatMap
        Place.lines =
      hang (branchOf isLast) (indentOf isLast)
        (tree.places.flatMap Place.lines) := by
  rcases tree with ⟨id, value, children⟩
  have hBelow :
      ((placesBelow children).map
          (Place.below isLast)).flatMap Place.lines =
        ((placesBelow children).flatMap
          Place.lines).map (indentOf isLast ++ ·) := by
    rw [List.flatMap_map, List.map_flatMap]
    apply List.flatMap_congr
    intro place hMem
    exact Place.lines_below
      (path_ne_nil_of_mem_placesBelow hMem) isLast
  rw [places, List.map_cons, List.flatMap_cons,
    List.flatMap_cons, hBelow, Place.lines_root_below,
    hang_append (Place.lines_root_ne_nil _)]

/- A tree has the lines of its root, then those below it. -/
theorem splitAt_draw_of_below
    {children : List Node}
    (hBelow :
      ∀ front : String,
        Text.splitAt '\n' (front ++ drawBelow children) =
          Text.splitAt '\n' front ++
            (placesBelow children).flatMap Place.lines)
    (id : Int)
    (value : String) :
    Text.splitAt '\n' (mk id value children).draw =
      (mk id value children).places.flatMap
        Place.lines := by
  rw [draw, hBelow, places, List.flatMap_cons,
    Place.lines_root]
  rfl

/-
  What is drawn below a text adds the lines of the places
  below it.
-/
theorem splitAt_drawBelow
    (trees : List Node)
    (front : String) :
    Text.splitAt '\n' (front ++ drawBelow trees) =
      Text.splitAt '\n' front ++
        (placesBelow trees).flatMap Place.lines := by
  induction trees using forest_induction
    generalizing front with
  | nil => simp [drawBelow, placesBelow]
  | cons id value children rest ihChildren ihRest =>
      let child := mk id value children
      let block :=
        branchOf rest.isEmpty ++
          indent (indentOf rest.isEmpty) child.draw
      have hBlock :
          Text.splitAt '\n' block =
            (child.places.map
              (Place.below rest.isEmpty)).flatMap
                Place.lines := by
        rw [flatMap_lines_below,
          ← splitAt_draw_of_below ihChildren]
        exact splitAt_hang (not_mem_branchOf _)
          (not_mem_indentOf _) child.draw
      calc
        Text.splitAt '\n' (front ++ drawBelow (child :: rest))
          = Text.splitAt '\n'
              (front ++ "\n" ++ block ++ drawBelow rest) := by
            rw [drawBelow_cons]
            simp only [block, String.append_assoc]
        _ = Text.splitAt '\n' front ++
              Text.splitAt '\n' block ++
              (placesBelow rest).flatMap Place.lines := by
            rw [ihRest, splitAt_append_lineEnd]
        _ = Text.splitAt '\n' front ++
              (placesBelow (child :: rest)).flatMap
                Place.lines := by
            rw [hBlock, placesBelow, List.flatMap_append,
              List.append_assoc]

/- The lines of a drawing are the lines of its places. -/
theorem splitAt_draw
    (tree : Node) :
    Text.splitAt '\n' tree.draw =
      tree.places.flatMap Place.lines := by
  rcases tree with ⟨id, value, children⟩
  exact splitAt_draw_of_below (splitAt_drawBelow children)
    id value

end Node

/-
  A drawing has, for every node in pre-order, the lines of its
  number and text.  The first one stands behind the margins of
  the nodes on its path and the branch that leads to it, the
  further ones behind the margins of the whole path.
-/
theorem draw_eq_lines
    (tree : Node) :
    draw (some tree) =
        .ok ("\n".intercalate
          (tree.places.flatMap Place.lines)) ∧
      tree.places.map Place.node = tree.preorder := by
  refine ⟨?_, tree.map_node_places⟩
  rw [← Node.splitAt_draw, intercalate_splitAt, draw]

/- A child whose text has two lines, over a child of its own. -/
example :
    (Node.mk 0 "r"
        [.mk 1 "a\nb" [.mk 2 "c" []],
          .mk 3 "d" []]).places.flatMap Place.lines =
      ["0 r", "├──1 a", "│  b", "│  └──2 c", "└──3 d"] := by
  decide

end Bracket

end SyntaxOutline

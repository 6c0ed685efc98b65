import SyntaxOutline.Span.Conversion

/-
  Conversion of spans, laid out flat.

  `Converts` says what spans side by side are converted to,
  with one rule for each way in which a span takes part: as a
  hidden token, as a terminal, and as a rule.  A rule adds
  nothing to the tape itself, so the tape only sees the spans
  that become tokens, one after the other, whatever rules
  stand around them.

  Key definitions include:
    * `Span.Converts`
    * `Span.Piece`
    * `Span.pieces`
    * `Span.Tape.lay`
    * `Span.terminalsOn`
    * `Span.fullTape`

  Main statements:
    * `Span.converts_convertAll`
    * `Span.Converts.tape_eq`
    * `Span.Converts.terminals_eq`
    * `Span.terminals_convert`
-/

------------------------------------------------------------
-- Induction Over Lists Of Spans
------------------------------------------------------------

namespace SyntaxOutline

/-
  A property of lists of spans holds of all of them when it
  passes on from the parts of a span and the spans behind it.
-/
@[elab_as_elim]
theorem SpanTree.forest_induction
    {motive : List SpanTree → Prop}
    (nil : motive [])
    (node :
      ∀ span children rest,
        motive children → motive rest →
          motive (.mk span children :: rest))
    (trees : List SpanTree) :
    motive trees :=
  match trees with
  | [] => nil
  | .mk span children :: rest =>
      node span children rest
        (forest_induction nil node children)
        (forest_induction nil node rest)

/- The terminals of lists put together. -/
theorem Cst.terminalsAll_append
    (front back : List Cst) :
    terminalsAll (front ++ back) =
      terminalsAll front ++ terminalsAll back := by
  induction front with
  | nil => simp [terminalsAll]
  | cons child front ih => simp [terminalsAll, ih]

------------------------------------------------------------
-- Derivations
------------------------------------------------------------

namespace Span

variable (source : List UInt8) (isToken : String → Bool)

/-
  The children of a rule that come from some spans, and the
  tapes before and after them.
-/
inductive Converts :
    Int → List SpanTree → Tape → List Cst → Tape → Prop where
  | nil
      {rule : Int}
      {t : Tape} :
      Converts rule [] t [] t
  | extra
      {rule : Int}
      {span : Span}
      {children rest : List SpanTree}
      {t last : Tape}
      {others : List Cst}
      (hExtra : span.isExtra = true)
      (hRest :
        Converts rule rest
          (t.add source span Token.hiddenChannel).2
          others last) :
      Converts rule (.mk span children :: rest) t others last
  | token
      {rule : Int}
      {span : Span}
      {children rest : List SpanTree}
      {t next last : Tape}
      {symbol : Token}
      {others : List Cst}
      (hExtra : span.isExtra = false)
      (hAtom : isAtom isToken span children = true)
      (hAdd :
        t.add source span Token.defaultChannel =
          (symbol, next))
      (hRest : Converts rule rest next others last) :
      Converts rule (.mk span children :: rest) t
        (.terminal ⟨symbol.text, some symbol, some rule⟩ ::
          others) last
  | rule
      {rule : Int}
      {span : Span}
      {children rest : List SpanTree}
      {t next last : Tape}
      {inner others : List Cst}
      (hExtra : span.isExtra = false)
      (hAtom : isAtom isToken span children = false)
      (hChildren : Converts span.kind children t inner next)
      (hRest : Converts rule rest next others last) :
      Converts rule (.mk span children :: rest) t
        (.rule (some span.kind) inner :: others) last

/- Conversion follows a derivation. -/
theorem converts_convertAll
    (rule : Int)
    (trees : List SpanTree)
    (t : Tape) :
    Converts source isToken rule trees t
      (convertAll source isToken rule trees t).1
      (convertAll source isToken rule trees t).2 := by
  induction trees using SpanTree.forest_induction
    generalizing rule t with
  | nil => exact .nil
  | node span children rest ihChildren ihRest =>
      rw [convertAll, convertOne]
      by_cases hExtra : span.isExtra = true
      · rw [if_pos hExtra]
        exact .extra hExtra (ihRest rule _)
      · rw [if_neg hExtra]
        rw [Bool.not_eq_true] at hExtra
        by_cases hAtom : isAtom isToken span children = true
        · rw [if_pos hAtom]
          exact .token hExtra hAtom rfl (ihRest rule _)
        · rw [if_neg hAtom]
          rw [Bool.not_eq_true] at hAtom
          exact .rule hExtra hAtom (ihChildren span.kind t)
            (ihRest rule _)

------------------------------------------------------------
-- Pieces
------------------------------------------------------------

/- A span that becomes a token, with the rule right around it. -/
structure Piece where
  rule : Int
  span : Span
  deriving DecidableEq, Repr

namespace Piece

/- The piece becomes a token of the tree. -/
def IsVisible
    (p : Piece) : Prop :=
  p.span.isExtra = false

instance
    (p : Piece) :
    Decidable p.IsVisible := by
  unfold IsVisible
  infer_instance

/- The channel of the token of the piece. -/
def channel
    (p : Piece) : Int :=
  if p.IsVisible then Token.defaultChannel
  else Token.hiddenChannel

end Piece

mutual

/-
  The spans that become tokens, in order: those that may stand
  anywhere, those without parts, and those of asked for kinds.
  What is inside of them is not looked at.
-/
def pieces
    (rule : Int) :
    List SpanTree → List Piece
  | [] => []
  | tree :: rest => piecesOf rule tree ++ pieces rule rest

/- The spans of a single tree that become tokens. -/
def piecesOf
    (rule : Int) :
    SpanTree → List Piece
  | .mk span children =>
      if span.isExtra || isAtom isToken span children then
        [⟨rule, span⟩]
      else pieces span.kind children

end

/- The tape behind a piece. -/
def Tape.lay
    (t : Tape)
    (p : Piece) : Tape :=
  (t.add source p.span p.channel).2

/- The terminal of a piece that is laid on a tape, if it has one. -/
def Tape.terminalOf
    (t : Tape)
    (p : Piece) : List Terminal :=
  if p.IsVisible then
    let symbol := (t.add source p.span p.channel).1
    [⟨symbol.text, some symbol, some p.rule⟩]
  else []

/- The terminals of pieces that are laid on a tape in order. -/
def terminalsOn :
    Tape → List Piece → List Terminal
  | _, [] => []
  | t, p :: rest =>
      t.terminalOf source p ++ terminalsOn (t.lay source p) rest

theorem terminalsOn_append
    (t : Tape)
    (front back : List Piece) :
    terminalsOn source t (front ++ back) =
      terminalsOn source t front ++
        terminalsOn source (front.foldl (Tape.lay source) t)
          back := by
  induction front generalizing t with
  | nil => rfl
  | cons p front ih =>
      simp [terminalsOn, ih]

------------------------------------------------------------
-- Derivations Are Flat
------------------------------------------------------------

variable {source isToken}

/- The tape is the one behind all pieces. -/
theorem Converts.tape_eq
    {rule : Int}
    {trees : List SpanTree}
    {t last : Tape}
    {csts : List Cst}
    (hConverts :
      Converts source isToken rule trees t csts last) :
    last =
      (pieces isToken rule trees).foldl
        (Tape.lay source) t := by
  induction hConverts with
  | nil => rfl
  | extra hExtra _ ih =>
      rw [ih]
      simp [pieces, piecesOf, hExtra, Tape.lay,
        Piece.channel, Piece.IsVisible]
  | token hExtra hAtom hAdd _ ih =>
      rw [ih]
      simp [pieces, piecesOf, hExtra, hAtom, Tape.lay,
        Piece.channel, Piece.IsVisible, hAdd]
  | rule hExtra hAtom _ _ ihChildren ihRest =>
      rw [ihRest, ihChildren]
      simp [pieces, piecesOf, hExtra, hAtom]

/- The terminals are those of the pieces, in document order. -/
theorem Converts.terminals_eq
    {rule : Int}
    {trees : List SpanTree}
    {t last : Tape}
    {csts : List Cst}
    (hConverts :
      Converts source isToken rule trees t csts last) :
    Cst.terminalsAll csts =
      terminalsOn source t (pieces isToken rule trees) := by
  induction hConverts with
  | nil => rfl
  | extra hExtra _ ih =>
      rw [ih]
      simp [pieces, piecesOf, hExtra, terminalsOn,
        Tape.terminalOf, Tape.lay, Piece.channel,
        Piece.IsVisible]
  | token hExtra hAtom hAdd _ ih =>
      rw [Cst.terminalsAll, Cst.terminals, ih]
      simp [pieces, piecesOf, hExtra, hAtom, terminalsOn,
        Tape.terminalOf, Tape.lay, Piece.channel,
        Piece.IsVisible, hAdd]
  | rule hExtra hAtom hChildren _ ihChildren ihRest =>
      rw [Cst.terminalsAll, Cst.terminals, ihChildren,
        ihRest, hChildren.tape_eq]
      simp [pieces, piecesOf, hExtra, hAtom,
        terminalsOn_append]

------------------------------------------------------------
-- Whole Conversions
------------------------------------------------------------

/- The token for the end of the input, behind a tape. -/
def Tape.ending
    (t : Tape) : Token :=
  ⟨endText, Token.endType, t.next, Token.defaultChannel⟩

variable (source isToken)

/- The pieces of a whole tree, whose root is always a rule. -/
def rootPieces
    (root : SpanTree) : List Piece :=
  pieces isToken root.span.kind root.children

/- The tape of a whole tree, up to the end of the source. -/
def fullTape
    (root : SpanTree) : Tape :=
  ((rootPieces isToken root).foldl (Tape.lay source)
    Tape.start).addGap source source.length

theorem addGap_convertAll
    (root : SpanTree) :
    (convertAll source isToken root.span.kind root.children
        Tape.start).2.addGap source source.length =
      fullTape source isToken root := by
  rw [(converts_convertAll source isToken root.span.kind
    root.children Tape.start).tape_eq]
  rfl

theorem index_convert
    (root : SpanTree) :
    (convert source isToken root).1.index =
      some root.span.kind := rfl

/- The end of the input is the last child of the root. -/
theorem children_convert
    (root : SpanTree) :
    (convert source isToken root).1.children =
      (convertAll source isToken root.span.kind
          root.children Tape.start).1 ++
        [.terminal ⟨endText,
          some (fullTape source isToken root).ending,
          some root.span.kind⟩] := by
  rw [← addGap_convertAll]
  rfl

/- The end of the input is the last token. -/
theorem tokens_convert
    (root : SpanTree) :
    (convert source isToken root).2.tokens =
      (fullTape source isToken root).tokens ++
        [(fullTape source isToken root).ending] := by
  rw [← addGap_convertAll]
  rfl

theorem terminals_convert
    (root : SpanTree) :
    (convert source isToken root).1.toCst.terminals =
      terminalsOn source Tape.start
          (rootPieces isToken root) ++
        [⟨endText, some (fullTape source isToken root).ending,
          some root.span.kind⟩] := by
  rw [Rule.toCst, Cst.terminals, children_convert,
    Cst.terminalsAll_append,
    (converts_convertAll source isToken root.span.kind
      root.children Tape.start).terminals_eq]
  rfl

end Span

end SyntaxOutline

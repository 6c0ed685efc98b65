import SyntaxOutline.Proofs.Span.Lossless
import SyntaxOutline.Proofs.Stream.Runs
import Mathlib.Data.List.Forall2

/-
  What stands around a visible token.

  Where spans stand in order, the tokens of a conversion go to
  and fro between runs of hidden tokens and visible ones, and
  each run covers the source from the end of the visible token
  before it to the start of the one behind it.  How a run is
  cut into tokens plays no part.  The runs that a stream finds
  around a visible token are exactly these.

  Key definitions include:
    * `Token.Hide`
    * `Span.Interleaved`
    * `Span.Place`
    * `Span.Place.IsSurrounded`
    * `Span.rootPlaces`

  Main statements:
    * `Span.interleaved_foldl`
    * `Span.Interleaved.forall₂_holds`
    * `Span.forall₂_holds_convert`
-/

------------------------------------------------------------
-- Hidden Tokens Between Octets
------------------------------------------------------------

namespace SyntaxOutline

/- Hidden tokens cover the source between two octets. -/
structure Token.Hide
    (content : String)
    (start stop : Int)
    (tokens : List Token) : Prop where
  hidden :
    ∀ token ∈ tokens, token.channel = Token.hiddenChannel
  cover : Token.Cover content start stop tokens

namespace Token

theorem Hide.append
    {content : String}
    {start middle stop : Int}
    {front back : List Token}
    (hFront : Hide content start middle front)
    (hBack : Hide content middle stop back) :
    Hide content start stop (front ++ back) where
  hidden :=
    List.forall_mem_append.mpr ⟨hFront.hidden, hBack.hidden⟩
  cover := hFront.cover.append hBack.cover

theorem Hide.isHidden
    {content : String}
    {start stop : Int}
    {tokens : List Token}
    (hTokens : Hide content start stop tokens) :
    ∀ token ∈ tokens, token.IsHidden := by
  intro token hMem
  exact isHidden_of_channel_eq (hTokens.hidden token hMem)

theorem Hide.visible_eq
    {content : String}
    {start stop : Int}
    {tokens : List Token}
    (hTokens : Hide content start stop tokens) :
    visible tokens = [] := by
  rw [visible, List.filter_eq_nil_iff]
  intro token hMem
  simpa using hTokens.isHidden token hMem

/- All of a run lies on the channel that is asked for. -/
theorem Hide.filter_eq
    {content : String}
    {start stop : Int}
    {tokens : List Token}
    (hTokens : Hide content start stop tokens) :
    tokens.filter
        (fun t => some hiddenChannel = some t.channel) =
      tokens := by
  rw [List.filter_eq_self]
  intro token hMem
  simp [hTokens.hidden token hMem]

end Token

------------------------------------------------------------
-- Hidden And Visible Tokens In Turn
------------------------------------------------------------

namespace Span

/- The pieces that become tokens of the tree. -/
def visiblePieces
    (ps : List Piece) : List Piece :=
  ps.filter fun p => p.IsVisible

/-
  Tokens from an octet on, as visible pieces and their terminals
  ask for them: hidden tokens up to a piece, then its token, and
  in the end hidden tokens up to the end of the source and the
  token that marks it.
-/
inductive Interleaved
    (content : String) :
    Int → List Piece → List Terminal → List Token →
      Prop where
  | ending
      {before : Int}
      {hidden : List Token}
      {last : Token}
      (hHidden :
        Token.Hide content before
          (Text.encode content).length hidden)
      (hText : last.text = endText)
      (hChannel : last.channel = Token.defaultChannel) :
      Interleaved content before [] [] (hidden ++ [last])
  | token
      {before : Int}
      {p : Piece}
      {rest : List Piece}
      {terminals : List Terminal}
      {hidden tokens : List Token}
      {symbol : Token}
      (hHidden :
        Token.Hide content before p.span.start hidden)
      (hText :
        Text.IsExcerpt content p.span.start p.span.stop
          symbol.text)
      (hType : symbol.type = p.span.kind)
      (hChannel : symbol.channel = Token.defaultChannel)
      (hRest :
        Interleaved content p.span.stop rest terminals
          tokens) :
      Interleaved content before (p :: rest)
        (⟨symbol.text, some symbol, some p.rule⟩ :: terminals)
        (hidden ++ symbol :: tokens)

/- The tokens of a tape with the end of the source behind them. -/
def Tape.closed
    (source : List UInt8)
    (t : Tape) : List Token :=
  (t.addGap source source.length).tokens ++
    [(t.addGap source source.length).ending]

variable {content : String}

/-
  Laying pieces in order gives hidden and visible tokens in
  turn.  The hidden tokens behind the last visible one are set
  apart, as the next visible one completes their run.
-/
theorem interleaved_foldl
    {base hidden : List Token}
    {before : Int}
    {t : Tape}
    {ps : List Piece}
    (hTokens : t.tokens = base ++ hidden)
    (hHidden : Token.Hide content before t.offset hidden)
    (hOrder : StandInOrder content t.offset ps) :
    ∃ tokens,
      (ps.foldl (Tape.lay (Text.encode content)) t).closed
          (Text.encode content) = base ++ tokens ∧
        Interleaved content before (visiblePieces ps)
          (terminalsOn (Text.encode content) t ps)
          tokens := by
  induction ps generalizing base hidden before t with
  | nil =>
      have hBoundary := hHidden.cover.isBoundary_stop
      rcases addGap_spec hBoundary
          (Text.isBoundary_length content)
          hBoundary.le_length with
        ⟨gap, hGap, -, hChannels, hCover⟩
      refine ⟨hidden ++ gap ++
          [(t.addGap (Text.encode content)
            (Text.encode content).length).ending], ?_,
        .ending (hHidden.append ⟨hChannels, hCover⟩) rfl
          rfl⟩
      rw [List.foldl_nil, Tape.closed, hGap, hTokens]
      simp only [List.append_assoc]
  | cons p ps ih =>
      rcases exists_laid hHidden.cover.isBoundary_stop
          hOrder with
        ⟨gap, symbol, hLaid⟩
      have hRest := hLaid.standInOrder hOrder
      have hRun := hHidden.append ⟨hLaid.hidden, hLaid.cover⟩
      by_cases hVisible : p.IsVisible
      · have hBase :
            (t.lay (Text.encode content) p).tokens =
              (base ++ hidden ++ gap ++ [symbol]) ++ [] := by
          rw [hLaid.tokens, hTokens, List.append_nil]
        have hNone :
            Token.Hide content p.span.stop
              (t.lay (Text.encode content) p).offset [] := by
          rw [hLaid.offset]
          exact ⟨by simp,
            Token.cover_nil hLaid.text.isBoundary_stop⟩
        have hChannel :
            symbol.channel = Token.defaultChannel := by
          rw [hLaid.channel, Piece.channel, if_pos hVisible]
        rcases ih hBase hNone hRest with
          ⟨tokens, hClosed, hInterleaved⟩
        refine ⟨hidden ++ gap ++ symbol :: tokens, ?_, ?_⟩
        · rw [List.foldl_cons, hClosed]
          simp
        · rw [terminalsOn, hLaid.terminal, if_pos hVisible,
            visiblePieces,
            List.filter_cons_of_pos (by simpa using hVisible)]
          exact .token hRun hLaid.text hLaid.type hChannel
            hInterleaved
      · -- The run goes on behind the token of the piece.
        have hBase :
            (t.lay (Text.encode content) p).tokens =
              base ++ (hidden ++ gap ++ [symbol]) := by
          rw [hLaid.tokens, hTokens]
          simp only [List.append_assoc]
        have hChannel :
            symbol.channel = Token.hiddenChannel := by
          rw [hLaid.channel, Piece.channel, if_neg hVisible]
        have hLonger :
            Token.Hide content before
              (t.lay (Text.encode content) p).offset
              (hidden ++ gap ++ [symbol]) := by
          rw [hLaid.offset]
          exact hRun.append ⟨by simpa using hChannel,
            Token.cover_singleton hLaid.text⟩
        rw [terminalsOn, hLaid.terminal, if_neg hVisible,
          visiblePieces,
          List.filter_cons_of_neg (by simpa using hVisible)]
        exact ih hBase hLonger hRest

------------------------------------------------------------
-- Places
------------------------------------------------------------

/-
  A visible piece with the end of the visible piece before it
  and the start of the one behind it.
-/
structure Place where
  piece : Piece
  before : Int
  after : Int
  deriving DecidableEq, Repr

/- Where the first piece starts, or where the source ends. -/
def firstStart
    (content : String) :
    List Piece → Int
  | [] => (Text.encode content).length
  | p :: _ => p.span.start

/-
  The places of visible pieces, where the visible piece before
  them ends at an octet.
-/
def places
    (content : String) :
    Int → List Piece → List Place
  | _, [] => []
  | before, p :: rest =>
      ⟨p, before, firstStart content rest⟩ ::
        places content p.span.stop rest

/- The token has the text and the kind of the span at a place. -/
structure Place.IsToken
    (content : String)
    (place : Place)
    (token : Token) : Prop where
  text :
    Text.IsExcerpt content place.piece.span.start
      place.piece.span.stop token.text
  type : token.type = place.piece.span.kind

/-
  The hidden tokens that a stream finds around a token cover
  the source from its place to the neighbours of that.
-/
structure Place.IsSurrounded
    (content : String)
    (stream : Stream)
    (place : Place)
    (token : Token) : Prop
    extends place.IsToken content token where
  before :
    ∃ hidden,
      stream.hiddenBefore token.index
          (some Token.hiddenChannel) = .ok hidden ∧
        Token.Cover content place.before
          place.piece.span.start hidden
  after :
    ∃ hidden,
      stream.hiddenAfter token.index
          (some Token.hiddenChannel) = .ok hidden ∧
        Token.Cover content place.piece.span.stop
          place.after hidden

/- The terminal of a token at a place. -/
def Place.terminal
    (place : Place)
    (token : Token) : Terminal :=
  ⟨token.text, some token, some place.piece.rule⟩

/- The terminal is the one of a token in its surroundings. -/
def Place.Holds
    (content : String)
    (stream : Stream)
    (place : Place)
    (t : Terminal) : Prop :=
  ∃ token, t = place.terminal token ∧
    place.IsSurrounded content stream token

/- The visible tokens are those of the places, and the end. -/
theorem Interleaved.forall₂_isToken
    {before : Int}
    {ps : List Piece}
    {terminals : List Terminal}
    {tokens : List Token}
    (hTokens :
      Interleaved content before ps terminals tokens) :
    ∃ symbols last,
      Token.visible tokens = symbols ++ [last] ∧
        last.text = endText ∧
        List.Forall₂ (Place.IsToken content)
          (places content before ps) symbols := by
  induction hTokens with
  | @ending before hidden last hHidden hText hChannel =>
      refine ⟨[], last, ?_, hText, .nil⟩
      rw [Token.visible_append, hHidden.visible_eq,
        Token.visible_singleton hChannel]
  | @token before p rest terminals hidden tokens symbol
      hHidden hText hType hChannel _ ih =>
      rcases ih with
        ⟨symbols, last, hVisible, hLast, hSymbols⟩
      refine ⟨symbol :: symbols, last, ?_, hLast,
        .cons ⟨hText, hType⟩ hSymbols⟩
      rw [← List.singleton_append, Token.visible_append,
        Token.visible_append, hHidden.visible_eq,
        Token.visible_singleton hChannel, hVisible]
      rfl

/- A run goes on to a visible token. -/
theorem Interleaved.exists_run
    {before : Int}
    {ps : List Piece}
    {terminals : List Terminal}
    {tokens : List Token}
    (hTokens :
      Interleaved content before ps terminals tokens) :
    ∃ hidden next back,
      tokens = hidden ++ next :: back ∧
        Token.Hide content before (firstStart content ps)
          hidden ∧
        ¬ next.IsHidden := by
  cases hTokens with
  | ending hHidden _ hChannel =>
      exact ⟨_, _, [], rfl, hHidden,
        Token.not_isHidden_of_channel_eq hChannel⟩
  | token hHidden _ _ hChannel _ =>
      exact ⟨_, _, _, rfl, hHidden,
        Token.not_isHidden_of_channel_eq hChannel⟩

/-
  The terminals of a stream stand in their places.  What has
  been read so far does not end within a run.
-/
theorem Interleaved.forall₂_holds
    {stream : Stream}
    {before : Int}
    {ps : List Piece}
    {terminals : List Terminal}
    {front tokens : List Token}
    (hTokens :
      Interleaved content before ps terminals tokens)
    (hStream : stream.tokens = front ++ tokens)
    (hFront : ∀ last ∈ front.getLast?, ¬ last.IsHidden)
    (hNumbered : Token.AreNumbered stream.tokens) :
    List.Forall₂ (Place.Holds content stream)
      (places content before ps) terminals := by
  induction hTokens generalizing front with
  | ending _ _ _ => exact .nil
  | @token before p rest terminals hidden tokens symbol
      hHidden hText hType hChannel hRest ih =>
      have hVisible :=
        Token.not_isHidden_of_channel_eq hChannel
      have hBehind :
          stream.tokens =
            (front ++ hidden) ++ symbol :: tokens := by
        rw [hStream, List.append_assoc]
      have hNext :
          stream.tokens =
            (front ++ hidden ++ [symbol]) ++ tokens := by
        rw [hBehind, List.append_assoc (front ++ hidden),
          List.singleton_append]
      have hIndex := hNumbered.index_eq hBehind
      have hRange : stream.InRange symbol.index := by
        rw [hIndex]
        exact Stream.inRange_length hBehind
      refine .cons
        ⟨symbol, rfl, ⟨hText, hType⟩,
          ⟨hidden, ?_, hHidden.cover⟩, ?_⟩
        (ih hNext (by simpa using hVisible))
      · rw [Stream.hiddenBefore_of_inRange hRange, hIndex,
          Int.toNat_natCast,
          Stream.runBefore_eq hBehind hFront
            hHidden.isHidden,
          hHidden.filter_eq]
      · rcases hRest.exists_run with
          ⟨run, next, back, rfl, hRun, hStop⟩
        refine ⟨run, ?_, hRun.cover⟩
        rw [Stream.hiddenAfter_of_inRange hRange, hIndex,
          Int.toNat_natCast,
          Stream.runAfter_eq hBehind hRun.isHidden
            (by simpa using hStop),
          hRun.filter_eq]

------------------------------------------------------------
-- Places Of A Conversion
------------------------------------------------------------

/- The places of the visible spans of a whole tree. -/
def rootPlaces
    (content : String)
    (isToken : String → Bool)
    (root : SpanTree) : List Place :=
  places content 0 (visiblePieces (rootPieces isToken root))

/- The tokens of a conversion, hidden and visible in turn. -/
theorem interleaved_convert
    {isToken : String → Bool}
    {root : SpanTree}
    (hOrder :
      StandInOrder content 0 (rootPieces isToken root)) :
    Interleaved content 0
      (visiblePieces (rootPieces isToken root))
      (terminalsOn (Text.encode content) Tape.start
        (rootPieces isToken root))
      (convert (Text.encode content) isToken
        root).2.tokens := by
  have hNone :
      Token.Hide content 0 Tape.start.offset [] :=
    ⟨by simp,
      Token.cover_nil (Text.isBoundary_zero content)⟩
  rcases interleaved_foldl (List.nil_append _).symm hNone
      hOrder with
    ⟨tokens, hClosed, hTokens⟩
  have hConvert :
      (convert (Text.encode content) isToken
        root).2.tokens = tokens := by
    rw [tokens_convert]
    exact hClosed
  rw [hConvert]
  exact hTokens

/- The terminals of a conversion stand in their places. -/
theorem forall₂_holds_convert
    {isToken : String → Bool}
    {root : SpanTree}
    (hOrder :
      StandInOrder content 0 (rootPieces isToken root)) :
    List.Forall₂
      (Place.Holds content
        (convert (Text.encode content) isToken root).2)
      (rootPlaces content isToken root)
      (terminalsOn (Text.encode content) Tape.start
        (rootPieces isToken root)) :=
  (interleaved_convert hOrder).forall₂_holds
    (List.nil_append _).symm (by simp)
    (areNumbered_convert (Text.encode content) isToken root)

end Span

end SyntaxOutline

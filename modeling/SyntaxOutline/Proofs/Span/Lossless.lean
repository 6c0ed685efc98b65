import SyntaxOutline.Plugin.JavaScript
import SyntaxOutline.Proofs.Span.Agreement
import SyntaxOutline.Proofs.Text.Excerpt

/-
  No part of the source is lost.

  Where the spans that become tokens stand in the source one
  behind the other, their tokens and the gaps between them
  cover it from end to end.  Each is cut out of the octets and
  decoded on its own, and at boundaries between characters
  such parts put together are the whole.

  Key definitions include:
    * `Token.Cover`
    * `Span.StandInOrder`
    * `JavaScript.isTokenType`

  Main statements:
    * `Span.exists_laid`
    * `Span.cover_foldl`
    * `Span.cover_fullTape`
    * `JavaScript.join_texts_of_parse`
-/

------------------------------------------------------------
-- Tokens That Cover A Part Of The Source
------------------------------------------------------------

namespace SyntaxOutline

namespace Token

/- The text of tokens put together. -/
def textOf
    (tokens : List Token) : String :=
  String.join (tokens.map (·.text))

/- Tokens hold the text between two octets. -/
def Cover
    (content : String)
    (start stop : Int)
    (tokens : List Token) : Prop :=
  Text.IsExcerpt content start stop (textOf tokens)

theorem cover_nil
    {content : String}
    {place : Int}
    (hPlace : Text.IsBoundary content place) :
    Cover content place place [] :=
  hPlace.isExcerpt_empty

theorem cover_singleton
    {content : String}
    {start stop : Int}
    {token : Token}
    (hText :
      Text.IsExcerpt content start stop token.text) :
    Cover content start stop [token] := by
  simpa [Cover, textOf] using hText

theorem Cover.append
    {content : String}
    {start middle stop : Int}
    {front back : List Token}
    (hFront : Cover content start middle front)
    (hBack : Cover content middle stop back) :
    Cover content start stop (front ++ back) := by
  rw [Cover, textOf, List.map_append, String.join_append]
  exact Text.IsExcerpt.append hFront hBack

end Token

------------------------------------------------------------
-- Spans In Order
------------------------------------------------------------

namespace Span

/-
  Pieces stand in a source one behind the other, from an octet
  on.  Each starts at or behind the end of the one before it
  and ends at or behind its own start, and both its ends are
  boundaries of the source, which lie within it.
-/
def StandInOrder
    (content : String) :
    Int → List Piece → Prop
  | _, [] => True
  | before, p :: rest =>
      before ≤ p.span.start ∧ p.span.start ≤ p.span.stop ∧
        Text.IsBoundary content p.span.start ∧
        Text.IsBoundary content p.span.stop ∧
        StandInOrder content p.span.stop rest

instance decidableStandInOrder
    (content : String) :
    (before : Int) → (ps : List Piece) →
      Decidable (StandInOrder content before ps)
  | _, [] => isTrue trivial
  | _, p :: rest =>
      have :=
        decidableStandInOrder content p.span.stop rest
      inferInstanceAs (Decidable (_ ∧ _))

variable {content : String}

/- A gap covers the source up to where it goes. -/
theorem addGap_spec
    {t : Tape}
    {upTo : Int}
    (hOffset : Text.IsBoundary content t.offset)
    (hUpTo : Text.IsBoundary content upTo)
    (hOrder : (t.offset : Int) ≤ upTo) :
    ∃ gap,
      (t.addGap (Text.encode content) upTo).tokens =
          t.tokens ++ gap ∧
        (t.addGap (Text.encode content) upTo).offset = upTo ∧
        (∀ token ∈ gap,
          token.channel = Token.hiddenChannel) ∧
        Token.Cover content t.offset upTo gap := by
  rcases addGap_cases (Text.encode content) t upTo with
    ⟨hSmall, hSame⟩ | ⟨hLarge, hGap⟩
  · have hEq : upTo = t.offset := by
      omega
    subst hEq
    rw [hSame]
    exact ⟨[], by simp, rfl, by simp,
      Token.cover_nil hOffset⟩
  · rcases Int.eq_ofNat_of_zero_le
        (show 0 ≤ upTo by omega) with
      ⟨stop, rfl⟩
    rw [hGap]
    refine ⟨_, rfl, rfl, by simp, ?_⟩
    apply Token.cover_singleton
    simpa [textBetween] using
      Text.isExcerpt_textBetween hOffset hUpTo hOrder

/-
  How a piece in order goes onto a tape: its gap and its own
  token are added, and the tape then reaches to its end.
-/
structure Laid
    (content : String)
    (t : Tape)
    (p : Piece)
    (gap : List Token)
    (token : Token) : Prop where
  tokens :
    (t.lay (Text.encode content) p).tokens =
      t.tokens ++ gap ++ [token]
  offset :
    (t.lay (Text.encode content) p).offset = p.span.stop
  hidden :
    ∀ other ∈ gap, other.channel = Token.hiddenChannel
  cover : Token.Cover content t.offset p.span.start gap
  text :
    Text.IsExcerpt content p.span.start p.span.stop
      token.text
  type : token.type = p.span.kind
  channel : token.channel = p.channel
  terminal :
    t.terminalOf (Text.encode content) p =
      if p.IsVisible then
        [⟨token.text, some token, some p.rule⟩]
      else []

theorem exists_laid
    {t : Tape}
    {p : Piece}
    {rest : List Piece}
    (hOffset : Text.IsBoundary content t.offset)
    (hOrder : StandInOrder content t.offset (p :: rest)) :
    ∃ gap token, Laid content t p gap token := by
  rcases hOrder with
    ⟨hBehind, hForward, hStart, hStop, -⟩
  rcases addGap_spec hOffset hStart hBehind with
    ⟨gap, hTokens, hReach, hHidden, hCover⟩
  refine ⟨gap,
    (t.add (Text.encode content) p.span p.channel).1,
    ?_, ?_, hHidden, hCover,
    Text.isExcerpt_textBetween hStart hStop hForward,
    rfl, rfl, rfl⟩
  · rw [tokens_lay, hTokens]
  · rw [offset_lay]
    omega

/- The order of the pieces behind a piece that is laid. -/
theorem Laid.standInOrder
    {t : Tape}
    {p : Piece}
    {rest : List Piece}
    {gap : List Token}
    {token : Token}
    (hLaid : Laid content t p gap token)
    (hOrder : StandInOrder content t.offset (p :: rest)) :
    StandInOrder content
      (t.lay (Text.encode content) p).offset rest := by
  rw [hLaid.offset]
  exact hOrder.2.2.2.2

------------------------------------------------------------
-- Tapes That Cover The Source
------------------------------------------------------------

/- Pieces in order keep a tape covered. -/
theorem cover_foldl
    {t : Tape}
    {ps : List Piece}
    (hTape : Token.Cover content 0 t.offset t.tokens)
    (hOrder : StandInOrder content t.offset ps) :
    Token.Cover content 0
      (ps.foldl (Tape.lay (Text.encode content)) t).offset
      (ps.foldl (Tape.lay (Text.encode content)) t).tokens := by
  induction ps generalizing t with
  | nil => exact hTape
  | cons p ps ih =>
      rcases exists_laid hTape.isBoundary_stop hOrder with
        ⟨gap, token, hLaid⟩
      apply ih
      · rw [hLaid.offset, hLaid.tokens]
        exact (hTape.append hLaid.cover).append
          (Token.cover_singleton hLaid.text)
      · exact hLaid.standInOrder hOrder

/- The tape of a whole tree covers all of the source. -/
theorem cover_fullTape
    {isToken : String → Bool}
    {root : SpanTree}
    (hOrder :
      StandInOrder content 0 (rootPieces isToken root)) :
    Token.textOf
        (fullTape (Text.encode content) isToken
          root).tokens =
      content := by
  have hStart :
      Token.Cover content 0 Tape.start.offset
        Tape.start.tokens :=
    Token.cover_nil (Text.isBoundary_zero content)
  have hPieces := cover_foldl hStart hOrder
  rcases addGap_spec hPieces.isBoundary_stop
      (Text.isBoundary_length content)
      hPieces.isBoundary_stop.le_length with
    ⟨gap, hTokens, -, -, hGap⟩
  rw [fullTape, hTokens]
  exact (hPieces.append hGap).eq_content

end Span

------------------------------------------------------------
-- Parsed Sources
------------------------------------------------------------

namespace JavaScript

/- The spans of a kind with this name are tokens. -/
def isTokenType
    (types : List Value)
    (name : String) : Bool :=
  types.any (·.text? = some name)

/- A source is parsed once there are a tree and token types. -/
theorem result_parse
    {parser : Parser}
    {config : Value}
    {root : SpanTree}
    {types : List Value}
    (hRoot : parser.outcome = .ok (some root))
    (hTypes :
      configuredSet config "token_node_types" = .ok types)
    (content : String)
    (path : Value) :
    (parse parser config (.str content) path).result =
      .ok (parsedSource parser.names content types root) := by
  simp [parse, parseText, hRoot, hTypes]

theorem stream_parsedSource
    (names : List String)
    (content : String)
    (types : List Value)
    (root : SpanTree) :
    (parsedSource names content types root).stream =
      (Span.convert (Text.encode content)
        (isTokenType types) root).2 := rfl

/-
  Where the spans that become tokens stand in order, a source
  is parsed, its last token marks the end of the input, and
  the texts of all others put together are the source.
-/
theorem join_texts_of_parse
    {parser : Parser}
    {config : Value}
    {root : SpanTree}
    {types : List Value}
    {content : String}
    (hRoot : parser.outcome = .ok (some root))
    (hTypes :
      configuredSet config "token_node_types" = .ok types)
    (hOrder :
      Span.StandInOrder content 0
        (Span.rootPieces (isTokenType types) root))
    (path : Value) :
    ∃ parsed tokens last,
      (parse parser config (.str content) path).result =
          .ok parsed ∧
        parsed.stream.tokens = tokens ++ [last] ∧
        last.text = "<EOF>" ∧ last.type = -1 ∧
        String.join (tokens.map (·.text)) = content := by
  have hTokens :=
    Span.tokens_convert (Text.encode content)
      (isTokenType types) root
  rw [← stream_parsedSource parser.names] at hTokens
  exact ⟨_, _, _, result_parse hRoot hTypes content path,
    hTokens, rfl, rfl, Span.cover_fullTape hOrder⟩

/- A comment, a call and a line end; one letter has two octets. -/
def noteText : String :=
  "// é\nfoo( \"b\")\n"

/- Strings are tokens, and identifiers and strings are atomic. -/
def noteConfig : Value :=
  .record
    [("token_node_types", .strs ["string"]),
      ("leaf_symbolic_names", .strs ["identifier", "string"])]

/-
  The spans of the note.  The string has parts of its own, and
  the missing semicolon has no octets.
-/
def noteTree : SpanTree :=
  .mk ⟨1, "program", 0, 16, false, true⟩
    [.mk ⟨2, "comment", 0, 5, true, false⟩ [],
     .mk ⟨3, "expression_statement", 6, 15, false, true⟩
      [.mk ⟨4, "call_expression", 6, 15, false, false⟩
        [.mk ⟨5, "identifier", 6, 9, false, false⟩ [],
         .mk ⟨6, "arguments", 9, 15, false, false⟩
          [.mk ⟨7, "(", 9, 10, false, false⟩ [],
           .mk ⟨8, "string", 11, 14, false, false⟩
            [.mk ⟨9, "\"", 11, 12, false, false⟩ [],
             .mk ⟨10, "string_fragment", 12, 13, false,
              false⟩ [],
             .mk ⟨9, "\"", 13, 14, false, false⟩ []],
           .mk ⟨11, ")", 14, 15, false, false⟩ []]],
       .mk ⟨12, ";", 15, 15, false, true⟩ []]]

/- A parser that gives the spans of the note. -/
def noteParser : Parser where
  names :=
    ["end", "program", "comment", "expression_statement",
      "call_expression", "identifier", "arguments", "(",
      "string", "\"", "string_fragment", ")", ";"]
  outcome := .ok (some noteTree)

theorem configuredSet_note :
    configuredSet noteConfig "token_node_types" =
      .ok [.str "string"] := rfl

/- The spans of the note stand in it in order. -/
theorem standInOrder_note :
    Span.StandInOrder noteText 0
      (Span.rootPieces (isTokenType [.str "string"])
        noteTree) := by
  decide

/- The note is put together again from its tokens. -/
theorem join_texts_of_note :
    noteParser.outcome = .ok (some noteTree) ∧
      configuredSet noteConfig "token_node_types" =
        .ok [.str "string"] ∧
      Span.StandInOrder noteText 0
        (Span.rootPieces (isTokenType [.str "string"])
          noteTree) ∧
      ∃ parsed tokens last,
        (parse noteParser noteConfig (.str noteText)
            .null).result = .ok parsed ∧
          parsed.stream.tokens = tokens ++ [last] ∧
          last.text = "<EOF>" ∧ last.type = -1 ∧
          String.join (tokens.map (·.text)) = noteText :=
  ⟨rfl, configuredSet_note, standInOrder_note,
    join_texts_of_parse rfl configuredSet_note
      standInOrder_note .null⟩

end JavaScript

end SyntaxOutline

import SyntaxOutline.Proofs.Span.Derivation
import SyntaxOutline.Proofs.Stream.Runs
import Mathlib.Data.List.Nodup
import Mathlib.Data.Option.Basic

/-
  The tree and the tokens of a conversion agree.

  Both are built in one walk, and gaps are put in between.  The
  tape keeps two facts at every piece: its tokens carry their
  own places as numbers, and those on the default channel are
  the ones that terminals have got so far.  This holds for any
  spans, in order or not, and for any octets.

  Key definitions include:
    * `Token.AreNumbered`
    * `Token.visible`
    * `Cst.AreRuled`
    * `Span.ShowsTokens`
    * `Span.Agreement`

  Main statements:
    * `Span.areNumbered_foldl`
    * `Span.visible_foldl`
    * `Span.Converts.areRuled`
    * `Span.showsTokens_convert`
    * `Span.agreement_convert`
-/

------------------------------------------------------------
-- Numbered Tokens
------------------------------------------------------------

namespace SyntaxOutline

namespace Token

/- Every token carries its own place as its number. -/
def AreNumbered
    (tokens : List Token) : Prop :=
  ∀ (i : Nat) (token : Token),
    tokens[i]? = some token → token.index = i

/- The two usual channels are different ones. -/
theorem isHidden_of_channel_eq
    {token : Token}
    (hChannel : token.channel = hiddenChannel) :
    token.IsHidden := by
  simp [IsHidden, hChannel, hiddenChannel, defaultChannel]

theorem not_isHidden_of_channel_eq
    {token : Token}
    (hChannel : token.channel = defaultChannel) :
    ¬ token.IsHidden := by
  simp [IsHidden, hChannel]

/- The tokens on the default channel. -/
def visible
    (tokens : List Token) : List Token :=
  tokens.filter fun t => ¬ t.IsHidden

theorem visible_append
    (front back : List Token) :
    visible (front ++ back) =
      visible front ++ visible back :=
  List.filter_append ..

theorem visible_singleton_of_hidden
    {token : Token}
    (hChannel : token.channel = hiddenChannel) :
    visible [token] = [] := by
  simp [visible, isHidden_of_channel_eq hChannel]

theorem visible_singleton
    {token : Token}
    (hChannel : token.channel = defaultChannel) :
    visible [token] = [token] := by
  simp [visible, not_isHidden_of_channel_eq hChannel]

/- The next token gets the number of tokens so far. -/
theorem AreNumbered.append_singleton
    {tokens : List Token}
    {token : Token}
    (hTokens : AreNumbered tokens)
    (hToken : token.index = tokens.length) :
    AreNumbered (tokens ++ [token]) := by
  intro i other hOther
  rw [List.getElem?_append] at hOther
  by_cases hPlace : i < tokens.length
  · rw [if_pos hPlace] at hOther
    exact hTokens i other hOther
  · rw [if_neg hPlace, List.getElem?_singleton] at hOther
    by_cases hLast : i - tokens.length = 0
    · rw [if_pos hLast] at hOther
      rw [← Option.some.inj hOther, hToken]
      omega
    · rw [if_neg hLast] at hOther
      cases hOther

theorem AreNumbered.index_eq
    {tokens front back : List Token}
    {token : Token}
    (hTokens : AreNumbered tokens)
    (hSplit : tokens = front ++ token :: back) :
    token.index = front.length := by
  apply hTokens
  simp [hSplit]

/- Tokens that carry their places are all different. -/
theorem AreNumbered.nodup
    {tokens : List Token}
    (hTokens : AreNumbered tokens) :
    tokens.Nodup := by
  rw [List.nodup_iff_getElem?_ne_getElem?]
  intro i j hOrder hLength hEq
  have hSome := List.getElem?_eq_getElem hLength
  have hFirst := hTokens i _ (hEq.trans hSome)
  have hSecond := hTokens j _ hSome
  omega

end Token

------------------------------------------------------------
-- Terminals Under Rules
------------------------------------------------------------

namespace Cst

mutual

/-
  Every terminal carries the number of the rule that directly
  contains it, where the tree itself stands under a rule.
-/
def IsRuled
    (rule : Option Int) :
    Cst → Prop
  | .terminal t => t.rule = rule
  | .rule index children => AreRuled index children

/- The same for trees that stand side by side under a rule. -/
def AreRuled
    (rule : Option Int) :
    List Cst → Prop
  | [] => True
  | child :: rest => IsRuled rule child ∧ AreRuled rule rest

end

theorem areRuled_append_iff
    (rule : Option Int)
    (front back : List Cst) :
    AreRuled rule (front ++ back) ↔
      AreRuled rule front ∧ AreRuled rule back := by
  induction front with
  | nil => simp [AreRuled]
  | cons child front ih => simp [AreRuled, ih, and_assoc]

end Cst

------------------------------------------------------------
-- One Piece
------------------------------------------------------------

namespace Span

variable {source : List UInt8} {isToken : String → Bool}

/- A gap is one hidden token, or nothing at all. -/
theorem addGap_cases
    (source : List UInt8)
    (t : Tape)
    (upTo : Int) :
    (upTo ≤ t.offset ∧ t.addGap source upTo = t) ∨
      (t.offset < upTo ∧
        t.addGap source upTo =
          ⟨upTo.toNat, t.tokens ++
            [⟨Text.slice source t.offset upTo.toNat, gapType,
              t.next, Token.hiddenChannel⟩]⟩) := by
  by_cases hOrder : upTo ≤ t.offset
  · exact .inl ⟨hOrder, by simp [Tape.addGap, hOrder]⟩
  · exact .inr ⟨by omega, by simp [Tape.addGap, hOrder]⟩

theorem areNumbered_addGap
    {t : Tape}
    (hTokens : Token.AreNumbered t.tokens)
    (upTo : Int) :
    Token.AreNumbered (t.addGap source upTo).tokens := by
  rcases addGap_cases source t upTo with
    ⟨-, hSame⟩ | ⟨-, hGap⟩
  · rw [hSame]
    exact hTokens
  · rw [hGap]
    exact hTokens.append_singleton rfl

theorem visible_addGap
    (t : Tape)
    (upTo : Int) :
    Token.visible (t.addGap source upTo).tokens =
      Token.visible t.tokens := by
  rcases addGap_cases source t upTo with
    ⟨-, hSame⟩ | ⟨-, hGap⟩
  · rw [hSame]
  · rw [hGap, Token.visible_append,
      Token.visible_singleton_of_hidden rfl,
      List.append_nil]

/- The token of a piece stands behind its gap. -/
theorem tokens_lay
    (t : Tape)
    (p : Piece) :
    (t.lay source p).tokens =
      (t.addGap source p.span.start).tokens ++
        [(t.add source p.span p.channel).1] := rfl

theorem offset_lay
    (t : Tape)
    (p : Piece) :
    (t.lay source p).offset =
      max (t.addGap source p.span.start).offset
        p.span.stop.toNat := rfl

theorem areNumbered_lay
    {t : Tape}
    (hTokens : Token.AreNumbered t.tokens)
    (p : Piece) :
    Token.AreNumbered (t.lay source p).tokens := by
  rw [tokens_lay]
  exact (areNumbered_addGap hTokens
    p.span.start).append_singleton rfl

/- A piece shows a token exactly when it gives a terminal. -/
theorem visible_lay
    (t : Tape)
    (p : Piece) :
    (Token.visible (t.lay source p).tokens).map some =
      (Token.visible t.tokens).map some ++
        (t.terminalOf source p).map (·.symbol) := by
  rw [tokens_lay, Token.visible_append, visible_addGap,
    List.map_append, Tape.terminalOf]
  by_cases hVisible : p.IsVisible
  · have hChannel :
        (t.add source p.span p.channel).1.channel =
          Token.defaultChannel := if_pos hVisible
    rw [Token.visible_singleton hChannel, if_pos hVisible]
    rfl
  · have hChannel :
        (t.add source p.span p.channel).1.channel =
          Token.hiddenChannel := if_neg hVisible
    rw [Token.visible_singleton_of_hidden hChannel,
      if_neg hVisible]
    rfl

------------------------------------------------------------
-- All Pieces
------------------------------------------------------------

theorem areNumbered_foldl
    {t : Tape}
    (hTokens : Token.AreNumbered t.tokens)
    (ps : List Piece) :
    Token.AreNumbered
      (ps.foldl (Tape.lay source) t).tokens := by
  induction ps generalizing t with
  | nil => exact hTokens
  | cons p ps ih => exact ih (areNumbered_lay hTokens p)

/- The visible tokens are those of the terminals, in order. -/
theorem visible_foldl
    (t : Tape)
    (ps : List Piece) :
    (Token.visible
        (ps.foldl (Tape.lay source) t).tokens).map some =
      (Token.visible t.tokens).map some ++
        (terminalsOn source t ps).map (·.symbol) := by
  induction ps generalizing t with
  | nil => simp [terminalsOn]
  | cons p ps ih =>
      rw [List.foldl_cons, ih, visible_lay, terminalsOn,
        List.map_append, List.append_assoc]

/- A terminal carries the text of its token. -/
theorem text_of_mem_terminalsOn
    {t : Tape}
    {ps : List Piece}
    {terminal : Terminal}
    (hMem : terminal ∈ terminalsOn source t ps) :
    terminal.symbol.map (·.text) = some terminal.text := by
  induction ps generalizing t with
  | nil => simp [terminalsOn] at hMem
  | cons p ps ih =>
      rw [terminalsOn, List.mem_append] at hMem
      rcases hMem with hFirst | hRest
      · rw [Tape.terminalOf] at hFirst
        by_cases hVisible : p.IsVisible
        · rw [if_pos hVisible, List.mem_singleton] at hFirst
          rw [hFirst]
          rfl
        · rw [if_neg hVisible] at hFirst
          cases hFirst
      · exact ih hRest

/- Every terminal stands under the rule whose number it has. -/
theorem Converts.areRuled
    {rule : Int}
    {trees : List SpanTree}
    {t last : Tape}
    {csts : List Cst}
    (hConverts :
      Converts source isToken rule trees t csts last) :
    Cst.AreRuled (some rule) csts := by
  induction hConverts with
  | nil => trivial
  | extra _ _ ih => exact ih
  | token _ _ _ _ ih => exact ⟨rfl, ih⟩
  | rule _ _ _ _ ihChildren ihRest =>
      exact ⟨ihChildren, ihRest⟩

------------------------------------------------------------
-- Tree And Tokens
------------------------------------------------------------

/- The token for the end of the input is numbered, too. -/
theorem areNumbered_convert
    (source : List UInt8)
    (isToken : String → Bool)
    (root : SpanTree) :
    Token.AreNumbered
      (convert source isToken root).2.tokens := by
  rw [tokens_convert]
  apply Token.AreNumbered.append_singleton
  · apply areNumbered_addGap
    apply areNumbered_foldl
    intro i token hToken
    cases hToken
  · rfl

/- The terminals have exactly the visible tokens, in order. -/
theorem symbols_convert
    (source : List UInt8)
    (isToken : String → Bool)
    (root : SpanTree) :
    (convert source isToken root).1.toCst.terminals.map
        (·.symbol) =
      (Token.visible
        (convert source isToken root).2.tokens).map some := by
  have hEnding :
      Token.visible [(fullTape source isToken root).ending] =
        [(fullTape source isToken root).ending] :=
    Token.visible_singleton rfl
  rw [terminals_convert, tokens_convert,
    Token.visible_append, hEnding, fullTape,
    visible_addGap, List.map_append, List.map_append,
    visible_foldl]
  rfl

/- Every terminal has a token of the stream. -/
theorem exists_symbol_convert
    {root : SpanTree}
    {t : Terminal}
    (hMem :
      t ∈ (convert source isToken root).1.toCst.terminals) :
    ∃ symbol, t.symbol = some symbol ∧
      (convert source isToken root).2.InRange
        symbol.index := by
  have hSymbol := List.mem_map_of_mem (f := (·.symbol)) hMem
  rw [symbols_convert, List.mem_map] at hSymbol
  rcases hSymbol with ⟨symbol, hVisible, hEq⟩
  rcases List.append_of_mem
      (List.mem_of_mem_filter hVisible) with
    ⟨front, back, hSplit⟩
  refine ⟨symbol, hEq.symm, ?_⟩
  rw [(areNumbered_convert source isToken root).index_eq
    hSplit]
  exact Stream.inRange_length hSplit

/-
  The terminals of a tree in document order have exactly the
  tokens of the default channel, each once, and carry the texts
  of these.
-/
structure ShowsTokens
    (tree : Rule)
    (tokens : List Token) : Prop where
  symbols :
    tree.toCst.terminals.map (·.symbol) =
      (Token.visible tokens).map some
  once : (tree.toCst.terminals.map (·.symbol)).Nodup
  texts :
    ∀ t ∈ tree.toCst.terminals,
      t.symbol.map (·.text) = some t.text

theorem showsTokens_convert
    (source : List UInt8)
    (isToken : String → Bool)
    (root : SpanTree) :
    ShowsTokens (convert source isToken root).1
      (convert source isToken root).2.tokens := by
  have hNumbered := areNumbered_convert source isToken root
  have hSymbols := symbols_convert source isToken root
  refine ⟨hSymbols, ?_, ?_⟩
  · rw [hSymbols]
    exact (hNumbered.nodup.filter _).map
      (Option.some_injective Token)
  · intro t hMem
    rw [terminals_convert, List.mem_append,
      List.mem_singleton] at hMem
    rcases hMem with hPiece | rfl
    · exact text_of_mem_terminalsOn hPiece
    · rfl

/-
  A tree and a list of tokens agree.  Tokens carry their places
  as numbers.  The terminals in document order have exactly the
  tokens of the default channel, each once, and carry the texts
  of these and the number of the rule that directly contains
  them.  Both end with the token for the end of the input.
-/
structure Agreement
    (tree : Rule)
    (tokens : List Token) : Prop
    extends ShowsTokens tree tokens where
  numbered : Token.AreNumbered tokens
  ruled : Cst.AreRuled tree.index tree.children
  ended :
    ∃ last : Token,
      last.text = "<EOF>" ∧ last.type = -1 ∧
        tokens.getLast? = some last ∧
        tree.children.getLast? =
          some (.terminal
            ⟨"<EOF>", some last, tree.index⟩)

/-
  Converting any spans over any octets gives a tree and tokens
  that agree.
-/
theorem agreement_convert
    (source : List UInt8)
    (isToken : String → Bool)
    (root : SpanTree) :
    Agreement (convert source isToken root).1
      (convert source isToken root).2.tokens := by
  refine ⟨showsTokens_convert source isToken root,
    areNumbered_convert source isToken root, ?_, ?_⟩
  · rw [children_convert, index_convert,
      Cst.areRuled_append_iff]
    exact ⟨(converts_convertAll source isToken _ _
      _).areRuled, rfl, trivial⟩
  · refine ⟨(fullTape source isToken root).ending, rfl, rfl,
      ?_, ?_⟩
    · rw [tokens_convert, List.getLast?_concat]
    · rw [children_convert, index_convert,
        List.getLast?_concat]
      rfl

end Span

end SyntaxOutline

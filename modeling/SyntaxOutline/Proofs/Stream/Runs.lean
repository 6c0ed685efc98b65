import SyntaxOutline.Token

/-
  Runs of hidden tokens around a token.

  The run before a position goes back to the nearest token of
  the default channel, and the run after it goes on to the next
  one.  Where a stream is taken apart at these tokens, the runs
  can be read off.

  Main statements:
    * `Stream.hiddenBefore_of_inRange`
    * `Stream.hiddenAfter_of_inRange`
    * `Stream.runBefore_eq`
    * `Stream.runAfter_eq`
-/

------------------------------------------------------------
-- Indices Within A Stream
------------------------------------------------------------

namespace SyntaxOutline

namespace Stream

variable {s : Stream}

/- The place of a token is an index of its stream. -/
theorem inRange_length
    {front back : List Token}
    {token : Token}
    (hTokens : s.tokens = front ++ token :: back) :
    s.InRange front.length := by
  simp only [InRange, size, hTokens, List.length_append,
    List.length_cons]
  omega

theorem hiddenBefore_of_inRange
    {index : Int}
    (hRange : s.InRange index)
    (channel : Option Int) :
    s.hiddenBefore index channel =
      .ok ((s.runBefore index.toNat).filter
        fun t => channel = some t.channel) := by
  simp [hiddenBefore, position, hRange, bind, Except.bind,
    pure, Except.pure]

/- Outside a stream there is no run to ask for. -/
theorem hiddenBefore_of_not_inRange
    {index : Int}
    (hRange : ¬ s.InRange index)
    (channel : Option Int) :
    s.hiddenBefore index channel =
      .error ⟨index, s.size⟩ := by
  simp [hiddenBefore, position, hRange, bind, Except.bind]

theorem hiddenAfter_of_not_inRange
    {index : Int}
    (hRange : ¬ s.InRange index)
    (channel : Option Int) :
    s.hiddenAfter index channel =
      .error ⟨index, s.size⟩ := by
  simp [hiddenAfter, position, hRange, bind, Except.bind]

theorem hiddenAfter_of_inRange
    {index : Int}
    (hRange : s.InRange index)
    (channel : Option Int) :
    s.hiddenAfter index channel =
      .ok ((s.runAfter index.toNat).filter
        fun t => channel = some t.channel) := by
  simp [hiddenAfter, position, hRange, bind, Except.bind,
    pure, Except.pure]

------------------------------------------------------------
-- Runs Read Off
------------------------------------------------------------

/- The run before a token ends the tokens in front of it. -/
theorem runBefore_eq
    {front hidden back : List Token}
    (hTokens : s.tokens = front ++ hidden ++ back)
    (hFront : ∀ last ∈ front.getLast?, ¬ last.IsHidden)
    (hHidden : ∀ t ∈ hidden, t.IsHidden) :
    s.runBefore (front ++ hidden).length = hidden := by
  have hStop :
      front.reverse.takeWhile
        (fun t => decide t.IsHidden) = [] := by
    cases hReverse : front.reverse with
    | nil => rfl
    | cons last others =>
        have hLast : last ∈ front.getLast? := by
          rw [← List.head?_reverse, hReverse]
          rfl
        exact List.takeWhile_cons_of_neg
          (by simpa using hFront last hLast)
  rw [runBefore, hTokens, List.take_left,
    List.reverse_append, List.takeWhile_append_of_pos
      (by simpa using hHidden), hStop, List.append_nil,
    List.reverse_reverse]

/- The run after a token starts the tokens behind it. -/
theorem runAfter_eq
    {front hidden back : List Token}
    {token : Token}
    (hTokens :
      s.tokens = front ++ token :: (hidden ++ back))
    (hHidden : ∀ t ∈ hidden, t.IsHidden)
    (hBack : ∀ next ∈ back.head?, ¬ next.IsHidden) :
    s.runAfter front.length = hidden := by
  have hDrop :
      s.tokens.drop (front.length + 1) =
        hidden ++ back := by
    rw [hTokens, ← List.drop_drop, List.drop_left]
    rfl
  have hStop :
      back.takeWhile (fun t => decide t.IsHidden) = [] := by
    cases back with
    | nil => rfl
    | cons next back =>
        exact List.takeWhile_cons_of_neg
          (by simpa using hBack next rfl)
  rw [runAfter, hDrop, List.takeWhile_append_of_pos
    (by simpa using hHidden), hStop, List.append_nil]

end Stream

end SyntaxOutline

import SyntaxOutline.Proofs.Stream.Runs
import Mathlib.Data.List.Forall2
import Mathlib.Data.List.Induction

/-
  Hidden tokens lie between tokens of the default channel.

  The run before a token is found by going back, the run after
  it by going on.  Here both are given by positions: a run holds
  what lies between a position and the nearest position of the
  default channel on that side, or the end of the stream.  So
  the run after one token of the default channel is the run
  before the next one, and the runs before all of them, with
  the run after the last, hold every hidden token once.

  Key definitions include:
    * `Stream.defaultPositions`
    * `Stream.defaultBefore?`
    * `Stream.defaultAfter?`
    * `Stream.between`

  Main statements:
    * `Stream.between_of_append`
    * `Stream.filter_runBefore`
    * `Stream.filter_runAfter`
    * `Stream.flatMap_runBefore_append`
    * `Stream.hidden_between_defaults`
-/

------------------------------------------------------------
-- Positions Of The Default Channel
------------------------------------------------------------

namespace SyntaxOutline

namespace Stream

/-
  The positions of the tokens on the default channel, where the
  first token has the position `start`.
-/
def positionsFrom
    (start : Nat)
    (tokens : List Token) : List Nat :=
  ((tokens.zipIdx start).filter fun (t, _) =>
    t.channel = Token.defaultChannel).map (·.2)

theorem positionsFrom_append
    (start : Nat)
    (front back : List Token) :
    positionsFrom start (front ++ back) =
      positionsFrom start front ++
        positionsFrom (start + front.length) back := by
  simp [positionsFrom, List.zipIdx_append]

theorem positionsFrom_cons_of_not_isHidden
    {token : Token}
    (hToken : ¬ token.IsHidden)
    (start : Nat)
    (tokens : List Token) :
    positionsFrom start (token :: tokens) =
      start :: positionsFrom (start + 1) tokens := by
  have hChannel : token.channel = Token.defaultChannel := by
    simpa [Token.IsHidden] using hToken
  simp [positionsFrom, List.zipIdx_cons, hChannel]

/- Hidden tokens have no such position. -/
theorem positionsFrom_of_isHidden
    {tokens : List Token}
    (hTokens : ∀ t ∈ tokens, t.IsHidden)
    (start : Nat) :
    positionsFrom start tokens = [] := by
  rw [positionsFrom, List.map_eq_nil_iff,
    List.filter_eq_nil_iff]
  rintro ⟨t, k⟩ hMem
  have hToken := hTokens t (List.fst_mem_of_mem_zipIdx hMem)
  simpa [Token.IsHidden] using hToken

theorem bounds_of_mem_positionsFrom
    {start k : Nat}
    {tokens : List Token}
    (hMem : k ∈ positionsFrom start tokens) :
    start ≤ k ∧ k < start + tokens.length := by
  rw [positionsFrom, List.mem_map] at hMem
  rcases hMem with ⟨⟨t, k⟩, hEntry, rfl⟩
  have hIndex := List.mem_zipIdx (List.mem_filter.mp hEntry).1
  exact ⟨hIndex.1, hIndex.2.1⟩

/- Positions stand in order. -/
theorem pairwise_positionsFrom
    (start : Nat)
    (tokens : List Token) :
    (positionsFrom start tokens).Pairwise (· < ·) := by
  have hSublist :
      (positionsFrom start tokens).Sublist
        (List.range' start tokens.length) := by
    rw [← List.zipIdx_map_snd start tokens]
    exact List.filter_sublist.map _
  exact List.Pairwise.sublist hSublist
    (List.pairwise_lt_range' ..)

/- The positions before a cut are those of the front. -/
theorem filter_lt_positionsFrom
    (front back : List Token) :
    (positionsFrom 0 (front ++ back)).filter
        (· < front.length) =
      positionsFrom 0 front := by
  rw [positionsFrom_append, List.filter_append,
    List.filter_eq_self.mpr, List.filter_eq_nil_iff.mpr,
    List.append_nil]
  · intro k hMem
    have hBounds := bounds_of_mem_positionsFrom hMem
    simp only [decide_eq_true_eq]
    omega
  · intro k hMem
    have hBounds := bounds_of_mem_positionsFrom hMem
    simp only [decide_eq_true_eq]
    omega

/- The positions from a cut on are those of the back. -/
theorem filter_le_positionsFrom
    (front back : List Token) :
    (positionsFrom 0 (front ++ back)).filter
        (front.length ≤ ·) =
      positionsFrom front.length back := by
  rw [positionsFrom_append, List.filter_append,
    List.filter_eq_nil_iff.mpr, List.filter_eq_self.mpr,
    List.nil_append, Nat.zero_add]
  · intro k hMem
    have hBounds := bounds_of_mem_positionsFrom hMem
    simp only [decide_eq_true_eq]
    omega
  · intro k hMem
    have hBounds := bounds_of_mem_positionsFrom hMem
    simp only [decide_eq_true_eq]
    omega

variable (s : Stream)

/- The positions of the tokens on the default channel. -/
def defaultPositions : List Nat :=
  positionsFrom 0 s.tokens

/- The nearest position of the default channel before another. -/
def defaultBefore?
    (i : Nat) : Option Nat :=
  (s.defaultPositions.filter (· < i)).getLast?

/- The nearest position of the default channel after another. -/
def defaultAfter?
    (i : Nat) : Option Nat :=
  (s.defaultPositions.filter (i < ·)).head?

/-
  A position lies strictly between two others.  Where one is
  missing, there is no limit on that side.
-/
def LiesBetween
    (lower upper : Option Nat)
    (k : Nat) : Prop :=
  (∀ a ∈ lower, a < k) ∧ ∀ b ∈ upper, k < b

instance
    (lower upper : Option Nat)
    (k : Nat) :
    Decidable (LiesBetween lower upper k) := by
  unfold LiesBetween
  infer_instance

/-
  The tokens on a channel that lie between two positions, where
  the first token has the position `start`.
-/
def betweenFrom
    (channel : Int)
    (lower upper : Option Nat)
    (start : Nat)
    (tokens : List Token) : List Token :=
  ((tokens.zipIdx start).filter fun (t, k) =>
    t.channel = channel ∧ LiesBetween lower upper k).map (·.1)

/- The tokens on a channel that lie between two positions. -/
def between
    (channel : Int)
    (lower upper : Option Nat) : List Token :=
  betweenFrom channel lower upper 0 s.tokens

------------------------------------------------------------
-- Nearest Positions
------------------------------------------------------------

variable {s}

/- A run starts behind the nearest position before its end. -/
theorem defaultBefore?_of_append
    {front hidden back : List Token}
    (hTokens : s.tokens = front ++ hidden ++ back)
    (hFront : ∀ last ∈ front.getLast?, ¬ last.IsHidden)
    (hHidden : ∀ t ∈ hidden, t.IsHidden) :
    (s.defaultBefore? (front ++ hidden).length).elim 0
        (· + 1) =
      front.length := by
  rw [defaultBefore?, defaultPositions, hTokens,
    filter_lt_positionsFrom, positionsFrom_append,
    positionsFrom_of_isHidden hHidden, List.append_nil]
  rcases List.eq_nil_or_concat front with
    rfl | ⟨init, last, rfl⟩
  · rfl
  · have hLast : ¬ last.IsHidden := hFront last (by simp)
    rw [List.concat_eq_append, positionsFrom_append,
      positionsFrom_cons_of_not_isHidden hLast]
    simp [positionsFrom]

/- A run stops before the nearest position after its start. -/
theorem defaultAfter?_of_append
    {front hidden back : List Token}
    {token : Token}
    (hTokens :
      s.tokens = front ++ token :: (hidden ++ back))
    (hHidden : ∀ t ∈ hidden, t.IsHidden)
    (hBack : ∀ next ∈ back.head?, ¬ next.IsHidden) :
    (s.defaultAfter? front.length).getD s.size =
      (front ++ token :: hidden).length := by
  have hSplit :
      s.tokens = (front ++ [token]) ++ (hidden ++ back) := by
    rw [hTokens, List.append_assoc, List.singleton_append]
  have hLater :
      s.defaultPositions.filter (front.length < ·) =
        positionsFrom (front ++ token :: hidden).length
          back := by
    have hCut := filter_le_positionsFrom (front ++ [token])
      (hidden ++ back)
    rw [← hSplit, positionsFrom_append,
      positionsFrom_of_isHidden hHidden,
      List.nil_append] at hCut
    simpa [defaultPositions, Nat.succ_le_iff,
      Nat.add_assoc, Nat.add_comm 1] using hCut
  rw [defaultAfter?, hLater]
  cases back with
  | nil => simp [positionsFrom, size, hTokens]
  | cons next back =>
      rw [positionsFrom_cons_of_not_isHidden
        (hBack next rfl)]
      rfl

------------------------------------------------------------
-- Tokens Between Positions
------------------------------------------------------------

theorem betweenFrom_append
    (channel : Int)
    (lower upper : Option Nat)
    (start : Nat)
    (front back : List Token) :
    betweenFrom channel lower upper start (front ++ back) =
      betweenFrom channel lower upper start front ++
        betweenFrom channel lower upper
          (start + front.length) back := by
  simp [betweenFrom, List.zipIdx_append]

theorem betweenFrom_of_inside
    {lower upper : Option Nat}
    {start : Nat}
    {tokens : List Token}
    (hInside :
      ∀ k, start ≤ k → k < start + tokens.length →
        LiesBetween lower upper k)
    (channel : Int) :
    betweenFrom channel lower upper start tokens =
      tokens.filter fun t => t.channel = channel := by
  have hChannel :
      ∀ e ∈ tokens.zipIdx start,
        decide (e.1.channel = channel ∧
            LiesBetween lower upper e.2) =
          decide (e.1.channel = channel) := by
    rintro ⟨t, k⟩ hMem
    have hIndex := List.mem_zipIdx hMem
    simp [hInside k hIndex.1 hIndex.2.1]
  rw [betweenFrom, List.filter_congr hChannel]
  nth_rewrite 2 [← List.zipIdx_map_fst start tokens]
  rw [List.filter_map]
  rfl

theorem betweenFrom_of_outside
    {lower upper : Option Nat}
    {start : Nat}
    {tokens : List Token}
    (hOutside :
      ∀ k, start ≤ k → k < start + tokens.length →
        ¬ LiesBetween lower upper k)
    (channel : Int) :
    betweenFrom channel lower upper start tokens = [] := by
  rw [betweenFrom, List.map_eq_nil_iff,
    List.filter_eq_nil_iff]
  rintro ⟨t, k⟩ hMem
  have hIndex := List.mem_zipIdx hMem
  simp [hOutside k hIndex.1 hIndex.2.1]

/-
  Between two positions lie the tokens behind the first one and
  before the second.
-/
theorem between_of_append
    {front middle back : List Token}
    {lower upper : Option Nat}
    (hTokens : s.tokens = front ++ middle ++ back)
    (hLower : lower.elim 0 (· + 1) = front.length)
    (hUpper : upper.getD s.size = (front ++ middle).length)
    (channel : Int) :
    s.between channel lower upper =
      middle.filter fun t => t.channel = channel := by
  have hSize :
      s.size = (front ++ middle).length + back.length := by
    rw [size, hTokens, List.length_append]
  have hMiddle :
      (front ++ middle).length =
        front.length + middle.length := List.length_append
  have hBetween :
      ∀ k < s.size,
        LiesBetween lower upper k ↔
          front.length ≤ k ∧
            k < (front ++ middle).length := by
    intro k hRange
    have hFirst :
        (∀ a ∈ lower, a < k) ↔ front.length ≤ k := by
      rw [← hLower]
      cases lower with
      | none => simp
      | some a =>
          simp only [Option.mem_some_iff, forall_eq',
            Option.elim_some, Nat.lt_iff_add_one_le]
    have hLast :
        (∀ b ∈ upper, k < b) ↔
          k < (front ++ middle).length := by
      rw [← hUpper]
      cases upper with
      | none => simp [hRange]
      | some b => simp
    rw [LiesBetween, hFirst, hLast]
  rw [between, hTokens, betweenFrom_append,
    betweenFrom_append, betweenFrom_of_outside,
    betweenFrom_of_inside, betweenFrom_of_outside,
    List.nil_append, List.append_nil]
  · intro k hFirst hLast
    rw [hBetween k (by omega)]
    omega
  · intro k hFirst hLast
    rw [hBetween k (by omega)]
    omega
  · intro k hFirst hLast
    rw [hBetween k (by omega)]
    omega

------------------------------------------------------------
-- Runs By Position
------------------------------------------------------------

/- Tokens end with a run of hidden ones, which may be empty. -/
theorem exists_last_run
    (tokens : List Token) :
    ∃ front hidden,
      tokens = front ++ hidden ∧
        (∀ last ∈ front.getLast?, ¬ last.IsHidden) ∧
        ∀ t ∈ hidden, t.IsHidden := by
  induction tokens using List.reverseRecOn with
  | nil => exact ⟨[], [], rfl, by simp, by simp⟩
  | append_singleton tokens token ih =>
      by_cases hToken : token.IsHidden
      · rcases ih with ⟨front, hidden, rfl, hFront, hHidden⟩
        refine ⟨front, hidden ++ [token],
          List.append_assoc .., hFront, ?_⟩
        intro t hMem
        rcases List.mem_append.mp hMem with hMem | hMem
        · exact hHidden t hMem
        · rw [List.mem_singleton.mp hMem]
          exact hToken
      · exact ⟨tokens ++ [token], [],
          (List.append_nil _).symm, by simpa using hToken,
          by simp⟩

/- Tokens start with a run of hidden ones, which may be empty. -/
theorem exists_first_run
    (tokens : List Token) :
    ∃ hidden back,
      tokens = hidden ++ back ∧
        (∀ t ∈ hidden, t.IsHidden) ∧
        ∀ next ∈ back.head?, ¬ next.IsHidden := by
  induction tokens with
  | nil => exact ⟨[], [], rfl, by simp, by simp⟩
  | cons token tokens ih =>
      by_cases hToken : token.IsHidden
      · rcases ih with ⟨hidden, back, rfl, hHidden, hBack⟩
        refine ⟨token :: hidden, back, rfl, ?_, hBack⟩
        exact List.forall_mem_cons.mpr ⟨hToken, hHidden⟩
      · exact ⟨[], token :: tokens, rfl, by simp,
          by simpa using hToken⟩

/-
  The run before a position goes back to the nearest position
  of the default channel.
-/
theorem filter_runBefore
    {i : Nat}
    (hRange : i ≤ s.size)
    (channel : Int) :
    ((s.runBefore i).filter fun t => t.channel = channel) =
      s.between channel (s.defaultBefore? i) (some i) := by
  rcases exists_last_run (s.tokens.take i) with
    ⟨front, hidden, hTake, hFront, hHidden⟩
  have hTokens :
      s.tokens = front ++ hidden ++ s.tokens.drop i := by
    rw [← hTake, List.take_append_drop]
  have hLength : i = (front ++ hidden).length := by
    rw [← hTake, List.length_take]
    exact (Nat.min_eq_left hRange).symm
  rw [hLength, runBefore_eq hTokens hFront hHidden]
  exact (between_of_append hTokens
    (defaultBefore?_of_append hTokens hFront hHidden) rfl
    channel).symm

/-
  The run after a position goes on to the nearest position of
  the default channel.
-/
theorem filter_runAfter
    {i : Nat}
    (hRange : i < s.size)
    (channel : Int) :
    ((s.runAfter i).filter fun t => t.channel = channel) =
      s.between channel (some i) (s.defaultAfter? i) := by
  rcases exists_first_run (s.tokens.drop (i + 1)) with
    ⟨hidden, back, hDrop, hHidden, hBack⟩
  have hDropped :
      s.tokens.drop i =
        s.tokens[i] :: s.tokens.drop (i + 1) :=
    List.drop_eq_getElem_cons hRange
  have hTokens :
      s.tokens =
        s.tokens.take i ++ s.tokens[i] :: (hidden ++ back) := by
    rw [← hDrop, ← hDropped, List.take_append_drop]
  have hSplit :
      s.tokens =
        (s.tokens.take i ++ [s.tokens[i]]) ++ hidden ++
          back := by
    simpa using hTokens
  have hLength : (s.tokens.take i).length = i := by
    rw [List.length_take]
    exact Nat.min_eq_left (Nat.le_of_lt hRange)
  have hRun := runAfter_eq hTokens hHidden hBack
  have hStop := defaultAfter?_of_append hTokens hHidden hBack
  rw [hLength] at hRun hStop
  rw [hRun]
  refine (between_of_append hSplit ?_ ?_ channel).symm
  · rw [List.length_append, hLength]
    rfl
  · rw [hStop]
    simp

------------------------------------------------------------
-- Neighbours On The Default Channel
------------------------------------------------------------

theorem lt_size_of_mem_defaultPositions
    {k : Nat}
    (hMem : k ∈ s.defaultPositions) :
    k < s.size := by
  have hBounds := bounds_of_mem_positionsFrom hMem
  rw [size]
  omega

/- The least of some sorted positions comes first. -/
theorem head?_of_least
    {positions : List Nat}
    {j : Nat}
    (hSorted : positions.Pairwise (· < ·))
    (hMem : j ∈ positions)
    (hLeast : ∀ k ∈ positions, ¬ k < j) :
    positions.head? = some j := by
  cases positions with
  | nil => exact absurd hMem (by simp)
  | cons first others =>
      rcases List.mem_cons.mp hMem with rfl | hBehind
      · rfl
      · have hBefore :=
          (List.pairwise_cons.mp hSorted).1 j hBehind
        exact absurd hBefore (hLeast first (by simp))

/- The greatest of some sorted positions comes last. -/
theorem getLast?_of_greatest
    {positions : List Nat}
    {i : Nat}
    (hSorted : positions.Pairwise (· < ·))
    (hMem : i ∈ positions)
    (hGreatest : ∀ k ∈ positions, ¬ i < k) :
    positions.getLast? = some i := by
  rcases List.eq_nil_or_concat positions with
    rfl | ⟨init, last, rfl⟩
  · exact absurd hMem (by simp)
  · rw [List.concat_eq_append] at *
    rcases List.mem_append.mp hMem with hBefore | hEnd
    · have hBehind :=
        (List.pairwise_append.mp hSorted).2.2 i hBefore last
          (by simp)
      exact absurd hBehind (hGreatest last (by simp))
    · rw [List.mem_singleton.mp hEnd]
      simp

theorem pairwise_defaultPositions
    (s : Stream) :
    s.defaultPositions.Pairwise (· < ·) :=
  pairwise_positionsFrom 0 s.tokens

theorem defaultAfter?_of_consecutive
    {i j : Nat}
    (hMem : j ∈ s.defaultPositions)
    (hLess : i < j)
    (hNone :
      ∀ k ∈ s.defaultPositions, ¬ (i < k ∧ k < j)) :
    s.defaultAfter? i = some j := by
  apply head?_of_least (s.pairwise_defaultPositions.filter _)
  · exact List.mem_filter.mpr ⟨hMem, by simpa using hLess⟩
  · intro k hLater hBefore
    rcases List.mem_filter.mp hLater with ⟨hPosition, hBehind⟩
    exact hNone k hPosition ⟨by simpa using hBehind, hBefore⟩

theorem defaultBefore?_of_consecutive
    {i j : Nat}
    (hMem : i ∈ s.defaultPositions)
    (hLess : i < j)
    (hNone :
      ∀ k ∈ s.defaultPositions, ¬ (i < k ∧ k < j)) :
    s.defaultBefore? j = some i := by
  apply getLast?_of_greatest
    (s.pairwise_defaultPositions.filter _)
  · exact List.mem_filter.mpr ⟨hMem, by simpa using hLess⟩
  · intro k hEarlier hBehind
    rcases List.mem_filter.mp hEarlier with ⟨hPosition, hBefore⟩
    exact hNone k hPosition ⟨hBehind, by simpa using hBefore⟩

------------------------------------------------------------
-- All Runs Together
------------------------------------------------------------

/- The run before a position heeds no tokens behind it. -/
theorem runBefore_append
    {k : Nat}
    {tokens : List Token}
    (hRange : k ≤ tokens.length)
    (more : List Token) :
    runBefore ⟨tokens ++ more⟩ k = runBefore ⟨tokens⟩ k := by
  rw [runBefore, runBefore,
    List.take_append_of_le_length hRange]

/- The run at the end grows by a hidden token. -/
theorem runBefore_append_singleton
    (tokens : List Token)
    (token : Token) :
    runBefore ⟨tokens ++ [token]⟩
        (tokens ++ [token]).length =
      if token.IsHidden then
        runBefore ⟨tokens⟩ tokens.length ++ [token]
      else [] := by
  rw [runBefore, runBefore, List.take_length,
    List.take_length, List.reverse_append]
  by_cases hToken : token.IsHidden
  · simp [hToken]
  · simp [hToken]

/-
  The runs before the tokens of the default channel, with the
  run at the end, hold all tokens of another channel.
-/
theorem flatMap_runBefore_append
    {channel : Int}
    (hChannel : channel ≠ Token.defaultChannel)
    (tokens : List Token) :
    ((positionsFrom 0 tokens).flatMap fun k =>
        (runBefore ⟨tokens⟩ k).filter fun t =>
          t.channel = channel) ++
      ((runBefore ⟨tokens⟩ tokens.length).filter fun t =>
        t.channel = channel) =
      tokens.filter fun t => t.channel = channel := by
  -- A hidden token goes into the run at the end; a token of
  -- the default channel ends this run, which is now before it.
  induction tokens using List.reverseRecOn with
  | nil => rfl
  | append_singleton tokens token ih =>
      have hEarlier :
          ((positionsFrom 0 tokens).flatMap fun k =>
              (runBefore ⟨tokens ++ [token]⟩ k).filter
                fun t => t.channel = channel) =
            (positionsFrom 0 tokens).flatMap fun k =>
              (runBefore ⟨tokens⟩ k).filter fun t =>
                t.channel = channel := by
        apply List.flatMap_congr
        intro k hMem
        have hBounds := bounds_of_mem_positionsFrom hMem
        rw [runBefore_append (by omega)]
      rw [positionsFrom_append, List.flatMap_append,
        hEarlier, runBefore_append_singleton,
        List.filter_append, ← ih]
      by_cases hToken : token.IsHidden
      · have hHidden : ∀ t ∈ [token], t.IsHidden := by
          simpa using hToken
        rw [positionsFrom_of_isHidden hHidden,
          if_pos hToken, List.filter_append]
        simp
      · have hOther : token.channel ≠ channel := by
          intro hEq
          apply hToken
          rw [Token.IsHidden, hEq]
          exact hChannel
        rw [positionsFrom_cons_of_not_isHidden hToken,
          if_neg hToken]
        simp [positionsFrom, hOther, runBefore_append]

/- The run after the last of these tokens is at the end. -/
theorem runAfter_last
    {last : Nat}
    (hLast : s.defaultPositions.getLast? = some last) :
    s.runAfter last = s.runBefore s.size := by
  rcases exists_last_run s.tokens with
    ⟨front, hidden, hTokens, hFront, hHidden⟩
  have hPositions :
      s.defaultPositions = positionsFrom 0 front := by
    rw [defaultPositions, hTokens, positionsFrom_append,
      positionsFrom_of_isHidden hHidden, List.append_nil]
  rw [hPositions] at hLast
  have hEnd : s.tokens = front ++ hidden ++ [] := by
    rw [hTokens, List.append_nil]
  have hSize : s.size = (front ++ hidden).length := by
    rw [size, hTokens]
  rw [hSize, runBefore_eq hEnd hFront hHidden]
  rcases List.eq_nil_or_concat front with
    rfl | ⟨init, token, rfl⟩
  · cases hLast
  · have hToken : ¬ token.IsHidden := hFront token (by simp)
    have hPosition : init.length = last := by
      rw [List.concat_eq_append, positionsFrom_append,
        positionsFrom_cons_of_not_isHidden hToken] at hLast
      simpa [positionsFrom] using hLast
    have hSplit :
        s.tokens = init ++ token :: (hidden ++ []) := by
      simpa using hTokens
    rw [← hPosition]
    exact runAfter_eq hSplit hHidden (by simp)

/- There is a last of them if there is any. -/
theorem exists_last_of_mem
    {token : Token}
    (hMem : token ∈ s.tokens)
    (hChannel : token.channel = Token.defaultChannel) :
    ∃ last, s.defaultPositions.getLast? = some last := by
  rcases List.append_of_mem hMem with ⟨front, back, hTokens⟩
  have hToken : ¬ token.IsHidden := by
    simpa [Token.IsHidden] using hChannel
  have hSome : s.defaultPositions ≠ [] := by
    rw [defaultPositions, hTokens, positionsFrom_append,
      positionsFrom_cons_of_not_isHidden hToken]
    simp
  exact ⟨_, List.getLast?_eq_getLast_of_ne_nil hSome⟩

------------------------------------------------------------
-- Hidden Tokens
------------------------------------------------------------

theorem hiddenBefore_eq_between
    {i : Nat}
    (hRange : i < s.size)
    (channel : Int) :
    s.hiddenBefore i (some channel) =
      .ok (s.between channel (s.defaultBefore? i)
        (some i)) := by
  have hInRange : s.InRange i := ⟨by omega, by omega⟩
  rw [hiddenBefore_of_inRange hInRange, Int.toNat_natCast,
    ← filter_runBefore (Nat.le_of_lt hRange)]
  simp [eq_comm]

theorem hiddenAfter_eq_between
    {i : Nat}
    (hRange : i < s.size)
    (channel : Int) :
    s.hiddenAfter i (some channel) =
      .ok (s.between channel (some i)
        (s.defaultAfter? i)) := by
  have hInRange : s.InRange i := ⟨by omega, by omega⟩
  rw [hiddenAfter_of_inRange hInRange, Int.toNat_natCast,
    ← filter_runAfter hRange]
  simp [eq_comm]

/-
  At every index of a stream, the hidden tokens on a channel
  before it are those between the nearest position of the
  default channel and the index, and those after it mirror
  them; any other index is out of range on both sides.  Of two
  neighbours on the default channel, the tokens after the first
  are those before the second.  All tokens on a channel other
  than the default one are those before each token of the
  default channel, and those after the last.
-/
theorem hidden_between_defaults
    (s : Stream)
    (channel : Int) :
    (∀ i : Nat, i < s.size →
      s.hiddenBefore i (some channel) =
          .ok (s.between channel (s.defaultBefore? i)
            (some i)) ∧
        s.hiddenAfter i (some channel) =
          .ok (s.between channel (some i)
            (s.defaultAfter? i))) ∧
      (∀ i : Int, i < 0 ∨ s.size ≤ i →
        s.hiddenBefore i (some channel) =
            .error ⟨i, s.size⟩ ∧
          s.hiddenAfter i (some channel) =
            .error ⟨i, s.size⟩) ∧
      (∀ i ∈ s.defaultPositions, ∀ j ∈ s.defaultPositions,
        i < j →
          (∀ k ∈ s.defaultPositions, ¬ (i < k ∧ k < j)) →
          s.hiddenAfter i (some channel) =
            s.hiddenBefore j (some channel)) ∧
      (channel ≠ Token.defaultChannel →
        (∃ t ∈ s.tokens, t.channel = Token.defaultChannel) →
          ∃ last lefts right,
            s.defaultPositions.getLast? = some last ∧
              List.Forall₂
                (fun k left =>
                  s.hiddenBefore (k : Nat) (some channel) =
                    .ok left)
                s.defaultPositions lefts ∧
              s.hiddenAfter (last : Nat) (some channel) =
                .ok right ∧
              lefts.flatten ++ right =
                s.tokens.filter fun t =>
                  t.channel = channel) := by
  refine ⟨?_, ?_, ?_, ?_⟩
  · intro i hRange
    exact ⟨hiddenBefore_eq_between hRange channel,
      hiddenAfter_eq_between hRange channel⟩
  · intro i hOutside
    have hRange : ¬ s.InRange i := by
      rw [InRange]
      omega
    exact ⟨hiddenBefore_of_not_inRange hRange _,
      hiddenAfter_of_not_inRange hRange _⟩
  · intro i hFirst j hSecond hLess hNone
    rw [hiddenAfter_eq_between
        (lt_size_of_mem_defaultPositions hFirst),
      hiddenBefore_eq_between
        (lt_size_of_mem_defaultPositions hSecond),
      defaultAfter?_of_consecutive hSecond hLess hNone,
      defaultBefore?_of_consecutive hFirst hLess hNone]
  · rintro hChannel ⟨t, hMem, hDefault⟩
    rcases exists_last_of_mem hMem hDefault with
      ⟨last, hLast⟩
    have hRange := lt_size_of_mem_defaultPositions
      (List.mem_of_getLast? hLast)
    have hAll := flatMap_runBefore_append hChannel s.tokens
    refine ⟨last, s.defaultPositions.map fun k =>
        s.between channel (s.defaultBefore? k) (some k), _,
      hLast, ?_, hiddenAfter_eq_between hRange channel, ?_⟩
    · rw [List.forall₂_map_right_iff, List.forall₂_same]
      intro k hPosition
      exact hiddenBefore_eq_between
        (lt_size_of_mem_defaultPositions hPosition) channel
    · rw [← filter_runAfter hRange, runAfter_last hLast,
        ← hAll, List.flatMap_def]
      congr 2
      apply List.map_congr_left
      intro k hPosition
      exact (filter_runBefore (Nat.le_of_lt
        (lt_size_of_mem_defaultPositions hPosition))
        channel).symm

/- Two tokens with spaces and a comment on other channels. -/
def commentedStream : Stream :=
  ⟨[⟨" ", 3, 0, 1⟩, ⟨"x", 1, 1, 0⟩, ⟨"/**/", 4, 2, 2⟩,
    ⟨" ", 3, 3, 1⟩, ⟨";", 2, 4, 0⟩, ⟨"\n", 3, 5, 1⟩]⟩

/- The space behind the comment is asked for from all sides. -/
theorem hidden_of_commented :
    commentedStream.hiddenAfter 2 (some 1) =
        .ok [⟨" ", 3, 3, 1⟩] ∧
      commentedStream.hiddenAfter 1 (some 1) =
        commentedStream.hiddenBefore 4 (some 1) ∧
      commentedStream.hiddenBefore 6 (some 1) =
        .error ⟨6, 6⟩ ∧
      ∃ last lefts right,
        commentedStream.defaultPositions.getLast? =
            some last ∧
          List.Forall₂
            (fun k left =>
              commentedStream.hiddenBefore (k : Nat)
                  (some 1) =
                .ok left)
            commentedStream.defaultPositions lefts ∧
          commentedStream.hiddenAfter (last : Nat) (some 1) =
            .ok right ∧
          lefts.flatten ++ right =
            [⟨" ", 3, 0, 1⟩, ⟨" ", 3, 3, 1⟩,
              ⟨"\n", 3, 5, 1⟩] := by
  rcases hidden_between_defaults commentedStream 1 with
    ⟨hInside, hOutside, hNeighbours, hAll⟩
  refine ⟨?_, ?_, ?_, ?_⟩
  · exact (hInside 2 (by decide)).2
  · exact hNeighbours 1 (by decide) 4 (by decide)
      (by decide) (by decide)
  · exact (hOutside 6 (by decide)).1
  · exact hAll (by decide) (by decide)

end Stream

end SyntaxOutline

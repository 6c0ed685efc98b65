import SyntaxOutline.Proofs.Text.Utf8
import SyntaxOutline.Span.Tree

/-
  Parts of a text by octets.

  An excerpt is the part of a text between two octets.  It is
  there exactly when both octets lie between characters, it is
  what decoding these octets gives, and two excerpts that meet
  make up one.

  Key definitions include:
    * `Text.IsBoundary`
    * `Text.IsExcerpt`

  Main statements:
    * `Text.IsExcerpt.slice_eq`
    * `Text.IsExcerpt.append`
    * `Text.isExcerpt_textBetween`
-/

------------------------------------------------------------
-- Octets Of Texts Put Together
------------------------------------------------------------

namespace SyntaxOutline

namespace Text

theorem encode_append
    (front back : String) :
    encode (front ++ back) = encode front ++ encode back := by
  simp [encode]

/- Only the empty text has no octets. -/
theorem eq_empty_of_length_encode
    {text : String}
    (hLength : (encode text).length = 0) :
    text = "" := by
  rw [List.length_eq_zero_iff, encode,
    List.flatMap_eq_nil_iff] at hLength
  have hChars : text.toList = [] := by
    rw [List.eq_nil_iff_forall_not_mem]
    intro c hMem
    exact String.utf8EncodeChar_ne_nil (hLength c hMem)
  simpa using hChars

/-
  Of two starts of one text, the one with no more octets is a
  start of the other.
-/
theorem exists_append_of_length_le
    {front back front' back' : String}
    (hText : front ++ back = front' ++ back')
    (hLength :
      (encode front).length ≤ (encode front').length) :
    ∃ middle, front' = front ++ middle := by
  have hChars :
      front.toList ++ back.toList =
        front'.toList ++ back'.toList := by
    simpa using congrArg String.toList hText
  rcases List.append_eq_append_iff.mp hChars with
    ⟨middle, hFront, -⟩ | ⟨middle, hFront, -⟩
  · refine ⟨String.ofList middle, ?_⟩
    apply String.toList_inj.mp
    simp [hFront]
  · -- The longer start has no more octets, so it is no longer.
    have hSplit : front = front' ++ String.ofList middle := by
      apply String.toList_inj.mp
      simp [hFront]
    have hNone :
        (encode (String.ofList middle)).length = 0 := by
      rw [hSplit, encode_append, List.length_append]
        at hLength
      omega
    rw [eq_empty_of_length_encode hNone,
      String.append_empty] at hSplit
    exact ⟨"", by rw [hSplit, String.append_empty]⟩

/- A start of a text is known by its number of octets. -/
theorem front_eq_of_length_eq
    {front back front' back' : String}
    (hText : front ++ back = front' ++ back')
    (hLength :
      (encode front).length = (encode front').length) :
    front = front' := by
  rcases exists_append_of_length_le hText
      (Nat.le_of_eq hLength) with
    ⟨middle, hFront⟩
  have hNone : (encode middle).length = 0 := by
    rw [hFront, encode_append, List.length_append]
      at hLength
    omega
  rw [hFront, eq_empty_of_length_encode hNone,
    String.append_empty]

------------------------------------------------------------
-- Boundaries
------------------------------------------------------------

/-
  The octet stands between two characters of a text, or at one
  of its ends.
-/
def IsBoundary
    (content : String)
    (place : Int) : Prop :=
  ∃ front back, content = front ++ back ∧
    place = (encode front).length

/- The boundaries are found at the starts of a text. -/
theorem isBoundary_iff
    (content : String)
    (place : Int) :
    IsBoundary content place ↔
      ∃ n ∈ List.range (content.toList.length + 1),
        place =
          (encode (String.ofList
            (content.toList.take n))).length := by
  constructor
  · rintro ⟨front, back, rfl, rfl⟩
    refine ⟨front.toList.length, ?_, ?_⟩
    · simp only [String.toList_append, List.length_append,
        List.mem_range]
      omega
    · rw [String.toList_append, List.take_left,
        String.ofList_toList]
  · rintro ⟨n, -, rfl⟩
    refine ⟨_, String.ofList (content.toList.drop n), ?_,
      rfl⟩
    rw [← String.ofList_append, List.take_append_drop,
      String.ofList_toList]

instance
    (content : String)
    (place : Int) :
    Decidable (IsBoundary content place) :=
  decidable_of_iff _ (isBoundary_iff content place).symm

theorem isBoundary_zero
    (content : String) :
    IsBoundary content 0 :=
  ⟨"", content, by simp, by simp [encode]⟩

theorem isBoundary_length
    (content : String) :
    IsBoundary content (encode content).length :=
  ⟨content, "", by simp, rfl⟩

theorem IsBoundary.le_length
    {content : String}
    {place : Int}
    (hPlace : IsBoundary content place) :
    place ≤ (encode content).length := by
  rcases hPlace with ⟨front, back, rfl, rfl⟩
  rw [encode_append, List.length_append]
  omega

------------------------------------------------------------
-- Excerpts
------------------------------------------------------------

/- The text that a text holds between two octets. -/
def IsExcerpt
    (content : String)
    (start stop : Int)
    (text : String) : Prop :=
  ∃ front back, content = front ++ text ++ back ∧
    start = (encode front).length ∧
      stop = (encode (front ++ text)).length

/- Between two boundaries there is an excerpt. -/
theorem exists_isExcerpt
    {content : String}
    {start stop : Int}
    (hStart : IsBoundary content start)
    (hStop : IsBoundary content stop)
    (hOrder : start ≤ stop) :
    ∃ text, IsExcerpt content start stop text := by
  rcases hStart with ⟨front, back, hContent, rfl⟩
  rcases hStop with ⟨front', back', hContent', rfl⟩
  have hText : front ++ back = front' ++ back' := by
    rw [← hContent, hContent']
  rcases exists_append_of_length_le hText
      (Int.ofNat_le.mp hOrder) with
    ⟨text, rfl⟩
  exact ⟨text, front, back', hContent', rfl, rfl⟩

/- An excerpt ends at a boundary. -/
theorem IsExcerpt.isBoundary_stop
    {content text : String}
    {start stop : Int}
    (hText : IsExcerpt content start stop text) :
    IsBoundary content stop := by
  rcases hText with ⟨front, back, hContent, -, hStop⟩
  exact ⟨front ++ text, back, hContent, hStop⟩

/- Nothing stands between an octet and itself. -/
theorem IsBoundary.isExcerpt_empty
    {content : String}
    {place : Int}
    (hPlace : IsBoundary content place) :
    IsExcerpt content place place "" := by
  rcases hPlace with ⟨front, back, rfl, rfl⟩
  exact ⟨front, back, by simp, rfl, by simp⟩

/- Excerpts that meet make up one. -/
theorem IsExcerpt.append
    {content first second : String}
    {start middle stop : Int}
    (hFirst : IsExcerpt content start middle first)
    (hSecond : IsExcerpt content middle stop second) :
    IsExcerpt content start stop (first ++ second) := by
  rcases hFirst with ⟨front, back, hContent, rfl, rfl⟩
  rcases hSecond with
    ⟨front', back', hContent', hMiddle, rfl⟩
  have hText :
      (front ++ first) ++ back =
        front' ++ (second ++ back') := by
    rw [← hContent, hContent', String.append_assoc]
  have hFront : front ++ first = front' :=
    front_eq_of_length_eq hText (Int.ofNat_inj.mp hMiddle)
  subst hFront
  refine ⟨front, back', ?_, rfl, ?_⟩
  · rw [hContent']
    simp only [String.append_assoc]
  · simp only [String.append_assoc]

/- All of a text is its only excerpt from end to end. -/
theorem IsExcerpt.eq_content
    {content text : String}
    (hText :
      IsExcerpt content 0 (encode content).length text) :
    text = content := by
  rcases hText with ⟨front, back, hContent, hStart, hStop⟩
  have hFront : front = "" :=
    eq_empty_of_length_encode (by omega)
  have hLength := congrArg (fun t => (encode t).length)
    hContent
  simp only [encode_append, List.length_append]
    at hLength hStop
  have hBack : back = "" :=
    eq_empty_of_length_encode (by omega)
  simp [hContent, hFront, hBack]

/- An excerpt is read back from its octets. -/
theorem IsExcerpt.slice_eq
    {content text : String}
    {start stop : Nat}
    (hText : IsExcerpt content start stop text) :
    slice (encode content) start stop = text := by
  rcases hText with ⟨front, back, rfl, hStart, hStop⟩
  have hStart := Int.ofNat_inj.mp hStart
  have hStop := Int.ofNat_inj.mp hStop
  rw [slice, encode_append, hStop, List.take_left, hStart,
    encode_append, List.drop_left, decode_encode]

/- An excerpt is what a span of its octets holds. -/
theorem IsExcerpt.textBetween_eq
    {content text : String}
    {start stop : Int}
    (hText : IsExcerpt content start stop text) :
    Span.textBetween (encode content) start stop = text := by
  have hSlice := hText
  rcases hText with ⟨front, back, -, rfl, rfl⟩
  simpa [Span.textBetween] using hSlice.slice_eq

/- What a span between two boundaries holds is an excerpt. -/
theorem isExcerpt_textBetween
    {content : String}
    {start stop : Int}
    (hStart : IsBoundary content start)
    (hStop : IsBoundary content stop)
    (hOrder : start ≤ stop) :
    IsExcerpt content start stop
      (Span.textBetween (encode content) start stop) := by
  rcases exists_isExcerpt hStart hStop hOrder with
    ⟨text, hText⟩
  rw [hText.textBetween_eq]
  exact hText

end Text

end SyntaxOutline

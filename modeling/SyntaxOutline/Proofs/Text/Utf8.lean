import SyntaxOutline.Text.Utf8

/-
  Decoding undoes encoding.

  The octets of a character are read back to that character,
  whatever stands behind them, so a text is read back from its
  octets.  The first octet tells how many follow; its range and
  the narrower range of the second octet leave out what is no
  character, and the bits come together again by division.

  Main statements:
    * `Text.decodeFrom_encodeChar`
    * `Text.decode_encode`
-/

------------------------------------------------------------
-- Single Octets
------------------------------------------------------------

namespace SyntaxOutline

namespace Text

/- A last octet completes the character begun. -/
theorem decodeFrom_last
    {bits low high n : Nat}
    (hLow : low ≤ n)
    (hHigh : n ≤ high)
    (hOctet : n < 256)
    (rest : List UInt8) :
    decodeFrom 1 bits low high (UInt8.ofNat n :: rest) =
      Char.ofNat (bits * 64 + (n - 0x80)) ::
        decodeFrom 0 0 0 0 rest := by
  have hNat : (UInt8.ofNat n).toNat = n :=
    UInt8.toNat_ofNat_of_lt' hOctet
  simp [decodeFrom, hNat, hLow, hHigh]

/- An octet before the last one only adds its bits. -/
theorem decodeFrom_next
    {bits low high n : Nat}
    (following : Nat)
    (hLow : low ≤ n)
    (hHigh : n ≤ high)
    (hOctet : n < 256)
    (rest : List UInt8) :
    decodeFrom (following + 2) bits low high
        (UInt8.ofNat n :: rest) =
      decodeFrom (following + 1) (bits * 64 + (n - 0x80))
        0x80 0xBF rest := by
  have hNat : (UInt8.ofNat n).toNat = n :=
    UInt8.toNat_ofNat_of_lt' hOctet
  simp [decodeFrom, hNat, hLow, hHigh]

/- The first octet of a longer character says what follows. -/
theorem decodeFrom_lead
    {following bits low high n : Nat}
    (hLead :
      Lead.of? n = some ⟨following + 1, bits, low, high⟩)
    (hOctet : n < 256)
    (rest : List UInt8) :
    decodeFrom 0 0 0 0 (UInt8.ofNat n :: rest) =
      decodeFrom (following + 1) bits low high rest := by
  have hNat : (UInt8.ofNat n).toNat = n :=
    UInt8.toNat_ofNat_of_lt' hOctet
  simp [decodeFrom, hNat, hLead]

------------------------------------------------------------
-- First Octets
------------------------------------------------------------

/-
  The first octet of three, where `m` is the second: overlong
  forms and halves of characters are the ones left out.
-/
theorem exists_lead_of_three
    {n m : Nat}
    (hLow : 0xE0 ≤ n)
    (hHigh : n < 0xF0)
    (hSecond : 0x80 ≤ m ∧ m ≤ 0xBF)
    (hLong : n = 0xE0 → 0xA0 ≤ m)
    (hWhole : n = 0xED → m ≤ 0x9F) :
    ∃ low high,
      Lead.of? n = some ⟨2, n - 0xE0, low, high⟩ ∧
        low ≤ m ∧ m ≤ high := by
  unfold Lead.of?
  rw [if_neg (by omega), if_neg (by omega),
    if_neg (by omega)]
  by_cases hFirst : n = 0xE0
  · subst hFirst
    exact ⟨0xA0, 0xBF, rfl, hLong rfl, hSecond.2⟩
  · rw [if_neg hFirst]
    by_cases hHalf : n = 0xED
    · subst hHalf
      exact ⟨0x80, 0x9F, rfl, hSecond.1, hWhole rfl⟩
    · rw [if_neg hHalf, if_pos hHigh]
      exact ⟨0x80, 0xBF, rfl, hSecond.1, hSecond.2⟩

/- The first octet of four, where `m` is the second. -/
theorem exists_lead_of_four
    {n m : Nat}
    (hLow : 0xF0 ≤ n)
    (hHigh : n ≤ 0xF4)
    (hSecond : 0x80 ≤ m ∧ m ≤ 0xBF)
    (hLong : n = 0xF0 → 0x90 ≤ m)
    (hLast : n = 0xF4 → m ≤ 0x8F) :
    ∃ low high,
      Lead.of? n = some ⟨3, n - 0xF0, low, high⟩ ∧
        low ≤ m ∧ m ≤ high := by
  unfold Lead.of?
  rw [if_neg (by omega), if_neg (by omega),
    if_neg (by omega), if_neg (by omega),
    if_neg (by omega), if_neg (by omega)]
  by_cases hFirst : n = 0xF0
  · subst hFirst
    exact ⟨0x90, 0xBF, rfl, hLong rfl, hSecond.2⟩
  · rw [if_neg hFirst]
    by_cases hEnd : n = 0xF4
    · subst hEnd
      exact ⟨0x80, 0x8F, rfl, hSecond.1, hLast rfl⟩
    · rw [if_pos (by omega)]
      exact ⟨0x80, 0xBF, rfl, hSecond.1, hSecond.2⟩

------------------------------------------------------------
-- Characters
------------------------------------------------------------

/- The code of a character is in range and no half. -/
theorem toNat_isScalar
    (c : Char) :
    c.val.toNat < 0xD800 ∨
      0xDFFF < c.val.toNat ∧ c.val.toNat < 0x110000 :=
  c.valid

/- The octets of a character are read back to it. -/
theorem decodeFrom_encodeChar
    (c : Char)
    (rest : List UInt8) :
    decodeFrom 0 0 0 0 (String.utf8EncodeChar c ++ rest) =
      c :: decodeFrom 0 0 0 0 rest := by
  have hScalar := toNat_isScalar c
  have hChar : ∀ n, n = c.val.toNat → Char.ofNat n = c := by
    rintro n rfl
    exact Char.ofNat_toNat c
  unfold String.utf8EncodeChar
  generalize c.val.toNat = v at hScalar hChar
  by_cases hOne : v ≤ 0x7F
  · have hNat : (UInt8.ofNat v).toNat = v :=
      UInt8.toNat_ofNat_of_lt' (show v < 256 by omega)
    have hLead : Lead.of? v = some ⟨0, v, 0, 0⟩ := by
      unfold Lead.of?
      rw [if_pos (by omega)]
    simp [hOne, decodeFrom, hNat, hLead, hChar v rfl]
  · by_cases hTwo : v ≤ 0x7FF
    · have hLead :
          Lead.of? (v / 64 % 0x20 + 0xC0) =
            some ⟨1, v / 64 % 0x20 + 0xC0 - 0xC0,
              0x80, 0xBF⟩ := by
        unfold Lead.of?
        rw [if_neg (by omega), if_neg (by omega),
          if_pos (by omega)]
      simp only [hOne, hTwo, if_false, if_true,
        List.cons_append, List.nil_append]
      rw [decodeFrom_lead hLead (by omega),
        decodeFrom_last (by omega) (by omega) (by omega),
        hChar _ (by omega)]
    · by_cases hThree : v ≤ 0xFFFF
      · rcases exists_lead_of_three
            (n := v / 4096 % 0x10 + 0xE0)
            (m := v / 64 % 0x40 + 0x80)
            (by omega) (by omega) (by omega) (by omega)
            (by omega) with
          ⟨low, high, hLead, hLow, hHigh⟩
        simp only [hOne, hTwo, hThree, if_false, if_true,
          List.cons_append, List.nil_append]
        rw [decodeFrom_lead hLead (by omega),
          decodeFrom_next 0 hLow hHigh (by omega),
          decodeFrom_last (by omega) (by omega) (by omega),
          hChar _ (by omega)]
      · rcases exists_lead_of_four
            (n := v / 262144 % 0x08 + 0xF0)
            (m := v / 4096 % 0x40 + 0x80)
            (by omega) (by omega) (by omega) (by omega)
            (by omega) with
          ⟨low, high, hLead, hLow, hHigh⟩
        simp only [hOne, hTwo, hThree, if_false,
          List.cons_append, List.nil_append]
        rw [decodeFrom_lead hLead (by omega),
          decodeFrom_next 1 hLow hHigh (by omega),
          decodeFrom_next 0 (by omega) (by omega)
            (by omega),
          decodeFrom_last (by omega) (by omega) (by omega),
          hChar _ (by omega)]

------------------------------------------------------------
-- Texts
------------------------------------------------------------

theorem decodeFrom_flatMap_encodeChar
    (chars : List Char) :
    decodeFrom 0 0 0 0
        (chars.flatMap String.utf8EncodeChar) = chars := by
  induction chars with
  | nil => rfl
  | cons c chars ih =>
      rw [List.flatMap_cons, decodeFrom_encodeChar, ih]

/- A text is read back from its octets. -/
theorem decode_encode
    (text : String) :
    decode (encode text) = text := by
  rw [decode, encode, decodeFrom_flatMap_encodeChar,
    String.ofList_toList]

end Text

end SyntaxOutline

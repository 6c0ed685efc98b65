/-
  Octets and characters.

  A text is encoded character by character.  Decoding accepts
  any octets: where no character can be read, the longest
  start of a character that the octets hold, or else one
  octet, becomes the replacement character.

  Key definitions include:
    * `Text.encode`
    * `Text.decode`
    * `Text.slice`
-/

------------------------------------------------------------
-- Encoding
------------------------------------------------------------

namespace SyntaxOutline

namespace Text

/- The octets of a text. -/
def encode
    (text : String) : List UInt8 :=
  text.toList.flatMap String.utf8EncodeChar

------------------------------------------------------------
-- Shape Of A Character
------------------------------------------------------------

/-
  What the first octet of a character says: how many octets
  follow, the bits it gives, and the range of the octet right
  behind it.  Later octets lie between 0x80 and 0xBF.
-/
structure Lead where
  following : Nat
  bits : Nat
  low : Nat
  high : Nat
  deriving Repr, DecidableEq

/- The shape that an octet starts, if it starts one. -/
def Lead.of?
    (b : Nat) : Option Lead :=
  if b < 0x80 then some ⟨0, b, 0, 0⟩
  else if b < 0xC2 then none
  else if b < 0xE0 then some ⟨1, b - 0xC0, 0x80, 0xBF⟩
  else if b = 0xE0 then some ⟨2, 0, 0xA0, 0xBF⟩
  else if b = 0xED then some ⟨2, 0xD, 0x80, 0x9F⟩
  else if b < 0xF0 then some ⟨2, b - 0xE0, 0x80, 0xBF⟩
  else if b = 0xF0 then some ⟨3, 0, 0x90, 0xBF⟩
  else if b < 0xF4 then some ⟨3, b - 0xF0, 0x80, 0xBF⟩
  else if b = 0xF4 then some ⟨3, 4, 0x80, 0x8F⟩
  else none

/- The character put where octets cannot be read. -/
def replacement : Char := '\uFFFD'

------------------------------------------------------------
-- Decoding
------------------------------------------------------------

/-
  Decoding with a character begun: `following` octets are
  still missing, the next one lies from `low` to `high`, and
  `bits` are its bits so far.  An octet that does not fit ends
  the character begun and is read afresh.
-/
def decodeFrom
    (following bits low high : Nat) :
    List UInt8 → List Char
  | [] => if following = 0 then [] else [replacement]
  | b :: rest =>
      let n := b.toNat
      if following ≠ 0 ∧ low ≤ n ∧ n ≤ high then
        let bits := bits * 64 + (n - 0x80)
        if following = 1 then
          Char.ofNat bits :: decodeFrom 0 0 0 0 rest
        else
          decodeFrom (following - 1) bits 0x80 0xBF rest
      else
        let broken := if following = 0 then [] else [replacement]
        broken ++
          match Lead.of? n with
          | none => replacement :: decodeFrom 0 0 0 0 rest
          | some lead =>
              if lead.following = 0 then
                Char.ofNat lead.bits :: decodeFrom 0 0 0 0 rest
              else
                decodeFrom lead.following lead.bits lead.low
                  lead.high rest

/- The text that octets hold, with replacements. -/
def decode
    (bytes : List UInt8) : String :=
  String.ofList (decodeFrom 0 0 0 0 bytes)

/- The text of the octets from `start` up to `stop`. -/
def slice
    (bytes : List UInt8)
    (start stop : Nat) : String :=
  decode ((bytes.take stop).drop start)

end Text

end SyntaxOutline

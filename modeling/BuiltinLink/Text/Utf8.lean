/-!
UTF-8. A byte sequence falls into pieces: the encodings of characters, and between them the longest
stretches that begin an encoding without completing it. The strict reader refuses such a stretch,
the lenient one puts the replacement character in its place.
-/

namespace BuiltinLink.Text

/-- Uninterpreted bytes. -/
abbrev Bytes := List UInt8

/-- The encoding of a text. -/
def encode (s : List Char) : Bytes :=
  s.flatMap String.utf8EncodeChar

/-- The number of bytes of a text. -/
def byteLength (s : List Char) : Nat :=
  (encode s).length

/-- What the first byte of a longer encoding says: the bits it contributes, the range of the second
byte, and how many bytes follow the second. The ranges leave out overlong forms, surrogates and
numbers beyond the last code point. -/
structure Lead where
  bits : Nat
  low : Nat := 0x80
  high : Nat := 0xBF
  more : Nat

/-- The reading of a first byte that is not ASCII; `none` for a byte that begins no character. -/
def lead? (b : Nat) : Option Lead :=
  if b < 0xC2 then none
  else if b < 0xE0 then some { bits := b - 0xC0, more := 0 }
  else if b == 0xE0 then some { bits := 0, low := 0xA0, more := 1 }
  else if b == 0xED then some { bits := 0xD, high := 0x9F, more := 1 }
  else if b < 0xF0 then some { bits := b - 0xE0, more := 1 }
  else if b == 0xF0 then some { bits := 0, low := 0x90, more := 2 }
  else if b < 0xF4 then some { bits := b - 0xF0, more := 2 }
  else if b == 0xF4 then some { bits := 4, high := 0x8F, more := 2 }
  else none

/-- A stretch of bytes: an encoded character, or bytes that encode none. -/
inductive Piece where
  | char (c : Char)
  | broken (bs : Bytes)
deriving DecidableEq, Repr

/-- How the lenient reader shows a piece. -/
def Piece.shown : Piece → Char
  | char c => c
  | broken _ => '\ufffd'

/-- Reads `n` further bytes of a character; `value` and `seen` tell what has been read of it. -/
def finishChar (value : Nat) (seen : Bytes) : Nat → Bytes → Piece × Bytes
  | 0, r => (.char (Char.ofNat value), r)
  | _ + 1, [] => (.broken seen, [])
  | n + 1, b :: r =>
    if 0x80 ≤ b.toNat ∧ b.toNat ≤ 0xBF then
      finishChar (value * 64 + (b.toNat - 0x80)) (seen ++ [b]) n r
    else (.broken seen, b :: r)

theorem finishChar_length (value : Nat) (seen : Bytes) (n : Nat) (r : Bytes) :
    (finishChar value seen n r).2.length ≤ r.length := by
  induction r generalizing value seen n with
  | nil => cases n <;> simp [finishChar]
  | cons b r ih =>
    cases n with
    | zero => simp [finishChar]
    | succ n =>
      simp only [finishChar]
      split
      · exact Nat.le_trans (ih _ _ _) (Nat.le_succ _)
      · exact Nat.le_refl _

/-- The piece that begins with `b`, and what follows it. -/
def nextPiece (b : UInt8) (r : Bytes) : Piece × Bytes :=
  if b.toNat < 0x80 then (.char (Char.ofNat b.toNat), r)
  else
    match lead? b.toNat, r with
    | some l, c :: r' =>
      if l.low ≤ c.toNat ∧ c.toNat ≤ l.high then
        finishChar (l.bits * 64 + (c.toNat - 0x80)) [b, c] l.more r'
      else (.broken [b], r)
    | _, _ => (.broken [b], r)

theorem nextPiece_length (b : UInt8) (r : Bytes) : (nextPiece b r).2.length ≤ r.length := by
  simp only [nextPiece]
  split
  · exact Nat.le_refl _
  · split
    · split
      · exact Nat.le_trans (finishChar_length _ _ _ _) (Nat.le_succ _)
      · exact Nat.le_refl _
    · exact Nat.le_refl _

/-- The pieces of a byte sequence, in order. -/
def pieces : Bytes → List Piece
  | [] => []
  | b :: r => (nextPiece b r).1 :: pieces (nextPiece b r).2
termination_by bs => bs.length
decreasing_by exact Nat.lt_succ_of_le (nextPiece_length b r)

/-- The text that the bytes encode, if every piece of them is a character. -/
def decode? (bs : Bytes) : Option (List Char) :=
  (pieces bs).mapM fun
    | .char c => some c
    | .broken _ => none

/-- The text that the bytes encode, with a replacement character for each broken piece. -/
def decodeLossy (bs : Bytes) : List Char :=
  (pieces bs).map Piece.shown

end BuiltinLink.Text

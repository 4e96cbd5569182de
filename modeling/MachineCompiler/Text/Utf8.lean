/-!
# Reading bytes as UTF-8

A sequence of bytes is read as a list of pieces: the characters that it encodes, and between them
the shortest runs of bytes that encode nothing. A run ends before the first byte that cannot
continue the character begun by the run, so that every such run stands for exactly one
replacement character when the bytes are shown as text.
-/

namespace MachineCompiler.Text

/-- A character, or a run of bytes that encodes none. -/
inductive Piece where
  | char (value : Char)
  | illFormed (bytes : List UInt8)
deriving DecidableEq, Repr, Inhabited

/-- The character shown for a piece: itself, or U+FFFD for a run that encodes nothing. -/
def Piece.shown : Piece → Char
  | .char value => value
  | .illFormed _ => '\uFFFD'

/-- The number of bytes of a piece. -/
def Piece.size : Piece → Nat
  | .char value => value.utf8Size
  | .illFormed bytes => bytes.length

/-- The character of a piece that has one. -/
def Piece.char? : Piece → Option Char
  | .char value => some value
  | .illFormed _ => none

namespace Utf8

/-- What a leading byte promises: how many bytes follow, the range of the first of them, and the
bits of the code point that the leading byte holds. -/
structure Lead where
  tails : Nat
  low : UInt8
  high : UInt8
  bits : UInt8

/-- The promise of a byte that may begin a character. Overlong forms, surrogates and code points
above U+10FFFF are ruled out by the range of the second byte. -/
def lead? (byte : UInt8) : Option Lead :=
  if byte < 0x80 then some ⟨0, 0x80, 0xBF, byte⟩
  else if byte < 0xC2 then none
  else if byte < 0xE0 then some ⟨1, 0x80, 0xBF, byte &&& 0x1F⟩
  else if byte = 0xE0 then some ⟨2, 0xA0, 0xBF, 0⟩
  else if byte = 0xED then some ⟨2, 0x80, 0x9F, 0x0D⟩
  else if byte < 0xF0 then some ⟨2, 0x80, 0xBF, byte &&& 0x0F⟩
  else if byte = 0xF0 then some ⟨3, 0x90, 0xBF, 0⟩
  else if byte < 0xF4 then some ⟨3, 0x80, 0xBF, byte &&& 0x07⟩
  else if byte = 0xF4 then some ⟨3, 0x80, 0x8F, 0x04⟩
  else none

/-- Take at most `count` continuation bytes, the first of them from `low` to `high`. -/
def takeTails : (count : Nat) → (low high : UInt8) → List UInt8 → List UInt8 × List UInt8
  | count + 1, low, high, byte :: rest =>
    if low ≤ byte ∧ byte ≤ high then
      let (taken, left) := takeTails count 0x80 0xBF rest
      (byte :: taken, left)
    else ([], byte :: rest)
  | _, _, _, bytes => ([], bytes)

theorem length_takeTails_le (count : Nat) (low high : UInt8) (bytes : List UInt8) :
    (takeTails count low high bytes).2.length ≤ bytes.length := by
  induction count generalizing low high bytes with
  | zero => cases bytes <;> simp [takeTails]
  | succ count ih =>
    cases bytes with
    | nil => simp [takeTails]
    | cons byte rest =>
      simp only [takeTails]
      split
      · exact Nat.le_succ_of_le (ih 0x80 0xBF rest)
      · simp

/-- The code point of a leading byte's bits followed by the low six bits of each further byte. -/
def codePoint (bits : UInt8) (tails : List UInt8) : Nat :=
  tails.foldl (fun code byte => code * 64 + (byte &&& 0x3F).toNat) bits.toNat

/-- The pieces of a sequence of bytes. -/
def decode : List UInt8 → List Piece
  | [] => []
  | byte :: rest =>
    match lead? byte with
    | none => .illFormed [byte] :: decode rest
    | some lead =>
      let tails := takeTails lead.tails lead.low lead.high rest
      if tails.1.length = lead.tails then
        .char (Char.ofNat (codePoint lead.bits tails.1)) :: decode tails.2
      else .illFormed (byte :: tails.1) :: decode tails.2
termination_by bytes => bytes.length
decreasing_by
  · simp
  all_goals exact Nat.lt_succ_of_le (length_takeTails_le ..)

/-- The text shown for a list of pieces. -/
def shown (pieces : List Piece) : String :=
  String.ofList (pieces.map Piece.shown)

/-- The text shown for bytes. -/
def shownBytes (bytes : List UInt8) : String :=
  shown (decode bytes)

/-- The text of bytes that are UTF-8 throughout. -/
def text? (bytes : List UInt8) : Option String :=
  ((decode bytes).mapM Piece.char?).map String.ofList

end Utf8

end MachineCompiler.Text

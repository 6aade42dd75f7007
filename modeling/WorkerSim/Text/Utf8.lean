/-!
# UTF-8

Texts as bytes. Strict decoding refuses every byte sequence that no text has; lenient decoding
puts a replacement character in place of each longest broken piece.
-/

set_option autoImplicit false

namespace WorkerSim.Text

abbrev Bytes := List UInt8

namespace Utf8

def encode (cs : List Char) : Bytes := cs.flatMap String.utf8EncodeChar

/-- The number of bytes that a text takes. -/
def width : List Char → Nat
  | [] => 0
  | c :: cs => c.utf8Size + width cs

def decode? (bytes : Bytes) : Option (List Char) :=
  (String.fromUTF8? (ByteArray.mk bytes.toArray)).map String.toList

theorem encode_append (a b : List Char) : encode (a ++ b) = encode a ++ encode b := by
  simp [encode]

theorem toByteArray_encode (a : List Char) :
    ByteArray.mk (encode a).toArray = (String.ofList a).toByteArray :=
  ByteArray.ext (by simp [encode, List.utf8Encode])

theorem decode?_encode (a : List Char) : decode? (encode a) = some a := by
  rw [decode?, toByteArray_encode, String.fromUTF8?, dif_pos (String.ofList a).isValidUTF8,
    Option.map_some, Option.some_inj]
  exact String.toList_ofList

theorem eq_encode_of_decode? {bytes : Bytes} {a : List Char} (h : decode? bytes = some a) :
    bytes = encode a := by
  obtain ⟨s, hText, rfl⟩ := Option.map_eq_some_iff.mp h
  rw [String.fromUTF8?] at hText
  split at hText
  · rename_i hValid
    obtain rfl := Option.some.inj hText
    have hBytes := toByteArray_encode (String.fromUTF8 (ByteArray.mk bytes.toArray) hValid).toList
    rw [String.ofList_toList] at hBytes
    exact (List.toArray_inj (ByteArray.mk.inj hBytes)).symm
  · cases hText

/-- The bytes that may follow a first byte: how many, and the range of the next one. -/
structure Lead where
  bits : Nat
  low : UInt8
  high : UInt8
  following : Nat

/-- What a first byte of several announces; the ranges keep out overlong forms, surrogates and
numbers above the last code point. -/
def lead? (b : UInt8) : Option Lead :=
  if 0xC2 ≤ b ∧ b ≤ 0xDF then some ⟨b.toNat % 32, 0x80, 0xBF, 1⟩
  else if b = 0xE0 then some ⟨0, 0xA0, 0xBF, 2⟩
  else if b = 0xED then some ⟨13, 0x80, 0x9F, 2⟩
  else if 0xE1 ≤ b ∧ b ≤ 0xEF then some ⟨b.toNat % 16, 0x80, 0xBF, 2⟩
  else if b = 0xF0 then some ⟨0, 0x90, 0xBF, 3⟩
  else if 0xF1 ≤ b ∧ b ≤ 0xF3 then some ⟨b.toNat % 8, 0x80, 0xBF, 3⟩
  else if b = 0xF4 then some ⟨4, 0x80, 0x8F, 3⟩
  else none

/-- Takes the announced bytes as far as they come: the code point if all are there, and the rest. -/
def follow (bits : Nat) (low high : UInt8) : Nat → Bytes → Option Nat × Bytes
  | 0, rest => (some bits, rest)
  | _ + 1, [] => (none, [])
  | n + 1, b :: rest =>
    if low ≤ b ∧ b ≤ high then follow (bits * 64 + b.toNat % 64) 0x80 0xBF n rest
    else (none, b :: rest)

theorem follow_length_le (bits : Nat) (low high : UInt8) (n : Nat) (bytes : Bytes) :
    (follow bits low high n bytes).2.length ≤ bytes.length := by
  induction n generalizing bits low high bytes with
  | zero => simp [follow]
  | succ n ih =>
    cases bytes with
    | nil => simp [follow]
    | cons b rest =>
      rw [follow]
      split
      · exact Nat.le_succ_of_le (ih _ _ _ rest)
      · exact Nat.le_refl _

def replacement : Char := Char.ofNat 0xFFFD

/-- The character that begins with the given byte, if it is whole, and what follows the character or
the broken piece. -/
def next (b : UInt8) (rest : Bytes) : Option Char × Bytes :=
  if b < 0x80 then (some (Char.ofNat b.toNat), rest)
  else match lead? b with
    | none => (none, rest)
    | some lead =>
      let taken := follow lead.bits lead.low lead.high lead.following rest
      (taken.1.map Char.ofNat, taken.2)

theorem next_length_le (b : UInt8) (rest : Bytes) : (next b rest).2.length ≤ rest.length := by
  unfold next
  split
  · exact Nat.le_refl _
  · split
    · exact Nat.le_refl _
    · exact follow_length_le ..

def decodeLenient : Bytes → List Char
  | [] => []
  | b :: rest => (next b rest).1.getD replacement :: decodeLenient (next b rest).2
termination_by bytes => bytes.length
decreasing_by exact Nat.lt_succ_of_le (next_length_le b rest)

end Utf8

end WorkerSim.Text

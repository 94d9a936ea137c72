/-!
# UTF-8

Bytes and the text they stand for.

* `encode`: the bytes of a text.
* `decodeLossy`: the text of any bytes; the longest beginning of a character that breaks off, or a
  byte that begins none, becomes one replacement character `U+FFFD`.
* `decode?`: the text of bytes that are a text throughout.
* **`decode?_encode`**, **`decodeLossy_encode`**: both undo `encode`.
-/

namespace LocalCluster.Text

/-- A sequence of bytes. -/
abbrev Bytes := List UInt8

/-- The bytes of a list of characters. -/
def encodeChars (cs : List Char) : Bytes := cs.flatMap String.utf8EncodeChar

/-- The bytes of a text. -/
def encode (s : String) : Bytes := encodeChars s.toList

/-- The character that the bytes begin with. -/
def headChar? (bs : Bytes) : Option Char := (bs.take 4).toByteArray.utf8DecodeChar? 0

/-- The byte may follow a first byte in a character of several bytes. -/
def isContinuation (b : UInt8) : Bool := 0x80 ≤ b && b ≤ 0xBF

/-- The second byte may follow the first in a character of three or four bytes. -/
def isSecond (first second : UInt8) : Bool :=
  if first == 0xE0 then 0xA0 ≤ second && second ≤ 0xBF
  else if first == 0xED then 0x80 ≤ second && second ≤ 0x9F
  else if 0xE1 ≤ first && first ≤ 0xEF then isContinuation second
  else if first == 0xF0 then 0x90 ≤ second && second ≤ 0xBF
  else if first == 0xF4 then 0x80 ≤ second && second ≤ 0x8F
  else if 0xF1 ≤ first && first ≤ 0xF3 then isContinuation second
  else false

/-- How many bytes one replacement character stands for, where no character begins. -/
def brokenLength : Bytes → Nat
  | first :: second :: rest =>
    if isSecond first second then
      match rest with
      | third :: _ => if 0xF0 ≤ first && isContinuation third then 3 else 2
      | [] => 2
    else 1
  | _ => 1

theorem brokenLength_pos (bs : Bytes) : 0 < brokenLength bs := by
  unfold brokenLength
  repeat' split
  all_goals decide

/-- The characters of any bytes, with `U+FFFD` where the bytes are no text. -/
def decodeLossyChars : Bytes → List Char
  | [] => []
  | b :: rest =>
    match headChar? (b :: rest) with
    | some c => c :: decodeLossyChars ((b :: rest).drop c.utf8Size)
    | none => '\uFFFD' :: decodeLossyChars ((b :: rest).drop (brokenLength (b :: rest)))
termination_by bs => bs.length
decreasing_by
  · have := Char.utf8Size_pos c
    simp only [List.length_drop, List.length_cons]
    omega
  · have := brokenLength_pos (b :: rest)
    simp only [List.length_drop, List.length_cons] at *
    omega

/-- The text of any bytes, with `U+FFFD` where the bytes are no text. -/
def decodeLossy (bs : Bytes) : String := String.ofList (decodeLossyChars bs)

/-- The characters of bytes that are a text throughout. -/
def decodeChars? : Bytes → Option (List Char)
  | [] => some []
  | b :: rest =>
    match headChar? (b :: rest) with
    | some c => (decodeChars? ((b :: rest).drop c.utf8Size)).map (c :: ·)
    | none => none
termination_by bs => bs.length
decreasing_by
  have := Char.utf8Size_pos c
  simp only [List.length_drop, List.length_cons]
  omega

/-- The text of bytes that are a text throughout. -/
def decode? (bs : Bytes) : Option String := (decodeChars? bs).map String.ofList

/-! ## Laws -/

theorem length_utf8EncodeChar_le (c : Char) : (String.utf8EncodeChar c).length ≤ 4 := by
  rw [String.length_utf8EncodeChar]
  exact Char.utf8Size_le_four c

theorem headChar?_encode (c : Char) (rest : Bytes) :
    headChar? (String.utf8EncodeChar c ++ rest) = some c := by
  unfold headChar?
  rw [List.take_append, List.take_of_length_le (length_utf8EncodeChar_le c)]
  have h := @ByteArray.utf8DecodeChar?_utf8EncodeChar_append
    (rest.take (4 - (String.utf8EncodeChar c).length)).toByteArray c
  rwa [← List.toByteArray_append] at h

theorem drop_utf8EncodeChar (c : Char) (rest : Bytes) :
    (String.utf8EncodeChar c ++ rest).drop c.utf8Size = rest := by
  rw [← String.length_utf8EncodeChar c, List.drop_left]

theorem decodeLossyChars_append (c : Char) (rest : Bytes) :
    decodeLossyChars (String.utf8EncodeChar c ++ rest) = c :: decodeLossyChars rest := by
  cases h : String.utf8EncodeChar c ++ rest with
  | nil => simp at h
  | cons b bs =>
    rw [decodeLossyChars, ← h, headChar?_encode]
    simp only [drop_utf8EncodeChar]

theorem decodeChars?_append (c : Char) (rest : Bytes) :
    decodeChars? (String.utf8EncodeChar c ++ rest) = (decodeChars? rest).map (c :: ·) := by
  cases h : String.utf8EncodeChar c ++ rest with
  | nil => simp at h
  | cons b bs =>
    rw [decodeChars?, ← h, headChar?_encode]
    simp only [drop_utf8EncodeChar]

theorem encodeChars_cons (c : Char) (cs : List Char) :
    encodeChars (c :: cs) = String.utf8EncodeChar c ++ encodeChars cs := by
  simp [encodeChars]

theorem decodeLossyChars_encodeChars (cs : List Char) :
    decodeLossyChars (encodeChars cs) = cs := by
  induction cs with
  | nil => rw [encodeChars, List.flatMap_nil, decodeLossyChars]
  | cons c cs ih => rw [encodeChars_cons, decodeLossyChars_append, ih]

theorem decodeChars?_encodeChars (cs : List Char) : decodeChars? (encodeChars cs) = some cs := by
  induction cs with
  | nil => rw [encodeChars, List.flatMap_nil, decodeChars?]
  | cons c cs ih => rw [encodeChars_cons, decodeChars?_append, ih, Option.map_some]

theorem decodeLossy_encode (s : String) : decodeLossy (encode s) = s := by
  simp [decodeLossy, encode, decodeLossyChars_encodeChars]

theorem decode?_encode (s : String) : decode? (encode s) = some s := by
  simp [decode?, encode, decodeChars?_encodeChars]

end LocalCluster.Text

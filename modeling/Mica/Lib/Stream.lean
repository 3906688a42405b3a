import Mathlib.Data.List.Basic

/-!
# Streams of bytes

A reader of a stream gets it in pieces that it does not choose: each is non-empty, has
at most as many items as the reader asks for, and together they are the stream.

Texts are lists of characters and their encodings lists of bytes, by the encoder and the
strict decoder of the standard library. What matters for a reader that decodes a stream piece
by piece: as far as a text is ASCII every byte is a character, and the first byte of any other
character does not decode.
-/

universe u

/-- A way of cutting a stream into pieces of at most `limit` items. -/
structure Cut {α : Type u} (limit : ℕ) (stream : List α) where
  pieces : List (List α)
  nonempty : ∀ piece ∈ pieces, piece ≠ []
  short : ∀ piece ∈ pieces, piece.length ≤ limit
  joined : pieces.flatten = stream

namespace Cut

variable {α : Type u} {limit : ℕ}

/-- Item by item. -/
def single (positive : 0 < limit) (stream : List α) : Cut limit stream where
  pieces := stream.map ([·])
  nonempty := by simp
  short := by
    intro piece member
    obtain ⟨item, _, rfl⟩ := List.mem_map.1 member
    exact positive
  joined := by
    induction stream with
    | nil => rfl
    | cons item stream ih => exact congrArg (item :: ·) ih

/-- All in one piece. -/
def whole {stream : List α} (nonempty : stream ≠ []) (short : stream.length ≤ limit) :
    Cut limit stream where
  pieces := [stream]
  nonempty := by simpa using nonempty
  short := by simpa using short
  joined := by simp

/-- One stream behind another, with a cut between them. -/
def append {front back : List α} (left : Cut limit front) (right : Cut limit back) :
    Cut limit (front ++ back) where
  pieces := left.pieces ++ right.pieces
  nonempty := List.forall_mem_append.2 ⟨left.nonempty, right.nonempty⟩
  short := List.forall_mem_append.2 ⟨left.short, right.short⟩
  joined := by rw [List.flatten_append, left.joined, right.joined]

end Cut

namespace Utf8

variable {text front rest : List Char} {bytes : List UInt8}

/-- The bytes of a text. -/
def encode (text : List Char) : List UInt8 := text.flatMap String.utf8EncodeChar

/-- The text with these bytes, if there is one. -/
def decode (bytes : List UInt8) : Option (List Char) :=
  bytes.toByteArray.utf8Decode?.map Array.toList

@[simp]
theorem encode_nil : encode [] = [] := rfl

theorem encode_append (front rest : List Char) :
    encode (front ++ rest) = encode front ++ encode rest :=
  List.flatMap_append

theorem decode_encode (text : List Char) : decode (encode text) = some text := by
  rw [decode, encode, ← List.utf8Encode, List.utf8Decode?_utf8Encode]
  rfl

theorem eq_encode_of_decode (decoded : decode bytes = some text) : bytes = encode text := by
  obtain ⟨chars, isChars, rfl⟩ := Option.map_eq_some_iff.1 decoded
  have isSome : bytes.toByteArray.utf8Decode?.isSome = true := by rw [isChars]; rfl
  have same := @ByteArray.utf8Encode_get_utf8Decode? bytes.toByteArray isSome
  simp only [isChars, Option.get_some] at same
  rw [← @List.toList_data_toByteArray bytes, ← same, List.utf8Encode, List.toList_data_toByteArray,
    encode]

theorem prefix_of_encode_prefix (starts : encode front <+: encode text) : front <+: text := by
  obtain ⟨back, joined⟩ := starts
  apply List.isPrefix_of_utf8Encode_append_eq_utf8Encode back.toByteArray
  rw [List.utf8Encode, List.utf8Encode, ← List.toByteArray_append]
  exact congrArg List.toByteArray joined

/-- All characters are encoded as one byte. -/
def Ascii (text : List Char) : Prop := ∀ char ∈ text, char.utf8Size = 1

theorem length_encode_cons (char : Char) (text : List Char) :
    (encode (char :: text)).length = char.utf8Size + (encode text).length := by
  rw [encode, List.flatMap_cons, List.length_append, String.length_utf8EncodeChar, encode]

theorem encode_ne_nil (nonempty : text ≠ []) : encode text ≠ [] := by
  rcases text with _ | ⟨char, text⟩
  · exact absurd rfl nonempty
  · intro empty
    have length := length_encode_cons char text
    have positive := char.utf8Size_pos
    rw [empty, List.length_nil] at length
    omega

theorem length_encode (ascii : Ascii text) : (encode text).length = text.length := by
  induction text with
  | nil => rfl
  | cons char text ih =>
      obtain ⟨one, ascii⟩ := List.forall_mem_cons.1 ascii
      rw [length_encode_cons, ih ascii, one, List.length_cons, Nat.add_comm]

theorem Ascii.mono {other : List Char} (ascii : Ascii other) (sublist : text ⊆ other) :
    Ascii text :=
  fun char member => ascii char (sublist member)

theorem Ascii.take_drop {n k : ℕ} (ascii : Ascii (text.take (n + k))) :
    Ascii ((text.drop n).take k) := by
  apply ascii.mono
  rw [List.take_add]
  exact List.subset_append_right _ _

theorem ascii_or_exists (text : List Char) :
    Ascii text ∨ ∃ front char rest, text = front ++ char :: rest ∧ Ascii front ∧
      char.utf8Size ≠ 1 := by
  induction text with
  | nil => exact .inl (by simp [Ascii])
  | cons first text ih =>
      by_cases one : first.utf8Size = 1
      · rcases ih with ascii | ⟨front, char, rest, rfl, ascii, long⟩
        · exact .inl (List.forall_mem_cons.2 ⟨one, ascii⟩)
        · exact .inr ⟨first :: front, char, rest, rfl, List.forall_mem_cons.2 ⟨one, ascii⟩, long⟩
      · exact .inr ⟨[], first, text, rfl, by simp [Ascii], one⟩

section Split

variable {n : ℕ} (ascii : Ascii (text.take n))

include ascii

theorem split_encode :
    (encode text).take n = encode (text.take n) ∧ (encode text).drop n = encode (text.drop n) := by
  rcases Nat.le_total n text.length with inside | behind
  · have length : (encode (text.take n)).length = n := by
      rw [length_encode ascii, List.length_take, Nat.min_eq_left inside]
    have joined : encode text = encode (text.take n) ++ encode (text.drop n) := by
      rw [← encode_append, List.take_append_drop]
    rw [joined]
    exact ⟨List.take_left' length, List.drop_left' length⟩
  · rw [List.take_of_length_le behind] at ascii ⊢
    have length : (encode text).length ≤ n := by
      rw [length_encode ascii]
      exact behind
    rw [List.take_of_length_le length, List.drop_of_length_le length, List.drop_of_length_le behind]
    exact ⟨rfl, rfl⟩

theorem decode_take_encode : decode ((encode text).take n) = some (text.take n) := by
  rw [(split_encode ascii).1, decode_encode]

end Split

theorem decode_take_encode_eq_none {char : Char} (ascii : Ascii front) (long : char.utf8Size ≠ 1)
    (rest : List Char) :
    decode ((encode (front ++ char :: rest)).take (front.length + 1)) = none := by
  by_contra decodes
  obtain ⟨text, decoded⟩ := Option.ne_none_iff_exists'.1 decodes
  have bytes := eq_encode_of_decode decoded
  have enough : front.length + 1 ≤ (encode (front ++ char :: rest)).length := by
    rw [encode_append, List.length_append, length_encode ascii, length_encode_cons]
    have positive := char.utf8Size_pos
    omega
  have length : (encode text).length = front.length + 1 := by
    rw [← bytes, List.length_take, Nat.min_eq_left enough]
  have starts : text <+: front ++ char :: rest := by
    apply prefix_of_encode_prefix
    rw [← bytes]
    exact List.take_prefix _ _
  rcases List.prefix_or_prefix_of_prefix starts (List.prefix_append front _) with
    within | ⟨more, rfl⟩
  · have short := within.length_le
    rw [length_encode (ascii.mono within.subset)] at length
    omega
  · rw [encode_append, List.length_append, length_encode ascii] at length
    rcases more with _ | ⟨next, more⟩
    · simp at length
    · obtain ⟨same, _⟩ := List.cons_prefix_cons.1 ((List.prefix_append_right_inj front).1 starts)
      rw [length_encode_cons, same] at length
      have positive := char.utf8Size_pos
      omega

end Utf8

import Mica.Lib.Stream
import Mathlib.Data.List.DropRight
import Mathlib.Data.List.Infix

/-!
# Replies of the daemon

A handler of the daemon answers with texts (`send_log` of `micad/socket_listener.c`) and ends
with a marker. `mica_socket.recv` of `micactl/mica.py` collects what arrives, decodes each chunk
on its own and looks for a marker anywhere in the text so far.
-/

namespace Mica.Micactl

open Utf8

inductive Marker where
  | success
  | failed
deriving DecidableEq

/-- 'MICA-SUCCESS' and 'MICA-FAILED' -/
def Marker.text : Marker → List Char
  | success => ['M', 'I', 'C', 'A', '-', 'S', 'U', 'C', 'C', 'E', 'S', 'S']
  | failed => ['M', 'I', 'C', 'A', '-', 'F', 'A', 'I', 'L', 'E', 'D']

/-! ## The daemon -/

/-- `send_log`. A text is a C string, so it has no zero character; nothing here needs that. -/
def sendLog (text : List Char) : List UInt8 := encode text

structure Reply where
  texts : List (List Char)
  final : Marker

/-- The characters of a reply. -/
def Reply.text (reply : Reply) : List Char := reply.texts.flatten ++ reply.final.text

/-- What the handler has sent. -/
def Reply.stream (reply : Reply) : List UInt8 :=
  (reply.texts.map sendLog).flatten ++ sendLog reply.final.text

/-! ## The command-line tool -/

/-- `str.isspace` -/
def isSpace (char : Char) : Bool :=
  let code := char.toNat
  (0x09 ≤ code ∧ code ≤ 0x0d) ∨ (0x1c ≤ code ∧ code ≤ 0x20) ∨ code = 0x85 ∨ code = 0xa0 ∨
    code = 0x1680 ∨ (0x2000 ≤ code ∧ code ≤ 0x200a) ∨ code = 0x2028 ∨ code = 0x2029 ∨
    code = 0x202f ∨ code = 0x205f ∨ code = 0x3000

def strip (text : List Char) : List Char := (text.dropWhile isSpace).rdropWhile isSpace

/-- `text.split(separator)[0]` -/
def splitFirst (separator : List Char) : List Char → List Char
  | [] => []
  | char :: text =>
      if separator <+: char :: text then [] else char :: splitFirst separator text

inductive Output where
  | print (line : List Char)
  | system (command : List Char)
deriving DecidableEq

inductive RecvResult where
  | raised
  | returned (marker : Option Marker) (outputs : List Output)
deriving DecidableEq

/-- What `recv` puts out when it has found a marker with a message in front of it. -/
def report : Marker → List Char → List Output
  | .failed, msg =>
      .print "Error occurred!".toList ::
        (if msg = [] then [] else [.print msg]) ++
          [.print ("Please see system log ('cat /var/log/messages' or 'journalctl -u micad')" ++
            " for details.").toList]
  | .success, msg =>
      if msg = [] then []
      else .print msg :: if splitFirst [' '] msg = ['g', 'd', 'b'] then [.system msg] else []

def bufferSize : ℕ := 512

/-- The loop of `mica_socket.recv`: with a response buffer, for the chunks that arrive. If no more
arrives the call times out. -/
def recv : List Char → List (List UInt8) → RecvResult
  | _, [] => .returned none [.print "Timeout while waiting for micad response!".toList]
  | responseBuffer, received :: chunks =>
      match decode received with
      | none => .raised
      | some chunk =>
          let responseBuffer := responseBuffer ++ chunk
          if Marker.failed.text <:+: responseBuffer then
            .returned (some .failed)
              (report .failed (strip (splitFirst Marker.failed.text responseBuffer)))
          else if Marker.success.text <:+: responseBuffer then
            .returned (some .success)
              (report .success (strip (splitFirst Marker.success.text responseBuffer)))
          else if chunk.length = 0 then .returned none []
          else recv responseBuffer chunks

/-- All cuts of the stream lead to the marker that the daemon sent and to the same output. -/
def ChunkingIndependent (reply : Reply) : Prop :=
  ∃ outputs, ∀ cut : Cut bufferSize reply.stream,
    recv [] cut.pieces = .returned (some reply.final) outputs

/-- Neither marker occurs. -/
def Unmarked (text : List Char) : Prop := ∀ marker : Marker, ¬marker.text <:+: text

/-- The first marker is the final one or another of its kind. As far as one call can read on when it
is there, everything is ASCII, and a success is not followed by a failure. -/
structure Settled (reply : Reply) (front back : List Char) : Prop where
  parts : reply.text = front ++ reply.final.text ++ back
  first : Unmarked (front ++ reply.final.text).dropLast
  ascii : Ascii (front ++ reply.final.text ++ back.take (bufferSize - 1))
  noFailure : reply.final = .success →
    ¬Marker.failed.text <:+: front ++ reply.final.text ++ back.take (bufferSize - 1)

/-! ## Markers in a text -/

theorem Marker.text_ne_nil (marker : Marker) : marker.text ≠ [] := by
  cases marker <;> simp [text]

theorem splitFirst_append {separator front : List Char} (nonempty : separator ≠ [])
    (first : ¬separator <:+: (front ++ separator).dropLast) (back : List Char) :
    splitFirst separator (front ++ separator ++ back) = front := by
  induction front with
  | nil =>
      rcases separator with _ | ⟨char, separator⟩
      · exact absurd rfl nonempty
      · exact if_pos (List.prefix_append _ _)
  | cons char front ih =>
      have dropLast : (char :: front ++ separator).dropLast =
          char :: (front ++ separator).dropLast := by
        rw [List.cons_append, List.dropLast_cons_of_ne_nil]
        simp [nonempty]
      rw [dropLast] at first
      have later : ¬separator <+: char :: (front ++ separator ++ back) := by
        intro here
        have inside : separator <+: char :: (front ++ separator).dropLast := by
          apply List.prefix_of_prefix_length_le here
          · rw [List.prefix_cons_inj]
            exact (List.dropLast_prefix _).trans (List.prefix_append _ _)
          · simp
            omega
        exact first inside.isInfix
      rw [List.cons_append, List.cons_append, splitFirst, if_neg later,
        ih fun inside => first (inside.trans (List.suffix_cons _ _).isInfix)]

theorem exists_first {marker : Marker} {text : List Char} (occurs : marker.text <:+: text) :
    ∃ (kind : Marker) (front back : List Char),
      text = front ++ kind.text ++ back ∧ Unmarked (front ++ kind.text).dropLast := by
  induction text using List.reverseRecOn generalizing marker with
  | nil => exact absurd (List.infix_nil.1 occurs) marker.text_ne_nil
  | append_singleton text char ih =>
      by_cases earlier : Unmarked text
      · rcases List.infix_concat_iff.1 occurs with ⟨front, last⟩ | inside
        · refine ⟨marker, front, [], ?_, ?_⟩
          · rw [List.append_nil, last]
          · rwa [last, List.dropLast_concat]
        · exact absurd inside (earlier marker)
      · rw [Unmarked, not_forall_not] at earlier
        rcases earlier with ⟨other, inside⟩
        obtain ⟨kind, front, back, rfl, first⟩ := ih inside
        exact ⟨kind, front, back ++ [char], by simp, first⟩

theorem not_failed_of_first_success {front : List Char}
    (first : Unmarked (front ++ Marker.success.text).dropLast) :
    ¬Marker.failed.text <:+: front ++ Marker.success.text := by
  intro occurs
  have split : front ++ Marker.success.text =
      front ++ ['M', 'I', 'C', 'A', '-', 'S', 'U', 'C', 'C', 'E', 'S'] ++ ['S'] := by
    simp [Marker.text]
  rw [split] at occurs first
  rw [List.dropLast_concat] at first
  rcases List.infix_concat_iff.1 occurs with ⟨before, last⟩ | inside
  · have ends := congrArg List.getLast? last
    simp [Marker.text] at ends
  · exact first .failed inside

/-! ## One round of the loop -/

section Round

variable {buffer chunk : List Char} {received : List UInt8} (decoded : decode received = some chunk)
  (chunks : List (List UInt8))

include decoded

theorem recv_of_unmarked (unmarked : Unmarked (buffer ++ chunk)) (nonempty : chunk ≠ []) :
    recv buffer (received :: chunks) = recv (buffer ++ chunk) chunks := by
  rw [recv, decoded]
  simp [unmarked .failed, unmarked .success, nonempty]

theorem recv_of_failed (occurs : Marker.failed.text <:+: buffer ++ chunk) :
    ∃ outputs, recv buffer (received :: chunks) = .returned (some .failed) outputs := by
  rw [recv, decoded]
  exact ⟨_, if_pos occurs⟩

theorem recv_of_first {marker : Marker} {front back : List Char}
    (parts : buffer ++ chunk = front ++ marker.text ++ back)
    (first : Unmarked (front ++ marker.text).dropLast)
    (noFailure : marker = .success → ¬Marker.failed.text <:+: front ++ marker.text ++ back) :
    recv buffer (received :: chunks) = .returned (some marker) (report marker (strip front)) := by
  have occurs : marker.text <:+: front ++ marker.text ++ back := ⟨front, back, rfl⟩
  have before := splitFirst_append marker.text_ne_nil (first marker) back
  rw [recv, decoded]
  dsimp only
  rw [parts]
  cases marker with
  | failed => rw [if_pos occurs, before]
  | success => rw [if_neg (noFailure rfl), if_pos occurs, before]

end Round

/-! ## Whole replies -/

theorem flatten_map_sendLog (texts : List (List Char)) :
    (texts.map sendLog).flatten = encode texts.flatten := by
  induction texts with
  | nil => rfl
  | cons text texts ih =>
      rw [List.map_cons, List.flatten_cons, ih, List.flatten_cons, encode_append, sendLog]

theorem Reply.stream_eq (reply : Reply) : reply.stream = encode reply.text := by
  rw [stream, flatten_map_sendLog, text, encode_append, sendLog]

theorem Unmarked.mono {text part : List Char} (unmarked : Unmarked text) (isPart : part <:+: text) :
    Unmarked part :=
  fun marker occurs => unmarked marker (occurs.trans isPart)

section FirstMarker

variable {text front back : List Char} {marker : Marker}
  (parts : text = front ++ marker.text ++ back)

include parts

theorem take_behind (d : ℕ) :
    text.take ((front ++ marker.text).length + d) = front ++ marker.text ++ back.take d := by
  rw [parts, List.take_length_add_append]

theorem unmarked_take (first : Unmarked (front ++ marker.text).dropLast) {n : ℕ}
    (before : n < (front ++ marker.text).length) : Unmarked (text.take n) := by
  apply first.mono
  rw [parts, List.dropLast_eq_take, List.take_append_of_le_length before.le]
  exact (List.take_prefix_take_left (by omega)).isInfix

end FirstMarker

theorem Settled.recv_eq {reply : Reply} {front back : List Char}
    (settled : Settled reply front back) {n : ℕ} (before : n < (front ++ reply.final.text).length)
    {pieces : List (List UInt8)} (nonempty : ∀ piece ∈ pieces, piece ≠ [])
    (short : ∀ piece ∈ pieces, piece.length ≤ bufferSize)
    (joined : pieces.flatten = encode (reply.text.drop n)) :
    recv (reply.text.take n) pieces =
      .returned (some reply.final) (report reply.final (strip front)) := by
  have ascii : Ascii (reply.text.take ((front ++ reply.final.text).length + (bufferSize - 1))) := by
    rw [take_behind settled.parts]
    exact settled.ascii
  have remains : ∀ n < (front ++ reply.final.text).length, reply.text.drop n ≠ [] := by
    intro n before
    rw [settled.parts, ne_eq, List.drop_eq_nil_iff, List.length_append]
    omega
  induction pieces generalizing n with
  | nil => exact absurd joined.symm (encode_ne_nil (remains n before))
  | cons piece pieces ih =>
      rw [List.forall_mem_cons] at nonempty short
      rw [List.flatten_cons] at joined
      have asciiPiece : Ascii ((reply.text.drop n).take piece.length) := by
        apply Ascii.take_drop
        apply ascii.mono
        apply List.IsPrefix.subset
        apply List.take_prefix_take_left
        have atMost := short.1
        rw [bufferSize] at atMost ⊢
        omega
      have isRest := (split_encode asciiPiece).2
      have decoded := decode_take_encode asciiPiece
      rw [← joined, List.take_left] at decoded
      rw [← joined, List.drop_left, List.drop_drop] at isRest
      have buffer : reply.text.take n ++ (reply.text.drop n).take piece.length =
          reply.text.take (n + piece.length) := List.take_add.symm
      by_cases within : n + piece.length < (front ++ reply.final.text).length
      · have unmarked := unmarked_take settled.parts settled.first within
        have chunkNonempty : (reply.text.drop n).take piece.length ≠ [] := by
          rw [ne_eq, List.take_eq_nil_iff, List.length_eq_zero_iff]
          exact not_or_intro nonempty.1 (remains n before)
        rw [recv_of_unmarked decoded _ (by rwa [buffer]) chunkNonempty, buffer]
        exact ih within nonempty.2 short.2 isRest
      · obtain ⟨d, isEnd⟩ := Nat.exists_eq_add_of_le (Nat.le_of_not_lt within)
        rw [isEnd, take_behind settled.parts] at buffer
        apply recv_of_first decoded _ buffer settled.first
        intro isSuccess failure
        apply settled.noFailure isSuccess
        refine failure.trans (List.IsPrefix.isInfix ?_)
        rw [List.prefix_append_right_inj]
        apply List.take_prefix_take_left
        have atMost := short.1
        rw [bufferSize] at atMost ⊢
        omega

/-! ## Replies whose cuts make no difference -/

theorem recv_single {text : List Char} (ascii : Ascii text) {buffer : List Char}
    (unmarked : Unmarked (buffer ++ text)) (pieces : List (List UInt8)) :
    recv buffer ((encode text).map ([·]) ++ pieces) = recv (buffer ++ text) pieces := by
  induction text generalizing buffer with
  | nil => simp
  | cons char text ih =>
      obtain ⟨one, ascii⟩ := List.forall_mem_cons.1 ascii
      have byte := String.utf8EncodeChar_eq_singleton one
      have decoded : decode [char.val.toUInt8] = some [char] := by
        rw [← byte, ← decode_encode [char], encode, List.flatMap_singleton]
      have bytes : encode (char :: text) = char.val.toUInt8 :: encode text := by
        rw [encode, List.flatMap_cons, byte]
        rfl
      rw [List.append_cons] at unmarked ⊢
      have shorter := unmarked.mono (List.prefix_append _ _).isInfix
      rw [bytes, List.map_cons, List.cons_append,
        recv_of_unmarked decoded _ shorter (List.cons_ne_nil _ _), ih ascii unmarked]

theorem ChunkingIndependent.recv_take {reply : Reply} (independent : ChunkingIndependent reply)
    (n count : ℕ) (ascii : Ascii (reply.text.take n)) (unmarked : Unmarked (reply.text.take n))
    (inside : n < reply.text.length) (positive : 0 < count) (short : count ≤ bufferSize) :
    ∃ chunks outputs,
      recv (reply.text.take n) ((encode (reply.text.drop n)).take count :: chunks) =
        .returned (some reply.final) outputs := by
  rcases independent with ⟨outputs, independent⟩
  have room : 0 < bufferSize := by decide
  have nonempty : (encode (reply.text.drop n)).take count ≠ [] := by
    rw [ne_eq, List.take_eq_nil_iff]
    refine not_or_intro positive.ne' (encode_ne_nil ?_)
    rw [ne_eq, List.drop_eq_nil_iff]
    omega
  let cut := (Cut.single room (encode (reply.text.take n))).append
    ((Cut.whole nonempty ((List.length_take_le _ _).trans short)).append
      (Cut.single room ((encode (reply.text.drop n)).drop count)))
  have joined : encode (reply.text.take n) ++ ((encode (reply.text.drop n)).take count ++
      (encode (reply.text.drop n)).drop count) = reply.stream := by
    rw [List.take_append_drop, ← encode_append, List.take_append_drop, reply.stream_eq]
  rw [← joined] at independent
  have result := independent cut
  rw [show cut.pieces = (encode (reply.text.take n)).map ([·]) ++
    ((encode (reply.text.drop n)).take count :: _) from rfl, recv_single ascii unmarked] at result
  exact ⟨_, _, result⟩

theorem ChunkingIndependent.ascii {reply : Reply} (independent : ChunkingIndependent reply)
    {marker : Marker} {front back : List Char} (parts : reply.text = front ++ marker.text ++ back)
    (first : Unmarked (front ++ marker.text).dropLast) :
    Ascii (front ++ marker.text ++ back.take (bufferSize - 1)) := by
  rcases ascii_or_exists (front ++ marker.text ++ back.take (bufferSize - 1)) with
    ascii | ⟨before, char, rest, split, ascii, long⟩
  · exact ascii
  · -- the chunk that ends behind the first byte of this character
    exfalso
    have markerNonempty : 0 < marker.text.length := List.length_pos_iff.2 marker.text_ne_nil
    have whole : reply.text = before ++ char :: (rest ++ back.drop (bufferSize - 1)) := by
      rw [parts, ← List.cons_append, ← List.append_assoc, ← split,
        List.append_assoc _ (back.take _), List.take_append_drop]
    have reached : before.length < (front ++ marker.text).length + (bufferSize - 1) := by
      have length := congrArg List.length split
      simp only [List.length_append, List.length_take, List.length_cons] at length ⊢
      omega
    obtain ⟨n, isStart⟩ : ∃ n, n = min before.length ((front ++ marker.text).length - 1) :=
      ⟨_, rfl⟩
    have inBefore : n ≤ before.length := by omega
    rw [List.length_append] at isStart reached
    have taken : reply.text.take n = before.take n := by
      rw [whole, List.take_append_of_le_length inBefore]
    have dropped : reply.text.drop n =
        before.drop n ++ char :: (rest ++ back.drop (bufferSize - 1)) := by
      rw [whole, List.drop_append_of_le_length inBefore]
    have asciiTaken : Ascii (reply.text.take n) := by
      rw [taken]
      exact ascii.mono (List.take_subset _ _)
    have unmarked : Unmarked (reply.text.take n) := by
      apply unmarked_take parts first
      rw [List.length_append]
      omega
    have inside : n < reply.text.length := by
      rw [whole, List.length_append, List.length_cons]
      omega
    have short : (before.drop n).length + 1 ≤ bufferSize := by
      rw [List.length_drop]
      rw [bufferSize] at reached ⊢
      omega
    obtain ⟨chunks, outputs, result⟩ := independent.recv_take n ((before.drop n).length + 1)
      asciiTaken unmarked inside (Nat.succ_pos _) short
    have undecodable := decode_take_encode_eq_none (ascii.mono (List.drop_subset n before)) long
      (rest ++ back.drop (bufferSize - 1))
    rw [dropped, recv, undecodable] at result
    cases result

theorem ChunkingIndependent.recv_first {reply : Reply} (independent : ChunkingIndependent reply)
    {marker : Marker} {front back : List Char} (parts : reply.text = front ++ marker.text ++ back)
    (first : Unmarked (front ++ marker.text).dropLast) {more : ℕ} (short : more ≤ bufferSize - 1) :
    ∃ buffer chunk received chunks outputs, decode received = some chunk ∧
      buffer ++ chunk = front ++ marker.text ++ back.take more ∧
      recv buffer (received :: chunks) = .returned (some reply.final) outputs := by
  obtain ⟨n, isStart⟩ : ∃ n, (front ++ marker.text).length = n + 1 := by
    apply Nat.exists_eq_succ_of_ne_zero
    simp [marker.text_ne_nil]
  have isEnd : n + (more + 1) = (front ++ marker.text).length + more := by omega
  have ascii : Ascii (reply.text.take (n + (more + 1))) := by
    rw [isEnd, take_behind parts]
    apply (independent.ascii parts first).mono
    apply List.IsPrefix.subset
    rw [List.prefix_append_right_inj]
    exact List.take_prefix_take_left short
  have asciiBefore : Ascii (reply.text.take n) := by
    rw [List.take_add] at ascii
    exact ascii.mono (List.subset_append_left _ _)
  have inside : n < reply.text.length := by
    rw [parts, List.length_append]
    omega
  have within : more + 1 ≤ bufferSize := by
    rw [bufferSize] at short ⊢
    omega
  obtain ⟨chunks, outputs, result⟩ := independent.recv_take n (more + 1) asciiBefore
    (unmarked_take parts first (by omega)) inside (Nat.succ_pos _) within
  refine ⟨_, _, _, chunks, outputs, decode_take_encode ascii.take_drop, ?_, result⟩
  rw [← List.take_add, isEnd, take_behind parts]

theorem ChunkingIndependent.settled {reply : Reply} (independent : ChunkingIndependent reply) :
    ∃ front back, Settled reply front back := by
  have occurs : reply.final.text <:+: reply.text := (List.suffix_append _ _).isInfix
  obtain ⟨marker, front, back, parts, first⟩ := exists_first occurs
  have isFinal : marker = reply.final := by
    obtain ⟨buffer, chunk, received, chunks, outputs, decoded, joined, result⟩ :=
      independent.recv_first parts first (Nat.zero_le _)
    have found := recv_of_first decoded chunks joined first (by
      rintro rfl
      simpa using not_failed_of_first_success first)
    rw [found] at result
    cases result
    rfl
  subst isFinal
  refine ⟨front, back, parts, first, independent.ascii parts first, ?_⟩
  intro isSuccess failure
  obtain ⟨buffer, chunk, received, chunks, outputs, decoded, joined, result⟩ :=
    independent.recv_first parts first (Nat.le_refl _)
  rw [← joined] at failure
  obtain ⟨_, found⟩ := recv_of_failed decoded chunks failure
  rw [found, isSuccess] at result
  cases result

/-- The cuts of a reply make no difference exactly if it is settled by its first marker. -/
theorem chunkingIndependent_iff_settled (reply : Reply) :
    ChunkingIndependent reply ↔ ∃ front back, Settled reply front back := by
  constructor
  · exact ChunkingIndependent.settled
  · rintro ⟨front, back, settled⟩
    refine ⟨report reply.final (strip front), fun cut => ?_⟩
    have positive : 0 < (front ++ reply.final.text).length :=
      List.length_pos_iff.2 (List.append_ne_nil_of_right_ne_nil _ reply.final.text_ne_nil)
    exact settled.recv_eq positive cut.nonempty cut.short (cut.joined.trans reply.stream_eq)

/-! ## Replies that are put out as they were sent -/

/-- All cuts of the stream lead to the marker that the daemon sent and to its texts. -/
def DeliversTexts (reply : Reply) : Prop :=
  ∀ cut : Cut bufferSize reply.stream,
    recv [] cut.pieces =
      .returned (some reply.final) (report reply.final (strip reply.texts.flatten))

theorem Marker.ascii_text (marker : Marker) : Ascii marker.text := by
  cases marker <;> simp [Ascii, text, Char.utf8Size]

theorem Marker.not_mem_tail (marker : Marker) : 'M' ∉ marker.text.tail := by
  cases marker <;> decide

theorem infix_or_infix {marker other : Marker} {front rest : List Char}
    (occurs : marker.text <:+: front ++ rest) (starts : rest <+: other.text) :
    marker.text <:+: front ∨ marker.text <:+: rest := by
  rcases List.infix_append_iff.1 occurs with
    inFront | inRest | ⟨before, behind, split, ends, begins⟩
  · exact .inl inFront
  · exact .inr inRest
  · rcases before with _ | ⟨char, before⟩
    · rw [List.nil_append] at split
      exact .inr (split ▸ begins.isInfix)
    · rcases behind with _ | ⟨next, behind⟩
      · rw [List.append_nil] at split
        exact .inl (split ▸ ends.isInfix)
      · -- a marker starts with its only 'M'
        have isM : next = 'M' := by
          have head := begins.trans starts
          cases other <;> exact (List.cons_prefix_cons.1 head).1
        refine absurd ?_ marker.not_mem_tail
        rw [split, isM]
        simp

theorem Unmarked.first {text : List Char} (unmarked : Unmarked text) (marker : Marker) :
    Unmarked (text ++ marker.text).dropLast := by
  intro other occurs
  rw [List.dropLast_append_of_ne_nil marker.text_ne_nil] at occurs
  rcases infix_or_infix occurs (List.dropLast_prefix marker.text) with inText | inMarker
  · exact unmarked other inText
  · revert inMarker
    cases other <;> cases marker <;> decide

theorem report_injective (marker : Marker) : Function.Injective (report marker) := by
  intro left right same
  by_cases leftEmpty : left = [] <;> by_cases rightEmpty : right = []
  · rw [leftEmpty, rightEmpty]
  · cases marker <;> simp [report, leftEmpty, rightEmpty] at same
  · cases marker <;> simp [report, leftEmpty, rightEmpty] at same
  · cases marker with
    | failed => simpa [report, leftEmpty, rightEmpty] using same
    | success =>
        simp only [report, leftEmpty, rightEmpty, if_false, List.cons.injEq,
          Output.print.injEq] at same
        exact same.1

theorem dropWhile_append_part {part : List Char} (nonempty : part ≠ [])
    (solid : part.dropWhile isSpace = part) (front back : List Char) :
    ∃ rest, (front ++ (part ++ back)).dropWhile isSpace = rest ++ (part ++ back) := by
  have kept : (part ++ back).dropWhile isSpace = part ++ back := by
    rw [List.dropWhile_append, solid, if_neg (by simpa using nonempty)]
  rw [List.dropWhile_append]
  split_ifs
  · exact ⟨[], kept⟩
  · exact ⟨_, rfl⟩

theorem infix_strip {marker : Marker} {text : List Char} (occurs : marker.text <:+: text) :
    marker.text <:+: strip text := by
  obtain ⟨front, back, rfl⟩ := occurs
  have solidStart : marker.text.dropWhile isSpace = marker.text := by cases marker <;> decide
  have solidEnd : marker.text.reverse.dropWhile isSpace = marker.text.reverse := by
    cases marker <;> decide
  obtain ⟨kept, left⟩ := dropWhile_append_part marker.text_ne_nil solidStart front back
  obtain ⟨rest, right⟩ := dropWhile_append_part (by simpa using marker.text_ne_nil) solidEnd
    back.reverse kept.reverse
  refine ⟨kept, rest.reverse, ?_⟩
  rw [strip, List.append_assoc front, left, List.rdropWhile]
  simp only [List.reverse_append, List.append_assoc]
  rw [right]
  simp

theorem strip_infix (text : List Char) : strip text <:+: text :=
  (List.rdropWhile_prefix _ _).isInfix.trans (List.dropWhile_suffix _).isInfix

theorem Settled.unmarked_front {reply : Reply} {front back : List Char}
    (settled : Settled reply front back) : Unmarked front := by
  apply settled.first.mono
  rw [List.dropLast_append_of_ne_nil reply.final.text_ne_nil]
  exact (List.prefix_append _ _).isInfix

theorem Settled.front_eq {reply : Reply} {front back : List Char}
    (settled : Settled reply front back) (same : strip front = strip reply.texts.flatten) :
    front = reply.texts.flatten := by
  have parts := settled.parts
  rw [Reply.text] at parts
  rcases List.eq_nil_or_concat back with rfl | ⟨init, last, rfl⟩
  · rw [List.append_nil] at parts
    exact (List.append_cancel_right parts).symm
  · -- otherwise the first marker is among the texts, and stripping keeps it
    exfalso
    have shorter := congrArg List.dropLast parts
    rw [List.dropLast_append_of_ne_nil reply.final.text_ne_nil, List.concat_eq_append,
      ← List.append_assoc, List.dropLast_concat] at shorter
    have occurs : reply.final.text <:+: reply.texts.flatten ++ reply.final.text.dropLast :=
      ⟨front, init, shorter.symm⟩
    rcases infix_or_infix occurs (List.dropLast_prefix _) with inTexts | inMarker
    · have inFront := (infix_strip inTexts).trans (same ▸ strip_infix front)
      exact settled.unmarked_front _ inFront
    · have length := inMarker.length_le
      have positive := List.length_pos_iff.2 reply.final.text_ne_nil
      rw [List.length_dropLast] at length
      omega

/-- The texts of a reply arrive, however it is cut, exactly if they are ASCII and no marker occurs
in them. -/
theorem deliversTexts_iff (reply : Reply) :
    DeliversTexts reply ↔ Ascii reply.texts.flatten ∧ Unmarked reply.texts.flatten := by
  have positive (front : List Char) : 0 < (front ++ reply.final.text).length :=
    List.length_pos_iff.2 (List.append_ne_nil_of_right_ne_nil _ reply.final.text_ne_nil)
  constructor
  · intro delivers
    obtain ⟨front, back, settled⟩ := ChunkingIndependent.settled ⟨_, delivers⟩
    have cut := Cut.single (by decide : 0 < bufferSize) reply.stream
    have result := settled.recv_eq (positive front) cut.nonempty cut.short
      (cut.joined.trans reply.stream_eq)
    rw [List.take_zero, delivers cut] at result
    have same := report_injective _ (RecvResult.returned.inj result).2
    rw [← settled.front_eq same.symm]
    refine ⟨settled.ascii.mono ?_, settled.unmarked_front⟩
    rw [List.append_assoc]
    exact List.subset_append_left _ _
  · rintro ⟨ascii, unmarked⟩ cut
    have settled : Settled reply reply.texts.flatten [] := by
      refine ⟨(List.append_nil _).symm, unmarked.first _, ?_, ?_⟩
      · rw [List.take_nil, List.append_nil]
        exact List.forall_mem_append.2 ⟨ascii, reply.final.ascii_text⟩
      · intro isSuccess
        rw [List.take_nil, List.append_nil, isSuccess]
        exact not_failed_of_first_success (unmarked.first _)
    exact settled.recv_eq (positive _) cut.nonempty cut.short (cut.joined.trans reply.stream_eq)

/-- A reply with a file name that is not ASCII. -/
def accentedReply : Reply := ⟨[['é']], .failed⟩

/-- A reply that echoes a command, before the daemon reports its failure. -/
def echoedReply : Reply := ⟨[Marker.success.text], .failed⟩

/-- A cut inside a character makes the decoder raise, and a marker in an echoed text is taken for
the answer. -/
theorem not_chunkingIndependent_replies :
    ¬ChunkingIndependent accentedReply ∧ ¬ChunkingIndependent echoedReply := by
  constructor
  · intro independent
    obtain ⟨front, back, settled⟩ := independent.settled
    have parts := settled.parts
    rcases front with _ | ⟨char, front⟩
    · have heads : some 'é' = some 'M' := congrArg List.head? parts
      exact absurd heads (by decide)
    · obtain rfl : char = 'é' := (List.cons.inj parts).1.symm
      exact absurd (settled.ascii 'é' (by simp)) (by decide)
  · rintro ⟨outputs, independent⟩
    have joined : encode Marker.success.text ++ encode Marker.failed.text = echoedReply.stream := by
      rw [← encode_append, Reply.stream_eq]
      rfl
    rw [← joined] at independent
    have room : ∀ marker : Marker, (encode marker.text).length ≤ bufferSize := by
      intro marker
      cases marker <;> decide
    have nonempty : ∀ marker : Marker, encode marker.text ≠ [] :=
      fun marker => encode_ne_nil marker.text_ne_nil
    have result := independent ((Cut.whole (nonempty .success) (room .success)).append
      (Cut.whole (nonempty .failed) (room .failed)))
    have first : Unmarked ([] ++ Marker.success.text).dropLast := by
      intro marker
      cases marker <;> decide
    have found := @recv_of_first [] _ _ (decode_encode Marker.success.text)
      [encode Marker.failed.text] .success [] [] (by simp) first (fun _ => by decide)
    exact absurd (found.symm.trans result) (by simp [echoedReply])

end Mica.Micactl

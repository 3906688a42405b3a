import Mica.Debug.Forwarding
import Mica.Lib.Stream

/-!
# Segmentation of what gdb sends

gdb writes a stream, and TCP hands it to `recv` in pieces of its own choice. The proxy server
recognises its two packets by comparing a whole piece, up to a zero byte, so a packet is only
seen where a cut of the stream isolates it. The streams for which the cuts make no difference
are the ones without an ambiguous packet.
-/

namespace Mica.Debug

open Endpoint (strncmpEq)

/-- What the shared-memory queue is handed. -/
def forwarded (effects : List Effect) : List UInt8 :=
  effects.flatMap fun
    | .forward bytes => bytes
    | .store _ _ | .sendCtrlC | .restartClient => []

/-- The actions on the client, each with the number of bytes forwarded before it. -/
def actions : ℕ → List Effect → List (ℕ × Effect)
  | _, [] => []
  | position, .store _ _ :: effects => actions position effects
  | position, .forward bytes :: effects => actions (position + bytes.length) effects
  | position, action :: effects => (position, action) :: actions position effects

/-- The queue takes what it is handed. -/
def ProxyResults.Sends (results : ProxyResults) : Prop :=
  ∀ position, 0 ≤ results.sendToSharedMem position

/-- Whatever the actions return, all cuts of a stream lead to the same bytes and actions. -/
def SegmentationIndependent (stream : List UInt8) : Prop :=
  ∀ results : ProxyResults, results.Sends → ∀ left right : Cut (maxBuffLength - 1) stream,
    let leftEffects := startProxyServer results 0 (left.pieces.map some)
    let rightEffects := startProxyServer results 0 (right.pieces.map some)
    forwarded leftEffects = forwarded rightEffects ∧
      actions 0 leftEffects = actions 0 rightEffects

/-- No cut can isolate or hide a packet: "$R0#82" does not occur, and the byte of `CTRLC_PACKET`
at most in front, as the whole stream or with a zero byte behind it. -/
structure Unambiguous (stream : List UInt8) : Prop where
  noRunPacket : ¬runPacket.bytes <:+: stream
  noLaterCtrlC : 0x03 ∉ stream.tail
  firstCtrlC : ∀ byte rest, stream = 0x03 :: byte :: rest → byte = 0

/-! ## Recognition -/

/-- The action that the loop takes on a chunk. -/
def recognised (bytes : List UInt8) : Option Effect :=
  let text := Buffer.stringAt bytes 0
  if text = ctrlcPacket then some .sendCtrlC
  else if strncmpEq text runPacket 7 then some .restartClient
  else none

theorem stringAt_zero_eq_iff (bytes : List UInt8) (text : CString) :
    Buffer.stringAt bytes 0 = text ↔ bytes = text.bytes ∨ text.bytes ++ [0] <+: bytes := by
  have nonzero : ∀ byte ∈ text.bytes, decide (byte ≠ 0) = true := by
    intro byte member
    simpa using ne_of_mem_of_not_mem member text.noNul
  rw [CString.ext_iff]
  change bytes.takeWhile (· ≠ 0) = text.bytes ↔ _
  constructor
  · intro same
    have parts : bytes = text.bytes ++ bytes.dropWhile (· ≠ 0) := by
      rw [← same, List.takeWhile_append_dropWhile]
    rcases behind : bytes.dropWhile (· ≠ 0) with _ | ⟨byte, rest⟩
    · left
      rwa [behind, List.append_nil] at parts
    · right
      have zero : byte = 0 := by
        have first := List.head?_dropWhile_not (· ≠ 0) bytes
        rw [behind] at first
        simpa using first
      refine ⟨rest, ?_⟩
      rw [parts, behind, zero, List.append_assoc]
      rfl
  · rintro (rfl | ⟨rest, rfl⟩)
    · exact List.takeWhile_eq_self_iff.2 nonzero
    · rw [List.append_assoc, List.takeWhile_append_of_pos nonzero]
      simp

theorem strncmpEq_runPacket_iff (text : CString) :
    strncmpEq text runPacket 7 = true ↔ text = runPacket := by
  have whole : runPacket.bytes.take 7 = runPacket.bytes := by decide
  rw [strncmpEq, decide_eq_true_iff, whole, CString.ext_iff]
  constructor
  · intro same
    have length := congrArg List.length same
    rw [List.length_take, show runPacket.bytes.length = 6 by decide] at length
    rwa [List.take_of_length_le (by omega)] at same
  · intro same
    rw [same, whole]

theorem recognised_eq_sendCtrlC_iff (bytes : List UInt8) :
    recognised bytes = some .sendCtrlC ↔ bytes = [0x03] ∨ [0x03, 0] <+: bytes := by
  have iff := stringAt_zero_eq_iff bytes ctrlcPacket
  rw [recognised]
  split_ifs with ctrlC run
  · exact iff_of_true rfl (iff.1 ctrlC)
  · exact iff_of_false (by simp) (mt iff.2 ctrlC)
  · exact iff_of_false (by simp) (mt iff.2 ctrlC)

theorem recognised_eq_restartClient_iff (bytes : List UInt8) :
    recognised bytes = some .restartClient ↔
      bytes = runPacket.bytes ∨ runPacket.bytes ++ [0] <+: bytes := by
  have iff := stringAt_zero_eq_iff bytes runPacket
  have distinct : ctrlcPacket ≠ runPacket := by decide
  rw [recognised]
  split_ifs with ctrlC run
  · exact iff_of_false (by simp) fun is => distinct (ctrlC.symm.trans (iff.2 is))
  · exact iff_of_true rfl (iff.1 ((strncmpEq_runPacket_iff _).1 run))
  · exact iff_of_false (by simp) fun is => run ((strncmpEq_runPacket_iff _).2 (iff.2 is))

/-- What the call of an action returns at a position. -/
def ProxyResults.ofAction (results : ProxyResults) (position : ℕ) : Effect → ℤ
  | .sendCtrlC => results.sendCtrlC position
  | .restartClient => results.restartClient position
  | .store _ _ | .forward _ => 0

theorem actOn_eq (results : ProxyResults) (position : ℕ) (bytes : List UInt8) :
    actOn results position bytes =
      ((recognised bytes).toList, ((recognised bytes).map (results.ofAction position)).getD 0) := by
  rw [actOn, recognised]
  split_ifs <;> rfl

theorem recognised_cases (bytes : List UInt8) :
    recognised bytes = none ∨ recognised bytes = some .sendCtrlC ∨
      recognised bytes = some .restartClient := by
  rw [recognised]
  split_ifs <;> simp

theorem recognised_of_short {bytes : List UInt8} (short : bytes.length < 6)
    (other : ¬(bytes = [0x03] ∨ [0x03, 0] <+: bytes)) : recognised bytes = none := by
  have length : runPacket.bytes.length = 6 := by decide
  rcases recognised_cases bytes with none | ctrlC | run
  · exact none
  · exact absurd ((recognised_eq_sendCtrlC_iff _).1 ctrlC) other
  · rcases (recognised_eq_restartClient_iff _).1 run with rfl | front
    · exact absurd length short.ne
    · have longer := ((List.prefix_append _ _).trans front).length_le
      omega

theorem recognised_single (byte : UInt8) :
    recognised [byte] = if byte = 0x03 then some .sendCtrlC else none := by
  split_ifs with isCtrlC
  · rw [isCtrlC]
    decide
  · apply recognised_of_short
    · simp
    · simpa using isCtrlC

theorem recognised_pair {first second : UInt8} (other : ¬(first = 0x03 ∧ second = 0)) :
    recognised [first, second] = none := by
  apply recognised_of_short
  · simp
  · simpa [eq_comm] using other

/-! ## What a run shows -/

section Step

variable {results : ProxyResults} (sends : results.Sends) {chunk : List UInt8}
  (nonempty : chunk ≠ []) (position : ℕ) (chunks : List (Option (List UInt8)))

include sends nonempty

theorem startProxyServer_silent (silent : recognised chunk = none) :
    startProxyServer results position (some chunk :: chunks) =
      receive chunk ++ .forward chunk ::
        startProxyServer results (position + chunk.length) chunks := by
  have sent : ¬results.sendToSharedMem position < 0 := not_lt.2 (sends position)
  rw [startProxyServer, if_neg nonempty, actOn_eq, silent]
  simp [sent]

theorem startProxyServer_action {action : Effect} (acts : recognised chunk = some action) :
    startProxyServer results position (some chunk :: chunks) =
      receive chunk ++ action ::
        if results.ofAction position action ≠ 0 then []
        else .forward chunk ::
          startProxyServer results (position + chunk.length) chunks := by
  have sent : ¬results.sendToSharedMem position < 0 := not_lt.2 (sends position)
  rw [startProxyServer, if_neg nonempty, actOn_eq, acts]
  simp [sent]

end Step

theorem observed_of_silent {results : ProxyResults} (sends : results.Sends)
    {chunks : List (List UInt8)} (nonempty : ∀ chunk ∈ chunks, chunk ≠ [])
    (silent : ∀ chunk ∈ chunks, recognised chunk = none) (position : ℕ) :
    let effects := startProxyServer results position (chunks.map some)
    forwarded effects = chunks.flatten ∧ actions position effects = [] := by
  induction chunks generalizing position with
  | nil => exact ⟨rfl, rfl⟩
  | cons chunk chunks ih =>
      rw [List.forall_mem_cons] at nonempty silent
      have rest := ih nonempty.2 silent.2 (position + chunk.length)
      rw [List.map_cons, startProxyServer_silent sends nonempty.1 _ _ silent.1]
      refine ⟨?_, rest.2⟩
      rw [List.flatten_cons, ← rest.1]
      simp [forwarded, receive]

/-! ## Streams without an ambiguous packet -/

theorem recognised_of_silent {bytes : List UInt8} (noCtrlC : 0x03 ∉ bytes)
    (noRun : ¬runPacket.bytes <:+: bytes) : recognised bytes = none := by
  rcases recognised_cases bytes with none | ctrlC | run
  · exact none
  · rcases (recognised_eq_sendCtrlC_iff _).1 ctrlC with rfl | front
    · exact absurd (List.mem_singleton.2 rfl) noCtrlC
    · exact absurd (front.subset (by simp)) noCtrlC
  · rcases (recognised_eq_restartClient_iff _).1 run with rfl | front
    · exact absurd List.infix_rfl noRun
    · exact absurd ((List.prefix_append _ _).trans front).isInfix noRun

theorem infix_flatten {chunks : List (List UInt8)} {chunk : List UInt8} (member : chunk ∈ chunks) :
    chunk <:+: chunks.flatten := by
  obtain ⟨front, back, rfl⟩ := List.append_of_mem member
  exact ⟨front.flatten, back.flatten, by simp⟩

theorem silent_of_flatten {chunks : List (List UInt8)} (noCtrlC : 0x03 ∉ chunks.flatten)
    (noRun : ¬runPacket.bytes <:+: chunks.flatten) :
    ∀ chunk ∈ chunks, recognised chunk = none := by
  intro chunk member
  have part := infix_flatten member
  exact recognised_of_silent (fun ctrlC => noCtrlC (part.subset ctrlC))
    fun run => noRun (run.trans part)

theorem Unambiguous.recognised_first {bytes rest : List UInt8}
    (unambiguous : Unambiguous (0x03 :: bytes ++ rest)) :
    recognised (0x03 :: bytes) = some .sendCtrlC := by
  rw [recognised_eq_sendCtrlC_iff]
  rcases bytes with _ | ⟨byte, bytes⟩
  · exact .inl rfl
  · right
    rw [unambiguous.firstCtrlC byte (bytes ++ rest) rfl]
    exact ⟨bytes, rfl⟩

theorem Unambiguous.observed_first {bytes : List UInt8} {chunks : List (List UInt8)}
    (unambiguous : Unambiguous (0x03 :: bytes ++ chunks.flatten))
    (nonempty : ∀ chunk ∈ chunks, chunk ≠ []) {results : ProxyResults} (sends : results.Sends) :
    let effects := startProxyServer results 0 (((0x03 :: bytes) :: chunks).map some)
    forwarded effects =
        (if results.sendCtrlC 0 ≠ 0 then [] else 0x03 :: bytes ++ chunks.flatten) ∧
      actions 0 effects = [(0, .sendCtrlC)] := by
  have acts := unambiguous.recognised_first
  have tail : 0x03 ∉ bytes ++ chunks.flatten := unambiguous.noLaterCtrlC
  have silent := silent_of_flatten (fun later => tail (List.mem_append_right _ later))
    fun run => unambiguous.noRunPacket (run.trans (List.suffix_append _ _).isInfix)
  obtain ⟨restForwarded, restActions⟩ :=
    observed_of_silent sends nonempty silent (0 + (0x03 :: bytes).length)
  rw [List.map_cons, startProxyServer_action sends (List.cons_ne_nil _ _) _ _ acts,
    ProxyResults.ofAction]
  by_cases succeeded : results.sendCtrlC 0 = 0
  · rw [if_neg (not_not.2 succeeded), if_neg (not_not.2 succeeded), ← restForwarded]
    exact ⟨by simp [forwarded, receive], congrArg ((0, Effect.sendCtrlC) :: ·) restActions⟩
  · rw [if_pos succeeded, if_pos succeeded]
    exact ⟨by simp [forwarded, receive], rfl⟩

theorem Unambiguous.not_mem {stream : List UInt8} (unambiguous : Unambiguous stream)
    (other : stream.head? ≠ some 0x03) : 0x03 ∉ stream := by
  intro member
  rcases stream with _ | ⟨byte, rest⟩
  · simp at member
  · rcases List.mem_cons.1 member with rfl | later
    · exact other rfl
    · exact unambiguous.noLaterCtrlC later

theorem Unambiguous.observed {stream : List UInt8} (unambiguous : Unambiguous stream)
    {results : ProxyResults} (sends : results.Sends) {chunks : List (List UInt8)}
    (nonempty : ∀ chunk ∈ chunks, chunk ≠ []) (joined : chunks.flatten = stream) :
    let effects := startProxyServer results 0 (chunks.map some)
    forwarded effects =
        (if stream.head? = some 0x03 then if results.sendCtrlC 0 ≠ 0 then [] else stream
        else stream) ∧
      actions 0 effects = if stream.head? = some 0x03 then [(0, .sendCtrlC)] else [] := by
  by_cases starts : stream.head? = some 0x03
  · rw [if_pos starts, if_pos starts]
    subst joined
    rcases chunks with _ | ⟨_ | ⟨byte, bytes⟩, chunks⟩
    · simp at starts
    · exact absurd rfl (nonempty _ List.mem_cons_self)
    · obtain rfl : byte = 0x03 := by simpa using starts
      exact unambiguous.observed_first (List.forall_mem_cons.1 nonempty).2 sends
  · rw [if_neg starts, if_neg starts]
    subst joined
    have silent := silent_of_flatten (unambiguous.not_mem starts) unambiguous.noRunPacket
    exact observed_of_silent sends nonempty silent 0

/-! ## Streams with an ambiguous packet -/

/-- Calls that all succeed. -/
def granting : ProxyResults := ⟨fun _ => 0, fun _ => 0, fun _ => 0⟩

theorem sends_granting : granting.Sends := fun _ => le_refl (0 : ℤ)

/-- The actions that are taken on the chunks if all of them succeed. -/
def commands : ℕ → List (List UInt8) → List (ℕ × Effect)
  | _, [] => []
  | position, chunk :: chunks =>
      (recognised chunk).toList.map (position, ·) ++
        commands (position + chunk.length) chunks

theorem commands_append (position : ℕ) (front back : List (List UInt8)) :
    commands position (front ++ back) =
      commands position front ++
        commands (position + (front.flatten).length) back := by
  induction front generalizing position with
  | nil => rfl
  | cons chunk front ih =>
      rw [List.cons_append, commands, commands, ih, List.append_assoc, List.flatten_cons,
        List.length_append, Nat.add_assoc]

theorem actions_granting {chunks : List (List UInt8)} (nonempty : ∀ chunk ∈ chunks, chunk ≠ [])
    (position : ℕ) :
    actions position (startProxyServer granting position (chunks.map some)) =
      commands position chunks := by
  induction chunks generalizing position with
  | nil => rfl
  | cons chunk chunks ih =>
      rw [List.forall_mem_cons] at nonempty
      have rest := ih nonempty.2 (position + chunk.length)
      rw [List.map_cons, commands, ← rest]
      rcases recognised_cases chunk with silent | ctrlC | run
      · rw [startProxyServer_silent sends_granting nonempty.1 _ _ silent, silent]
        rfl
      · rw [startProxyServer_action sends_granting nonempty.1 _ _ ctrlC, ctrlC]
        rfl
      · rw [startProxyServer_action sends_granting nonempty.1 _ _ run, run]
        rfl

/-- A stream that arrives byte by byte. -/
def bytewise (stream : List UInt8) : Cut (maxBuffLength - 1) stream := Cut.single (by decide) stream

theorem SegmentationIndependent.recognised_eq {front middle back : List UInt8}
    (independent : SegmentationIndependent (front ++ (middle ++ back))) (nonempty : middle ≠ [])
    (short : middle.length ≤ maxBuffLength - 1) :
    (recognised middle).toList.map (front.length, ·) =
      commands front.length (bytewise middle).pieces := by
  let isolating := (bytewise front).append ((Cut.whole nonempty short).append (bytewise back))
  let bytes := (bytewise front).append ((bytewise middle).append (bytewise back))
  have same := (independent granting sends_granting isolating bytes).2
  rw [actions_granting isolating.nonempty, actions_granting bytes.nonempty] at same
  simp only [isolating, bytes, Cut.append, commands_append, Cut.joined, Nat.zero_add] at same
  simpa [Cut.whole, commands] using List.append_cancel_right (List.append_cancel_left same)

theorem SegmentationIndependent.unambiguous {stream : List UInt8}
    (independent : SegmentationIndependent stream) : Unambiguous stream where
  noRunPacket := by
    rintro ⟨front, back, rfl⟩
    rw [List.append_assoc] at independent
    have same := independent.recognised_eq (by decide) (by decide)
    rw [(recognised_eq_restartClient_iff _).2 (.inl rfl)] at same
    simp [commands, bytewise, Cut.single, runPacket, recognised_single] at same
  noLaterCtrlC := by
    intro member
    obtain ⟨front, back, split⟩ := List.append_of_mem member
    rcases stream with _ | ⟨first, tail⟩
    · simp at member
    · -- the byte in front of the packet, together with it
      obtain ⟨before, byte, same⟩ : ∃ before byte, first :: front = before ++ [byte] :=
        ⟨_, _, (List.dropLast_append_getLast (List.cons_ne_nil first front)).symm⟩
      have parts : first :: tail = before ++ ([byte, 0x03] ++ back) := by
        rw [show tail = front ++ 0x03 :: back from split, ← List.cons_append, same]
        simp
      rw [parts] at independent
      have silent : recognised [byte, 0x03] = none := recognised_pair (by simp)
      have same := independent.recognised_eq (by simp) (by simp [maxBuffLength])
      rw [silent] at same
      simp [commands, bytewise, Cut.single, recognised_single] at same
  firstCtrlC := by
    rintro byte rest rfl
    by_contra nonzero
    have silent : recognised [0x03, byte] = none := recognised_pair (by simpa using nonzero)
    have same := @SegmentationIndependent.recognised_eq [] [0x03, byte] rest independent (by simp)
      (by simp [maxBuffLength])
    rw [silent] at same
    simp [commands, bytewise, Cut.single, recognised_single] at same

/-- The cuts of a stream make no difference exactly if no cut can isolate or hide a packet. -/
theorem segmentationIndependent_iff_unambiguous (stream : List UInt8) :
    SegmentationIndependent stream ↔ Unambiguous stream := by
  constructor
  · exact SegmentationIndependent.unambiguous
  · intro unambiguous results sends left right
    have onLeft := unambiguous.observed sends left.nonempty left.joined
    have onRight := unambiguous.observed sends right.nonempty right.joined
    exact ⟨onLeft.1.trans onRight.1.symm, onLeft.2.trans onRight.2.symm⟩

/-- "$R0#82" restarts the client if it arrives in one piece and does not if it arrives byte by byte,
and an interrupt behind an acknowledgement is only seen if it arrives apart from it. -/
theorem not_segmentationIndependent_packets :
    ¬SegmentationIndependent runPacket.bytes ∧ ¬SegmentationIndependent [0x2b, 0x03] := by
  constructor
  · intro independent
    exact independent.unambiguous.noRunPacket List.infix_rfl
  · intro independent
    exact independent.unambiguous.noLaterCtrlC (by decide)

end Mica.Debug

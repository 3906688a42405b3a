import Mica.Micad.Daemon

/-!
# The create message of the command-line tool

`mica_create_msg` of `micactl/mica.py`, received whole by the daemon. A string is packed
into a field of fixed size: it is cut if it is longer and filled up with zeros if it is
shorter. The daemon reads a field up to the first zero byte and keeps one byte less than
its size, so a string that has a zero byte or fills its field does not arrive as it was.

The tool sends later commands to the path that it makes of the whole name.
-/

namespace Mica.Micactl

open Micad

/-- `str.encode()` -/
def encode (string : String) : List UInt8 := string.toUTF8.data.toList

/-- A field "<size>s" of `struct.pack`. -/
def packString (size : ℕ) (bytes : List UInt8) : List UInt8 :=
  bytes.take size ++ List.replicate (size - bytes.length) 0

/-- The class `mica_create_msg`. -/
structure MicaCreateMsg where
  cpu : UInt32
  name : String
  path : String
  ped : String
  pedCfg : String
  debug : Bool

/-- `struct.pack('I32s128s32s128s?', ...)` -/
def MicaCreateMsg.pack (msg : MicaCreateMsg) : List UInt8 :=
  LittleEndian.bytes 4 msg.cpu.toNat ++ (packString 32 (encode msg.name) ++
    (packString 128 (encode msg.path) ++ (packString 32 (encode msg.ped) ++
      (packString 128 (encode msg.pedCfg) ++ [if msg.debug then 1 else 0]))))

/-- `ctrl_socket`, the path for commands on a client: f'/run/mica/{name}.socket'. -/
def ctrlSocket (name : String) : List UInt8 :=
  encode "/run/mica/" ++ (encode name ++ encode ".socket")

theorem length_packString (size : ℕ) (bytes : List UInt8) :
    (packString size bytes).length = size := by
  simp only [packString, List.length_append, List.length_take, List.length_replicate]
  omega

theorem packString_of_lt {size : ℕ} {bytes : List UInt8} (fits : bytes.length < size) :
    ∃ back, packString size bytes = bytes ++ 0 :: back := by
  refine ⟨List.replicate (size - bytes.length - 1) 0, ?_⟩
  have more : size - bytes.length = size - bytes.length - 1 + 1 := by omega
  rw [packString, List.take_of_length_le fits.le, more, List.replicate_succ]
  rfl

theorem strlcpy_stringAt_packString_iff {size start : ℕ} (positive : 0 < size)
    {memory bytes back : List UInt8} (field : memory.drop start = packString size bytes ++ back) :
    ((Buffer.stringAt memory start).strlcpy size).bytes = bytes ↔
      0 ∉ bytes ∧ bytes.length < size := by
  constructor
  · rintro rfl
    exact ⟨CString.noNul _, CString.length_strlcpy_lt positive _⟩
  · rintro ⟨noNul, fits⟩
    rcases packString_of_lt fits with ⟨zeros, packed⟩
    have whole : Buffer.stringAt memory start = ⟨bytes, noNul⟩ := by
      apply Buffer.stringAt_of_drop
      rw [field, packed, List.append_assoc, List.cons_append]
    rw [whole, CString.strlcpy_of_lt (by exact fits)]

theorem bytes_socketPath {name : CString} (fits : name.length < maxNameLen) :
    (socketPath name).bytes = socketDirectory.bytes ++ (name.bytes ++ socketSuffix.bytes) := by
  rw [CString.length, maxNameLen] at fits
  apply List.take_of_length_le
  simp only [CString.append, List.length_append, socketDirectory, socketSuffix, maxPathLen,
    List.length_cons, List.length_nil]
  omega

/-! ## The fields of a packed message -/

section Fields

variable (msg : MicaCreateMsg) (rest : List UInt8)

theorem cpu_pack : (createMsgOf (msg.pack ++ rest)).cpu = msg.cpu := by
  have four : (LittleEndian.bytes 4 msg.cpu.toNat).length = 4 := LittleEndian.length_bytes _ _
  simp only [createMsgOf, MicaCreateMsg.pack, List.append_assoc]
  rw [List.take_left' four, LittleEndian.value_bytes,
    Nat.mod_eq_of_lt (by simpa using msg.cpu.toNat_lt), UInt32.ofNat_toNat]

theorem drop_name : ∃ back,
    (msg.pack ++ rest).drop 4 = packString 32 (encode msg.name) ++ back := by
  simp only [MicaCreateMsg.pack, List.append_assoc]
  rw [List.drop_left' (LittleEndian.length_bytes _ _)]
  exact ⟨_, rfl⟩

theorem drop_path : ∃ back,
    (msg.pack ++ rest).drop 36 = packString 128 (encode msg.path) ++ back := by
  simp [MicaCreateMsg.pack, List.drop_append, LittleEndian.length_bytes, length_packString,
    List.drop_eq_nil_of_le]

theorem drop_pedCfg :
    (msg.pack ++ rest).drop 196 = packString 128 (encode msg.pedCfg) ++
      ((if msg.debug then 1 else 0) :: rest) := by
  simp [MicaCreateMsg.pack, List.drop_append, LittleEndian.length_bytes, length_packString,
    List.drop_eq_nil_of_le]

theorem debugOf_pack : debugOf (msg.pack ++ rest) = msg.debug := by
  have last : (msg.pack ++ rest).drop 324 = (if msg.debug then 1 else 0) :: rest := by
    rw [← List.drop_drop (i := 128) (j := 196), drop_pedCfg,
      List.drop_left' (length_packString _ _)]
  have byte : (msg.pack ++ rest).getD 324 0 = if msg.debug then 1 else 0 := by
    rw [List.getD_eq_getElem?_getD, ← List.head?_drop, last]
    rfl
  rw [debugOf, byte]
  cases msg.debug
  · rfl
  · rfl

end Fields

/-! ## What the daemon makes of it -/

/-- No string that the daemon keeps has a zero byte or fills its field. -/
def MicaCreateMsg.Fits (msg : MicaCreateMsg) : Prop :=
  (0 ∉ encode msg.name ∧ (encode msg.name).length < 32) ∧
    (0 ∉ encode msg.path ∧ (encode msg.path).length < 128) ∧
    (0 ∉ encode msg.pedCfg ∧ (encode msg.pedCfg).length < 128)

instance (msg : MicaCreateMsg) : Decidable msg.Fits :=
  inferInstanceAs (Decidable ((_ ∧ _) ∧ (_ ∧ _) ∧ (_ ∧ _)))

variable {File : Type} [DecidableEq File] {resolve : CString → File} {nprocessors : Int}
  {daemon : Daemon File} {results : DaemonResults}

/-- The newest listener has a client as the message wants it, and its socket is bound to the path
that the tool sends commands to. -/
def MicaCreateMsg.Agrees (resolve : CString → File) (msg : MicaCreateMsg) (daemon : Daemon File) :
    Prop :=
  ∃ listener client, daemon.listenerList.getLast? = some listener ∧
    listener.client = some client ∧ client.cpuId = msg.cpu ∧
    client.path.bytes = encode msg.path ∧ client.pedCfg.bytes = encode msg.pedCfg ∧
    client.debug = msg.debug ∧ listener.socketPath.bytes = ctrlSocket msg.name ∧
    daemon.files (resolve listener.socketPath) = some listener.socketFd

theorem bytes_socketPath_eq_ctrlSocket_iff {name : CString} (fits : name.length < maxNameLen)
    (string : String) :
    (socketPath name).bytes = ctrlSocket string ↔ name.bytes = encode string := by
  have directory : encode "/run/mica/" = socketDirectory.bytes := by decide
  have suffix : encode ".socket" = socketSuffix.bytes := by decide
  rw [bytes_socketPath fits, ctrlSocket, directory, suffix, List.append_cancel_left_eq,
    List.append_cancel_right_eq]

theorem agrees_listen_iff (msg : MicaCreateMsg) (rest : List UInt8) :
    msg.Agrees resolve ((daemon.link (msg.pack ++ rest)).listen resolve
      (createMsgOf (msg.pack ++ rest)).name
      (some (createdClient daemon.next (msg.pack ++ rest)))) ↔ msg.Fits := by
  rcases drop_name msg rest with ⟨_, nameField⟩
  rcases drop_path msg rest with ⟨_, pathField⟩
  have name := strlcpy_stringAt_packString_iff (by decide) nameField
  have path := strlcpy_stringAt_packString_iff (by decide) pathField
  have pedCfg := strlcpy_stringAt_packString_iff (by decide) (drop_pedCfg msg rest)
  have socket := bytes_socketPath_eq_ctrlSocket_iff
    (CString.length_strlcpy_lt (by decide) (createMsgOf (msg.pack ++ rest)).name) msg.name
  rw [MicaCreateMsg.Fits, ← name, ← path, ← pedCfg]
  constructor
  · rintro ⟨listener, client, newest, has, -, samePath, samePedCfg, -, sameSocket, -⟩
    simp only [Daemon.listen, List.getLast?_concat, Option.some.injEq] at newest
    subst newest
    cases has
    exact ⟨socket.1 sameSocket, samePath, samePedCfg⟩
  · rintro ⟨sameName, samePath, samePedCfg⟩
    refine ⟨_, _, List.getLast?_concat, rfl, cpu_pack msg rest, samePath, samePedCfg,
      debugOf_pack msg rest, socket.2 sameName, ?_⟩
    exact Function.update_self _ _ _

/-- A client that the daemon reports as created is the one the tool asked for, under the path the
tool uses, if and only if the strings fit. -/
theorem agrees_iff_fits (msg : MicaCreateMsg) (rest : List UInt8)
    (success : (daemon.createMicaClient resolve nprocessors (msg.pack ++ rest) results).2 =
      some .success) :
    msg.Agrees resolve
      (daemon.createMicaClient resolve nprocessors (msg.pack ++ rest) results).1 ↔ msg.Fits := by
  by_cases admitted : daemon.Admitted nprocessors (msg.pack ++ rest) results
  · by_cases granted :
      daemon.Granted resolve (createMsgOf (msg.pack ++ rest)).name results
    · rw [Daemon.createMicaClient_of_granted admitted granted]
      exact agrees_listen_iff msg rest
    · rw [(Daemon.createMicaClient_of_not_granted admitted granted).1] at success
      cases success
  · exact absurd success (Daemon.createMicaClient_of_not_admitted admitted).1

/-- A message with a short name and a path. -/
def shortMessage : MicaCreateMsg := ⟨1, "rtos", "/lib/firmware/rtos.elf", "", "", true⟩

theorem agrees_shortMessage :
    (Daemon.createMicaClient id 4 (shortMessage.pack ++ []) .smooth (Daemon.started id)).2 =
        some .success ∧
      shortMessage.Agrees id
        (Daemon.createMicaClient id 4 (shortMessage.pack ++ []) .smooth (Daemon.started id)).1 := by
  have success : (Daemon.createMicaClient id 4 (shortMessage.pack ++ []) .smooth
      (Daemon.started id)).2 = some .success := by
    decide +kernel
  exact ⟨success, (agrees_iff_fits shortMessage [] success).2 (by decide +kernel)⟩

/-- A message with a name of 32 letters. -/
def fullMessage : MicaCreateMsg :=
  ⟨1, "abcdefghijklmnopqrstuvwxyzabcdef", "/lib/firmware/rtos.elf", "", "", true⟩

/-- The daemon listens on the path of the first 31 letters, the tool sends commands to that of
all 32. -/
theorem not_agrees_fullMessage :
    (Daemon.createMicaClient id 4 (fullMessage.pack ++ []) .smooth (Daemon.started id)).2 =
        some .success ∧
      ¬fullMessage.Agrees id
        (Daemon.createMicaClient id 4 (fullMessage.pack ++ []) .smooth (Daemon.started id)).1 := by
  refine ⟨by decide +kernel, ?_⟩
  rintro ⟨listener, client, newest, -, -, -, -, -, sameSocket, -⟩
  have socket : (Daemon.createMicaClient id 4 (fullMessage.pack ++ []) .smooth
      (Daemon.started id)).1.listenerList.getLast?.map (fun unit => unit.socketPath.bytes) ≠
        some (ctrlSocket fullMessage.name) := by
    decide +kernel
  apply socket
  rw [newest, Option.map_some, sameSocket]

end Mica.Micactl

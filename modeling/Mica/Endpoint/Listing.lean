import Mica.Lib.Snprintf

/-!
# The listing of the services

`print_device_of_service` of `library/rpmsg_device/rpmsg_service.c` and `get_rpmsg_tty_dev` of
`mica/micad/services/pty/rpmsg_pty.c`, the only function that a service has for
`get_match_device`. They print to a buffer of the caller without a cursor: each entry is printed
behind the string that the buffer holds, with the size that is left by its length.
-/

namespace Mica.Endpoint

/-- The fields of `struct rpmsg_tty_service` that are printed. -/
structure TtyDevice where
  eptName : CString
  ttyDev : CString

/-- The fields of `struct mica_service` that are printed. For a service with `get_match_device`
these are the devices in the list that `priv` refers to. -/
structure ListedService where
  name : CString
  getMatchDevice : Option (List TtyDevice)

/-- The format `"%s "` -/
def ListedService.text (svc : ListedService) : CString :=
  svc.name.append ⟨[0x20], by decide⟩

/-- The format `"%s(%s) "` -/
def TtyDevice.text (dev : TtyDevice) : CString :=
  dev.eptName.append
    ((⟨[0x28], by decide⟩ : CString).append (dev.ttyDev.append ⟨[0x29, 0x20], by decide⟩))

def getRpmsgTtyDev (str : ℕ) (size : UInt64) :
    List TtyDevice → List UInt8 → Outcome (List UInt8)
  | [], buf => .ok buf
  | dev :: devices, buf => do
      let buf ← Snprintf.append str size buf dev.text
      getRpmsgTtyDev str size devices buf

/-- The body of the loop of `print_device_of_service`. -/
def printService (str : ℕ) (size : UInt64) (svc : ListedService) (buf : List UInt8) :
    Outcome (List UInt8) :=
  match svc.getMatchDevice with
  | some devices => do
      let string ← Buffer.readString buf str
      getRpmsgTtyDev (str + string.length) (size - UInt64.ofNat string.length) devices buf
  | none => Snprintf.append str size buf svc.text

def printDeviceOfService (str : ℕ) (size : UInt64) :
    List ListedService → List UInt8 → Outcome (List UInt8)
  | [], buf => .ok buf
  | svc :: services, buf => do
      let buf ← printService str size svc buf
      printDeviceOfService str size services buf

/-- The entries of a service. -/
def ListedService.entries (svc : ListedService) : List CString :=
  match svc.getMatchDevice with
  | some devices => devices.map TtyDevice.text
  | none => [svc.text]

/-- All entries of the services, one behind the other. -/
def listing (services : List ListedService) : List UInt8 :=
  (services.flatMap ListedService.entries).flatMap CString.bytes

open Snprintf

section

variable {n str : ℕ} {size : UInt64} {text buf : List UInt8}

theorem getRpmsgTtyDev_shows (shows : Shows n text buf)
    (inside : str ≤ (text.take (n - 1)).length) (remaining : size.toNat = n - str)
    (devices : List TtyDevice) :
    ∃ after, getRpmsgTtyDev str size devices buf = .ok after ∧
      Shows n (text ++ (devices.map TtyDevice.text).flatMap CString.bytes) after := by
  induction devices generalizing text buf with
  | nil => exact ⟨buf, rfl, by simpa using shows⟩
  | cons dev devices ih =>
      rcases shows.append inside remaining dev.text with ⟨next, printed, showsNext⟩
      have insideNext : str ≤ ((text ++ dev.text.bytes).take (n - 1)).length := by
        rw [List.length_take, List.length_append]
        rw [List.length_take] at inside
        omega
      rcases ih showsNext insideNext with ⟨after, rest, showsAfter⟩
      refine ⟨after, ?_, ?_⟩
      · rw [getRpmsgTtyDev, printed, Outcome.ok_bind, rest]
      · rwa [List.map_cons, List.flatMap_cons, ← List.append_assoc]

theorem printService_shows (shows : Shows n text buf) (whole : size.toNat = n)
    (svc : ListedService) :
    ∃ after, printService 0 size svc buf = .ok after ∧
      Shows n (text ++ svc.entries.flatMap CString.bytes) after := by
  have inside : 0 ≤ (text.take (n - 1)).length := Nat.zero_le _
  rw [printService, ListedService.entries]
  cases svc.getMatchDevice with
  | none =>
      rcases shows.append inside whole svc.text with ⟨after, printed, showsAfter⟩
      exact ⟨after, printed, by simpa using showsAfter⟩
  | some devices =>
      rcases shows.readString inside with ⟨string, read, length⟩
      have left := shows.toNat_remaining inside whole length
      rw [Nat.sub_zero] at length
      simp only [read, Outcome.ok_bind, Nat.zero_add, length]
      rw [length] at left
      exact getRpmsgTtyDev_shows shows le_rfl left devices

theorem printDeviceOfService_shows (shows : Shows n text buf) (whole : size.toNat = n)
    (services : List ListedService) :
    ∃ after, printDeviceOfService 0 size services buf = .ok after ∧
      Shows n (text ++ listing services) after := by
  induction services generalizing text buf with
  | nil => exact ⟨buf, rfl, by simpa [listing] using shows⟩
  | cons svc services ih =>
      rcases printService_shows shows whole svc with ⟨next, printed, showsNext⟩
      rcases ih showsNext with ⟨after, rest, showsAfter⟩
      refine ⟨after, ?_, ?_⟩
      · rw [printDeviceOfService, printed, Outcome.ok_bind, rest]
      · rwa [List.append_assoc, listing, ← List.flatMap_append, ← List.flatMap_cons] at showsAfter

end

/-- A buffer of any positive size that starts as the empty string holds the listing afterwards, cut
to what fits with a terminator, and nothing is stored behind the buffer. -/
theorem printDeviceOfService_truncates {size : UInt64} {rest : List UInt8}
    (fills : (0 :: rest).length = size.toNat) (services : List ListedService) :
    ∃ after, printDeviceOfService 0 size services (0 :: rest) = .ok after ∧
      after.length = size.toNat ∧
      (listing services).take (size.toNat - 1) ++ [0] <+: after := by
  have empty : Shows size.toNat [] (0 :: rest) := by
    refine ⟨List.not_mem_nil, fills, ?_⟩
    rw [List.take_nil]
    exact List.prefix_append [0] rest
  rcases printDeviceOfService_shows empty rfl services with ⟨after, printed, shows⟩
  exact ⟨after, printed, shows.length_eq, shows.begins⟩

/-- `RESPONSE_MSG_SIZE` -/
def responseMsgSize : UInt64 := 256

/-- A service with the name `m` and a service with a device `p` for the endpoint `t`. -/
def listedServices : List ListedService :=
  [{ name := ⟨[0x6d], by decide⟩, getMatchDevice := none },
    { name := ⟨[], CString.noNul_nil⟩
      getMatchDevice := some [{ eptName := ⟨[0x74], by decide⟩, ttyDev := ⟨[0x70], by decide⟩ }] }]

/-- The buffer of `show_status`. -/
theorem printDeviceOfService_truncates_response :
    (0 :: List.replicate 255 (0 : UInt8)).length = responseMsgSize.toNat ∧
      ∃ after, printDeviceOfService 0 responseMsgSize listedServices (0 :: List.replicate 255 0) =
          .ok after ∧
        after.length = 256 ∧ [0x6d, 0x20, 0x74, 0x28, 0x70, 0x29, 0x20, 0] <+: after := by
  have fills : (0 :: List.replicate 255 (0 : UInt8)).length = responseMsgSize.toNat := by
    rw [List.length_cons, List.length_replicate]
    rfl
  exact ⟨fills, printDeviceOfService_truncates fills listedServices⟩

end Mica.Endpoint

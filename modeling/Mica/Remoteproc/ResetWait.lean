import Mica.Lib.CTypes
import Mathlib.Data.Int.Order.Lemmas
import Mathlib.Data.List.Basic

/-!
# Waiting for the remote to clear its status

`wait_cpu_status_reset` of `library/remoteproc/baremetal_rproc.c`. The time since the start is
computed in milliseconds, from seconds that are truncated to `int` and a difference of
nanoseconds that may be negative and is divided towards zero, and added up in an unsigned
variable.

The clock and the remote are not under the control of the loop: a round is a status that is
read and, if it is not zero, a reading of the clock.
-/

namespace Mica.Remoteproc

open MachineInt

/-- `struct timespec` -/
structure Timespec where
  tvSec : ℤ
  tvNsec : ℤ

/-- The variable `diff` after its two assignments. -/
def resetDiff (start now : Timespec) : ℤ :=
  let diff := unsigned 32
    (signed 64 (1000 * signed 32 (signed 32 now.tvSec - signed 32 start.tvSec)))
  unsigned 32
    (diff + (signed 32 (signed 32 now.tvNsec - signed 32 start.tvNsec)).tdiv 1000000)

/-- A status that is read, and the clock if it is read after it. -/
structure WaitRound where
  status : UInt32
  now : Timespec

/-- How the loop ends: the remote has cleared the status in a round, and the result is 0, or the
loop gives up at the reading of a round with -1. It is waiting still if there are no more rounds. -/
inductive WaitResult where
  | reset (round : ℕ)
  | gaveUp (round : ℕ)
  | waiting
deriving DecidableEq

/-- The loop of `wait_cpu_status_reset`, from the round with this number on. -/
def waitLoop (start : Timespec) (timeout : UInt32) : ℕ → List WaitRound → WaitResult
  | _, [] => .waiting
  | number, round :: rounds =>
      if round.status = 0 then .reset number
      else if (timeout.toNat : ℤ) ≤ resetDiff start round.now then .gaveUp number
      else waitLoop start timeout (number + 1) rounds

/-- `wait_cpu_status_reset`, for the clock at its start and the rounds of its loop. -/
def waitCpuStatusReset (start : Timespec) (timeout : UInt32) (rounds : List WaitRound) :
    WaitResult :=
  waitLoop start timeout 0 rounds

/-! ## The time that has passed -/

/-- The time between two readings in nanoseconds. -/
def elapsed (start now : Timespec) : ℤ :=
  (now.tvSec - start.tvSec) * 10 ^ 9 + (now.tvNsec - start.tvNsec)

/-- A reading of the clock whose seconds are in the range of `int`. -/
structure Timespec.Valid (time : Timespec) : Prop where
  nsec_nonneg : 0 ≤ time.tvNsec
  nsec_lt : time.tvNsec < 10 ^ 9
  sec_ge : -2 ^ 31 ≤ time.tvSec
  sec_lt : time.tvSec < 2 ^ 31

/-- A later reading, by less than `2 ^ 31` milliseconds. -/
structure Later (start now : Timespec) : Prop where
  valid : now.Valid
  nonneg : 0 ≤ elapsed start now
  lt : elapsed start now < 2 ^ 31 * 10 ^ 6

/-- `diff` over the integers: whole milliseconds of the seconds and of the nanoseconds. -/
def exactDiff (start now : Timespec) : ℤ :=
  1000 * (now.tvSec - start.tvSec) + (now.tvNsec - start.tvNsec).tdiv 1000000

section Diff

variable {start now : Timespec}

theorem tdiv_million_bounds (value : ℤ) :
    1000000 * value.tdiv 1000000 - value < 1000000 ∧
      value - 1000000 * value.tdiv 1000000 < 1000000 := by
  have split := Int.mul_tdiv_add_tmod value 1000000
  have above := Int.tmod_lt_of_pos value (by decide : (0 : ℤ) < 1000000)
  have below := Int.lt_tmod_of_pos value (by decide : (0 : ℤ) < 1000000)
  constructor <;> omega

theorem exactDiff_bounds (start now : Timespec) :
    10 ^ 6 * exactDiff start now - elapsed start now < 10 ^ 6 ∧
      elapsed start now - 10 ^ 6 * exactDiff start now < 10 ^ 6 := by
  rcases tdiv_million_bounds (now.tvNsec - start.tvNsec) with ⟨above, below⟩
  rw [exactDiff, elapsed]
  constructor <;> omega

theorem exactDiff_nonneg (later : Later start now) : 0 ≤ exactDiff start now := by
  rcases exactDiff_bounds start now with ⟨-, below⟩
  have passed := later.nonneg
  omega

theorem sec_sub_nonneg (valid : start.Valid) (later : Later start now) :
    0 ≤ now.tvSec - start.tvSec := by
  have passed := later.nonneg
  have nsec := later.valid.nsec_lt
  have startNsec := valid.nsec_nonneg
  rw [elapsed] at passed
  omega

theorem sec_sub_lt (valid : start.Valid) (later : Later start now) :
    now.tvSec - start.tvSec < 2 ^ 22 := by
  have bound := later.lt
  have nsec := later.valid.nsec_nonneg
  have startNsec := valid.nsec_lt
  rw [elapsed] at bound
  omega

theorem resetDiff_eq (valid : start.Valid) (later : Later start now) :
    resetDiff start now = exactDiff start now := by
  have nonneg := sec_sub_nonneg valid later
  have less := sec_sub_lt valid later
  have diffNonneg := exactDiff_nonneg later
  have diffLess : exactDiff start now < 2 ^ 32 := by
    rcases exactDiff_bounds start now with ⟨above, -⟩
    have bound := later.lt
    omega
  have nowSec : signed 32 now.tvSec = now.tvSec :=
    signed_of_lt later.valid.sec_ge later.valid.sec_lt
  have startSec : signed 32 start.tvSec = start.tvSec := signed_of_lt valid.sec_ge valid.sec_lt
  have nowNsec : signed 32 now.tvNsec = now.tvNsec := by
    rcases later.valid with ⟨lower, upper, -, -⟩
    exact signed_of_lt (by omega) (by omega)
  have startNsec : signed 32 start.tvNsec = start.tvNsec := by
    rcases valid with ⟨lower, upper, -, -⟩
    exact signed_of_lt (by omega) (by omega)
  have sec : signed 32 (now.tvSec - start.tvSec) = now.tvSec - start.tvSec :=
    signed_of_lt (by omega) (by omega)
  have nsec : signed 32 (now.tvNsec - start.tvNsec) = now.tvNsec - start.tvNsec := by
    rcases valid with ⟨lower, upper, -, -⟩
    rcases later.valid with ⟨lower', upper', -, -⟩
    exact signed_of_lt (by omega) (by omega)
  have product : signed 64 (1000 * (now.tvSec - start.tvSec)) = 1000 * (now.tvSec - start.tvSec) :=
    signed_of_lt (by omega) (by omega)
  have first : unsigned 32 (1000 * (now.tvSec - start.tvSec)) = 1000 * (now.tvSec - start.tvSec) :=
    unsigned_of_lt (by omega) (by omega)
  rw [resetDiff, nowSec, startSec, nowNsec, startNsec, sec, nsec, product, first]
  exact unsigned_of_lt diffNonneg diffLess

end Diff

/-! ## The loop -/

section Loop

variable {start : Timespec} {timeout : UInt32} {rounds : List WaitRound}

/-- The remote has not cleared the status in any round up to the one with this number. -/
def Pending (rounds : List WaitRound) (number : ℕ) : Prop :=
  ∀ round ∈ rounds.take (number + 1), round.status ≠ 0

theorem pending_cons_succ {round : WaitRound} {number : ℕ} :
    Pending (round :: rounds) (number + 1) ↔ round.status ≠ 0 ∧ Pending rounds number := by
  simp [Pending]

theorem Pending.status_ne {number : ℕ} {round : WaitRound} (pending : Pending rounds number)
    (found : rounds[number]? = some round) : round.status ≠ 0 := by
  apply pending
  rw [List.take_add_one, found]
  simp

theorem exists_of_waitLoop_eq_gaveUp {first stop : ℕ}
    (gaveUp : waitLoop start timeout first rounds = .gaveUp stop) :
    ∃ number round, stop = first + number ∧ rounds[number]? = some round ∧
      Pending rounds number ∧ (timeout.toNat : ℤ) ≤ resetDiff start round.now := by
  induction rounds generalizing first with
  | nil => simp [waitLoop] at gaveUp
  | cons round rounds ih =>
      rw [waitLoop] at gaveUp
      split_ifs at gaveUp with cleared reached
      · cases gaveUp
        exact ⟨0, round, rfl, rfl, by simpa [Pending] using cleared, reached⟩
      · rcases ih gaveUp with ⟨number, last, at_, found, pending, reached⟩
        refine ⟨number + 1, last, by omega, by simpa using found, ?_, reached⟩
        exact pending_cons_succ.mpr ⟨cleared, pending⟩

theorem waitLoop_eq_gaveUp {first number : ℕ} {round : WaitRound}
    (found : rounds[number]? = some round) (pending : Pending rounds number)
    (reached : (timeout.toNat : ℤ) ≤ resetDiff start round.now) :
    ∃ stop ≤ number, waitLoop start timeout first rounds = .gaveUp (first + stop) := by
  induction rounds generalizing first number with
  | nil => simp at found
  | cons head rounds ih =>
      have uncleared : head.status ≠ 0 := pending head (by simp)
      by_cases early : (timeout.toNat : ℤ) ≤ resetDiff start head.now
      · exact ⟨0, Nat.zero_le _, by rw [waitLoop, if_neg uncleared, if_pos early, Nat.add_zero]⟩
      · cases number with
        | zero =>
            cases found
            exact absurd reached early
        | succ number =>
            rcases ih (by simpa using found) (pending_cons_succ.mp pending).2 with
              ⟨stop, before, ends⟩
            refine ⟨stop + 1, Nat.succ_le_succ before, ?_⟩
            rw [waitLoop, if_neg uncleared, if_neg early, ends]
            congr 1
            omega

end Loop

theorem abs_resetDiff_sub_elapsed_lt {start now : Timespec} (valid : start.Valid)
    (later : Later start now) : |10 ^ 6 * resetDiff start now - elapsed start now| < 10 ^ 6 := by
  rcases exactDiff_bounds start now with ⟨above, below⟩
  rw [resetDiff_eq valid later, abs_lt]
  constructor <;> omega

/-- For a reading that is later by less than `2 ^ 31` milliseconds, `diff` is not negative before
it is stored in an unsigned variable, and it is off by less than a millisecond. So the loop gives up
less than a millisecond before the timeout at the earliest, and it does not go past a reading
one millisecond after it. -/
theorem waitCpuStatusReset_timely {start : Timespec} (valid : start.Valid) :
    (∀ now, Later start now →
      0 ≤ exactDiff start now ∧ resetDiff start now = exactDiff start now ∧
        |10 ^ 6 * resetDiff start now - elapsed start now| < 10 ^ 6) ∧
    ∀ (timeout : UInt32) (rounds : List WaitRound),
      (∀ round ∈ rounds, round.status ≠ 0 → Later start round.now) →
      (∀ number, waitCpuStatusReset start timeout rounds = .gaveUp number →
        ∃ round, rounds[number]? = some round ∧ Pending rounds number ∧
          10 ^ 6 * (timeout.toNat - 1 : ℤ) < elapsed start round.now) ∧
      ∀ number round, rounds[number]? = some round → Pending rounds number →
        10 ^ 6 * (timeout.toNat + 1 : ℤ) ≤ elapsed start round.now →
        ∃ stop ≤ number, waitCpuStatusReset start timeout rounds = .gaveUp stop := by
  refine ⟨fun now later => ⟨exactDiff_nonneg later, resetDiff_eq valid later, ?_⟩,
    fun timeout rounds later => ⟨?_, ?_⟩⟩
  · exact abs_resetDiff_sub_elapsed_lt valid later
  · intro stop gaveUp
    rcases exists_of_waitLoop_eq_gaveUp gaveUp with ⟨number, round, at_, found, pending, reached⟩
    have round_later := later round (List.mem_of_getElem? found) (pending.status_ne found)
    rcases abs_lt.mp (abs_resetDiff_sub_elapsed_lt valid round_later) with ⟨-, less⟩
    refine ⟨round, by simpa [at_] using found, by simpa [at_] using pending, by omega⟩
  · intro number round found pending past
    have round_later := later round (List.mem_of_getElem? found) (pending.status_ne found)
    rcases abs_lt.mp (abs_resetDiff_sub_elapsed_lt valid round_later) with ⟨less, -⟩
    have reached : (timeout.toNat : ℤ) ≤ resetDiff start round.now := by omega
    rcases @waitLoop_eq_gaveUp _ _ _ 0 _ _ found pending reached with ⟨stop, before, ends⟩
    exact ⟨stop, before, by rw [waitCpuStatusReset, ends, Nat.zero_add]⟩

/-- A millisecond before the next second. -/
def lateStart : Timespec := { tvSec := 5, tvNsec := 999000000 }

/-- Readings 2 ms and 201 ms after `lateStart`, while the remote keeps its status. -/
def lateRounds : List WaitRound :=
  [{ status := 2, now := { tvSec := 6, tvNsec := 1000000 } },
    { status := 2, now := { tvSec := 6, tvNsec := 200000000 } }]

theorem lateStart_valid : lateStart.Valid := by
  constructor <;> decide

theorem lateRounds_later : ∀ round ∈ lateRounds, round.status ≠ 0 → Later lateStart round.now := by
  simp only [lateRounds, List.forall_mem_cons, List.not_mem_nil, false_imp_iff, implies_true,
    and_true]
  constructor <;> intro _ <;>
    exact ⟨⟨by decide, by decide, by decide, by decide⟩, by decide, by decide⟩

/-- The nanoseconds have gone down at both readings. -/
theorem waitCpuStatusReset_gives_up_late :
    lateStart.Valid ∧ (∀ round ∈ lateRounds, round.status ≠ 0 → Later lateStart round.now) ∧
      ∃ stop ≤ 1, waitCpuStatusReset lateStart 200 lateRounds = .gaveUp stop := by
  refine ⟨lateStart_valid, lateRounds_later, ?_⟩
  rcases waitCpuStatusReset_timely lateStart_valid with ⟨-, loop⟩
  rcases loop 200 lateRounds lateRounds_later with ⟨-, stops⟩
  exact stops 1 _ rfl (by simp [Pending, lateRounds]) (by decide)

end Mica.Remoteproc

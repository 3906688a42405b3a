import Mica.Lib.Run
import Mica.Remoteproc.Mappings
import Mica.Remoteproc.ResetWait

/-!
# Starting a bare-metal remote, or finding it running

Whether a CPU has to be booted is read from the first reserved word of the resource table, which
micad and the remote share (`remoteproc/baremetal_rproc.c`, with `load_client_image` of
`remoteproc/remoteproc_core.c`). A CPU that is marked as on is asked to reset itself; if
it answers in time it is left running, otherwise its image is loaded again.

The model has one client with one image, and micad can be killed between any two of its accesses to
the word. The remote does what the comments
of the source say about it. `remoteproc_load` and `remoteproc_set_rsc_table` belong to the
outside; loading an image clears the word.
-/

namespace Mica.Remoteproc

namespace BareMetal

open Lifecycle (cpuOffFuncid)

def cpuOnFuncid : UInt32 := 0xC4000003

def systemReset : UInt32 := 0x84000009

/-- In milliseconds. -/
def resetTimeout : ℤ := 200

/-- Where micad is with a client. -/
inductive BootPhase where
  | offline
  /-- `rproc_config` is about to read the word. -/
  | configuring
  /-- The word was `CPU_ON_FUNCID`. -/
  | found
  /-- In `wait_cpu_status_reset`, which began at this time. -/
  | waiting (start : Timespec)
  | answered
  /-- `load_client_image` is about to call `remoteproc_load`. -/
  | loading
  /-- `rproc_start` is about to read the word. -/
  | ready
  /-- `rproc_start` is about to call `ioctl` with `IOC_CPUON`. -/
  | booting
  | booted
  | running
  /-- The remoteproc is neither offline nor running, with or without `rproc->rsc_table`. -/
  | failed (table : Bool)

/-- The CPU of a remote and the word that stands for it, `rsc_table->reserved[0]`. -/
structure Cpu where
  status : UInt32
  powered : Bool

structure Boot where
  cpu : Cpu
  phase : BootPhase

/-- The result of a step, the clock, and what a step that fails leaves: OpenAMP may take the
remoteproc back to offline, and a load may have cleared the word and set `rproc->rsc_table`. -/
structure HostResult where
  ok : Bool
  now : Timespec
  offline : Bool
  cleared : Bool
  table : Bool

/-- Commands, the next step of micad, a restart of micad, and what the remote does. -/
inductive BootEvent where
  | start
  | stop
  | host (result : HostResult)
  | restart
  | answer
  | obey
  | quit

namespace Cpu

/-- `set_cpu_status` -/
def setStatus (cpu : Cpu) (status : UInt32) : Cpu := { cpu with status := status }

/-- The remote clears `SYSTEM_RESET`. -/
def answer (cpu : Cpu) : Cpu :=
  if cpu.powered ∧ cpu.status = systemReset then cpu.setStatus 0 else cpu

/-- The remote powers off if it has been told to. -/
def obey (cpu : Cpu) : Cpu :=
  if cpu.powered ∧ cpu.status = cpuOffFuncid then { cpu with powered := false } else cpu

/-- The remote powers off on its own. -/
def quit (cpu : Cpu) : Cpu := if cpu.powered then ⟨cpuOffFuncid, false⟩ else cpu

end Cpu

namespace Boot

/-- Cleared memory and a CPU that is off. -/
def initial : Boot := ⟨⟨0, false⟩, .offline⟩

def enter (boot : Boot) (phase : BootPhase) : Boot := { boot with phase := phase }

def setStatus (boot : Boot) (status : UInt32) : Boot :=
  { boot with cpu := boot.cpu.setStatus status }

def giveUp (boot : Boot) (result : HostResult) (table : Bool) : Boot :=
  boot.enter (if result.offline then .offline else .failed table)

/-- `remoteproc_load` -/
def load (boot : Boot) (result : HostResult) : Boot :=
  if result.ok then (boot.setStatus 0).enter .ready
  else (if result.cleared then boot.setStatus 0 else boot).giveUp result result.table

/-- `ioctl(mcs_fd, IOC_CPUON, &info)`, which fails for a CPU that is on. -/
def cpuOn (boot : Boot) (result : HostResult) : Boot :=
  if result.ok && !boot.cpu.powered then ⟨⟨boot.cpu.status, true⟩, .booted⟩
  else boot.enter (.failed true)

def hostStep (boot : Boot) (result : HostResult) : Boot :=
  match boot.phase with
  | .configuring =>
      if result.ok then boot.enter (if boot.cpu.status = cpuOnFuncid then .found else .loading)
      else boot.giveUp result false
  | .found => (boot.setStatus systemReset).enter (.waiting result.now)
  | .waiting start =>
      if boot.cpu.status = 0 then boot.enter .answered
      else if resetTimeout ≤ resetDiff start result.now then boot.enter .loading
      else boot
  | .answered =>
      if result.ok then (boot.setStatus cpuOnFuncid).enter .ready else boot.giveUp result false
  | .loading => boot.load result
  | .ready => boot.enter (if boot.cpu.status = cpuOnFuncid then .running else .booting)
  | .booting => boot.cpuOn result
  | .booted => (boot.setStatus cpuOnFuncid).enter .running
  | .offline | .running | .failed _ => boot

/-- `rproc_shutdown`, which `remoteproc_shutdown` calls unless the remoteproc is offline. -/
def shutdown (boot : Boot) : Boot :=
  match boot.phase with
  | .running | .failed true => (boot.setStatus cpuOffFuncid).enter .offline
  -- a null pointer, and the end of micad
  | .failed false => boot.enter .offline
  | _ => boot

/-- `remoteproc_config` refuses a remoteproc that is not offline. -/
def start (boot : Boot) : Boot :=
  match boot.phase with
  | .offline => boot.enter .configuring
  | _ => boot

def step (boot : Boot) : BootEvent → Boot
  | .start => boot.start
  | .host result => boot.hostStep result
  | .stop => boot.shutdown
  | .restart => boot.enter .offline
  | .answer => { boot with cpu := boot.cpu.answer }
  | .obey => { boot with cpu := boot.cpu.obey }
  | .quit => { boot with cpu := boot.cpu.quit }

end Boot

theorem Boot.shutdown_eq_rprocShutdown (boot : Boot) (pagesize : UInt64) {remote : Remote}
    {table : Bool} (phase : boot.phase = .running ∧ table = true ∨ boot.phase = .failed table)
    (word : remote.rscTable = if table then some boot.cpu.status else none) :
    boot.shutdown =
      (boot.setStatus (((rprocShutdown pagesize remote).bind (·.notified)).getD
        boot.cpu.status)).enter .offline := by
  cases table with
  | true =>
      have stops : boot.phase = .running ∨ boot.phase = .failed true := phase.imp_left And.left
      rw [rprocShutdown_of_table pagesize word]
      rcases stops with stops | stops <;> simp [Boot.shutdown, stops]
  | false =>
      have stops : boot.phase = .failed false := by simpa using phase
      rw [rprocShutdown_of_null pagesize word]
      simp [Boot.shutdown, stops, Boot.setStatus, Cpu.setStatus, Boot.enter]

/-! ## What the word says about the CPU -/

namespace Cpu

/-- The CPU is on and marked as on. -/
def On (cpu : Cpu) : Prop := cpu.powered = true ∧ cpu.status = cpuOnFuncid

/-- The CPU is off and not marked as on. -/
def Off (cpu : Cpu) : Prop := cpu.powered = false ∧ cpu.status ≠ cpuOnFuncid

/-- The CPU has been told to power off, but is still on. -/
def Leaving (cpu : Cpu) : Prop := cpu.powered = true ∧ cpu.status = cpuOffFuncid

/-- The CPU has been asked to reset itself, or has done so. -/
def Asked (cpu : Cpu) : Prop :=
  cpu.powered = true ∧ (cpu.status = systemReset ∨ cpu.status = 0)

/-- The word tells micad whether the CPU is on, except while micad itself is changing it. -/
def Fits (cpu : Cpu) : BootPhase → Prop
  | .offline => cpu.On ∨ cpu.Off ∨ cpu.Leaving
  | .configuring | .found | .ready | .running | .failed _ => cpu.On ∨ cpu.Off
  | .waiting _ => cpu.Asked ∨ cpu.Off ∧ cpu.status ≠ 0
  | .answered => cpu.powered = true ∧ cpu.status = 0
  | .loading | .booting => cpu.Off
  | .booted => cpu.powered = true ∧ cpu.status ≠ cpuOnFuncid

end Cpu

namespace Boot

def Consistent (boot : Boot) : Prop := boot.cpu.Fits boot.phase

/-- A client is started again only after its CPU has powered off, a CPU that is on answers in time
and its resource table can be restored, micad is not killed while the word is not the truth, and
the remote does not power off just before micad marks it as on. -/
def Allows (cpu : Cpu) : BootPhase → BootEvent → Prop
  | .offline, .start => ¬cpu.Leaving
  | .waiting start, .host result => cpu.status ≠ 0 →
      resetTimeout ≤ resetDiff start result.now → cpu.powered = false
  | .answered, .host result => result.ok = true
  | .waiting _, .restart => cpu.powered = false
  | .answered, .restart | .answered, .quit | .booted, .quit => False
  | .booted, .restart => cpu.Leaving
  | .booted, .obey => ¬cpu.Leaving
  | _, _ => True

def Considerate (boot : Boot) (event : BootEvent) : Prop := Allows boot.cpu boot.phase event

end Boot

theorem cpuOn_ne_cpuOff : cpuOnFuncid ≠ cpuOffFuncid := by decide

theorem systemReset_ne_cpuOn : systemReset ≠ cpuOnFuncid := by decide

theorem systemReset_ne_cpuOff : systemReset ≠ cpuOffFuncid := by decide

theorem systemReset_ne_zero : systemReset ≠ 0 := by decide

theorem cpuOff_ne_zero : cpuOffFuncid ≠ 0 := by decide

theorem zero_ne_cpuOn : 0 ≠ cpuOnFuncid := by decide

namespace Cpu

variable {cpu : Cpu}

theorem On.not_leaving (on : cpu.On) : ¬cpu.Leaving :=
  fun leaving => cpuOn_ne_cpuOff (on.2.symm.trans leaving.2)

theorem Off.not_leaving (off : cpu.Off) : ¬cpu.Leaving :=
  fun leaving => Bool.false_ne_true (off.1.symm.trans leaving.1)

theorem Asked.status_ne (asked : cpu.Asked) : cpu.status ≠ cpuOnFuncid := by
  rcases asked.2 with reset | zero
  · rw [reset]
    exact systemReset_ne_cpuOn
  · rw [zero]
    exact zero_ne_cpuOn

theorem Asked.not_leaving (asked : cpu.Asked) : ¬cpu.Leaving := by
  intro leaving
  rcases asked.2 with reset | zero
  · exact systemReset_ne_cpuOff (reset.symm.trans leaving.2)
  · exact cpuOff_ne_zero (leaving.2.symm.trans zero)

theorem fits_offline_iff_leaving (powered : cpu.powered = true)
    (unmarked : cpu.status ≠ cpuOnFuncid) : cpu.Fits .offline ↔ cpu.Leaving := by
  constructor
  · rintro (on | off | leaving)
    · exact absurd on.2 unmarked
    · exact absurd (off.1.symm.trans powered) Bool.false_ne_true
    · exact leaving
  · exact fun leaving => Or.inr (Or.inr leaving)

theorem Asked.not_fits_offline (asked : cpu.Asked) : ¬cpu.Fits .offline := by
  rw [fits_offline_iff_leaving asked.1 asked.status_ne]
  exact asked.not_leaving

theorem fits_restart_iff {phase : BootPhase} (fits : cpu.Fits phase) :
    cpu.Fits .offline ↔ Boot.Allows cpu phase .restart := by
  cases phase with
  | offline => exact iff_of_true fits trivial
  | configuring | found | ready | running | failed =>
      exact iff_of_true (Or.imp_right Or.inl fits) trivial
  | loading | booting => exact iff_of_true (Or.inr (Or.inl fits)) trivial
  | waiting start =>
      rcases fits with asked | ⟨off, -⟩
      · exact iff_of_false asked.not_fits_offline (by simp [Boot.Allows, asked.1])
      · exact iff_of_true (Or.inr (Or.inl off)) off.1
  | answered => exact iff_of_false (Asked.not_fits_offline ⟨fits.1, Or.inr fits.2⟩) id
  | booted => exact fits_offline_iff_leaving fits.1 fits.2

theorem fits_configuring_iff (fits : cpu.Fits .offline) :
    cpu.Fits .configuring ↔ ¬cpu.Leaving := by
  rcases fits with on | off | leaving
  · exact iff_of_true (Or.inl on) on.not_leaving
  · exact iff_of_true (Or.inr off) off.not_leaving
  · refine iff_of_false ?_ (not_not.2 leaving)
    rintro (on | off)
    · exact on.not_leaving leaving
    · exact off.not_leaving leaving

theorem fits_of_off {phase : BootPhase} (off : cpu.Off) (nonzero : cpu.status ≠ 0)
    (unanswered : phase ≠ .answered) (notBooted : phase ≠ .booted) : cpu.Fits phase := by
  cases phase with
  | offline => exact Or.inr (Or.inl off)
  | configuring | found | ready | running | failed => exact Or.inr off
  | waiting start => exact Or.inr ⟨off, nonzero⟩
  | loading | booting => exact off
  | answered => exact absurd rfl unanswered
  | booted => exact absurd rfl notBooted

theorem fits_quit_iff {phase : BootPhase} (fits : cpu.Fits phase) :
    cpu.quit.Fits phase ↔ Boot.Allows cpu phase .quit := by
  unfold quit
  cases phase with
  | answered | booted =>
      rw [if_pos fits.1]
      exact iff_of_false (fun later => Bool.false_ne_true later.1) id
  | offline | configuring | found | waiting | loading | ready | booting | running | failed =>
      refine iff_of_true ?_ trivial
      split
      · exact fits_of_off ⟨rfl, cpuOn_ne_cpuOff.symm⟩ cpuOff_ne_zero (by simp) (by simp)
      · exact fits

theorem fits_obey_iff {phase : BootPhase} (fits : cpu.Fits phase) :
    cpu.obey.Fits phase ↔ Boot.Allows cpu phase .obey := by
  by_cases leaving : cpu.Leaving
  · rw [show cpu.obey = { cpu with powered := false } from if_pos leaving]
    have unmarked : cpu.status ≠ cpuOnFuncid := by
      rw [leaving.2]
      exact cpuOn_ne_cpuOff.symm
    have nonzero : cpu.status ≠ 0 := by
      rw [leaving.2]
      exact cpuOff_ne_zero
    cases phase with
    | answered => exact absurd fits.2 nonzero
    | booted => exact iff_of_false (fun later => Bool.false_ne_true later.1) (not_not.2 leaving)
    | offline | configuring | found | waiting | loading | ready | booting | running | failed =>
        exact iff_of_true (fits_of_off ⟨rfl, unmarked⟩ nonzero (by simp) (by simp)) trivial
  · rw [show cpu.obey = cpu from if_neg leaving]
    refine iff_of_true fits ?_
    cases phase with
    | booted => exact leaving
    | offline | configuring | found | waiting | answered | loading | ready | booting | running
    | failed => trivial

theorem fits_answer {phase : BootPhase} (fits : cpu.Fits phase) : cpu.answer.Fits phase := by
  unfold answer
  split
  case isFalse => exact fits
  case isTrue reset =>
    have asked : cpu.Asked := ⟨reset.1, Or.inl reset.2⟩
    cases phase with
    | waiting start => exact Or.inl ⟨reset.1, Or.inr rfl⟩
    | answered => exact ⟨fits.1, rfl⟩
    | booted => exact ⟨fits.1, zero_ne_cpuOn⟩
    | offline | configuring | found | loading | ready | booting | running | failed =>
        exact absurd ((fits_restart_iff fits).2 trivial) asked.not_fits_offline

end Cpu

namespace Boot

variable {boot : Boot}

theorem consistent_initial : initial.Consistent := Or.inr (Or.inl ⟨rfl, zero_ne_cpuOn⟩)

theorem consistent_giveUp (settled : boot.cpu.On ∨ boot.cpu.Off) (result : HostResult)
    (table : Bool) : (boot.giveUp result table).Consistent := by
  unfold giveUp
  split
  · exact Or.imp_right Or.inl settled
  · exact settled

theorem consistent_load (off : boot.cpu.Off) (result : HostResult) :
    (boot.load result).Consistent := by
  have cleared : (boot.cpu.setStatus 0).Off := ⟨off.1, zero_ne_cpuOn⟩
  unfold load
  split
  · exact Or.inr cleared
  · apply consistent_giveUp
    split
    · exact Or.inr cleared
    · exact Or.inr off

theorem consistent_cpuOn (off : boot.cpu.Off) (result : HostResult) :
    (boot.cpuOn result).Consistent := by
  unfold cpuOn
  split
  · exact ⟨rfl, off.2⟩
  · exact Or.inr off

theorem consistent_read {marked unmarked : BootPhase} (settled : boot.cpu.On ∨ boot.cpu.Off)
    (on : boot.cpu.On → boot.cpu.Fits marked) (off : boot.cpu.Off → boot.cpu.Fits unmarked) :
    (boot.enter (if boot.cpu.status = cpuOnFuncid then marked else unmarked)).Consistent := by
  rcases settled with isOn | isOff
  · rw [if_pos isOn.2]
    exact on isOn
  · rw [if_neg isOff.2]
    exact off isOff

theorem consistent_wait_iff {start : Timespec} (fits : boot.cpu.Fits (.waiting start))
    (waits : boot.phase = .waiting start) (result : HostResult) :
    (boot.hostStep result).Consistent ↔ boot.Considerate (.host result) := by
  have unmarked : boot.cpu.status ≠ cpuOnFuncid := by
    rcases fits with asked | ⟨off, -⟩
    · exact asked.status_ne
    · exact off.2
  simp only [hostStep, Considerate, Allows, waits]
  split
  case isTrue zero =>
    refine iff_of_true ?_ (fun nonzero => absurd zero nonzero)
    rcases fits with asked | ⟨-, nonzero⟩
    · exact ⟨asked.1, zero⟩
    · exact absurd zero nonzero
  case isFalse nonzero =>
    split
    case isTrue late =>
      constructor
      · exact fun off _ _ => off.1
      · exact fun off => ⟨off nonzero late, unmarked⟩
    case isFalse early =>
      refine iff_of_true ?_ (fun _ late => absurd late early)
      rw [Consistent, waits]
      exact fits

theorem consistent_host_iff (consistent : boot.Consistent) (result : HostResult) :
    (boot.hostStep result).Consistent ↔ boot.Considerate (.host result) := by
  rcases boot with ⟨cpu, phase⟩
  have fits : cpu.Fits phase := consistent
  cases phase with
  | configuring =>
      refine iff_of_true ?_ trivial
      simp only [hostStep]
      split
      · exact @consistent_read ⟨cpu, _⟩ _ _ fits Or.inl id
      · exact @consistent_giveUp ⟨cpu, _⟩ fits result false
  | ready => exact iff_of_true (@consistent_read ⟨cpu, _⟩ _ _ fits Or.inl id) trivial
  | found =>
      refine iff_of_true ?_ trivial
      rcases fits with on | off
      · exact Or.inl ⟨on.1, Or.inl rfl⟩
      · exact Or.inr ⟨⟨off.1, systemReset_ne_cpuOn⟩, systemReset_ne_zero⟩
  | waiting start => exact consistent_wait_iff fits rfl result
  | answered =>
      simp only [hostStep]
      cases ok : result.ok with
      | true => exact iff_of_true (Or.inl ⟨fits.1, rfl⟩) ok
      | false =>
          -- micad leaves a CPU behind that has cleared the word
          refine iff_of_false ?_ (by simp [Considerate, Allows, ok])
          simp only [Bool.false_eq_true, if_false, giveUp]
          split
          · exact (Cpu.fits_restart_iff fits).1
          · exact fun settled => (Cpu.fits_restart_iff fits).1 (Or.imp_right Or.inl settled)
  | loading => exact iff_of_true (@consistent_load ⟨cpu, _⟩ fits result) trivial
  | booting => exact iff_of_true (@consistent_cpuOn ⟨cpu, _⟩ fits result) trivial
  | booted => exact iff_of_true (Or.inl ⟨fits.1, rfl⟩) trivial
  | offline | running | failed => exact iff_of_true consistent trivial

theorem consistent_start_iff (consistent : boot.Consistent) :
    boot.start.Consistent ↔ boot.Considerate .start := by
  rcases boot with ⟨cpu, phase⟩
  cases phase with
  | offline => exact Cpu.fits_configuring_iff consistent
  | configuring | found | waiting | answered | loading | ready | booting | booted | running
  | failed => exact iff_of_true consistent trivial

theorem consistent_shutdown (consistent : boot.Consistent) : boot.shutdown.Consistent := by
  rcases boot with ⟨cpu, phase⟩
  have told (settled : cpu.On ∨ cpu.Off) : (cpu.setStatus cpuOffFuncid).Fits .offline := by
    rcases settled with on | off
    · exact Or.inr (Or.inr ⟨on.1, rfl⟩)
    · exact Or.inr (Or.inl ⟨off.1, cpuOn_ne_cpuOff.symm⟩)
  cases phase with
  | running => exact told consistent
  | failed table =>
      cases table with
      | true => exact told consistent
      | false => exact Or.imp_right Or.inl consistent
  | offline | configuring | found | waiting | answered | loading | ready | booting | booted =>
      exact consistent

theorem consistent_step_iff (consistent : boot.Consistent) (event : BootEvent) :
    (boot.step event).Consistent ↔ boot.Considerate event := by
  cases event with
  | start => exact consistent_start_iff consistent
  | host result => exact consistent_host_iff consistent result
  | stop =>
      refine iff_of_true (consistent_shutdown consistent) ?_
      unfold Considerate
      cases boot.phase <;> trivial
  | restart => exact Cpu.fits_restart_iff consistent
  | answer =>
      refine iff_of_true (Cpu.fits_answer consistent) ?_
      unfold Considerate
      cases boot.phase <;> trivial
  | obey => exact Cpu.fits_obey_iff consistent
  | quit => exact Cpu.fits_quit_iff consistent

/-- In every run of commands, kills of micad and moves of the remote, the word tells micad the truth
about the CPU throughout exactly if every event is considerate. -/
theorem consistent_throughout_iff (events : List BootEvent) :
    Run.AllStates step initial Consistent events ↔ Run.AllSteps step initial Considerate events :=
  @Run.allStates_iff_allSteps Boot BootEvent step initial Considerate (fun _ => True) Consistent
    trivial (fun _ _ _ => trivial) consistent_initial
    (fun _ event _ consistent => consistent_step_iff consistent event) events

/-- An image is loaded onto a CPU that is off, and the word tells whether a client that runs is
on. -/
structure Truthful (boot : Boot) : Prop where
  load : boot.phase = .loading → boot.cpu.powered = false
  running : boot.phase = .running → (boot.cpu.powered = true ↔ boot.cpu.status = cpuOnFuncid)

theorem Consistent.truthful (consistent : boot.Consistent) : boot.Truthful := by
  have fits : boot.cpu.Fits boot.phase := consistent
  constructor
  · intro loading
    rw [loading] at fits
    exact fits.1
  · intro running
    rw [running] at fits
    rcases fits with on | off
    · exact iff_of_true on.1 on.2
    · exact iff_of_false (fun on => Bool.false_ne_true (off.1.symm.trans on)) off.2

/-- In every considerate run, also with restarts of micad, no image is loaded over a remote that
is on. -/
theorem truthful_of_considerate (events : List BootEvent)
    (considerate : Run.AllSteps step initial Considerate events) :
    Run.AllStates step initial Truthful events := by
  have consistent := @Run.AllSteps.allStates Boot BootEvent step initial events Considerate
    Consistent considerate consistent_initial
    (fun _ event consistent => (consistent_step_iff consistent event).2)
  exact fun before isPrefix => (consistent before isPrefix).truthful

/-- A call that succeeds at time 0. -/
def succeeds : HostResult := ⟨true, ⟨0, 0⟩, false, false, false⟩

/-- micad boots a CPU, is killed and started again, and finds the remote alive. -/
def adopted : List BootEvent :=
  .start :: List.replicate 5 (.host succeeds) ++
    [.restart, .start, .host succeeds, .host succeeds, .answer] ++
      List.replicate 3 (.host succeeds)

theorem considerate_adopted : Run.AllSteps step initial Considerate adopted := by
  simp only [adopted, List.replicate, List.cons_append, List.nil_append, Run.allSteps_cons]
  refine ⟨?_, trivial, trivial, trivial, trivial, trivial, trivial, ?_, trivial, trivial, trivial,
    ?_, rfl, trivial, Run.allSteps_nil⟩
  · exact fun leaving => Bool.false_ne_true leaving.1
  · exact fun leaving => cpuOn_ne_cpuOff leaving.2
  · exact fun nonzero => absurd rfl nonzero

theorem truthful_adopted :
    (adopted.foldl step initial).phase = .running ∧ Run.AllStates step initial Truthful adopted :=
  ⟨rfl, truthful_of_considerate adopted considerate_adopted⟩

end Boot

end BareMetal

end Mica.Remoteproc

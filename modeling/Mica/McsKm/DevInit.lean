import Mica.McsKm.Mmap
import Mathlib.Data.List.Perm.Basic

/-!
# Loading and unloading the kernel module

`mcs_dev_init` and `mcs_dev_exit` of `mcs_km/mcs_km.c`. What the module asks the
kernel for and gives back is recorded in a log. The regions of the device tree are
requested in a loop that returns at the first failure without giving back what it has
got, and they are released in another loop that takes an address of 0 for the end of
the table.
-/

namespace Mica

namespace McsKm

open Errno

/-- What the module holds of the kernel's. -/
inductive KernelResource where
  | region (mem : McsRprocMem)
  | percpu
  | irq
  | enabledIpi
  | chrdev
  | deviceClass
  | device
deriving DecidableEq

inductive KernelCall where
  | acquire (resource : KernelResource)
  | release (resource : KernelResource)
deriving DecidableEq

/-- A phandle of `memory-region`: the result of `of_address_to_resource`, the range that it finds,
and whether `request_mem_region` grants it. -/
structure RegionResult where
  lookup : ℤ
  start : UInt64
  finish : UInt64
  requested : Bool
deriving DecidableEq

/-- The entry of the table for a region; its size is `resource_size`. -/
def RegionResult.mem (region : RegionResult) : McsRprocMem :=
  ⟨region.start, region.finish - region.start + 1⟩

/-- What `mcs_dev_init` is given: the module parameters and the results of what it calls. An IPI
that is not free has an action; `register_chrdev` returns the major number, and what `class_create`
and `device_create` return is the code of the error pointer, or 0 if it is none. -/
structure InitResults where
  rmemBase : UInt64
  rmemSize : UInt64
  psciMethod : ℤ
  cpuLogicalMap : ℤ
  nodeFound : Bool
  regions : List RegionResult
  ipiFree : Bool
  percpuAllocated : Bool
  irqRequested : ℤ
  major : ℤ
  classError : ℤ
  deviceError : ℤ
deriving DecidableEq

/-- The table at load time. -/
def emptyTable : MemTable := Vector.replicate rprocMemMax ⟨0, 0⟩

namespace InitResults

variable (results : InitResults)

/-- The module has been given its memory by parameters. -/
def hasRmem : Bool := results.rmemBase ≠ 0 ∧ results.rmemSize ≠ 0

end InitResults

/-- The loop of `init_reserved_mem`, with the number `n` of regions requested so far. -/
def requestRegions (mem : MemTable) (n : ℕ) : List RegionResult → ℤ × MemTable × List KernelCall
  | [] => (0, mem, [])
  | region :: rest =>
      if region.lookup ≠ 0 then (region.lookup, mem, [])
      else if n ≥ rprocMemMax then (0, mem, [])
      else if ¬region.requested then (-einval, mem, [])
      else
        let (ret, mem, log) := requestRegions (mem.setIfInBounds n region.mem) (n + 1) rest
        (ret, mem, .acquire (.region region.mem) :: log)

def initReservedMem (results : InitResults) : ℤ × MemTable × List KernelCall :=
  if results.hasRmem then
    (0, emptyTable.setIfInBounds 0 ⟨results.rmemBase, results.rmemSize⟩, [])
  else if ¬results.nodeFound then (-enodev, emptyTable, [])
  else if results.regions.length = 0 then (-enodev, emptyTable, [])
  else requestRegions emptyTable 0 results.regions

def releaseReservedMem (results : InitResults) (mem : MemTable) : List KernelCall :=
  if results.hasRmem then []
  else (reserved mem).map fun region => .release (.region region)

def initMcsIpi (results : InitResults) : ℤ × List KernelCall :=
  if ¬results.ipiFree then (-ebusy, [])
  else if ¬results.percpuAllocated then (-enomem, [])
  else if results.irqRequested ≠ 0 then
    (results.irqRequested, [.acquire .percpu, .release .percpu])
  else (0, [.acquire .percpu, .acquire .irq, .acquire .enabledIpi])

def removeMcsIpi : List KernelCall :=
  [.release .enabledIpi, .release .irq, .release .percpu]

def registerMcsDev (results : InitResults) : ℤ × List KernelCall :=
  if results.major < 0 then (results.major, [])
  else if results.classError ≠ 0 then (results.classError, [.acquire .chrdev, .release .chrdev])
  else if results.deviceError ≠ 0 then
    (results.deviceError,
      [.acquire .chrdev, .acquire .deviceClass, .release .deviceClass, .release .chrdev])
  else (0, [.acquire .chrdev, .acquire .deviceClass, .acquire .device])

def unregisterMcsDev : List KernelCall :=
  [.release .device, .release .deviceClass, .release .chrdev]

/-- `mcs_dev_init`: the value returned, the table and what has been asked for and given back. -/
def mcsDevInit (results : InitResults) : ℤ × MemTable × List KernelCall :=
  if results.psciMethod ≠ 0 then (results.psciMethod, emptyTable, [])
  else if results.cpuLogicalMap ≠ 0 then (results.cpuLogicalMap, emptyTable, [])
  else
    let (ret, mem, regionLog) := initReservedMem results
    if ret ≠ 0 then (ret, mem, regionLog)
    else
      let (ret, ipiLog) := initMcsIpi results
      if ret ≠ 0 then (ret, mem, regionLog ++ ipiLog ++ releaseReservedMem results mem)
      else
        let (ret, devLog) := registerMcsDev results
        if ret ≠ 0 then
          (ret, mem,
            regionLog ++ ipiLog ++ devLog ++ removeMcsIpi ++ releaseReservedMem results mem)
        else (0, mem, regionLog ++ ipiLog ++ devLog)

def mcsDevExit (results : InitResults) (mem : MemTable) : List KernelCall :=
  removeMcsIpi ++ unregisterMcsDev ++ releaseReservedMem results mem

/-- The resources that have been acquired, in order. -/
def acquired (log : List KernelCall) : List KernelResource :=
  log.filterMap fun call =>
    match call with
    | .acquire resource => some resource
    | .release _ => none

/-- The resources that have been released, in order. -/
def released (log : List KernelCall) : List KernelResource :=
  log.filterMap fun call =>
    match call with
    | .acquire _ => none
    | .release resource => some resource

/-- Everything acquired is released, as often as it was acquired, and nothing else is. -/
def Balanced (log : List KernelCall) : Prop := (released log).Perm (acquired log)

instance (log : List KernelCall) : Decidable (Balanced log) :=
  inferInstanceAs (Decidable (List.Perm _ _))

/-- An initialisation that fails gives back all it has got; after one that succeeds, unloading
does. -/
def AllOrNothing (results : InitResults) : Prop :=
  let (ret, mem, log) := mcsDevInit results
  if ret ≠ 0 then Balanced log else Balanced (log ++ mcsDevExit results mem)

/-- The loop gets through: every region is found and granted until there are four and the fifth is
found. -/
def Complete : ℕ → List RegionResult → Prop
  | _, [] => True
  | n, region :: rest =>
      region.lookup = 0 ∧ (n ≥ rprocMemMax ∨ region.requested = true ∧ Complete (n + 1) rest)

/-- The first region is not found or not granted. -/
def FailsAtOnce (regions : List RegionResult) : Prop :=
  ∀ first ∈ regions.head?, first.lookup ≠ 0 ∨ first.requested = false

/-- The loop over the regions fails before it has got one, or gets through without a region at
address 0. -/
def Undoable (regions : List RegionResult) : Prop :=
  FailsAtOnce regions ∨
    Complete 0 regions ∧ ∀ region ∈ regions.take rprocMemMax, region.start ≠ 0

/-- The loop over the regions is run. -/
def ReachesRegions (results : InitResults) : Prop :=
  results.psciMethod = 0 ∧ results.cpuLogicalMap = 0 ∧ results.hasRmem = false ∧
    results.nodeFound = true

/-! ## The table of regions -/

/-- The table with some regions. -/
def tableOf (regions : List McsRprocMem) : MemTable :=
  Vector.ofFn fun i => regions.getD i ⟨0, 0⟩

theorem emptyTable_eq : emptyTable = tableOf [] := by
  apply Vector.ext
  intro i inRange
  simp [emptyTable, tableOf]

theorem setIfInBounds_tableOf (regions : List McsRprocMem) (region : McsRprocMem) :
    (tableOf regions).setIfInBounds regions.length region = tableOf (regions ++ [region]) := by
  apply Vector.ext
  intro i inRange
  simp only [tableOf, Vector.getElem_setIfInBounds, Vector.getElem_ofFn, List.getD_eq_getElem?_getD]
  rcases lt_trichotomy i regions.length with before | here | behind
  · rw [if_neg (by omega), List.getElem?_append_left before]
  · simp [here]
  · rw [if_neg (by omega), List.getElem?_eq_none (by omega), List.getElem?_eq_none (by simp; omega)]

theorem takeWhile_append_replicate {Item : Type} {test : Item → Bool} {last : Item}
    (stops : test last = false) (items : List Item) (count : ℕ) :
    (items ++ List.replicate count last).takeWhile test = items.takeWhile test := by
  induction items with
  | nil =>
      cases count with
      | zero => rfl
      | succ count => simp [List.replicate_succ, stops]
  | cons item items ih => simp [List.takeWhile_cons, ih]

theorem reserved_tableOf {regions : List McsRprocMem} (few : regions.length ≤ rprocMemMax) :
    reserved (tableOf regions) = regions.takeWhile fun region => region.phyAddr ≠ 0 := by
  have entries : (tableOf regions).toList =
      regions ++ List.replicate (rprocMemMax - regions.length) ⟨0, 0⟩ := by
    apply List.ext_getElem
    · simp
      omega
    · intro i inTable inList
      simp only [tableOf, Vector.getElem_toList, Vector.getElem_ofFn, List.getD_eq_getElem?_getD]
      by_cases listed : i < regions.length
      · rw [List.getElem_append_left listed, List.getElem?_eq_getElem listed, Option.getD_some]
      · rw [List.getElem_append_right (not_lt.1 listed), List.getElem_replicate,
          List.getElem?_eq_none (not_lt.1 listed), Option.getD_none]
  rw [reserved, entries]
  exact takeWhile_append_replicate rfl regions _

/-- What the loop does: it adds regions to the table. If it gets through, these are the regions of
the device tree as far as the table goes; otherwise there is none exactly if it fails at once. -/
theorem requestRegions_spec (regions : List RegionResult) (done : List McsRprocMem)
    (few : done.length ≤ rprocMemMax) :
    ∃ new ret, requestRegions (tableOf done) done.length regions =
        (ret, tableOf (done ++ new), new.map fun region => .acquire (.region region)) ∧
      (done ++ new).length ≤ rprocMemMax ∧
      (ret = 0 ∧ Complete done.length regions ∧
          new = (regions.take (rprocMemMax - done.length)).map RegionResult.mem ∨
        ret ≠ 0 ∧ ¬Complete done.length regions ∧ (new = [] ↔ FailsAtOnce regions)) := by
  induction regions generalizing done with
  | nil =>
      exact ⟨[], 0, by simp [requestRegions], by simpa using few, Or.inl ⟨rfl, trivial, by simp⟩⟩
  | cons region rest ih =>
      rw [requestRegions]
      split_ifs with unknown full granted
      · refine ⟨[], region.lookup, by simp, by simpa using few, Or.inr ⟨unknown, ?_, ?_⟩⟩
        · exact fun complete => unknown complete.1
        · simp [FailsAtOnce, unknown]
      · refine ⟨[], 0, by simp, by simpa using few,
          Or.inl ⟨rfl, ⟨not_not.1 unknown, Or.inl full⟩, ?_⟩⟩
        simp [Nat.sub_eq_zero_of_le full]
      · have room : done.length < rprocMemMax := not_le.1 full
        have length : (done ++ [region.mem]).length = done.length + 1 := List.length_append
        rcases ih (done ++ [region.mem]) (length ▸ room) with ⟨new, ret, loop, short, outcome⟩
        rw [length] at loop outcome
        refine ⟨region.mem :: new, ret, ?_, by simpa using short, ?_⟩
        · rw [setIfInBounds_tableOf, loop]
          simp
        · have found := not_not.1 unknown
          have complete :
              Complete done.length (region :: rest) ↔ Complete (done.length + 1) rest := by
            simp [Complete, found, granted, not_le.2 room]
          rw [complete]
          rcases outcome with ⟨success, through, newEq⟩ | ⟨failure, stopped, -⟩
          · refine Or.inl ⟨success, through, ?_⟩
            have count : rprocMemMax - done.length = rprocMemMax - (done.length + 1) + 1 := by omega
            rw [newEq, count, List.take_succ_cons, List.map_cons]
          · exact Or.inr ⟨failure, stopped, by simp [FailsAtOnce, found, granted]⟩
      · refine ⟨[], -einval, by simp, by simpa using few, Or.inr ⟨by decide, ?_, ?_⟩⟩
        · rintro ⟨-, done | ⟨isGranted, -⟩⟩
          · exact full done
          · exact granted isGranted
        · simp [FailsAtOnce, granted]

/-! ## What is given back -/

@[simp]
theorem acquired_append (left right : List KernelCall) :
    acquired (left ++ right) = acquired left ++ acquired right :=
  List.filterMap_append

@[simp]
theorem released_append (left right : List KernelCall) :
    released (left ++ right) = released left ++ released right :=
  List.filterMap_append

@[simp]
theorem acquired_map_acquire (resources : List KernelResource) :
    acquired (resources.map .acquire) = resources := by
  simp [acquired, List.filterMap_map]

@[simp]
theorem released_map_acquire (resources : List KernelResource) :
    released (resources.map .acquire) = [] := by
  simp [released, List.filterMap_map]

@[simp]
theorem acquired_map_release (resources : List KernelResource) :
    acquired (resources.map .release) = [] := by
  simp [acquired, List.filterMap_map]

@[simp]
theorem released_map_release (resources : List KernelResource) :
    released (resources.map .release) = resources := by
  simp [released, List.filterMap_map]

theorem balanced_around {requested given : List KernelResource} {between : List KernelCall}
    (balanced : Balanced between) :
    Balanced (requested.map .acquire ++ between ++ given.map .release) ↔ given.Perm requested := by
  simp only [Balanced, acquired_append, released_append, acquired_map_acquire, released_map_acquire,
    acquired_map_release, released_map_release, List.nil_append, List.append_nil]
  constructor
  · intro same
    apply (List.perm_append_right_iff (released between)).1
    apply List.perm_append_comm.trans
    apply same.trans
    exact balanced.symm.append_left _
  · intro same
    exact List.perm_append_comm.trans (same.append balanced)

theorem balanced_nil : Balanced [] := List.Perm.refl _

theorem perm_takeWhile_iff (regions : List McsRprocMem) :
    ((regions.takeWhile fun region => region.phyAddr ≠ 0).map KernelResource.region).Perm
        (regions.map KernelResource.region) ↔ ∀ region ∈ regions, region.phyAddr ≠ 0 := by
  constructor
  · intro same
    have lengths := same.length_eq
    rw [List.length_map, List.length_map] at lengths
    have whole := (List.takeWhile_prefix _).eq_of_length lengths
    simpa using List.takeWhile_eq_self_iff.1 whole
  · intro nonzero
    rw [List.takeWhile_eq_self_iff.2 (by simpa using nonzero)]

section Init

variable {results : InitResults}

/-- The IPI is set up, or what was done for it is undone. -/
theorem initMcsIpi_cases (results : InitResults) :
    ((initMcsIpi results).1 ≠ 0 ∧ Balanced (initMcsIpi results).2) ∨
      initMcsIpi results = (0, [.percpu, .irq, .enabledIpi].map .acquire) := by
  unfold initMcsIpi
  split_ifs with free allocated denied
  · exact Or.inl ⟨denied, List.Perm.refl _⟩
  · exact Or.inr rfl
  · exact Or.inl ⟨by decide, balanced_nil⟩
  · exact Or.inl ⟨by decide, balanced_nil⟩

/-- The device is registered, or what was done for it is undone. -/
theorem registerMcsDev_cases (results : InitResults) :
    ((registerMcsDev results).1 ≠ 0 ∧ Balanced (registerMcsDev results).2) ∨
      registerMcsDev results = (0, [.chrdev, .deviceClass, .device].map .acquire) := by
  unfold registerMcsDev
  split_ifs with noMajor noClass noDevice
  · exact Or.inl ⟨ne_of_lt noMajor, balanced_nil⟩
  · exact Or.inl ⟨noClass, List.Perm.refl _⟩
  · exact Or.inl ⟨noDevice, List.Perm.swap _ _ _⟩
  · exact Or.inr rfl

theorem allOrNothing_of_regions {mem : MemTable} {requested given : List KernelResource}
    (psci : results.psciMethod = 0) (cpu : results.cpuLogicalMap = 0)
    (regions : initReservedMem results = (0, mem, requested.map .acquire))
    (release : releaseReservedMem results mem = given.map .release) :
    AllOrNothing results ↔ given.Perm requested := by
  have remove : removeMcsIpi = [.enabledIpi, .irq, .percpu].map .release := rfl
  unfold AllOrNothing mcsDevInit mcsDevExit
  simp only [psci, cpu, regions, release, ne_eq, not_true, if_false]
  rcases initMcsIpi_cases results with ⟨ipiFails, ipiBalanced⟩ | ipi
  · simp only [ipiFails, not_false_eq_true, if_true]
    exact balanced_around ipiBalanced
  · simp only [ipi, not_true, if_false]
    rcases registerMcsDev_cases results with ⟨devFails, devBalanced⟩ | dev
    · have between := (balanced_around devBalanced).2 (show
        [KernelResource.enabledIpi, .irq, .percpu].Perm [.percpu, .irq, .enabledIpi] by decide)
      simp only [devFails, not_false_eq_true, if_true, remove]
      simpa only [List.append_assoc] using @balanced_around requested given _ between
    · have between : Balanced ([KernelResource.percpu, .irq, .enabledIpi].map .acquire ++
          [KernelResource.chrdev, .deviceClass, .device].map .acquire ++ removeMcsIpi ++
          unregisterMcsDev) := by decide
      simp only [dev, not_true, if_false, release]
      simpa only [List.append_assoc] using @balanced_around requested given _ between

theorem allOrNothing_of_no_regions {ret : ℤ} {mem : MemTable} {log : List KernelCall}
    (psci : results.psciMethod = 0) (cpu : results.cpuLogicalMap = 0)
    (regions : initReservedMem results = (ret, mem, log)) (failed : ret ≠ 0) :
    AllOrNothing results ↔ Balanced log := by
  unfold AllOrNothing mcsDevInit
  simp only [psci, cpu, regions, failed, ne_eq, not_true, not_false_eq_true, if_false, if_true]

theorem eq_nil_of_failsAtOnce {regions : List RegionResult} (through : Complete 0 regions)
    (atOnce : FailsAtOnce regions) : regions = [] := by
  cases regions with
  | nil => rfl
  | cons first rest =>
      rcases through with ⟨lookup, full | ⟨granted, -⟩⟩
      · exact absurd full (by decide)
      · rcases atOnce first rfl with unknown | denied
        · exact absurd lookup unknown
        · rw [granted] at denied
          cases denied

theorem balanced_requested_iff {regions : List McsRprocMem} :
    Balanced ((regions.map KernelResource.region).map .acquire) ↔ regions = [] := by
  rw [Balanced, released_map_acquire, acquired_map_acquire, List.nil_perm, List.map_eq_nil_iff]

theorem allOrNothing_iff_of_reachesRegions (reaches : ReachesRegions results) :
    AllOrNothing results ↔ Undoable results.regions := by
  rcases reaches with ⟨psci, cpu, noRmem, found⟩
  by_cases none : results.regions.length = 0
  · have init : initReservedMem results = (-enodev, emptyTable, []) := by
      simp only [initReservedMem, noRmem, found, none, Bool.false_eq_true, not_true, if_false,
        if_true]
    rw [allOrNothing_of_no_regions psci cpu init (by decide), List.length_eq_zero_iff.1 none]
    exact iff_of_true balanced_nil (Or.inl fun _ first => nomatch first)
  rcases requestRegions_spec results.regions [] (Nat.zero_le _) with
    ⟨new, ret, loop, few, outcome⟩
  rw [List.nil_append] at loop few
  rw [← emptyTable_eq, List.length_nil] at loop
  have init : initReservedMem results =
      (ret, tableOf new, (new.map KernelResource.region).map .acquire) := by
    simp only [initReservedMem, noRmem, found, none, loop, Bool.false_eq_true, not_true, if_false,
      List.map_map, Function.comp_def]
  rcases outcome with ⟨success, through, newEq⟩ | ⟨failure, stopped, newNil⟩
  · rw [success] at init
    have release : releaseReservedMem results (tableOf new) =
        ((new.takeWhile fun region => region.phyAddr ≠ 0).map KernelResource.region).map
          .release := by
      simp only [releaseReservedMem, noRmem, Bool.false_eq_true, if_false, reserved_tableOf few,
        List.map_map, Function.comp_def]
    rw [allOrNothing_of_regions psci cpu init release, perm_takeWhile_iff, newEq,
      List.forall_mem_map]
    constructor
    · exact fun nonzero => Or.inr ⟨through, nonzero⟩
    · rintro (atOnce | ⟨-, nonzero⟩)
      · rw [eq_nil_of_failsAtOnce through atOnce]
        exact fun region listed => nomatch listed
      · exact nonzero
  · rw [allOrNothing_of_no_regions psci cpu init failure, balanced_requested_iff, newNil]
    constructor
    · exact Or.inl
    · rintro (atOnce | ⟨through, -⟩)
      · exact atOnce
      · exact absurd through stopped

theorem allOrNothing_of_not_reachesRegions (skips : ¬ReachesRegions results) :
    AllOrNothing results := by
  by_cases psci : results.psciMethod = 0
  · by_cases cpu : results.cpuLogicalMap = 0
    · cases rmem : results.hasRmem with
      | true =>
          have init : initReservedMem results = (0, emptyTable.setIfInBounds 0
              ⟨results.rmemBase, results.rmemSize⟩, ([] : List KernelResource).map .acquire) := by
            simp only [initReservedMem, rmem, if_true, List.map_nil]
          refine (allOrNothing_of_regions psci cpu init ?_).2 (List.Perm.refl [])
          simp only [releaseReservedMem, rmem, if_true, List.map_nil]
      | false =>
          have missing : results.nodeFound = false := by
            cases found : results.nodeFound with
            | false => rfl
            | true => exact absurd ⟨psci, cpu, rmem, found⟩ skips
          have init : initReservedMem results = (-enodev, emptyTable, []) := by
            simp [initReservedMem, rmem, missing]
          exact (allOrNothing_of_no_regions psci cpu init (by decide)).2 balanced_nil
    · simp only [AllOrNothing, mcsDevInit, psci, cpu, ne_eq, not_true, not_false_eq_true, if_false,
        if_true]
      exact balanced_nil
  · simp only [AllOrNothing, mcsDevInit, psci, ne_eq, not_false_eq_true, if_true]
    exact balanced_nil

/-- Loading is all or nothing exactly if the loop over the regions, where it is run, fails before it
has got one, or gets through without a region at address 0. -/
theorem allOrNothing_iff_undoable (results : InitResults) :
    AllOrNothing results ↔ (ReachesRegions results → Undoable results.regions) := by
  by_cases reaches : ReachesRegions results
  · rw [allOrNothing_iff_of_reachesRegions reaches]
    exact ⟨fun undoable _ => undoable, fun undoable => undoable reaches⟩
  · exact iff_of_true (allOrNothing_of_not_reachesRegions reaches) fun run => absurd run reaches

/-- A device tree with some regions, on which all else succeeds. -/
def deviceTree (regions : List RegionResult) : InitResults where
  rmemBase := 0
  rmemSize := 0
  psciMethod := 0
  cpuLogicalMap := 0
  nodeFound := true
  regions := regions
  ipiFree := true
  percpuAllocated := true
  irqRequested := 0
  major := 240
  classError := 0
  deviceError := 0

/-- The second of two regions is refused and the first one is kept; of a region at address 0 and
another one nothing is released at unload. -/
theorem not_allOrNothing_secondRefused_and_regionAtZero :
    ¬AllOrNothing (deviceTree
        [⟨0, 0x70000000, 0x7fffffff, true⟩, ⟨0, 0x80000000, 0x8fffffff, false⟩]) ∧
      ¬AllOrNothing (deviceTree [⟨0, 0, 0xfffff, true⟩, ⟨0, 0x70000000, 0x7fffffff, true⟩]) := by
  refine ⟨?_, ?_⟩ <;> simp only [AllOrNothing] <;> decide

end Init

end McsKm

end Mica

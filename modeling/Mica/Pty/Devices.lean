import Mica.Lib.Run
import Mathlib.Data.Finset.Basic
import Mathlib.Data.Fintype.EquivFin
import Mathlib.Data.List.FinRange

/-!
# The terminal devices

`rpmsg_tty_init`, `create_tty_device` and `rpmsg_tty_unbind` of
`services/pty/rpmsg_pty.c`. A terminal takes an index of the table `tty_id`, the two
descriptors of a pseudo terminal, an endpoint and a thread; not every path that gives
up on the way gives all of it back. If the slave cannot be opened, the variable `ret`
still holds the success of `symlink`, and the service goes on without a device.

A descriptor that is opened gets the lowest number that is not open.
-/

namespace Mica.Pty

def rpmsgTtyMaxDev : ℕ := 10

abbrev TtyIndex := Fin rpmsgTtyMaxDev

/-- `struct rpmsg_tty_service` -/
structure TtyService where
  ptyMasterFd : ℤ
  ptySlaveFd : ℤ
  ttyIndex : TtyIndex
deriving DecidableEq

/-- The table `tty_id`, the open descriptors of the process, and the services that have an endpoint
and a thread. -/
structure Ttys where
  ttyId : TtyIndex → ℤ
  files : Finset ℤ
  live : List TtyService

namespace Ttys

/-- No terminal, and the descriptors that micad has open for other purposes. -/
def initial (files : Finset ℤ) : Ttys := ⟨fun _ => -1, files, []⟩

theorem exists_unused (files : Finset ℤ) : ∃ number : ℕ, (number : ℤ) ∉ files := by
  rcases Infinite.exists_notMem_finset (files.image Int.toNat) with ⟨number, unused⟩
  refine ⟨number, ?_⟩
  intro used
  exact unused (Finset.mem_image.2 ⟨number, used, Int.toNat_natCast number⟩)

def newDescriptor (ttys : Ttys) : ℤ := Nat.find (exists_unused ttys.files)

def openFile (ttys : Ttys) (fd : ℤ) : Ttys := { ttys with files := insert fd ttys.files }

def closeFile (ttys : Ttys) (fd : ℤ) : Ttys := { ttys with files := ttys.files.erase fd }

/-- `tty_id[index] = value` -/
def mark (ttys : Ttys) (index : TtyIndex) (value : ℤ) : Ttys :=
  { ttys with ttyId := Function.update ttys.ttyId index value }

/-- The index that `rpmsg_tty_new_index` finds; `none` is -1. Its caller here also marks it. -/
def rpmsgTtyNewIndex (ttys : Ttys) : Option TtyIndex :=
  (List.finRange rpmsgTtyMaxDev).find? fun i => ttys.ttyId i = -1

end Ttys

/-- What the calls of `rpmsg_tty_init` deliver, and what the block of the service holds when
`malloc` returns it. -/
structure TtyResults where
  malloc : Bool
  stale : TtyService
  posixOpenpt : Bool
  grantpt : ℤ
  unlockpt : ℤ
  ptsname : ℤ
  symlink : ℤ
  openSlave : Bool
  createEpt : ℤ
  pthreadCreate : ℤ
  pthreadDetach : ℤ

def createTtyDevice (results : TtyResults) (ttys : Ttys) : ℤ × TtyService × Ttys :=
  match ttys.rpmsgTtyNewIndex with
  | none => (-1, results.stale, ttys)
  | some index =>
      let ttys := ttys.mark index 1
      let svc := { results.stale with ttyIndex := index }
      if results.posixOpenpt = false then (-1, svc, ttys)
      else
        let masterFd := ttys.newDescriptor
        let ttys := ttys.openFile masterFd
        let err (ret : ℤ) := (ret, svc, (ttys.closeFile masterFd).mark index (-1))
        if results.grantpt ≠ 0 then err results.grantpt
        else if results.unlockpt ≠ 0 then err results.unlockpt
        else if results.ptsname ≠ 0 then err results.ptsname
        else if results.symlink ≠ 0 then err results.symlink
        else if results.openSlave = false then err results.symlink
        else
          let slaveFd := ttys.newDescriptor
          (results.symlink, { svc with ptyMasterFd := masterFd, ptySlaveFd := slaveFd },
            ttys.openFile slaveFd)

/-- `rpmsg_tty_init`, and whether it has started the service. The labels behind the endpoint take
the service out of the list again. -/
def rpmsgTtyInit (results : TtyResults) (ttys : Ttys) : Bool × Ttys :=
  if results.malloc = false then (false, ttys)
  else
    let (ret, svc, ttys) := createTtyDevice results ttys
    if ret ≠ 0 then (false, ttys)
    else if results.createEpt ≠ 0 then (false, ttys)
    else if results.pthreadCreate ≠ 0 then (false, ttys)
    else if results.pthreadDetach ≠ 0 then (false, ttys)
    else (true, { ttys with live := ttys.live ++ [svc] })

/-- `rpmsg_tty_unbind` for the service at a position of the list. -/
def rpmsgTtyUnbind (position : ℕ) (ttys : Ttys) : Ttys :=
  match ttys.live[position]? with
  | none => ttys
  | some svc =>
      let ttys := { ttys with live := ttys.live.eraseIdx position }
      ((ttys.mark svc.ttyIndex (-1)).closeFile svc.ptyMasterFd).closeFile svc.ptySlaveFd

inductive Event where
  | init (results : TtyResults)
  | unbind (position : ℕ)

def step (ttys : Ttys) : Event → Ttys
  | .init results => (rpmsgTtyInit results ttys).2
  | .unbind position => rpmsgTtyUnbind position ttys

/-- The table has the indices of the services, each for one of them, and their descriptors are
open. -/
structure Consistent (ttys : Ttys) : Prop where
  taken : ∀ index, ttys.ttyId index ≠ -1 ↔ ∃ svc ∈ ttys.live, svc.ttyIndex = index
  distinct : (ttys.live.map TtyService.ttyIndex).Nodup
  opened : ∀ svc ∈ ttys.live, svc.ptyMasterFd ∈ ttys.files ∧ svc.ptySlaveFd ∈ ttys.files

/-- The call leaves the table consistent, and a service that is not started leaves nothing
behind. -/
structure Correct (ttys : Ttys) (event : Event) : Prop where
  consistent : Consistent (step ttys event)
  undone : ∀ results, event = .init results → (rpmsgTtyInit results ttys).1 = false →
    (step ttys event).ttyId = ttys.ttyId ∧ (step ttys event).files = ttys.files

/-- The pseudo terminal cannot be used, and `create_tty_device` reports it. -/
def TtyResults.DeviceRefused (results : TtyResults) : Prop :=
  results.grantpt ≠ 0 ∨ results.unlockpt ≠ 0 ∨ results.ptsname ≠ 0 ∨ results.symlink ≠ 0

/-- There is an endpoint and a thread. -/
def TtyResults.Served (results : TtyResults) : Prop :=
  results.createEpt = 0 ∧ results.pthreadCreate = 0 ∧ results.pthreadDetach = 0

/-- There is no memory or no index, or a pseudo terminal of which either nothing is left or which is
opened on both sides and served. -/
def TtyResults.Tidy (results : TtyResults) (ttys : Ttys) : Prop :=
  results.malloc = false ∨ ttys.rpmsgTtyNewIndex = none ∨
    results.posixOpenpt = true ∧
      (results.DeviceRefused ∨ (results.openSlave = true ↔ results.Served))

def Event.Tidy (ttys : Ttys) : Event → Prop
  | .init results => results.Tidy ttys
  | .unbind _ => True

namespace Ttys

variable {ttys : Ttys} {index : TtyIndex} {fd : ℤ}

theorem newDescriptor_notMem (ttys : Ttys) : ttys.newDescriptor ∉ ttys.files :=
  Nat.find_spec (exists_unused ttys.files)

theorem free_of_newIndex (found : ttys.rpmsgTtyNewIndex = some index) : ttys.ttyId index = -1 := by
  have holds := List.find?_some found
  exact decide_eq_true_iff.1 holds

theorem undo_mark_openFile (free : ttys.ttyId index = -1) (unused : fd ∉ ttys.files) :
    ((((ttys.mark index 1).openFile fd).closeFile fd).mark index (-1)) = ttys := by
  simp only [mark, openFile, closeFile, Function.update_idem, Finset.erase_insert unused]
  rw [← free, Function.update_eq_self]

end Ttys

/-! ## What the calls do -/

section Cases

variable {results : TtyResults} {ttys : Ttys} {index : TtyIndex}

/-- The state with one more terminal. -/
def Ttys.started (ttys : Ttys) (svc : TtyService) : Ttys where
  ttyId := Function.update ttys.ttyId svc.ttyIndex 1
  files := insert svc.ptySlaveFd (insert svc.ptyMasterFd ttys.files)
  live := ttys.live ++ [svc]

/-- All that `create_tty_device` can do once it has an index. -/
inductive DeviceCase (results : TtyResults) (ttys : Ttys) (index : TtyIndex) :
    ℤ × TtyService × Ttys → Prop
  | noPty (none : results.posixOpenpt = false) (svc : TtyService) :
      DeviceCase results ttys index (-1, svc, ttys.mark index 1)
  | refused (pty : results.posixOpenpt = true) (refused : results.DeviceRefused) {ret : ℤ}
      (reported : ret ≠ 0) (svc : TtyService) : DeviceCase results ttys index (ret, svc, ttys)
  | noSlave (pty : results.posixOpenpt = true) (usable : ¬results.DeviceRefused)
      (closed : results.openSlave = false) :
      DeviceCase results ttys index (0, { results.stale with ttyIndex := index }, ttys)
  | created (pty : results.posixOpenpt = true) (usable : ¬results.DeviceRefused)
      (opened : results.openSlave = true) {master slave : ℤ} (masterNew : master ∉ ttys.files)
      (slaveNew : slave ∉ insert master ttys.files) :
      DeviceCase results ttys index (0, ⟨master, slave, index⟩,
        { ttys.started ⟨master, slave, index⟩ with live := ttys.live })

theorem createTtyDevice_of_none (none : ttys.rpmsgTtyNewIndex = none) :
    createTtyDevice results ttys = (-1, results.stale, ttys) := by
  rw [createTtyDevice, none]

theorem createTtyDevice_cases (found : ttys.rpmsgTtyNewIndex = some index) :
    DeviceCase results ttys index (createTtyDevice results ttys) := by
  have free := Ttys.free_of_newIndex found
  have masterNew := (ttys.mark index 1).newDescriptor_notMem
  have slaveNew :=
    ((ttys.mark index 1).openFile (ttys.mark index 1).newDescriptor).newDescriptor_notMem
  simp only [createTtyDevice, found, Ttys.undo_mark_openFile free masterNew]
  split_ifs with noPty grant unlock name link closed
  · exact .noPty noPty _
  · exact .refused (eq_true_of_ne_false noPty) (Or.inl grant) grant _
  · exact .refused (eq_true_of_ne_false noPty) (Or.inr (Or.inl unlock)) unlock _
  · exact .refused (eq_true_of_ne_false noPty) (Or.inr (Or.inr (Or.inl name))) name _
  · exact .refused (eq_true_of_ne_false noPty) (Or.inr (Or.inr (Or.inr link))) link _
  · have usable : ¬results.DeviceRefused := by
      simp_all [TtyResults.DeviceRefused]
    rw [not_not.1 link]
    exact .noSlave (eq_true_of_ne_false noPty) usable closed
  · have usable : ¬results.DeviceRefused := by
      simp_all [TtyResults.DeviceRefused]
    rw [not_not.1 link]
    exact .created (eq_true_of_ne_false noPty) usable (eq_true_of_ne_false closed) masterNew
      slaveNew

/-- All that `rpmsg_tty_init` can do. -/
inductive InitCase (results : TtyResults) (ttys : Ttys) : Bool × Ttys → Prop
  | unchanged (tidy : results.Tidy ttys) : InitCase results ttys (false, ttys)
  | leaked (untidy : ¬results.Tidy ttys) {index : TtyIndex} (free : ttys.ttyId index = -1)
      {after : Ttys} (marked : after.ttyId index = 1) : InitCase results ttys (false, after)
  | started (tidy : results.Tidy ttys) {svc : TtyService} (free : ttys.ttyId svc.ttyIndex = -1)
      (masterNew : svc.ptyMasterFd ∉ ttys.files)
      (slaveNew : svc.ptySlaveFd ∉ insert svc.ptyMasterFd ttys.files) :
      InitCase results ttys (true, ttys.started svc)
  | bare (untidy : ¬results.Tidy ttys) {svc : TtyService} (free : ttys.ttyId svc.ttyIndex = -1) :
      InitCase results ttys (true, { ttys with live := ttys.live ++ [svc] })

theorem rpmsgTtyInit_of_device (allocated : results.malloc = true) {svc : TtyService}
    {after : Ttys} (device : createTtyDevice results ttys = (0, svc, after)) :
    results.Served ∧
        rpmsgTtyInit results ttys = (true, { after with live := after.live ++ [svc] }) ∨
      ¬results.Served ∧ rpmsgTtyInit results ttys = (false, after) := by
  simp only [rpmsgTtyInit, allocated, device, TtyResults.Served]
  by_cases ept : results.createEpt = 0
  · by_cases thread : results.pthreadCreate = 0
    · by_cases detached : results.pthreadDetach = 0
      · simp [ept, thread, detached]
      · simp [ept, thread, detached]
    · simp [ept, thread]
  · simp [ept]

theorem rpmsgTtyInit_cases (results : TtyResults) (ttys : Ttys) :
    InitCase results ttys (rpmsgTtyInit results ttys) := by
  by_cases noMemory : results.malloc = false
  · rw [rpmsgTtyInit, if_pos noMemory]
    exact .unchanged (Or.inl noMemory)
  have allocated := eq_true_of_ne_false noMemory
  cases found : ttys.rpmsgTtyNewIndex with
  | none =>
      simp only [rpmsgTtyInit, createTtyDevice_of_none found, if_neg noMemory]
      exact .unchanged (Or.inr (Or.inl found))
  | some index =>
      have free := Ttys.free_of_newIndex found
      -- memory and index are there, so the rest of the condition decides
      have tidy_iff : results.Tidy ttys ↔ results.posixOpenpt = true ∧
          (results.DeviceRefused ∨ (results.openSlave = true ↔ results.Served)) := by
        simp [TtyResults.Tidy, allocated, found]
      generalize device : createTtyDevice results ttys = outcome
      have cases := @createTtyDevice_cases results ttys index found
      rw [device] at cases
      cases cases with
      | noPty none svc =>
          have untidy : ¬results.Tidy ttys := by simp [tidy_iff, none]
          have failed : rpmsgTtyInit results ttys = (false, ttys.mark index 1) := by
            simp [rpmsgTtyInit, allocated, device]
          rw [failed]
          exact .leaked untidy free (Function.update_self _ _ _)
      | refused pty refused reported svc =>
          have failed : rpmsgTtyInit results ttys = (false, ttys) := by
            simp [rpmsgTtyInit, allocated, device, reported]
          rw [failed]
          exact .unchanged (tidy_iff.2 ⟨pty, Or.inl refused⟩)
      | noSlave pty usable closed =>
          have tidy_iff' : results.Tidy ttys ↔ ¬results.Served := by
            simp [tidy_iff, pty, usable, closed]
          rcases rpmsgTtyInit_of_device allocated device with ⟨served, eq⟩ | ⟨unserved, eq⟩
          · rw [eq]
            exact .bare (fun tidy => tidy_iff'.1 tidy served) free
          · rw [eq]
            exact .unchanged (tidy_iff'.2 unserved)
      | created pty usable opened masterNew slaveNew =>
          have tidy_iff' : results.Tidy ttys ↔ results.Served := by
            simp [tidy_iff, pty, usable, opened]
          rcases rpmsgTtyInit_of_device allocated device with ⟨served, eq⟩ | ⟨unserved, eq⟩
          · rw [eq]
            exact .started (tidy_iff'.2 served) free masterNew slaveNew
          · rw [eq]
            exact .leaked (mt tidy_iff'.1 unserved) free (Function.update_self _ _ _)

/-- Every call succeeds. -/
def smooth : TtyResults where
  malloc := true
  stale := ⟨0, 0, 0, by decide⟩
  posixOpenpt := true
  grantpt := 0
  unlockpt := 0
  ptsname := 0
  symlink := 0
  openSlave := true
  createEpt := 0
  pthreadCreate := 0
  pthreadDetach := 0

/-- How many indices are not taken. -/
def Ttys.free (ttys : Ttys) : ℕ :=
  (Finset.univ.filter fun index : TtyIndex => ttys.ttyId index = -1).card

theorem Ttys.free_initial (files : Finset ℤ) : (Ttys.initial files).free = rpmsgTtyMaxDev := by
  simp [free, initial]

theorem Ttys.newIndex_eq_none_iff : ttys.rpmsgTtyNewIndex = none ↔ ttys.free = 0 := by
  simp [rpmsgTtyNewIndex, free, Finset.filter_eq_empty_iff]

theorem rpmsgTtyInit_smooth (ttys : Ttys) :
    (rpmsgTtyInit smooth ttys).1 = decide (0 < ttys.free) ∧
      (rpmsgTtyInit smooth ttys).2.free = ttys.free - 1 := by
  cases found : ttys.rpmsgTtyNewIndex with
  | none =>
      have full := Ttys.newIndex_eq_none_iff.1 found
      have refused : rpmsgTtyInit smooth ttys = (false, ttys) := by
        simp [rpmsgTtyInit, smooth, createTtyDevice_of_none found]
      simp [refused, full]
  | some index =>
      have free := Ttys.free_of_newIndex found
      have some : 0 < ttys.free := by
        rw [Nat.pos_iff_ne_zero, Ne, ← Ttys.newIndex_eq_none_iff, found]
        simp
      generalize device : createTtyDevice smooth ttys = outcome
      have cases := @createTtyDevice_cases smooth ttys index found
      rw [device] at cases
      cases cases with
      | noPty none => cases none
      | refused _ refused => simp [TtyResults.DeviceRefused, smooth] at refused
      | noSlave _ _ closed => cases closed
      | created =>
          rcases rpmsgTtyInit_of_device rfl device with ⟨-, started⟩ | ⟨unserved, -⟩
          · have left : (Finset.univ.filter fun other : TtyIndex =>
                Function.update ttys.ttyId index 1 other = -1) =
                (Finset.univ.filter fun other : TtyIndex => ttys.ttyId other = -1).erase index := by
              ext other
              rcases eq_or_ne other index with rfl | differs
              · simp
              · simp [differs]
            rw [started]
            refine ⟨(decide_eq_true some).symm, ?_⟩
            change (Finset.univ.filter fun other : TtyIndex =>
              Function.update ttys.ttyId index 1 other = -1).card = _
            rw [left, Finset.card_erase_of_mem (by simpa using free), Ttys.free]
          · simp [TtyResults.Served, smooth] at unserved

/-- All that `rpmsg_tty_unbind` can do: there is no such service, or it is taken out. -/
theorem rpmsgTtyUnbind_cases (position : ℕ) (ttys : Ttys) :
    rpmsgTtyUnbind position ttys = ttys ∨
      ∃ svc rest, (svc :: rest).Perm ttys.live ∧
        rpmsgTtyUnbind position ttys =
          ⟨Function.update ttys.ttyId svc.ttyIndex (-1),
            (ttys.files.erase svc.ptyMasterFd).erase svc.ptySlaveFd, rest⟩ := by
  rw [rpmsgTtyUnbind]
  cases found : ttys.live[position]? with
  | none => exact Or.inl rfl
  | some svc =>
      rcases List.getElem?_eq_some_iff.1 found with ⟨inside, rfl⟩
      exact Or.inr ⟨_, _, List.getElem_cons_eraseIdx_perm inside, rfl⟩

end Cases

/-! ## The invariant -/

/-- The two descriptors of a terminal. -/
def TtyService.descriptors (svc : TtyService) : List ℤ := [svc.ptyMasterFd, svc.ptySlaveFd]

/-- The table is consistent, and no two services share a descriptor. -/
structure Sound (ttys : Ttys) : Prop extends Consistent ttys where
  apart : (ttys.live.flatMap TtyService.descriptors).Nodup

namespace Sound

variable {ttys : Ttys}

theorem initial (files : Finset ℤ) : Sound (Ttys.initial files) where
  taken := by simp [Ttys.initial]
  distinct := List.nodup_nil
  opened := by simp [Ttys.initial]
  apart := List.nodup_nil

theorem mem_files (sound : Sound ttys) {fd : ℤ}
    (listed : fd ∈ ttys.live.flatMap TtyService.descriptors) : fd ∈ ttys.files := by
  rcases List.mem_flatMap.1 listed with ⟨svc, live, isDescriptor⟩
  rcases List.mem_pair.1 isDescriptor with rfl | rfl
  · exact (sound.opened svc live).1
  · exact (sound.opened svc live).2

theorem started (sound : Sound ttys) {svc : TtyService} (free : ttys.ttyId svc.ttyIndex = -1)
    (masterNew : svc.ptyMasterFd ∉ ttys.files)
    (slaveNew : svc.ptySlaveFd ∉ insert svc.ptyMasterFd ttys.files) : Sound (ttys.started svc) := by
  rw [Finset.mem_insert, not_or] at slaveNew
  refine ⟨⟨?_, ?_, ?_⟩, ?_⟩
  · intro index
    by_cases own : index = svc.ttyIndex
    · subst own
      simp [Ttys.started]
    · simp only [Ttys.started, Function.update_of_ne own, sound.taken index, List.mem_append,
        List.mem_singleton, or_and_right, exists_or, exists_eq_left]
      exact ⟨Or.inl, fun taken => taken.resolve_right (Ne.symm own)⟩
  · have unused : svc.ttyIndex ∉ ttys.live.map TtyService.ttyIndex := by
      intro listed
      rcases List.mem_map.1 listed with ⟨other, live, same⟩
      exact (sound.taken svc.ttyIndex).2 ⟨other, live, same⟩ free
    rw [Ttys.started, List.map_append, List.map_singleton, ← List.concat_eq_append]
    exact sound.distinct.concat unused
  · intro other listed
    simp only [Ttys.started, Finset.mem_insert]
    rcases List.mem_append.1 listed with old | new
    · have opened := sound.opened other old
      exact ⟨Or.inr (Or.inr opened.1), Or.inr (Or.inr opened.2)⟩
    · rw [List.mem_singleton.1 new]
      exact ⟨Or.inr (Or.inl rfl), Or.inl rfl⟩
  · simp only [Ttys.started, List.flatMap_append, List.flatMap_singleton]
    refine List.nodup_append.2 ⟨sound.apart, ?_, ?_⟩
    · simpa [TtyService.descriptors] using Ne.symm slaveNew.1
    · intro fd old other new same
      subst same
      rcases List.mem_pair.1 new with rfl | rfl
      · exact masterNew (sound.mem_files old)
      · exact slaveNew.2 (sound.mem_files old)

theorem not_consistent_bare {svc : TtyService} (free : ttys.ttyId svc.ttyIndex = -1) :
    ¬Consistent { ttys with live := ttys.live ++ [svc] } := by
  intro consistent
  have taken := (consistent.taken svc.ttyIndex).2
    ⟨svc, List.mem_append_right _ (List.mem_singleton_self svc), rfl⟩
  exact taken free

theorem unbind (sound : Sound ttys) (position : ℕ) : Sound (rpmsgTtyUnbind position ttys) := by
  rcases rpmsgTtyUnbind_cases position ttys with same | ⟨svc, rest, perm, eq⟩
  · rw [same]
    exact sound
  have distinct := (perm.map TtyService.ttyIndex).nodup_iff.2 sound.distinct
  have apart := (perm.flatMap_right TtyService.descriptors).nodup_iff.2 sound.apart
  rw [List.map_cons, List.nodup_cons] at distinct
  rw [List.flatMap_cons, List.nodup_append] at apart
  rw [eq]
  refine ⟨⟨?_, distinct.2, ?_⟩, apart.2.1⟩
  · intro index
    by_cases own : index = svc.ttyIndex
    · subst own
      simp only [Function.update_self, ne_eq, not_true, false_iff]
      rintro ⟨other, listed, same⟩
      exact distinct.1 (List.mem_map.2 ⟨other, listed, same⟩)
    · simp only [Function.update_of_ne own, sound.taken index]
      constructor
      · rintro ⟨other, listed, same⟩
        rcases List.mem_cons.1 (perm.mem_iff.2 listed) with rfl | kept
        · exact absurd same.symm own
        · exact ⟨other, kept, same⟩
      · rintro ⟨other, kept, same⟩
        exact ⟨other, perm.mem_iff.1 (List.mem_cons_of_mem _ kept), same⟩
  · intro other kept
    have opened := sound.opened other (perm.mem_iff.1 (List.mem_cons_of_mem _ kept))
    -- no descriptor of a service that is kept is one of those that are closed
    have stays : ∀ fd ∈ other.descriptors, fd ∈ ttys.files →
        fd ∈ (ttys.files.erase svc.ptyMasterFd).erase svc.ptySlaveFd := by
      intro fd isDescriptor isOpen
      have others : fd ∈ rest.flatMap TtyService.descriptors :=
        List.mem_flatMap.2 ⟨other, kept, isDescriptor⟩
      refine Finset.mem_erase.2 ⟨?_, Finset.mem_erase.2 ⟨?_, isOpen⟩⟩
      · exact Ne.symm (apart.2.2 _ (List.mem_pair.2 (Or.inr rfl)) _ others)
      · exact Ne.symm (apart.2.2 _ (List.mem_pair.2 (Or.inl rfl)) _ others)
    exact ⟨stays _ (List.mem_pair.2 (Or.inl rfl)) opened.1,
      stays _ (List.mem_pair.2 (Or.inr rfl)) opened.2⟩

theorem correct_iff (sound : Sound ttys) (event : Event) :
    Correct ttys event ↔ event.Tidy ttys := by
  cases event with
  | unbind position =>
      refine iff_of_true ⟨(sound.unbind position).toConsistent, ?_⟩ trivial
      intro results isInit
      cases isInit
  | init results =>
      have cases := rpmsgTtyInit_cases results ttys
      generalize outcome : rpmsgTtyInit results ttys = pair at cases
      cases cases with
      | unchanged tidy =>
          refine iff_of_true ⟨?_, ?_⟩ tidy
          · rw [step, outcome]
            exact sound.toConsistent
          · intro _ _ _
            rw [step, outcome]
            exact ⟨rfl, rfl⟩
      | leaked untidy free marked =>
          refine iff_of_false ?_ untidy
          intro correct
          have undone := (correct.undone results rfl (by rw [outcome])).1
          rw [step, outcome] at undone
          rw [undone, free] at marked
          exact absurd marked (by decide)
      | started tidy free masterNew slaveNew =>
          refine iff_of_true ⟨?_, ?_⟩ tidy
          · rw [step, outcome]
            exact (sound.started free masterNew slaveNew).toConsistent
          · rintro _ ⟨⟩ failed
            rw [outcome] at failed
            cases failed
      | bare untidy free =>
          refine iff_of_false ?_ untidy
          intro correct
          have consistent := correct.consistent
          rw [step, outcome] at consistent
          exact not_consistent_bare free consistent

theorem step (sound : Sound ttys) {event : Event} (tidy : event.Tidy ttys) :
    Sound (Pty.step ttys event) := by
  cases event with
  | unbind position => exact sound.unbind position
  | init results =>
      have cases := rpmsgTtyInit_cases results ttys
      rw [Pty.step]
      generalize rpmsgTtyInit results ttys = pair at cases
      cases cases with
      | unchanged => exact sound
      | leaked untidy => exact absurd tidy untidy
      | started _ free masterNew slaveNew => exact sound.started free masterNew slaveNew
      | bare untidy => exact absurd tidy untidy

end Sound

/-- From the start on, all calls are correct exactly if every call of `rpmsg_tty_init` is tidy. -/
theorem allCorrect_iff_tidy (files : Finset ℤ) (events : List Event) :
    Run.AllSteps step (Ttys.initial files) Correct events ↔
      Run.AllSteps step (Ttys.initial files) Event.Tidy events := by
  apply Run.allSteps_iff_allSteps (Sound.initial files)
  · intro ttys event sound tidy
    exact sound.step tidy
  · intro ttys event sound
    exact sound.correct_iff event

theorem not_correct_first {files : Finset ℤ} {results : TtyResults}
    (allocated : results.malloc = true)
    (untidy : ¬(results.posixOpenpt = true ∧
      (results.DeviceRefused ∨ (results.openSlave = true ↔ results.Served)))) :
    ¬Run.AllSteps step (Ttys.initial files) Correct [.init results] := by
  intro steps
  have correct := (Run.allSteps_cons.1 steps).1
  rcases ((Sound.initial files).correct_iff _).1 correct with none | none | tidy
  · rw [allocated] at none
    cases none
  · cases none
  · exact untidy tidy

/-- Each of four failures is enough: of `posix_openpt`, of `open` for the slave, of the endpoint and
of the thread. -/
theorem not_allCorrect_failures :
    ¬Run.AllSteps step (Ttys.initial {0, 1, 2}) Correct
        [.init { smooth with posixOpenpt := false }] ∧
      ¬Run.AllSteps step (Ttys.initial {0, 1, 2}) Correct
        [.init { smooth with openSlave := false }] ∧
      ¬Run.AllSteps step (Ttys.initial {0, 1, 2}) Correct
        [.init { smooth with createEpt := -1 }] ∧
      ¬Run.AllSteps step (Ttys.initial {0, 1, 2}) Correct
        [.init { smooth with pthreadCreate := 11 }] := by
  refine ⟨?_, ?_, ?_, ?_⟩
  · exact not_correct_first rfl (by simp)
  · exact not_correct_first rfl (by simp [smooth, TtyResults.DeviceRefused, TtyResults.Served])
  · exact not_correct_first rfl (by simp [smooth, TtyResults.DeviceRefused, TtyResults.Served])
  · exact not_correct_first rfl (by simp [smooth, TtyResults.DeviceRefused, TtyResults.Served])

end Mica.Pty

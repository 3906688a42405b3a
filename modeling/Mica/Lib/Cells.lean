import Mica.Lib.LittleEndian
import Mica.Lib.Printf
import Mathlib.Data.List.TakeWhile
import Mathlib.Logic.Function.Basic

/-!
# Memory with uninitialised cells

Memory is a function of addresses, an address being an offset in one of several
regions. The same operations work on memory that holds bytes and on memory whose
cells are either known or still hold whatever they held in the beginning: a
`Cell`. `fill` supplies the initial contents and commutes with every operation,
so that a run on cells stands for the runs on all initial contents at once.
-/

namespace Cells

structure Address (Region : Type*) where
  region : Region
  off : ℕ
deriving DecidableEq

/-- A field or an array: `size` bytes at an offset. -/
structure Extent (Region : Type*) where
  region : Region
  off : ℕ
  size : ℕ
deriving DecidableEq

def Extent.at {Region : Type*} (extent : Extent Region) (i : ℕ) : Address Region :=
  ⟨extent.region, extent.off + i⟩

section Load

variable {Region Byte : Type*}

def load (memory : Address Region → Byte) (extent : Extent Region) (count : ℕ) : List Byte :=
  (List.range count).map fun i => memory (extent.at i)

@[simp]
theorem length_load (memory : Address Region → Byte) (extent : Extent Region) (count : ℕ) :
    (load memory extent count).length = count := by
  simp [load]

theorem getElem?_load {memory : Address Region → Byte} {extent : Extent Region} {count i : ℕ}
    (bound : i < count) : (load memory extent count)[i]? = some (memory (extent.at i)) := by
  simp [load, bound]

theorem load_congr {memory memory' : Address Region → Byte} {extent : Extent Region} {count : ℕ}
    (same : ∀ i < count, memory (extent.at i) = memory' (extent.at i)) :
    load memory extent count = load memory' extent count := by
  apply List.map_congr_left
  intro i member
  exact same i (List.mem_range.1 member)

theorem load_add (memory : Address Region → Byte) (extent : Extent Region) (front back : ℕ) :
    load memory extent (front + back) =
      load memory extent front ++ (List.range back).map fun i =>
        memory (extent.at (front + i)) := by
  simp [load, List.range_add]

theorem take_load (memory : Address Region → Byte) (extent : Extent Region) {short count : ℕ}
    (le : short ≤ count) : (load memory extent count).take short = load memory extent short := by
  rw [load, load, ← List.map_take, List.take_range, Nat.min_eq_left le]

end Load

section Overwrite

variable {Region Byte : Type*} [DecidableEq Region] {memory : Address Region → Byte}
  {extent : Extent Region} {data : List Byte} {address : Address Region}

def overwrite (memory : Address Region → Byte) (extent : Extent Region) (data : List Byte) :
    Address Region → Byte :=
  fun address =>
    if address.region = extent.region ∧ extent.off ≤ address.off then
      (data[address.off - extent.off]?).getD (memory address)
    else memory address

theorem overwrite_of_region_ne (ne : address.region ≠ extent.region) :
    overwrite memory extent data address = memory address := by
  simp [overwrite, ne]

theorem overwrite_of_lt (before : address.off < extent.off) :
    overwrite memory extent data address = memory address := by
  have notInside : ¬(address.region = extent.region ∧ extent.off ≤ address.off) := by omega
  simp [overwrite, notInside]

theorem overwrite_of_le (behind : extent.off + data.length ≤ address.off) :
    overwrite memory extent data address = memory address := by
  have outside : data[address.off - extent.off]? = none :=
    List.getElem?_eq_none (by omega)
  simp [overwrite, outside]

theorem overwrite_at {i : ℕ} (bound : i < data.length) :
    overwrite memory extent data (extent.at i) = data[i] := by
  simp [overwrite, Extent.at, bound]

theorem load_overwrite_self (memory : Address Region → Byte) (extent : Extent Region)
    (data : List Byte) : load (overwrite memory extent data) extent data.length = data := by
  apply List.ext_getElem (by simp)
  intro i _ bound
  simp only [load, List.getElem_map, List.getElem_range]
  exact overwrite_at bound

/-- The extents share no address. -/
def Extent.Apart (left right : Extent Region) : Prop :=
  left.region ≠ right.region ∨ left.off + left.size ≤ right.off ∨ right.off + right.size ≤ left.off

instance (left right : Extent Region) : Decidable (left.Apart right) :=
  inferInstanceAs (Decidable (_ ∨ _ ∨ _))

theorem load_overwrite_of_apart {other : Extent Region} (apart : other.Apart extent)
    (fits : data.length ≤ extent.size) :
    load (overwrite memory extent data) other other.size = load memory other other.size := by
  apply load_congr
  intro i bound
  rcases apart with regions | before | behind
  · exact overwrite_of_region_ne regions
  · exact overwrite_of_lt (show other.off + i < extent.off by omega)
  · exact overwrite_of_le (show extent.off + data.length ≤ other.off + i by omega)

end Overwrite

section Bytes

variable {Region : Type*}

/-- The unsigned value of an extent. -/
def Extent.nat (memory : Address Region → UInt8) (extent : Extent Region) : ℕ :=
  LittleEndian.value (load memory extent extent.size)

/-- The two's complement value of an extent. -/
def Extent.int (memory : Address Region → UInt8) (extent : Extent Region) : ℤ :=
  Int.bmod (extent.nat memory) (256 ^ extent.size)

/-- The string at the beginning of an extent: the bytes up to the first zero byte, wherever it is
within `limit` bytes. -/
def Extent.string (limit : ℕ) (memory : Address Region → UInt8)
    (extent : Extent Region) : List UInt8 :=
  (load memory extent limit).takeWhile (· ≠ 0)

theorem Extent.string_eq_append {limit count : ℕ} {memory : Address Region → UInt8}
    {extent : Extent Region} (le : count ≤ limit)
    (nonzero : ∀ i < count, memory (extent.at i) ≠ 0) :
    extent.string limit memory = load memory extent count ++
      ((List.range (limit - count)).map fun i => memory (extent.at (count + i))).takeWhile
        (· ≠ 0) := by
  have front : ∀ byte ∈ load memory extent count, decide (byte ≠ 0) = true := by
    intro byte member
    obtain ⟨i, inside, rfl⟩ := List.mem_map.1 member
    simpa using nonzero i (List.mem_range.1 inside)
  have split : load memory extent limit = load memory extent (count + (limit - count)) := by
    rw [Nat.add_sub_cancel' le]
  rw [Extent.string, split, load_add, List.takeWhile_append_of_pos front]

theorem Extent.string_eq_load {limit count : ℕ} {memory : Address Region → UInt8}
    {extent : Extent Region} (le : count ≤ limit)
    (nonzero : ∀ i < count, memory (extent.at i) ≠ 0)
    (terminated : count < limit → memory (extent.at count) = 0) :
    extent.string limit memory = load memory extent count := by
  rw [Extent.string_eq_append le nonzero]
  cases rest : limit - count with
  | zero => simp
  | succ rest =>
      have zero := terminated (by omega)
      rw [List.range_succ_eq_map]
      simp [zero]

theorem Extent.nat_mod {memory : Address Region → UInt8} {extent : Extent Region} {short : ℕ}
    (le : short ≤ extent.size) :
    extent.nat memory % 256 ^ short = LittleEndian.value (load memory extent short) := by
  rw [Extent.nat, ← LittleEndian.value_take, take_load memory extent le]

theorem Extent.le_nat_of_last {memory : Address Region → UInt8} {extent : Extent Region} {size : ℕ}
    (whole : extent.size = size + 1) :
    256 ^ size * (memory (extent.at size)).toNat ≤ extent.nat memory := by
  have last : LittleEndian.value [memory (extent.at size)] = (memory (extent.at size)).toNat := by
    simp [LittleEndian.value]
  rw [Extent.nat, whole, load_add, LittleEndian.value_append, length_load]
  exact le_trans (le_of_eq (congrArg _ last.symm)) (Nat.le_add_left _ _)

theorem Extent.nat_mono {memory memory' : Address Region → UInt8} {extent : Extent Region}
    (le : ∀ i < extent.size, memory (extent.at i) ≤ memory' (extent.at i)) :
    extent.nat memory ≤ extent.nat memory' := by
  rw [Extent.nat, Extent.nat]
  generalize extent.size = count at le
  induction count with
  | zero => rfl
  | succ count ih =>
      have last : ∀ memory : Address Region → UInt8, LittleEndian.value (load memory extent
          (count + 1)) = LittleEndian.value (load memory extent count) +
            256 ^ count * (memory (extent.at count)).toNat := by
        intro memory
        rw [load_add, LittleEndian.value_append, length_load]
        simp [LittleEndian.value]
      rw [last, last]
      exact Nat.add_le_add (ih fun i inside => le i (by omega))
        (Nat.mul_le_mul_left _ (UInt8.le_iff_toNat_le.1 (le count (by omega))))

theorem Extent.int_emod (memory : Address Region → UInt8) (extent : Extent Region) :
    extent.int memory % (256 ^ extent.size : ℕ) = extent.nat memory % (256 ^ extent.size : ℕ) := by
  rw [Extent.int, Int.bmod_emod]

theorem Extent.nat_overwrite_of_apart [DecidableEq Region] {memory : Address Region → UInt8}
    {extent other : Extent Region} {data : List UInt8} (apart : other.Apart extent)
    (fits : data.length ≤ extent.size) :
    other.nat (overwrite memory extent data) = other.nat memory := by
  rw [Extent.nat, Extent.nat, load_overwrite_of_apart apart fits]

theorem Extent.nat_overwrite_bytes [DecidableEq Region] (memory : Address Region → UInt8)
    (extent : Extent Region) (number : ℕ) :
    extent.nat (overwrite memory extent (LittleEndian.bytes extent.size number)) =
      number % 256 ^ extent.size := by
  have stored := load_overwrite_self memory extent (LittleEndian.bytes extent.size number)
  rw [LittleEndian.length_bytes] at stored
  rw [Extent.nat, stored, LittleEndian.value_bytes]

theorem Extent.nat_overwrite_load [DecidableEq Region] (memory : Address Region → UInt8)
    {dst src : Extent Region} (sameSize : dst.size = src.size) :
    dst.nat (overwrite memory dst (load memory src dst.size)) = src.nat memory := by
  have stored := load_overwrite_self memory dst (load memory src dst.size)
  rw [length_load] at stored
  rw [Extent.nat, stored, sameSize]
  rfl

theorem Extent.int_overwrite_intBytes [DecidableEq Region] (memory : Address Region → UInt8)
    (extent : Extent Region) (number : ℤ) :
    extent.int (overwrite memory extent (LittleEndian.intBytes extent.size number)) =
      number.bmod (256 ^ extent.size) := by
  have positive : (0 : ℤ) < 256 ^ extent.size := by positivity
  have stored : ((extent.nat (overwrite memory extent
      (LittleEndian.intBytes extent.size number)) : ℕ) : ℤ) = number % (256 ^ extent.size : ℕ) := by
    rw [LittleEndian.intBytes, Extent.nat_overwrite_bytes]
    push_cast
    rw [Int.toNat_of_nonneg (Int.emod_nonneg _ positive.ne'), Int.emod_emod]
  rw [Extent.int, stored, Int.emod_bmod]

end Bytes

/-! ## Known and unknown cells -/

/-- A known byte, or what the cell at an address held in the beginning. -/
inductive Cell (Index : Type*) where
  | known (byte : UInt8)
  | junk (index : Index)
deriving DecidableEq

namespace Cell

variable {Index : Type*}

def fill (contents : Index → UInt8) : Cell Index → UInt8
  | known byte => byte
  | junk index => contents index

def Known (cell : Cell Index) : Prop := ∃ byte, cell = known byte

@[simp]
theorem known_known (byte : UInt8) : (known byte : Cell Index).Known := ⟨byte, rfl⟩

theorem Known.fill_eq {cell : Cell Index} (isKnown : cell.Known)
    (contents contents' : Index → UInt8) :
    cell.fill contents = cell.fill contents' := by
  obtain ⟨byte, rfl⟩ := isKnown
  rfl

theorem exists_junk {cell : Cell Index} (unknown : ¬cell.Known) : ∃ index, cell = junk index := by
  cases cell with
  | known byte => exact absurd (known_known byte) unknown
  | junk index => exact ⟨index, rfl⟩

end Cell

section Fill

variable {Region : Type*} {Index : Type*}

/-- The memory that a memory of cells stands for, given the initial contents. -/
def fill (cells : Address Region → Cell Index) (contents : Index → UInt8) :
    Address Region → UInt8 :=
  fun address => (cells address).fill contents

theorem fill_load (cells : Address Region → Cell Index) (contents : Index → UInt8)
    (extent : Extent Region) (count : ℕ) :
    load (fill cells contents) extent count =
      (load cells extent count).map (Cell.fill contents) := by
  simp [load, fill]

theorem fill_overwrite [DecidableEq Region] (cells : Address Region → Cell Index)
    (contents : Index → UInt8) (extent : Extent Region) (data : List (Cell Index)) :
    fill (overwrite cells extent data) contents =
      overwrite (fill cells contents) extent (data.map (Cell.fill contents)) := by
  funext address
  simp only [fill, overwrite]
  split
  · rw [List.getElem?_map]
    cases data[address.off - extent.off]? <;> rfl
  · rfl

/-- The first `count` bytes of an extent are known. -/
def KnownUpTo (cells : Address Region → Cell Index) (extent : Extent Region) (count : ℕ) : Prop :=
  ∀ i < count, (cells (extent.at i)).Known

section Known

variable [DecidableEq Region] {cells source : Address Region → Cell Index} {extent : Extent Region}
  {address : Address Region}

theorem known_overwrite_iff {data : List UInt8} :
    (overwrite cells extent (data.map Cell.known) address).Known ↔
      address.region = extent.region ∧ extent.off ≤ address.off ∧
        address.off < extent.off + data.length ∨ (cells address).Known := by
  by_cases inside : address.region = extent.region ∧ extent.off ≤ address.off
  · rw [overwrite, if_pos inside, List.getElem?_map]
    rcases Nat.lt_or_ge (address.off - extent.off) data.length with stored | behind
    · rw [List.getElem?_eq_getElem stored]
      exact iff_of_true ⟨_, rfl⟩ (Or.inl ⟨inside.1, inside.2, by omega⟩)
    · rw [List.getElem?_eq_none behind]
      exact ⟨Or.inr, fun known => known.resolve_left (by omega)⟩
  · rw [overwrite, if_neg inside]
    exact ⟨Or.inr, fun known => known.resolve_left fun stored => inside ⟨stored.1, stored.2.1⟩⟩

theorem known_overwrite_load_iff {src : Extent Region} {count : ℕ} :
    (overwrite cells extent (load source src count) address).Known ↔
      if address.region = extent.region ∧ extent.off ≤ address.off ∧
          address.off < extent.off + count then
        (source (src.at (address.off - extent.off))).Known
      else (cells address).Known := by
  by_cases inside : address.region = extent.region ∧ extent.off ≤ address.off ∧
      address.off < extent.off + count
  · rw [overwrite, if_pos ⟨inside.1, inside.2.1⟩, if_pos inside, getElem?_load (by omega)]
    rfl
  · rw [if_neg inside]
    by_cases region : address.region = extent.region
    · rcases Nat.lt_or_ge address.off extent.off with before | behind
      · rw [overwrite_of_lt before]
      · have outside : ¬address.off < extent.off + count :=
          fun less => inside ⟨region, behind, less⟩
        rw [overwrite_of_le (by rw [length_load]; omega)]
    · rw [overwrite_of_region_ne region]

end Known

@[simp]
theorem overwrite_nil {Byte : Type*} [DecidableEq Region] (memory : Address Region → Byte)
    (extent : Extent Region) : overwrite memory extent [] = memory := by
  funext address
  simp [overwrite]

theorem KnownUpTo.load_eq {cells : Address Region → Cell Index} {extent : Extent Region} {count : ℕ}
    (isKnown : KnownUpTo cells extent count) (contents contents' : Index → UInt8) :
    load (fill cells contents) extent count = load (fill cells contents') extent count :=
  load_congr fun i bound => (isKnown i bound).fill_eq contents contents'

theorem exists_load_ne {cells : Address Region → Cell Index} {extent : Extent Region} {count : ℕ}
    (unknown : ¬KnownUpTo cells extent count) :
    ∃ contents contents',
      load (fill cells contents) extent count ≠ load (fill cells contents') extent count := by
  simp only [KnownUpTo, not_forall] at unknown
  obtain ⟨i, bound, cellUnknown⟩ := unknown
  obtain ⟨index, isJunk⟩ := Cell.exists_junk cellUnknown
  refine ⟨fun _ => 0, fun _ => 1, fun same => ?_⟩
  have position := congrArg (·[i]?) same
  simp [getElem?_load bound, fill, isJunk, Cell.fill] at position

/-- The string at an extent ends, or reaches `limit` bytes, inside known cells. -/
def StringKnown (limit : ℕ) (cells : Address Region → Cell Index) (extent : Extent Region) : Prop :=
  ∃ length ≤ limit, (∀ i < length, ∃ byte, byte ≠ 0 ∧ cells (extent.at i) = .known byte) ∧
    (length < limit → cells (extent.at length) = .known 0)

theorem StringKnown.string_eq {limit : ℕ} {cells : Address Region → Cell Index}
    {extent : Extent Region} (isKnown : StringKnown limit cells extent)
    (contents contents' : Index → UInt8) :
    extent.string limit (fill cells contents) = extent.string limit (fill cells contents') := by
  obtain ⟨length, le, nonzero, terminated⟩ := isKnown
  have whole : ∀ contents,
      extent.string limit (fill cells contents) = load (fill cells contents) extent length := by
    intro contents
    apply Extent.string_eq_load le
    · intro i bound
      obtain ⟨byte, ne, cell⟩ := nonzero i bound
      simpa [fill, cell, Cell.fill] using ne
    · intro inside
      simp [fill, terminated inside, Cell.fill]
  have frontKnown : KnownUpTo cells extent length := by
    intro i bound
    obtain ⟨byte, -, cell⟩ := nonzero i bound
    exact ⟨byte, cell⟩
  rw [whole, whole, frontKnown.load_eq contents contents']

theorem exists_junk_of_not_stringKnown {limit : ℕ} {cells : Address Region → Cell Index}
    {extent : Extent Region} (unknown : ¬StringKnown limit cells extent) :
    ∃ count < limit, (∀ i < count, ∃ byte, byte ≠ 0 ∧ cells (extent.at i) = .known byte) ∧
      ∃ index, cells (extent.at count) = .junk index := by
  -- the shortest stretch of known nonzero bytes that cannot be extended
  have search : ∀ count ≤ limit,
      (∀ i < count, ∃ byte, byte ≠ 0 ∧ cells (extent.at i) = .known byte) ∨
      ∃ stop < count, (∀ i < stop, ∃ byte, byte ≠ 0 ∧ cells (extent.at i) = .known byte) ∧
        ∃ index, cells (extent.at stop) = .junk index := by
    intro count
    induction count with
    | zero => exact fun _ => .inl fun i bound => absurd bound (Nat.not_lt_zero i)
    | succ count ih =>
        intro le
        rcases ih (by omega) with all | ⟨stop, bound, before, junk⟩
        · cases cell : cells (extent.at count) with
          | junk index => exact .inr ⟨count, by omega, all, index, cell⟩
          | known byte =>
              by_cases zero : byte = 0
              · subst zero
                exact absurd ⟨count, by omega, all, fun _ => cell⟩ unknown
              · refine .inl fun i bound => ?_
                rcases Nat.lt_succ_iff_lt_or_eq.1 bound with less | rfl
                · exact all i less
                · exact ⟨byte, zero, cell⟩
        · exact .inr ⟨stop, by omega, before, junk⟩
  rcases search limit le_rfl with all | found
  · exact absurd ⟨limit, le_rfl, all, fun less => absurd less (Nat.lt_irrefl _)⟩ unknown
  · exact found

theorem exists_string_diverge {limit : ℕ} {cells : Address Region → Cell Index}
    {extent : Extent Region} (unknown : ¬StringKnown limit cells extent) (stop : UInt8) :
    ∃ contents contents', Printf.Diverge (extent.string limit (fill cells contents))
      (extent.string limit (fill cells contents')) stop := by
  obtain ⟨count, bound, nonzero, index, junk⟩ := exists_junk_of_not_stringKnown unknown
  obtain ⟨byte, notZero, notStop⟩ : ∃ byte : UInt8, byte ≠ 0 ∧ stop ≠ byte := by
    by_cases one : stop = 1
    · exact ⟨2, by decide, by rw [one]; decide⟩
    · exact ⟨1, by decide, one⟩
  have front : ∀ contents : Index → UInt8, ∀ i < count, fill cells contents (extent.at i) ≠ 0 := by
    intro contents i less
    obtain ⟨known, ne, cell⟩ := nonzero i less
    simpa [fill, cell, Cell.fill] using ne
  have frontKnown : KnownUpTo cells extent count := by
    intro i less
    obtain ⟨known, -, cell⟩ := nonzero i less
    exact ⟨known, cell⟩
  refine ⟨fun _ => 0, fun _ => byte, ?_⟩
  have short := Extent.string_eq_load (Nat.le_of_lt bound) (front fun _ => 0)
    (fun _ => by simp [fill, junk, Cell.fill])
  have long := Extent.string_eq_append (Nat.le_of_lt bound) (front fun _ => byte)
  obtain ⟨rest, restEq⟩ : ∃ rest, limit - count = rest + 1 := ⟨limit - count - 1, by omega⟩
  rw [restEq, List.range_succ_eq_map] at long
  rw [short, long, frontKnown.load_eq (fun _ => 0) (fun _ => byte)]
  simp only [List.map_cons, Nat.add_zero, fill, junk, Cell.fill]
  rw [List.takeWhile_cons_of_pos (by simpa using notZero)]
  exact Printf.diverge_append_self _ _ notStop

end Fill

end Cells

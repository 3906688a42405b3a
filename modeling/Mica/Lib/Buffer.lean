import Mica.Lib.CTypes
import Mica.Lib.LittleEndian
import Mathlib.Data.List.TakeWhile

/-!
# Checked buffers

A function of C that works on a buffer ends with a value, with an error code, or
with undefined behaviour: a `fault`. Every access to the buffer is checked, so
that a run that ends without a fault has stayed inside the buffer.
-/

universe u

inductive Outcome (α : Type u) where
  | fault
  | error (code : ℤ)
  | ok (value : α)
deriving DecidableEq

namespace Outcome

variable {α β : Type u}

protected def bind (outcome : Outcome α) (next : α → Outcome β) : Outcome β :=
  match outcome with
  | fault => fault
  | error code => error code
  | ok value => next value

instance : Monad Outcome where
  pure := ok
  bind := Outcome.bind

@[simp]
theorem pure_eq (value : α) : (pure value : Outcome α) = ok value := rfl

@[simp]
theorem fault_bind (next : α → Outcome β) : (fault >>= next) = fault := rfl

@[simp]
theorem error_bind (code : ℤ) (next : α → Outcome β) : (error code >>= next) = error code := rfl

@[simp]
theorem ok_bind (value : α) (next : α → Outcome β) : (ok value >>= next) = next value := rfl

theorem bind_assoc {γ : Type u} (outcome : Outcome α) (first : α → Outcome β)
    (second : β → Outcome γ) :
    (outcome >>= first >>= second) = outcome >>= fun value => first value >>= second := by
  cases outcome <;> rfl

theorem bind_ok (outcome : Outcome α) : (outcome >>= ok) = outcome := by
  cases outcome <;> rfl

theorem exists_of_bind_eq_ok {outcome : Outcome α} {next : α → Outcome β} {result : β}
    (equal : (outcome >>= next) = ok result) :
    ∃ value, outcome = ok value ∧ next value = ok result := by
  cases outcome with
  | fault => cases equal
  | error code => cases equal
  | ok value => exact ⟨value, rfl, equal⟩

theorem ite_bind (condition : Prop) [Decidable condition] (left right : Outcome α)
    (next : α → Outcome β) :
    ((if condition then left else right) >>= next) =
      if condition then left >>= next else right >>= next := by
  split <;> rfl

/-- The function returns, and an error code is negative. -/
def Returns (outcome : Outcome α) : Prop :=
  (∃ code < 0, outcome = error code) ∨ ∃ value, outcome = ok value

theorem not_returns_fault : ¬(fault : Outcome α).Returns := by
  rintro (⟨_, _, equal⟩ | ⟨_, equal⟩) <;> cases equal

theorem returns_error {code : ℤ} (negative : code < 0) : (error code : Outcome α).Returns :=
  .inl ⟨code, negative, rfl⟩

theorem returns_ok (value : α) : (ok value).Returns := .inr ⟨value, rfl⟩

theorem returns_map_iff {outcome : Outcome α} (function : α → β) :
    (outcome >>= fun value => pure (function value)).Returns ↔ outcome.Returns := by
  cases outcome with
  | fault => exact iff_of_false not_returns_fault not_returns_fault
  | error code => simp [Returns]
  | ok value => exact iff_of_true (returns_ok _) (returns_ok _)

end Outcome

namespace Buffer

variable {buf front data back : List UInt8} {index : ℤ} {count : ℕ}

/-- The bytes at an index, all inside the buffer. -/
def read (buf : List UInt8) (index : ℤ) (count : ℕ) : Outcome (List UInt8) :=
  if 0 ≤ index ∧ index + count ≤ buf.length then .ok ((buf.drop index.toNat).take count)
  else .fault

/-- The bytes from an index on, up to the first that is zero. -/
def stringAt (buf : List UInt8) (start : ℕ) : CString where
  bytes := (buf.drop start).takeWhile (· ≠ 0)
  noNul := fun nul => by simpa using List.mem_takeWhile_imp nul

/-- The string at an index, with its terminator inside the buffer. -/
def readString (buf : List UInt8) (index : ℤ) : Outcome CString :=
  if 0 ≤ index ∧ 0 ∈ buf.drop index.toNat then .ok (stringAt buf index.toNat) else .fault

/-- The buffer with the bytes at an index replaced, all inside the buffer. -/
def write (buf : List UInt8) (index : ℤ) (data : List UInt8) : Outcome (List UInt8) :=
  if 0 ≤ index ∧ index + data.length ≤ buf.length then
    .ok (buf.take index.toNat ++ data ++ buf.drop (index.toNat + data.length))
  else .fault

/-- The unsigned number of so many bytes at an index. -/
def number (width : ℕ) (buf : List UInt8) (start : ℕ) : ℕ :=
  LittleEndian.value ((buf.drop start).take width)

theorem number_append_right {size : ℕ} (width start : ℕ) (isSize : front.length = size)
    (back : List UInt8) :
    number width (front ++ back) (size + start) = number width back start := by
  rw [number, number, ← isSize, List.drop_length_add_append]

theorem number_bytes_append {width value : ℕ} (bound : value < 256 ^ width) (back : List UInt8) :
    number width (LittleEndian.bytes width value ++ back) 0 = value := by
  rw [number, List.drop_zero, List.take_left' (LittleEndian.length_bytes _ _),
    LittleEndian.value_bytes]
  exact Nat.mod_eq_of_lt bound

theorem number_intBytes_append (width : ℕ) (value : ℤ) (back : List UInt8) :
    (number width (LittleEndian.intBytes width value ++ back) 0 : ℤ) = value % 256 ^ width := by
  have positive : (0 : ℤ) < 256 ^ width := by positivity
  have nonneg := Int.emod_nonneg value positive.ne'
  have less := Int.emod_lt_of_pos value positive
  have bound : (value % 256 ^ width).toNat < 256 ^ width := by
    zify
    rwa [Int.toNat_of_nonneg nonneg]
  rw [LittleEndian.intBytes, number_bytes_append bound, Int.toNat_of_nonneg nonneg]

theorem number_lt (width : ℕ) (buf : List UInt8) (start : ℕ) :
    number width buf start < 256 ^ width := by
  calc number width buf start < 256 ^ ((buf.drop start).take width).length :=
        LittleEndian.value_lt _
    _ ≤ 256 ^ width := Nat.pow_le_pow_right (by decide) (List.length_take_le _ _)

theorem number_take_drop {width first start : ℕ} (inside : start + width ≤ count) :
    number width ((buf.drop first).take count) start = number width buf (first + start) := by
  rw [number, number, List.drop_take, List.take_take, List.drop_drop, Nat.min_eq_left (by omega)]

theorem read_of_le {start : ℕ} (inside : start + count ≤ buf.length) :
    read buf start count = .ok ((buf.drop start).take count) := by
  rw [read, if_pos (by omega), Int.toNat_natCast]

theorem read_eq_fault (outside : index < 0 ∨ buf.length < index + count) :
    read buf index count = .fault :=
  if_neg (by omega)

theorem readString_of_mem {start : ℕ} (ends : 0 ∈ buf.drop start) :
    readString buf start = .ok (stringAt buf start) := by
  rw [readString, if_pos ⟨Int.natCast_nonneg _, ends⟩, Int.toNat_natCast]

theorem readString_eq_fault {start : ℕ} (endless : 0 ∉ buf.drop start) :
    readString buf start = .fault :=
  if_neg fun inside => endless inside.2

theorem stringAt_of_drop {string : CString} {start : ℕ}
    (rest : buf.drop start = string.bytes ++ 0 :: back) : stringAt buf start = string := by
  have nonzero : ∀ byte ∈ string.bytes, decide (byte ≠ 0) = true := by
    intro byte member
    simpa using fun isZero : byte = 0 => string.noNul (isZero ▸ member)
  apply CString.ext
  simp only [stringAt, rest]
  rw [List.takeWhile_append_of_pos nonzero, List.takeWhile_cons_of_neg (by simp), List.append_nil]

theorem readString_append {string : CString} (isEnd : index = front.length) :
    readString (front ++ (string.bytes ++ 0 :: back)) index = .ok string := by
  have rest : (front ++ (string.bytes ++ 0 :: back)).drop front.length =
      string.bytes ++ 0 :: back :=
    List.drop_left
  rw [isEnd, readString_of_mem (by rw [rest]; simp), stringAt_of_drop rest]

theorem read_append (isEnd : index = front.length) (width : count = data.length) :
    read (front ++ (data ++ back)) index count = .ok data := by
  rw [isEnd, width, read_of_le (by simp only [List.length_append]; omega), List.drop_left,
    List.take_left]

theorem write_append {old : List UInt8} (isEnd : index = front.length)
    (fits : data.length ≤ old.length) :
    write (front ++ old) index data = .ok (front ++ data ++ old.drop data.length) := by
  rw [write, isEnd, if_pos (by simp only [List.length_append]; omega)]
  simp [List.drop_append]

theorem write_zero (width : front.length = data.length) :
    write (front ++ back) 0 data = .ok (data ++ back) := by
  have written : write ([] ++ (front ++ back)) 0 data =
      .ok ([] ++ data ++ (front ++ back).drop data.length) :=
    write_append rfl (by rw [List.length_append]; omega)
  rw [List.nil_append, List.nil_append, List.drop_left' width] at written
  exact written

/-- The starts of items that lie one behind the other. -/
def positions (start : ℤ) : List (List UInt8) → List ℤ
  | [] => []
  | item :: items => start :: positions (start + item.length) items

theorem length_positions (start : ℤ) (items : List (List UInt8)) :
    (positions start items).length = items.length := by
  induction items generalizing start with
  | nil => rfl
  | cons item items ih => simp [positions, ih]

theorem forall₂_positions {P : ℤ → List UInt8 → Prop} (base : ℤ) (items : List (List UInt8))
    {front : List UInt8} (isBuf : buf = front ++ (items.flatten ++ back))
    (holds : ∀ before, ∀ item ∈ items, ∀ behind, buf = before ++ (item ++ behind) →
      P (base + before.length) item) :
    List.Forall₂ P (positions (base + front.length) items) items := by
  induction items generalizing front with
  | nil => exact .nil
  | cons item items ih =>
      have first : buf = front ++ (item ++ (items.flatten ++ back)) := by
        rw [isBuf, List.flatten_cons, List.append_assoc]
      have rest := @ih (front ++ item) (by rw [first, List.append_assoc])
        fun before other member => holds before other (List.mem_cons_of_mem _ member)
      rw [List.length_append, Nat.cast_add, ← Int.add_assoc] at rest
      exact .cons (holds front item List.mem_cons_self _ first) rest

/-! ## Logs of stores -/

/-- Bytes that are stored from an index on. -/
structure Store where
  index : ℤ
  data : List UInt8

/-- The byte at an index is one of those that are stored to. -/
def Store.Writes (store : Store) (index : ℤ) : Prop :=
  store.index ≤ index ∧ index < store.index + store.data.length

/-- The buffer after stores, all inside the buffer. -/
def writeAll : List Store → List UInt8 → Outcome (List UInt8)
  | [], buf => .ok buf
  | store :: stores, buf => do
      let buf ← write buf store.index store.data
      writeAll stores buf

theorem writeAll_append (first second : List Store) (buf : List UInt8) :
    writeAll (first ++ second) buf = writeAll first buf >>= writeAll second := by
  induction first generalizing buf with
  | nil => rfl
  | cons store first ih =>
      simp only [List.cons_append, writeAll, ih, Outcome.bind_assoc]

/-- Every store begins where the one before it ends. -/
def Consecutive : ℤ → List Store → ℤ → Prop
  | start, [], stop => start = stop
  | start, store :: stores, stop =>
      store.index = start ∧ Consecutive (start + store.data.length) stores stop

variable {start middle stop : ℤ} {first second stores : List Store}

theorem Consecutive.append (left : Consecutive start first middle)
    (right : Consecutive middle second stop) : Consecutive start (first ++ second) stop := by
  induction first generalizing start with
  | nil =>
      obtain rfl : start = middle := left
      exact right
  | cons store first ih => exact ⟨left.1, ih left.2⟩

theorem Consecutive.le (consecutive : Consecutive start stores stop) : start ≤ stop := by
  induction stores generalizing start with
  | nil => exact le_of_eq consecutive
  | cons store stores ih =>
      have rest := ih consecutive.2
      omega

theorem Consecutive.writes_iff (consecutive : Consecutive start stores stop) :
    (∃ store ∈ stores, store.Writes index) ↔ start ≤ index ∧ index < stop := by
  induction stores generalizing start with
  | nil =>
      have empty : start = stop := consecutive
      simp only [List.not_mem_nil, false_and, exists_false, false_iff]
      omega
  | cons store stores ih =>
      rcases consecutive with ⟨isStart, rest⟩
      have bound := rest.le
      rw [List.exists_mem_cons_iff, ih rest, Store.Writes, isStart]
      omega

end Buffer

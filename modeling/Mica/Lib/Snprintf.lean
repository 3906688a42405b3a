import Mica.Lib.Buffer

/-!
# Texts that are put together with `snprintf`

A text in a buffer of a given size is the text that is meant, cut to what fits with a terminator.
Appending with `snprintf(str + strlen(str), size - strlen(str), ..)` keeps that, for every `str`
inside the text: the remaining size is a difference of `size_t`, and never less than one.

`snprintf` stores as much of the text as fits. Its result, which is not used, is left out.
-/

namespace Snprintf

/-- `snprintf` of a formatted text to `buf + str`. -/
def snprintf (buf : List UInt8) (str : ℕ) (size : UInt64) (text : CString) :
    Outcome (List UInt8) :=
  if size = 0 then .ok buf
  else Buffer.write buf str (text.bytes.take (size.toNat - 1) ++ [0])

/-- `snprintf(str + strlen(str), size - strlen(str), ..)` -/
def append (str : ℕ) (size : UInt64) (buf : List UInt8) (text : CString) :
    Outcome (List UInt8) := do
  let string ← Buffer.readString buf str
  snprintf buf (str + string.length) (size - UInt64.ofNat string.length) text

/-- A buffer of `n` bytes starts with a text, cut to what fits, and a terminator. -/
structure Shows (n : ℕ) (text buf : List UInt8) : Prop where
  noNul : 0 ∉ text
  length_eq : buf.length = n
  begins : text.take (n - 1) ++ [0] <+: buf

namespace Shows

variable {n str : ℕ} {size : UInt64} {text buf : List UInt8}

theorem readString (shows : Shows n text buf) (inside : str ≤ (text.take (n - 1)).length) :
    ∃ string, Buffer.readString buf str = .ok string ∧
      string.length = (text.take (n - 1)).length - str := by
  have noNul : 0 ∉ (text.take (n - 1)).drop str :=
    fun nul => shows.noNul (List.mem_of_mem_take (List.mem_of_mem_drop nul))
  rcases shows.begins with ⟨back, whole⟩
  have split : buf =
      (text.take (n - 1)).take str ++ ((text.take (n - 1)).drop str ++ 0 :: back) := by
    rw [← whole, ← List.append_assoc, List.take_append_drop, List.append_assoc,
      List.singleton_append]
  refine ⟨⟨_, noNul⟩, ?_, ?_⟩
  · rw [split]
    apply @Buffer.readString_append _ _ _ ⟨_, noNul⟩
    rw [List.length_take, Nat.min_eq_left inside]
  · rw [CString.length, List.length_drop]

theorem length_take_lt (shows : Shows n text buf) : (text.take (n - 1)).length < n := by
  have fits := shows.begins.length_le
  rw [List.length_append, List.length_singleton, shows.length_eq] at fits
  omega

theorem snprintf (shows : Shows n text buf) (more : CString)
    (remaining : size.toNat = n - (text.take (n - 1)).length) :
    ∃ after, Snprintf.snprintf buf (text.take (n - 1)).length size more = .ok after ∧
      Shows n (text ++ more.bytes) after := by
  have room := shows.length_take_lt
  have nonzero : size ≠ 0 := by
    rintro rfl
    rw [UInt64.toNat_zero] at remaining
    omega
  have cut : (text ++ more.bytes).take (n - 1) =
      text.take (n - 1) ++ more.bytes.take (size.toNat - 1) := by
    rw [List.take_append, remaining, List.length_take]
    congr 2
    omega
  have noNul : 0 ∉ text ++ more.bytes := by
    rw [List.mem_append]
    exact fun nul => nul.elim shows.noNul more.noNul
  rcases shows.begins with ⟨back, whole⟩
  have length_eq := shows.length_eq
  rw [← whole, List.append_assoc, List.length_append] at length_eq
  have fits : (more.bytes.take (size.toNat - 1) ++ [0]).length ≤ ([0] ++ back).length := by
    rw [List.length_append, List.length_take, List.length_singleton]
    omega
  have written : Buffer.write (text.take (n - 1) ++ ([0] ++ back)) (text.take (n - 1)).length
      (more.bytes.take (size.toNat - 1) ++ [0]) = .ok _ := Buffer.write_append rfl fits
  rw [← List.append_assoc, whole] at written
  refine ⟨_, (if_neg nonzero).trans written, noNul, ?_, ?_⟩
  · rw [List.length_append, List.length_append, List.length_drop]
    omega
  · rw [cut, List.append_assoc]
    exact List.prefix_append _ _

/-- The size that is left behind the string does not wrap around. -/
theorem toNat_remaining (shows : Shows n text buf) (inside : str ≤ (text.take (n - 1)).length)
    (remaining : size.toNat = n - str) {string : CString}
    (length : string.length = (text.take (n - 1)).length - str) :
    (size - UInt64.ofNat string.length).toNat = n - (text.take (n - 1)).length := by
  have room := shows.length_take_lt
  have bound := size.toNat_lt
  have small : string.length < 2 ^ 64 := by omega
  rw [UInt64.toNat_sub_of_le _ _ ?_, UInt64.toNat_ofNat_of_lt' small]
  · omega
  · rw [UInt64.le_iff_toNat_le, UInt64.toNat_ofNat_of_lt' small]
    omega

theorem append (shows : Shows n text buf) (inside : str ≤ (text.take (n - 1)).length)
    (remaining : size.toNat = n - str) (more : CString) :
    ∃ after, Snprintf.append str size buf more = .ok after ∧
      Shows n (text ++ more.bytes) after := by
  rcases shows.readString inside with ⟨string, read, length⟩
  have position : str + string.length = (text.take (n - 1)).length := by omega
  rw [Snprintf.append, read, Outcome.ok_bind, position]
  exact shows.snprintf more (shows.toNat_remaining inside remaining length)

end Shows

end Snprintf

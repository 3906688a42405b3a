import Mathlib.Data.Nat.Digits.Lemmas

/-!
# The conversions of `printf`

A format string is a sequence of literal bytes and conversions. The text of an
integer argument depends only on as many of its low bytes as the conversion
looks at, and determines them.

`Diverge` is what makes a difference in one argument visible in the whole line:
the two texts, each followed by the byte the format puts behind them, differ at
a position that both have. This is why a format is required to be `separated`.
-/

namespace Printf

inductive Conv where
  | d | ld | u | lu | x | lx | llx | p | s
deriving DecidableEq, Repr

/-- The number of low bytes of its argument that a conversion looks at. -/
def Conv.width : Conv → ℕ
  | .d | .u | .x => 4
  | .ld | .lu | .lx | .llx | .p | .s => 8

inductive Piece where
  | lit (byte : UInt8)
  | conv (conversion : Conv)
deriving DecidableEq, Repr

def parse : List Char → List Piece
  | '%' :: 'd' :: rest => .conv .d :: parse rest
  | '%' :: 'u' :: rest => .conv .u :: parse rest
  | '%' :: 'x' :: rest => .conv .x :: parse rest
  | '%' :: 'p' :: rest => .conv .p :: parse rest
  | '%' :: 's' :: rest => .conv .s :: parse rest
  | '%' :: 'l' :: 'd' :: rest => .conv .ld :: parse rest
  | '%' :: 'l' :: 'u' :: rest => .conv .lu :: parse rest
  | '%' :: 'l' :: 'x' :: rest => .conv .lx :: parse rest
  | '%' :: 'l' :: 'l' :: 'x' :: rest => .conv .llx :: parse rest
  | char :: rest => .lit (UInt8.ofNat char.toNat) :: parse rest
  | [] => []

/-! ## Numbers -/

def digitByte (digit : ℕ) : UInt8 :=
  if digit < 10 then UInt8.ofNat (48 + digit) else UInt8.ofNat (87 + digit)

def digitValue (byte : UInt8) : ℕ :=
  if byte.toNat < 58 then byte.toNat - 48 else byte.toNat - 87

def digits (base number : ℕ) : List ℕ :=
  if number = 0 then [0] else Nat.digits base number

def natText (base number : ℕ) : List UInt8 := (digits base number).reverse.map digitByte

def intText (number : ℤ) : List UInt8 :=
  if number < 0 then 45 :: natText 10 number.natAbs else natText 10 number.toNat

/-- The text of an integer argument, taken modulo the width of the conversion. glibc prints a
null pointer as `(nil)`. -/
def Conv.text (conversion : Conv) (number : ℤ) : List UInt8 :=
  match conversion with
  | .d => intText (number.bmod (2 ^ 32))
  | .ld | .s => intText (number.bmod (2 ^ 64))
  | .u => natText 10 (number % 2 ^ 32).toNat
  | .lu => natText 10 (number % 2 ^ 64).toNat
  | .x => natText 16 (number % 2 ^ 32).toNat
  | .lx | .llx => natText 16 (number % 2 ^ 64).toNat
  | .p =>
      if number % 2 ^ 64 = 0 then [40, 110, 105, 108, 41]
      else 48 :: 120 :: natText 16 (number % 2 ^ 64).toNat

/-- The bytes that occur in the text of a number. -/
def alphabet : List UInt8 :=
  [48, 49, 50, 51, 52, 53, 54, 55, 56, 57, 97, 98, 99, 100, 101, 102, 45]

theorem digitValue_digitByte : ∀ digit < 16, digitValue (digitByte digit) = digit := by
  decide

theorem digitByte_mem_alphabet :
    ∀ digit < 16, digitByte digit ∈ alphabet ∧ digitByte digit ≠ 45 := by
  decide

theorem digit_lt {base number digit : ℕ} (small : 1 < base) (member : digit ∈ digits base number) :
    digit < base := by
  unfold digits at member
  split at member
  · simp only [List.mem_singleton] at member
    omega
  · exact Nat.digits_lt_base small member

theorem ofDigits_digits (base number : ℕ) : Nat.ofDigits base (digits base number) = number := by
  unfold digits
  split
  case isTrue zero => simp [zero]
  case isFalse => exact Nat.ofDigits_digits base number

theorem map_digitValue_natText {base number : ℕ} (small : 1 < base) (bound : base ≤ 16) :
    (natText base number).map digitValue = (digits base number).reverse := by
  have recovered : ∀ digit ∈ (digits base number).reverse,
      digitValue (digitByte digit) = digit := by
    intro digit member
    have below := digit_lt small (List.mem_reverse.1 member)
    exact digitValue_digitByte digit (by omega)
  rw [natText, List.map_map]
  exact (List.map_congr_left recovered).trans (List.map_id _)

theorem natText_inj {base left right : ℕ} (small : 1 < base) (bound : base ≤ 16)
    (same : natText base left = natText base right) : left = right := by
  have recovered := congrArg (List.map digitValue) same
  rw [map_digitValue_natText small bound, map_digitValue_natText small bound,
    List.reverse_inj] at recovered
  rw [← ofDigits_digits base left, recovered, ofDigits_digits]

theorem mem_natText {base number : ℕ} (small : 1 < base) (bound : base ≤ 16) {byte : UInt8}
    (member : byte ∈ natText base number) : byte ∈ alphabet ∧ byte ≠ 45 := by
  obtain ⟨digit, inside, rfl⟩ := List.mem_map.1 member
  have below := digit_lt small (List.mem_reverse.1 inside)
  exact digitByte_mem_alphabet digit (by omega)

theorem intText_inj {left right : ℤ} (same : intText left = intText right) : left = right := by
  have noSign : ∀ number tail, natText 10 number ≠ 45 :: tail := by
    intro number tail equal
    have member : (45 : UInt8) ∈ natText 10 number := by simp [equal]
    exact (mem_natText (by decide) (by decide) member).2 rfl
  unfold intText at same
  split at same <;> split at same
  · have magnitude := natText_inj (by decide) (by decide) (List.cons.inj same).2
    omega
  · exact absurd same.symm (noSign _ _)
  · exact absurd same (noSign _ _)
  · have magnitude := natText_inj (by decide) (by decide) same
    omega

theorem mem_intText {number : ℤ} {byte : UInt8} (member : byte ∈ intText number) :
    byte ∈ alphabet := by
  unfold intText at member
  split at member
  · rcases List.mem_cons.1 member with sign | digit
    · simp [sign, alphabet]
    · exact (mem_natText (by decide) (by decide) digit).1
  · exact (mem_natText (by decide) (by decide) member).1

theorem length_natText_le {base number count : ℕ} (small : 1 < base) (positive : 0 < count)
    (below : number < base ^ count) : (natText base number).length ≤ count := by
  rw [natText, List.length_map, List.length_reverse, digits]
  split
  · exact positive
  · exact (Nat.digits_length_le_iff small number).2 below

theorem length_intText_le {number : ℤ} (below : number.natAbs < 10 ^ 19) :
    (intText number).length ≤ 20 := by
  have positive : (natText 10 number.natAbs).length ≤ 19 :=
    length_natText_le (by decide) (by decide) below
  unfold intText
  split
  · rw [List.length_cons]
    omega
  · rw [show number.toNat = number.natAbs by omega]
    omega

theorem Conv.length_text_le (conversion : Conv) (number : ℤ) :
    (conversion.text number).length ≤ 20 := by
  have nats : ∀ {base : ℕ} {value : ℕ}, 10 ≤ base → value < 2 ^ 64 →
      (natText base value).length ≤ 20 := by
    intro base value large below
    refine length_natText_le (by omega) (by decide) (below.trans_le ?_)
    exact (show 2 ^ 64 ≤ 10 ^ 20 by decide).trans (Nat.pow_le_pow_left large 20)
  cases conversion with
  | d => exact length_intText_le (by simp only [Int.bmod_def]; split <;> omega)
  | ld => exact length_intText_le (by simp only [Int.bmod_def]; split <;> omega)
  | s => exact length_intText_le (by simp only [Int.bmod_def]; split <;> omega)
  | u => exact nats (by decide) (by omega)
  | lu => exact nats (by decide) (by omega)
  | x => exact nats (by decide) (by omega)
  | lx => exact nats (by decide) (by omega)
  | llx => exact nats (by decide) (by omega)
  | p =>
      have digits : (natText 16 (number % 2 ^ 64).toNat).length ≤ 16 :=
        length_natText_le (by decide) (by decide) (by omega)
      simp only [text]
      split
      · simp
      · rw [List.length_cons, List.length_cons]
        omega

/-! ## Texts that differ visibly -/

/-- The two texts, each followed by `stop`, differ at a position that both have. -/
def Diverge (left right : List UInt8) (stop : UInt8) : Prop :=
  ∃ (i : ℕ) (a b : UInt8), (left ++ [stop])[i]? = some a ∧ (right ++ [stop])[i]? = some b ∧ a ≠ b

theorem Diverge.symm {left right : List UInt8} {stop : UInt8} (diverge : Diverge left right stop) :
    Diverge right left stop := by
  obtain ⟨i, a, b, atLeft, atRight, ne⟩ := diverge
  exact ⟨i, b, a, atRight, atLeft, ne.symm⟩

theorem Diverge.cons {left right : List UInt8} {stop : UInt8} (byte : UInt8)
    (diverge : Diverge left right stop) : Diverge (byte :: left) (byte :: right) stop := by
  obtain ⟨i, a, b, atLeft, atRight, ne⟩ := diverge
  exact ⟨i + 1, a, b, by simpa using atLeft, by simpa using atRight, ne⟩

theorem Diverge.append {left right : List UInt8} {stop : UInt8} (front : List UInt8)
    (diverge : Diverge left right stop) : Diverge (front ++ left) (front ++ right) stop := by
  induction front with
  | nil => exact diverge
  | cons byte front ih => exact ih.cons byte

theorem diverge_cons_of_ne {a b : UInt8} (left right : List UInt8) (stop : UInt8) (ne : a ≠ b) :
    Diverge (a :: left) (b :: right) stop :=
  ⟨0, a, b, rfl, rfl, ne⟩

theorem diverge_nil_cons {byte stop : UInt8} (right : List UInt8) (ne : stop ≠ byte) :
    Diverge [] (byte :: right) stop :=
  ⟨0, stop, byte, rfl, rfl, ne⟩

theorem diverge_append_self {byte stop : UInt8} (front rest : List UInt8) (ne : stop ≠ byte) :
    Diverge front (front ++ byte :: rest) stop := by
  have bare := (diverge_nil_cons rest ne).append front
  rwa [List.append_nil] at bare

theorem diverge_of_ne {left right : List UInt8} {stop : UInt8} (notLeft : stop ∉ left)
    (notRight : stop ∉ right) (ne : left ≠ right) : Diverge left right stop := by
  induction left generalizing right with
  | nil =>
      cases right with
      | nil => exact absurd rfl ne
      | cons byte right => exact diverge_nil_cons right fun same => notRight (by simp [same])
  | cons byte left ih =>
      cases right with
      | nil => exact (diverge_nil_cons left fun same => notLeft (by simp [same])).symm
      | cons other right =>
          by_cases same : byte = other
          · subst same
            have tails := ih (fun member => notLeft (List.mem_cons_of_mem _ member))
              (fun member => notRight (List.mem_cons_of_mem _ member))
              (fun equal => ne (by rw [equal]))
            exact tails.cons byte
          · exact diverge_cons_of_ne left right stop same

theorem Conv.text_congr {conversion : Conv} {left right : ℤ}
    (same : left % 256 ^ conversion.width = right % 256 ^ conversion.width) :
    conversion.text left = conversion.text right := by
  have residues : ∀ modulus : ℕ, left % modulus = right % modulus →
      left.bmod modulus = right.bmod modulus := by
    intro modulus equal
    rw [← Int.emod_bmod, equal, Int.emod_bmod]
  cases conversion with
  | d => exact congrArg intText (residues (2 ^ 32) same)
  | ld => exact congrArg intText (residues (2 ^ 64) same)
  | s => exact congrArg intText (residues (2 ^ 64) same)
  | _ =>
      simp only [width] at same
      norm_num at same
      simp [text, same]

theorem Conv.diverge_text (conversion : Conv) {left right : ℤ} {stop : UInt8}
    (outside : stop ∉ alphabet)
    (ne : left % 256 ^ conversion.width ≠ right % 256 ^ conversion.width) :
    Diverge (conversion.text left) (conversion.text right) stop := by
  have ints : ∀ {a b : ℤ}, a ≠ b → Diverge (intText a) (intText b) stop := by
    intro a b differ
    exact diverge_of_ne (fun member => outside (mem_intText member))
      (fun member => outside (mem_intText member)) (fun same => differ (intText_inj same))
  have residues : ∀ (modulus : ℕ), left % modulus ≠ right % modulus →
      left.bmod modulus ≠ right.bmod modulus := by
    intro modulus differ same
    exact differ (by rw [← Int.bmod_emod, same, Int.bmod_emod])
  have nats : ∀ {base a b : ℕ}, 1 < base → base ≤ 16 → a ≠ b →
      Diverge (natText base a) (natText base b) stop := by
    intro base a b small bound differ
    exact diverge_of_ne (fun member => outside (mem_natText small bound member).1)
      (fun member => outside (mem_natText small bound member).1)
      (fun same => differ (natText_inj small bound same))
  cases conversion with
  | d => exact ints (residues (2 ^ 32) ne)
  | ld => exact ints (residues (2 ^ 64) ne)
  | s => exact ints (residues (2 ^ 64) ne)
  | u => exact nats (by decide) (by decide) (by simp only [width] at ne; omega)
  | lu => exact nats (by decide) (by decide) (by simp only [width] at ne; omega)
  | x => exact nats (by decide) (by decide) (by simp only [width] at ne; omega)
  | lx => exact nats (by decide) (by decide) (by simp only [width] at ne; omega)
  | llx => exact nats (by decide) (by decide) (by simp only [width] at ne; omega)
  | p =>
      simp only [width] at ne
      simp only [text]
      split <;> split
      · omega
      · exact diverge_cons_of_ne _ _ _ (by decide)
      · exact diverge_cons_of_ne _ _ _ (by decide)
      · exact ((nats (by decide) (by decide) (by omega)).cons _).cons _

/-! ## Formats -/

/-- Every conversion is followed by a literal byte that cannot belong to a number. -/
def separated : List Piece → Bool
  | [] => true
  | .lit _ :: rest => separated rest
  | .conv _ :: .lit byte :: rest => !alphabet.contains byte && separated rest
  | .conv _ :: _ => false

theorem separated_conv {conversion : Conv} {pieces : List Piece}
    (separate : separated (.conv conversion :: pieces) = true) :
    ∃ byte rest, pieces = .lit byte :: rest ∧ byte ∉ alphabet ∧ separated pieces = true := by
  cases pieces with
  | nil => simp [separated] at separate
  | cons piece rest =>
      cases piece with
      | conv other => simp [separated] at separate
      | lit byte =>
          simp only [separated, Bool.and_eq_true, Bool.not_eq_true', List.contains_eq_mem,
            decide_eq_false_iff_not] at separate
          exact ⟨byte, rest, rfl, separate⟩

section Render

variable {Arg : Type*} (text : Arg → Conv → List UInt8) (missing : List UInt8)

/-- The formatted line; a conversion without an argument prints `missing`. -/
def render : List Piece → List Arg → List UInt8
  | .lit byte :: rest, args => byte :: render rest args
  | .conv conversion :: rest, arg :: args => text arg conversion ++ render rest args
  | .conv _ :: rest, [] => missing ++ render rest []
  | [], _ => []

/-- The literal bytes before the first conversion. -/
def start : List Piece → List UInt8
  | .lit byte :: rest => byte :: start rest
  | _ => []

variable {text missing} in
theorem start_isPrefix (pieces : List Piece) (args : List Arg) :
    start pieces <+: render text missing pieces args := by
  induction pieces with
  | nil => exact List.nil_prefix
  | cons piece rest ih =>
      cases piece with
      | lit byte => exact (List.cons_prefix_cons).mpr ⟨rfl, ih⟩
      | conv conversion => exact List.nil_prefix

end Render

section Fixed

variable {Arg World : Type*} (text : World → Arg → Conv → List UInt8) (missing : World → List UInt8)
  (fixed : Arg → Conv → Prop) (missingFixed : Prop)

/-- Every argument is `fixed` for its conversion, and so is what stands for a missing one. -/
def AllFixed : List Piece → List Arg → Prop
  | .lit _ :: rest, args => AllFixed rest args
  | .conv conversion :: rest, arg :: args => fixed arg conversion ∧ AllFixed rest args
  | .conv _ :: rest, [] => missingFixed ∧ AllFixed rest []
  | [], _ => True

/-- The conversions of a format. -/
def convs : List Piece → List Conv
  | [] => []
  | .lit _ :: rest => convs rest
  | .conv conversion :: rest => conversion :: convs rest

variable {fixed missingFixed} in
theorem allFixed_iff {pieces : List Piece} {args : List Arg}
    (complete : args.length = (convs pieces).length) :
    AllFixed fixed missingFixed pieces args ↔
      ∀ pair ∈ args.zip (convs pieces), fixed pair.1 pair.2 := by
  induction pieces, args using render.induct with
  | case1 byte rest args ih => exact ih complete
  | case2 conversion rest arg args ih =>
      rw [convs, List.zip_cons_cons, List.forall_mem_cons, AllFixed,
        ih (Nat.succ.inj complete)]
  | case3 conversion rest ih => exact absurd complete (by simp [convs])
  | case4 => simp [convs, AllFixed]

variable {fixed missingFixed} in
theorem AllFixed.missing_fixed {pieces : List Piece} {args : List Arg}
    (all : AllFixed fixed missingFixed pieces args) (fewer : args.length < (convs pieces).length) :
    missingFixed := by
  induction pieces, args using render.induct with
  | case1 byte rest args ih => exact ih all fewer
  | case2 conversion rest arg args ih => exact ih all.2 (Nat.lt_of_succ_lt_succ fewer)
  | case3 conversion rest ih => exact all.1
  | case4 => exact absurd fewer (by simp [convs])

/-- The number of literal bytes of a format. -/
def litCount : List Piece → ℕ
  | [] => 0
  | .lit _ :: rest => litCount rest + 1
  | .conv _ :: rest => litCount rest

theorem length_render {text : Arg → Conv → List UInt8} {missing : List UInt8}
    {pieces : List Piece} {args : List Arg} (complete : args.length = (convs pieces).length) :
    (render text missing pieces args).length = litCount pieces +
      ((args.zip (convs pieces)).map fun pair => (text pair.1 pair.2).length).sum := by
  induction pieces, args using render.induct with
  | case1 byte rest args ih =>
      rw [render, List.length_cons, ih complete, litCount, convs]
      omega
  | case2 conversion rest arg args ih =>
      rw [render, List.length_append, ih (Nat.succ.inj complete), litCount, convs,
        List.zip_cons_cons, List.map_cons, List.sum_cons, Nat.add_left_comm]
  | case3 conversion rest ih => exact absurd complete (by simp [convs])
  | case4 => simp [render, convs, litCount]

theorem render_eq_of_allFixed
    (sameText : ∀ arg conversion, fixed arg conversion →
      ∀ world world', text world arg conversion = text world' arg conversion)
    (sameMissing : missingFixed → ∀ world world', missing world = missing world')
    {pieces : List Piece} {args : List Arg} (all : AllFixed fixed missingFixed pieces args)
    (world world' : World) :
    render (text world) (missing world) pieces args =
      render (text world') (missing world') pieces args := by
  induction pieces, args using render.induct with
  | case1 byte rest args ih =>
      simp only [render, List.cons.injEq, true_and]
      exact ih all
  | case2 conversion rest arg args ih =>
      simp only [render]
      rw [sameText arg conversion all.1 world world', ih all.2]
  | case3 conversion rest ih =>
      simp only [render]
      rw [ih all.2, sameMissing all.1 world world']
  | case4 => rfl

/-- Two lines differ at a position that is not the last one of both. -/
def VisiblyDiffer (left right : List UInt8) : Prop :=
  ∃ (i : ℕ) (a b : UInt8), left[i]? = some a ∧ right[i]? = some b ∧ a ≠ b ∧
    (i + 1 < left.length ∨ i + 1 < right.length)

theorem VisiblyDiffer.cons {left right : List UInt8} (byte : UInt8)
    (differ : VisiblyDiffer left right) : VisiblyDiffer (byte :: left) (byte :: right) := by
  obtain ⟨i, a, b, atLeft, atRight, ne, longer⟩ := differ
  refine ⟨i + 1, a, b, by simpa using atLeft, by simpa using atRight, ne, ?_⟩
  simp only [List.length_cons]
  omega

theorem VisiblyDiffer.append {left right : List UInt8} (front : List UInt8)
    (differ : VisiblyDiffer left right) : VisiblyDiffer (front ++ left) (front ++ right) := by
  induction front with
  | nil => exact differ
  | cons byte front ih => exact ih.cons byte

theorem Diverge.visiblyDiffer {left right : List UInt8} {stop : UInt8}
    (diverge : Diverge left right stop) (leftRest rightRest : List UInt8) :
    VisiblyDiffer (left ++ stop :: leftRest) (right ++ stop :: rightRest) := by
  obtain ⟨i, a, b, atLeft, atRight, ne⟩ := diverge
  have extend : ∀ {line rest : List UInt8} {byte : UInt8}, (line ++ [stop])[i]? = some byte →
      (line ++ stop :: rest)[i]? = some byte := by
    intro line rest byte found
    have whole : line ++ stop :: rest = (line ++ [stop]) ++ rest := by simp
    rw [whole, List.getElem?_append_left (List.getElem?_eq_some_iff.1 found).1]
    exact found
  refine ⟨i, a, b, extend atLeft, extend atRight, ne, ?_⟩
  -- at the last position of both lines stands `stop`
  by_contra short
  simp only [List.length_append, List.length_cons] at short
  have inLeft := (List.getElem?_eq_some_iff.1 atLeft).1
  have inRight := (List.getElem?_eq_some_iff.1 atRight).1
  simp only [List.length_append, List.length_cons, List.length_nil] at inLeft inRight
  have lastLeft : i = left.length := by omega
  have lastRight : i = right.length := by omega
  subst lastLeft
  rw [lastRight] at atRight
  simp only [List.getElem?_concat_length, Option.some.injEq] at atLeft atRight
  exact ne (atLeft.symm.trans atRight)

theorem exists_visiblyDiffer
    (sameText : ∀ arg conversion, fixed arg conversion →
      ∀ world world', text world arg conversion = text world' arg conversion)
    (textDiverges : ∀ arg conversion stop, ¬fixed arg conversion → stop ∉ alphabet →
      ∃ world world', Diverge (text world arg conversion) (text world' arg conversion) stop)
    (sameMissing : missingFixed → ∀ world world', missing world = missing world')
    (missingDiverges : ∀ stop, ¬missingFixed → stop ∉ alphabet →
      ∃ world world', Diverge (missing world) (missing world') stop)
    {pieces : List Piece} {args : List Arg} (separate : separated pieces = true)
    (notAll : ¬AllFixed fixed missingFixed pieces args) :
    ∃ world world', VisiblyDiffer (render (text world) (missing world) pieces args)
      (render (text world') (missing world') pieces args) := by
  induction pieces, args using render.induct with
  | case1 byte rest args ih =>
      obtain ⟨world, world', differ⟩ := ih separate notAll
      exact ⟨world, world', differ.cons byte⟩
  | case2 conversion rest arg args ih =>
      rcases separated_conv separate with ⟨byte, rest, rfl, outside, separate⟩
      by_cases isFixed : fixed arg conversion
      · have rest : ¬AllFixed fixed missingFixed (.lit byte :: rest) args :=
          fun all => notAll ⟨isFixed, all⟩
        obtain ⟨world, world', differ⟩ := ih separate rest
        refine ⟨world, world', ?_⟩
        simp only [render] at differ ⊢
        rw [sameText arg conversion isFixed world world']
        exact differ.append _
      · obtain ⟨world, world', diverge⟩ :=
          textDiverges arg conversion byte isFixed outside
        exact ⟨world, world', diverge.visiblyDiffer _ _⟩
  | case3 conversion rest ih =>
      rcases separated_conv separate with ⟨byte, rest, rfl, outside, separate⟩
      by_cases isFixed : missingFixed
      · have rest : ¬AllFixed fixed missingFixed (.lit byte :: rest) [] :=
          fun all => notAll ⟨isFixed, all⟩
        obtain ⟨world, world', differ⟩ := ih separate rest
        refine ⟨world, world', ?_⟩
        simp only [render] at differ ⊢
        simpa only [sameMissing isFixed world world'] using differ.append (missing world)
      · obtain ⟨world, world', diverge⟩ := missingDiverges byte isFixed outside
        exact ⟨world, world', diverge.visiblyDiffer _ _⟩
  | case4 => simp [AllFixed] at notAll

end Fixed

end Printf

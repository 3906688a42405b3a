import Mica.Endpoint.Services

/-!
# The names that the services accept

`rpmsg_tty_match` compares as many bytes as the shorter of the two names has, so it
accepts every beginning of "rpmsg-tty" besides the names that start with it. The other
two services compare whole names.
-/

namespace Mica.Endpoint

/-- The services that bind endpoints. -/
inductive BindingService where
  | tty
  | rpc
  | umt
deriving DecidableEq

def BindingService.nsMatch : BindingService → NsMatch
  | tty => rpmsgTtyMatch
  | rpc => rpcNameMatch
  | umt => umtNameMatch

/-- The terminal service accepts "rpmsg-tty*", the others their own name, and no name is for two
services. -/
structure MatchesAsDocumented (rdev : ℕ) (name : CString) (addr dest : UInt32) : Prop where
  tty : rpmsgTtyMatch rdev name addr dest = true ↔ rpmsgTtyName.bytes <+: name.bytes
  rpc : rpcNameMatch rdev name addr dest = true ↔ name = rpmsgRpcEptName
  umt : umtNameMatch rdev name addr dest = true ↔ name = rpmsgUmtName
  unique : ∀ first second : BindingService, first.nsMatch rdev name addr dest = true →
    second.nsMatch rdev name addr dest = true → first = second

/-- The name is a beginning of "rpmsg-tty", but not all of it. -/
def IsCutTtyName (name : CString) : Prop :=
  name.bytes <+: rpmsgTtyName.bytes ∧ name ≠ rpmsgTtyName

section Accepts

variable (rdev : ℕ) (name : CString) (addr dest : UInt32)

theorem rpmsgTtyMatch_iff : rpmsgTtyMatch rdev name addr dest = true ↔
    rpmsgTtyName.bytes <+: name.bytes ∨ name.bytes <+: rpmsgTtyName.bytes := by
  rw [rpmsgTtyMatch, strncmpEq, decide_eq_true_iff]
  by_cases shorter : name.length < rpmsgTtyName.length
  · rw [if_pos shorter, CString.length, List.take_length, ← List.prefix_iff_eq_take]
    refine ⟨Or.inr, ?_⟩
    rintro (longer | isPrefix)
    · exact absurd longer.length_le (Nat.not_le.2 shorter)
    · exact isPrefix
  · rw [if_neg shorter, CString.length, List.take_length, eq_comm, ← List.prefix_iff_eq_take]
    refine ⟨Or.inl, ?_⟩
    rintro (isPrefix | whole)
    · exact isPrefix
    · have same := whole.eq_of_length_le (Nat.not_lt.1 shorter)
      exact ⟨[], (List.append_nil _).trans same.symm⟩

theorem rpcNameMatch_iff : rpcNameMatch rdev name addr dest = true ↔ name = rpmsgRpcEptName :=
  decide_eq_true_iff

theorem umtNameMatch_iff : umtNameMatch rdev name addr dest = true ↔ name = rpmsgUmtName :=
  decide_eq_true_iff

/-- The names that a service accepts. -/
def BindingService.Accepts (name : CString) : BindingService → Prop
  | tty => rpmsgTtyName.bytes <+: name.bytes ∨ name.bytes <+: rpmsgTtyName.bytes
  | rpc => name = rpmsgRpcEptName
  | umt => name = rpmsgUmtName

theorem nsMatch_iff (service : BindingService) :
    service.nsMatch rdev name addr dest = true ↔ service.Accepts name := by
  cases service with
  | tty => exact rpmsgTtyMatch_iff rdev name addr dest
  | rpc => exact rpcNameMatch_iff rdev name addr dest
  | umt => exact umtNameMatch_iff rdev name addr dest

end Accepts

theorem not_accepts_tty {name : CString} (other : name = rpmsgRpcEptName ∨ name = rpmsgUmtName) :
    ¬BindingService.tty.Accepts name := by
  rcases other with rfl | rfl
  · unfold BindingService.Accepts
    decide
  · unfold BindingService.Accepts
    decide

/-- Whatever order the services are registered in, a name is for one of them at most. -/
theorem accepts_unique {name : CString} (first second : BindingService)
    (accepts : first.Accepts name) (acceptsToo : second.Accepts name) : first = second := by
  have different : rpmsgRpcEptName ≠ rpmsgUmtName := by decide
  cases first with
  | tty =>
      cases second with
      | tty => rfl
      | rpc => exact absurd accepts (not_accepts_tty (Or.inl acceptsToo))
      | umt => exact absurd accepts (not_accepts_tty (Or.inr acceptsToo))
  | rpc =>
      cases second with
      | tty => exact absurd acceptsToo (not_accepts_tty (Or.inl accepts))
      | rpc => rfl
      | umt => exact absurd (accepts.symm.trans acceptsToo) different
  | umt =>
      cases second with
      | tty => exact absurd acceptsToo (not_accepts_tty (Or.inr accepts))
      | rpc => exact absurd (acceptsToo.symm.trans accepts) different
      | umt => rfl

/-- The services accept the names that they should exactly if the name is not a cut "rpmsg-tty". -/
theorem matchesAsDocumented_iff (rdev : ℕ) (name : CString) (addr dest : UInt32) :
    MatchesAsDocumented rdev name addr dest ↔ ¬IsCutTtyName name := by
  constructor
  · rintro documented ⟨isPrefix, notWhole⟩
    have whole := documented.tty.1 ((rpmsgTtyMatch_iff _ _ _ _).2 (Or.inr isPrefix))
    exact notWhole (CString.ext (isPrefix.eq_of_length_le whole.length_le))
  · intro notCut
    refine ⟨(rpmsgTtyMatch_iff _ _ _ _).trans ⟨?_, Or.inl⟩, rpcNameMatch_iff _ _ _ _,
      umtNameMatch_iff _ _ _ _, ?_⟩
    · rintro (isPrefix | cut)
      · exact isPrefix
      · by_contra notPrefix
        apply notCut
        refine ⟨cut, ?_⟩
        rintro rfl
        exact notPrefix (List.prefix_refl _)
    · intro first second accepts acceptsToo
      exact accepts_unique first second ((nsMatch_iff _ _ _ _ first).1 accepts)
        ((nsMatch_iff _ _ _ _ second).1 acceptsToo)

/-- "rpmsg" -/
def rpmsgName : CString := ⟨[0x72, 0x70, 0x6d, 0x73, 0x67], by decide⟩

/-- The terminal service takes an endpoint with the name "rpmsg", and one without a name. -/
theorem not_matchesAsDocumented_rpmsg : ¬MatchesAsDocumented 0 rpmsgName 1024 rpmsgAddrAny ∧
    ¬MatchesAsDocumented 0 ⟨[], List.not_mem_nil⟩ 1024 rpmsgAddrAny := by
  constructor
  · intro documented
    exact absurd (documented.tty.1 rfl) (by decide)
  · intro documented
    exact absurd (documented.tty.1 rfl) (by decide)

end Mica.Endpoint

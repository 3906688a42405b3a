import Mica.Rpc.Reported
import Mathlib.Data.List.Induction

/-!
# Error numbers along a history of requests

`errno` belongs to the thread: it survives a request, a write of the log may set it,
and only `set_rsp_base` clears it. The error number of a response is the one of the
handler's own call as long as nothing else has set `errno` in between.
-/

namespace Mica.Rpc

open Cells

/-! ## `errno` after some calls -/

/-- Where `errno` is set, it is a positive `int`. -/
def ErrnosPositive (results : ℕ → OsResult) : Prop :=
  ∀ time, ∀ errno ∈ (results time).errno, 0 < errno ∧ errno < 2 ^ 31

/-- The `errno` that the last own call has set; 0 if it has not failed. -/
def ownErrno (own : List OsCall) (made : List Made) : ℤ :=
  ((ownResult own none made).bind OsResult.errno).getD 0

/-- The `errno` that the calls behind the last own one have set. -/
def laterErrno (own : List OsCall) (made : List Made) : Option ℤ :=
  made.foldl (fun found call => bif call.isOwn own then none else call.result.errno.or found) none

/-- Nothing but the own call decides `errno`: after a failure no other call leaves another value,
and otherwise `errno` was 0 and no call has set it. -/
def Undisturbed (own : List OsCall) (errno : ℤ) (made : List Made) : Prop :=
  match (ownResult own none made).bind OsResult.errno with
  | some failure => ∀ later ∈ laterErrno own made, later = failure
  | none => errno.bmod (2 ^ 32) = 0 ∧ ∀ call ∈ made, call.result.errno = none

theorem errnoAfter_of_failed {own : List OsCall} {made : List Made} {failure : ℤ} (errno : ℤ)
    (failed : (ownResult own none made).bind OsResult.errno = some failure) :
    errnoAfter made errno = (laterErrno own made).getD failure := by
  induction made using List.reverseRecOn with
  | nil => cases failed
  | append_singleton made call ih =>
      simp only [errnoAfter, laterErrno, ownResult, List.foldl_append, List.foldl_cons,
        List.foldl_nil] at failed ih ⊢
      cases isOwn : call.isOwn own with
      | true =>
          simp only [isOwn, cond_true, Option.bind_some] at failed ⊢
          simp [failed]
      | false =>
          simp only [isOwn, cond_false] at failed ⊢
          rw [ih failed]
          cases call.result.errno <;> rfl

theorem errnoAfter_of_quiet {made : List Made} {errno : ℤ}
    (quiet : ∀ call ∈ made, call.result.errno = none) : errnoAfter made errno = errno := by
  induction made with
  | nil => rfl
  | cons call made ih =>
      rw [errnoAfter, List.foldl_cons, quiet call List.mem_cons_self]
      exact ih fun later listed => quiet later (List.mem_cons_of_mem _ listed)

theorem errnoAfter_pos {made : List Made} (errno : ℤ)
    (positive : ∀ call ∈ made, ∀ errno ∈ call.result.errno, 0 < errno ∧ errno < 2 ^ 31)
    (loud : ¬∀ call ∈ made, call.result.errno = none) :
    0 < errnoAfter made errno ∧ errnoAfter made errno < 2 ^ 31 := by
  induction made using List.reverseRecOn with
  | nil => exact absurd (fun _ listed => absurd listed List.not_mem_nil) loud
  | append_singleton made call ih =>
      have last : call ∈ made ++ [call] := List.mem_append_right _ (List.mem_singleton_self _)
      rw [errnoAfter, List.foldl_append, List.foldl_cons, List.foldl_nil]
      cases set : call.result.errno with
      | some value => exact positive call last value set
      | none =>
          refine ih (fun other listed => positive other (List.mem_append_left _ listed)) ?_
          intro quiet
          apply loud
          intro other listed
          rcases List.mem_append.1 listed with before | here
          · exact quiet other before
          · rwa [List.mem_singleton.1 here]

theorem bmod_of_positive {errno : ℤ} (positive : 0 < errno ∧ errno < 2 ^ 31) :
    errno.bmod (2 ^ 32) = errno := by
  apply Int.bmod_eq_of_le <;> omega

theorem laterErrno_mem {own : List OsCall} {made : List Made} {errno : ℤ}
    (later : errno ∈ laterErrno own made) : ∃ call ∈ made, errno ∈ call.result.errno := by
  induction made using List.reverseRecOn with
  | nil => cases later
  | append_singleton made call ih =>
      have last : call ∈ made ++ [call] := List.mem_append_right _ (List.mem_singleton_self _)
      rw [laterErrno, List.foldl_append, List.foldl_cons, List.foldl_nil] at later
      cases isOwn : call.isOwn own with
      | true =>
          rw [isOwn] at later
          cases later
      | false =>
          rw [isOwn, cond_false] at later
          cases set : call.result.errno with
          | some value =>
              rw [set] at later
              exact ⟨call, last, set.trans later⟩
          | none =>
              rw [set] at later
              rcases ih later with ⟨other, listed, sets⟩
              exact ⟨other, List.mem_append_left _ listed, sets⟩

theorem ownResult_mem {own : List OsCall} {made : List Made} {result : OsResult}
    (found : ownResult own none made = some result) : ∃ call ∈ made, call.result = result := by
  induction made using List.reverseRecOn with
  | nil => cases found
  | append_singleton made call ih =>
      rw [ownResult, List.foldl_append, List.foldl_cons, List.foldl_nil] at found
      cases isOwn : call.isOwn own with
      | true =>
          rw [isOwn] at found
          exact ⟨call, List.mem_append_right _ (List.mem_singleton_self _), Option.some.inj found⟩
      | false =>
          rw [isOwn] at found
          rcases ih found with ⟨other, listed, same⟩
          exact ⟨other, List.mem_append_left _ listed, same⟩

theorem errnoAfter_eq_ownErrno_iff {own : List OsCall} {made : List Made} (errno : ℤ)
    (positive : ∀ call ∈ made, ∀ errno ∈ call.result.errno, 0 < errno ∧ errno < 2 ^ 31) :
    (errnoAfter made errno).bmod (2 ^ 32) = ownErrno own made ↔ Undisturbed own errno made := by
  cases failed : (ownResult own none made).bind OsResult.errno with
  | some failure =>
      rw [Undisturbed, ownErrno, failed, errnoAfter_of_failed errno failed]
      rcases Option.bind_eq_some_iff.1 failed with ⟨result, found, set⟩
      rcases ownResult_mem found with ⟨call, listed, rfl⟩
      cases later : laterErrno own made with
      | none => simpa using bmod_of_positive (positive call listed failure set)
      | some value =>
          rcases laterErrno_mem later with ⟨other, otherListed, otherSet⟩
          have inRange : value.bmod (2 ^ 32) = value :=
            bmod_of_positive (positive other otherListed value otherSet)
          rw [Option.getD_some, Option.getD_some, inRange]
          exact ⟨fun same _ here => (Option.some.inj here).symm.trans same,
            fun same => same value rfl⟩
  | none =>
      rw [Undisturbed, ownErrno, failed]
      constructor
      · intro zero
        by_cases quiet : ∀ call ∈ made, call.result.errno = none
        · rw [errnoAfter_of_quiet quiet] at zero
          exact ⟨zero, quiet⟩
        · have loud := errnoAfter_pos errno positive quiet
          rw [bmod_of_positive loud] at zero
          exact absurd zero loud.1.ne'
      · rintro ⟨zero, quiet⟩
        rw [errnoAfter_of_quiet quiet]
        exact zero

/-! ## One request -/

theorem mem_made {results : ℕ → OsResult} {α : Type} (program : Program α) (state : State) :
    ∀ call ∈ program.made results state, ∃ time, call.result = results time := by
  induction program generalizing state with
  | pure value => intro call listed; cases listed
  | fault => intro call listed; cases listed
  | setErrno value next ih => intro call listed; cases listed
  | send id status size next ih => intro call listed; cases listed
  | peek read next ih => exact ih _ state
  | getErrno next ih => exact ih _ state
  | enter handler next ih => exact ih state
  | log format args next ih =>
      intro call listed
      rcases List.mem_cons.1 listed with rfl | later
      · exact ⟨_, rfl⟩
      · exact ih _ call later
  | sys function args arrays next ih =>
      intro call listed
      rcases List.mem_cons.1 listed with rfl | later
      · exact ⟨_, rfl⟩
      · exact ih _ _ call later
  | store field data next ih =>
      intro call listed
      simp only [Program.made] at listed
      split at listed
      · exact ih _ call listed
      · cases listed
  | copy dst src count next ih =>
      intro call listed
      simp only [Program.made] at listed
      split at listed
      · exact ih _ call listed
      · cases listed

section Requests

variable (results : ℕ → OsResult)

/-- Every response of a handler has the error number of the handler's own call. -/
def Request.ErrnumOwn (request : Request) (state : State) : Prop :=
  ∀ handler ∈ request.handler?, ∀ frame ∈ request.responses results state,
    respErrnum.int (asResponse frame.params) =
      ownErrno handler.ownCalls (handler.body.made results (request.entry results state))

/-- If the handler responds, nothing but its own call decides `errno`. -/
def Request.ErrnoUndisturbed (request : Request) (state : State) : Prop :=
  ∀ handler ∈ request.handler?, request.responses results state ≠ [] →
    Undisturbed handler.ownCalls (request.entry results state).errno
      (handler.body.made results (request.entry results state))

variable {results}

theorem Request.errnumOwn_iff (positive : ErrnosPositive results) (request : Request)
    (state : State) :
    request.ErrnumOwn results state ↔ request.ErrnoUndisturbed results state := by
  have errnum : ∀ handler ∈ request.handler?, ∀ frame ∈ request.responses results state,
      respErrnum.int (asResponse frame.params) =
        (errnoAfter (handler.body.made results (request.entry results state))
          (request.entry results state).errno).bmod (2 ^ 32) := by
    intro handler found frame sent
    rw [Request.responses_eq found] at sent
    exact int_of_holds (handler.replies _ _ _ rfl frame sent).1
  have exact : ∀ handler : Handler, _ := fun handler =>
    @errnoAfter_eq_ownErrno_iff handler.ownCalls _ (request.entry results state).errno
      fun call listed => by
        rcases mem_made handler.body (request.entry results state) call listed with ⟨time, same⟩
        rw [same]
        exact positive time
  constructor
  · intro own handler found responds
    rcases List.exists_mem_of_ne_nil _ responds with ⟨frame, sent⟩
    apply (exact handler).1
    rw [← errnum handler found frame sent]
    exact own handler found frame sent
  · intro undisturbed handler found frame sent
    rw [errnum handler found frame sent]
    apply (exact handler).2
    exact undisturbed handler found (List.ne_nil_of_mem sent)

/-! ## Histories -/

variable (results) in
/-- The state that a request leaves; a fault ends the server. -/
def Request.served (state : Option State) (request : Request) : Option State :=
  state.bind fun state =>
    ((rpmsgRpcServerCb request.message).final results (request.arrive state)).map Prod.snd

variable (results) in
/-- The state after the requests. -/
def afterRequests (initial : State) (requests : List Request) : Option State :=
  requests.foldl (Request.served results) (some initial)

variable (results) in
/-- The property of every request of the history, in the state that the requests before it have
left. -/
def Throughout (initial : State) (requests : List Request) (P : Request → State → Prop) : Prop :=
  ∀ before request, before ++ [request] <+: requests →
    ∀ state ∈ afterRequests results initial before, P request state

theorem errnumOwn_throughout_iff (positive : ErrnosPositive results) (initial : State)
    (requests : List Request) :
    Throughout results initial requests (Request.ErrnumOwn results) ↔
      Throughout results initial requests (Request.ErrnoUndisturbed results) := by
  constructor
  · intro own before request extends' state reached
    exact (request.errnumOwn_iff positive state).1 (own before request extends' state reached)
  · intro undisturbed before request extends' state reached
    exact (request.errnumOwn_iff positive state).2
      (undisturbed before request extends' state reached)

end Requests

/-- A request that consists of the function id. -/
def bareRequest (id : ℕ) : Request := ⟨callOf id, fun _ => 0, fun _ => 0⟩

/-- The output of `printf` is a broken pipe; every other call succeeds. -/
def brokenPipe (time : ℕ) : OsResult := if time = 2 then { errno := some 32 } else {}

theorem errnosPositive_brokenPipe : ErrnosPositive brokenPipe := by
  intro time errno set
  rw [brokenPipe] at set
  split at set
  · rw [← Option.some.inj set]
    decide
  · cases set

theorem findService_unlink :
    findService ((callOf unlinkId).id % 2 ^ 32) = some ⟨unlinkId, .handleUnlink⟩ := by
  decide

theorem handler?_unlink : (bareRequest unlinkId).handler? = some .handleUnlink := by
  have fits : (bareRequest unlinkId).message.len ≤ rpcBufferSize := show 8 ≤ rpcBufferSize by decide
  rw [Request.handler?, if_pos fits, bareRequest, findService_unlink]
  rfl

/-- There is no file to unlink; every other call succeeds. -/
def noSuchFile (time : ℕ) : OsResult := if time = 3 then { ret := -1, errno := some 2 } else {}

theorem errnosPositive_noSuchFile : ErrnosPositive noSuchFile := by
  intro time errno set
  rw [noSuchFile] at set
  split at set
  · rw [← Option.some.inj set]
    decide
  · cases set

/-- The response of a failed `unlink` has the error number of the call. -/
theorem errnumOwn_throughout_unlink :
    ErrnosPositive noSuchFile ∧
      (bareRequest unlinkId).responses noSuchFile ⟨fun _ => 0, 0, 0⟩ ≠ [] ∧
      Throughout noSuchFile ⟨fun _ => 0, 0, 0⟩ [bareRequest unlinkId]
        (Request.ErrnumOwn noSuchFile) := by
  refine ⟨errnosPositive_noSuchFile, ?_,
    (errnumOwn_throughout_iff errnosPositive_noSuchFile _ _).mpr ?_⟩
  · rw [Request.responses_eq handler?_unlink]
    exact List.cons_ne_nil _ _
  · intro before request first state reached handler found _
    cases before with
    | nil =>
        obtain rfl : request = bareRequest unlinkId := (List.cons_prefix_cons.mp first).1
        obtain rfl : _ = state := Option.some.inj reached
        rw [handler?_unlink, Option.mem_some_iff] at found
        subst found
        intro later set
        change none = some later at set
        cases set
    | cons served before =>
        have empty := List.prefix_nil.mp (List.cons_prefix_cons.mp first).2
        exact absurd empty (List.append_ne_nil_of_right_ne_nil _ (List.cons_ne_nil _ _))

theorem afterRequests_printf : ∃ memory, afterRequests brokenPipe ⟨fun _ => 0, 0, 0⟩
    [bareRequest printfId] = some ⟨memory, 32, 5⟩ := by
  have fits : (callOf printfId).len ≤ rpcBufferSize := show 8 ≤ rpcBufferSize by decide
  have found : findService ((callOf printfId).id % 2 ^ 32) = some ⟨printfId, .handlePrintf⟩ := by
    decide
  rw [afterRequests, List.foldl_cons, List.foldl_nil, Request.served, Option.bind_some, bareRequest,
    rpmsgRpcServerCb_of_found fits found]
  exact ⟨_, rfl⟩

/-- `printf` sends no response, so a failure of its call is reported for the next request: `unlink`
succeeds and its response has error number 32. -/
theorem not_errnumOwn_printf_unlink :
    ¬Throughout brokenPipe ⟨fun _ => 0, 0, 0⟩ [bareRequest printfId, bareRequest unlinkId]
      (Request.ErrnumOwn brokenPipe) := by
  intro own
  rcases afterRequests_printf with ⟨memory, reached⟩
  have undisturbed := ((bareRequest unlinkId).errnumOwn_iff errnosPositive_brokenPipe _).1
    (own [bareRequest printfId] _ (List.prefix_refl _) _ reached)
  have responds : (bareRequest unlinkId).responses brokenPipe ⟨memory, 32, 5⟩ ≠ [] := by
    have fits : (callOf unlinkId).len ≤ rpcBufferSize := show 8 ≤ rpcBufferSize by decide
    rw [Request.responses, bareRequest, frames_serve_of_found _ _ _ fits findService_unlink]
    exact frames_unlink_ne_nil _ _ _ _
  have succeeded : (ownResult [.unlink] none (rpmsgHandleUnlink.made brokenPipe
      ((bareRequest unlinkId).entry brokenPipe ⟨memory, 32, 5⟩))).bind OsResult.errno = none := rfl
  have decides := undisturbed .handleUnlink handler?_unlink responds
  rw [Undisturbed, Handler.ownCalls, Handler.body, succeeded] at decides
  have cleared : (32 : ℤ).bmod (2 ^ 32) = 0 := decides.1
  exact absurd cleared (by decide)

end Mica.Rpc

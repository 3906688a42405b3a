import Mica.Rpc.Dispatch

/-!
# The answers of a run

What `rpmsg_rpc_server_cb` does with a message, in every run: the handler that it
enters and the frames that are sent. A client can match the answers to its calls
for every function id but three kinds: two ids of the table, and the ids that the
table holds only after the cut to 32 bits.
-/

namespace Mica.Rpc

open Cells

structure Frame where
  id : ℕ
  status : Status
  params : List UInt8

def Event.frame? : Event → Option Frame
  | .frame id status params => some ⟨id, status, params⟩
  | _ => none

def Event.handler? : Event → Option Handler
  | .enter handler => some handler
  | _ => none

def frames (events : List Event) : List Frame := events.filterMap Event.frame?

def handlersRun (events : List Event) : List Handler := events.filterMap Event.handler?

/-! ## Answers along a run -/

theorem TraceAt.overwrite {memory : Mem} {trace : List UInt8} {set : Prop}
    (traceAt : TraceAt memory trace set) {field : Field} (keeps : KeepsTrace field)
    (data : List UInt8) : TraceAt (Cells.overwrite memory field data) trace set := by
  have request : load (Cells.overwrite memory field data) traceId 4 = load memory traceId 4 := by
    apply load_congr
    intro i bound
    by_cases same : field.region = .req
    · have behind := keeps.1 same
      exact overwrite_of_lt (show 8 + i < field.off by omega)
    · exact overwrite_of_region_ne (fun eq => same eq.symm)
  have response :
      load (Cells.overwrite memory field data) respTraceId 4 = load memory respTraceId 4 := by
    apply load_congr
    intro i bound
    by_cases same : field.region = .resp
    · have behind := keeps.2 same
      exact overwrite_of_lt (show 0 + i < field.off by omega)
    · exact overwrite_of_region_ne (fun eq => same eq.symm)
  exact ⟨request.trans traceAt.1, fun isSet => response.trans (traceAt.2 isSet)⟩

theorem TraceAt.overwrite_resp {memory : Mem} {trace : List UInt8} {set : Prop}
    (traceAt : TraceAt memory trace set) {field : Field} (isResp : field.region = .resp)
    (data : List UInt8) : TraceAt (Cells.overwrite memory field data) trace False := by
  refine ⟨?_, False.elim⟩
  rw [← traceAt.1]
  apply load_congr
  intro i _
  exact overwrite_of_region_ne (by simp [isResp, Extent.at, traceId, reqField])

theorem TraceAt.setTrace {memory : Mem} {trace : List UInt8} {set : Prop}
    (traceAt : TraceAt memory trace set) :
    TraceAt (Cells.overwrite memory respTraceId (load memory traceId 4)) trace True := by
  refine ⟨(traceAt.overwrite_resp rfl _).1, fun _ => ?_⟩
  have copied := load_overwrite_self memory respTraceId (load memory traceId 4)
  rw [length_load] at copied
  exact copied.trans traceAt.1

/-- An event of a handler: the frames have the id and the trace id, no handler is entered. -/
def Event.Answers (id : ℕ) (trace : List UInt8) : Event → Prop
  | .frame frameId _ params => frameId = id ∧ params.take 4 = trace
  | .enter _ => False
  | _ => True

theorem Program.Answers.run {α : Type} {stack : ℕ → UInt8} {results : ℕ → OsResult} {id : ℕ}
    {trace : List UInt8} {program : Program α} :
    ∀ {set : Prop} {state : State}, program.Answers id set → TraceAt state.mem trace set →
      ∀ event ∈ program.run stack results state, event.Answers id trace := by
  induction program with
  | pure value =>
      intro set state _ _ event member
      simp [Program.run] at member
  | fault =>
      intro set state _ _ event member
      simp only [Program.run, List.mem_singleton] at member
      simp [member, Event.Answers]
  | enter handler next ih =>
      intro set state answers _
      exact answers.elim
  | log format args next ih =>
      intro set state answers traceAt event member
      rcases List.mem_cons.mp member with rfl | later
      · trivial
      · exact @ih _ (state.tick _) answers traceAt event later
  | sys call args arrays next ih =>
      intro set state answers traceAt event member
      rcases List.mem_cons.mp member with rfl | member
      · trivial
      · rcases List.mem_append.mp member with handed | later
        · obtain ⟨access, _, rfl⟩ := List.mem_map.mp handed
          trivial
        · exact @ih _ _ (state.tick _) (answers _) traceAt event later
  | store field data next ih =>
      intro set state answers traceAt event member
      simp only [Program.run] at member
      split at member
      · by_cases keeps : KeepsTrace field
        · simp only [Answers, keeps, if_true] at answers
          exact ih answers (traceAt.overwrite keeps data) event member
        · simp only [Answers, keeps, if_false] at answers
          exact ih answers.2 (traceAt.overwrite_resp answers.1 data) event member
      · simp only [List.mem_singleton] at member
        simp [member, Event.Answers]
  | copy dst src count next ih =>
      intro set state answers traceAt event member
      rcases List.mem_cons.mp member with rfl | member
      · trivial
      rcases List.mem_cons.mp member with rfl | member
      · trivial
      split at member
      next fits =>
        have rest := answers fits
        by_cases keeps : KeepsTrace dst
        · rw [if_pos keeps] at rest
          exact ih rest (traceAt.overwrite keeps _) event member
        · rw [if_neg keeps] at rest
          obtain ⟨rfl, rfl, rfl, rest⟩ := rest
          exact ih rest traceAt.setTrace event member
      next =>
        simp only [List.mem_singleton] at member
        simp [member, Event.Answers]
  | peek read next ih =>
      intro set state answers traceAt
      exact ih _ (answers _) traceAt
  | getErrno next ih =>
      intro set state answers traceAt
      exact ih _ (answers _) traceAt
  | setErrno value next ih =>
      intro set state answers traceAt
      exact ih answers traceAt
  | send frameId status size next ih =>
      intro set state answers traceAt event member
      obtain ⟨sameId, isSet, header, rest⟩ := answers
      simp only [Program.run] at member
      split at member
      · exact ih _ (rest _) traceAt event member
      · rcases List.mem_cons.mp member with rfl | later
        · refine ⟨sameId, ?_⟩
          rw [take_load _ _ header]
          exact traceAt.2 isSet
        · exact @ih _ _ (state.tick _) (rest _) traceAt event later

theorem Program.Answers.bind {α β : Type} {id : ℕ} {program : Program α} {rest : α → Program β}
    (quiet : ∀ value set, (rest value).Answers id set) :
    ∀ {set : Prop}, program.Answers id set → (program >>= rest).Answers id set := by
  induction program with
  | pure value => exact fun _ => quiet value _
  | fault => exact fun _ => trivial
  | enter handler next ih => exact fun answers => answers.elim
  | log format args next ih => exact fun answers => ih answers
  | sys call args arrays next ih => exact fun answers result => ih result (answers result)
  | peek read next ih => exact fun answers value => ih value (answers value)
  | getErrno next ih => exact fun answers value => ih value (answers value)
  | setErrno value next ih => exact fun answers => ih answers
  | store field data next ih =>
      intro set answers
      by_cases keeps : KeepsTrace field
      · have rest := (if_pos keeps).mp answers
        exact (if_pos keeps).mpr (ih rest)
      · have rest := (if_neg keeps).mp answers
        exact (if_neg keeps).mpr ⟨rest.1, ih rest.2⟩
  | copy dst src count next ih =>
      intro set answers fits
      have rest := answers fits
      by_cases keeps : KeepsTrace dst
      · rw [if_pos keeps] at rest ⊢
        exact ih rest
      · rw [if_neg keeps] at rest ⊢
        exact ⟨rest.1, rest.2.1, rest.2.2.1, ih rest.2.2.2⟩
  | send frameId status size next ih =>
      intro set answers
      exact ⟨answers.1, answers.2.1, answers.2.2.1, fun ret => ih ret (answers.2.2.2 ret)⟩

theorem frames_of_answers {id : ℕ} {trace : List UInt8} {events : List Event}
    (answers : ∀ event ∈ events, event.Answers id trace) :
    ∀ frame ∈ frames events, frame.id = id ∧ frame.params.take 4 = trace := by
  intro frame member
  obtain ⟨event, inEvents, isFrame⟩ := List.mem_filterMap.mp member
  have answered := answers event inEvents
  cases event with
  | frame frameId status params =>
      cases isFrame
      exact answered
  | _ => cases isFrame

theorem handlersRun_of_answers {id : ℕ} {trace : List UInt8} {events : List Event}
    (answers : ∀ event ∈ events, event.Answers id trace) : handlersRun events = [] := by
  rw [handlersRun, List.filterMap_eq_nil_iff]
  intro event inEvents
  have answered := answers event inEvents
  cases event with
  | enter handler => exact answered.elim
  | _ => rfl

/-! ## Dispatch -/

section Runs

variable {α : Type} {stack : ℕ → UInt8} {results : ℕ → OsResult} {state : State}

theorem run_lprintf (entry : Line) (next : Unit → Program α) :
    (lprintf entry >>= next).run stack results state =
      .log (written stack (entry.format.line entry.args state.mem)) ::
        (next ()).run stack results (state.tick (results state.clock)) := rfl

theorem run_store {field : Field} {data : List UInt8} (fits : data.length ≤ field.size)
    (next : Unit → Program α) :
    (store field data >>= next).run stack results state =
      (next ()).run stack results { state with mem := overwrite state.mem field data } :=
  if_pos fits

end Runs

section Dispatch

variable (stack : ℕ → UInt8) (results : ℕ → OsResult) (message : Message) (state : State)

/-- A run of the callback. -/
def serve : List Event := (rpmsgRpcServerCb message).run stack results state

/-- The memory once the message has been copied. -/
def received (memory : Mem) : Mem := overwrite memory requestBuffer message.bytes

/-- `req->trace_id` -/
def requestTrace (memory : Mem) : List UInt8 := load (received message memory) traceId 4

theorem separated_serviceFailed :
    Printf.separated (Printf.parse "Service failed at rpc id: %u\r\n".toList) = true := by
  decide

/-- What the callback does after the handler. -/
def reportFailure (failed : ℤ) : Program ℤ := do
  if failed ≠ 0 then
    lprintf (line "Service failed at rpc id: %u\r\n" [.int message.id] separated_serviceFailed)
  else pure ()
  pure 0

/-- The state in which the handler starts: two log lines have been written before. -/
def dispatched : State :=
  { (state.tick (results state.clock)).tick (results (state.clock + 1)) with
    mem := received message state.mem }

/-- The events of the handler and of what follows it. -/
def handlerEvents (handler : Handler) : List Event :=
  (handler.body >>= reportFailure message).run stack results (dispatched results message state)

variable {message}

theorem rpmsgRpcServerCb_of_found {service : RpcService} (fits : message.len ≤ rpcBufferSize)
    (found : findService (message.id % 2 ^ 32) = some service) :
    rpmsgRpcServerCb message = (do
      lprintf (line "ccb: src %x, len %lu\n" [.int message.src, .int message.len])
      lprintf (line "fun_id:%d\n" [.int message.id])
      store requestBuffer message.bytes
      runHandler service.cbFunction >>= reportFailure message) := by
  rw [rpmsgRpcServerCb, if_neg (by omega), found]
  rfl

theorem rpmsgRpcServerCb_of_not_found (fits : message.len ≤ rpcBufferSize)
    (missing : findService (message.id % 2 ^ 32) = none) :
    rpmsgRpcServerCb message = (do
      lprintf (line "ccb: src %x, len %lu\n" [.int message.src, .int message.len])
      lprintf (line "fun_id:%d\n" [.int message.id])
      store requestBuffer message.bytes
      lprintf (line "Handling remote procedure call errors: rpc id %u\r\n" [.int message.id])
      let _ ← rpcServerSend (message.id % 2 ^ 32) .rpmsgRpcInvalidId 0
      pure 0) := by
  rw [rpmsgRpcServerCb, if_neg (by omega), missing]

theorem length_bytes_le (fits : message.len ≤ rpcBufferSize) :
    message.bytes.length ≤ requestBuffer.size := by
  simpa [Message.bytes, requestBuffer, reqField] using fits

theorem handlersRun_serve_of_found {service : RpcService} (fits : message.len ≤ rpcBufferSize)
    (found : findService (message.id % 2 ^ 32) = some service) :
    handlersRun (serve stack results message state) = service.cbFunction ::
      handlersRun (handlerEvents stack results message state service.cbFunction) := by
  rw [serve, rpmsgRpcServerCb_of_found fits found, run_lprintf, run_lprintf,
    run_store (length_bytes_le fits)]
  rfl

variable {stack results} in
theorem frames_bind_reportFailure (body : Program ℤ) (state : State) :
    frames ((body >>= reportFailure message).run stack results state) =
      frames (body.run stack results state) := by
  have silent : ∀ (failed : ℤ) (state : State),
      frames ((reportFailure message failed).run stack results state) = [] := by
    intro failed state
    rw [reportFailure]
    split
    · rfl
    · rfl
  rw [Program.run_bind, frames, List.filterMap_append]
  cases body.final results state with
  | none => exact List.append_nil _
  | some last =>
      have nothing := silent last.1 last.2
      rw [frames] at nothing
      rw [Option.elim_some, nothing, List.append_nil, frames]

theorem frames_serve_of_found {service : RpcService} (fits : message.len ≤ rpcBufferSize)
    (found : findService (message.id % 2 ^ 32) = some service) :
    frames (serve stack results message state) =
      frames (handlerEvents stack results message state service.cbFunction) := by
  rw [serve, rpmsgRpcServerCb_of_found fits found, run_lprintf, run_lprintf,
    run_store (length_bytes_le fits)]
  rfl

theorem serve_of_not_found (fits : message.len ≤ rpcBufferSize)
    (missing : findService (message.id % 2 ^ 32) = none) :
    handlersRun (serve stack results message state) = [] ∧
      (frames (serve stack results message state)).map Frame.status = [.rpmsgRpcInvalidId] := by
  rw [serve, rpmsgRpcServerCb_of_not_found fits missing, run_lprintf, run_lprintf,
    run_store (length_bytes_le fits)]
  exact ⟨rfl, rfl⟩

theorem answers_reportFailure (id : ℕ) (failed : ℤ) (set : Prop) :
    (reportFailure message failed).Answers id set := by
  simp only [reportFailure, answers_ite, answers_lprintf]
  exact ⟨fun _ => trivial, fun _ => trivial⟩

variable (message) in
theorem answers_handlerEvents (handler : Handler) :
    ∀ event ∈ handlerEvents stack results message state handler,
      event.Answers handler.answerId (requestTrace message state.mem) :=
  (handler.answers.bind (answers_reportFailure handler.answerId)).run ⟨rfl, False.elim⟩

end Dispatch

theorem frames_unlink_ne_nil (stack : ℕ → UInt8) (results : ℕ → OsResult) (message : Message)
    (state : State) : frames (handlerEvents stack results message state .handleUnlink) ≠ [] := by
  show frames (Program.run stack results (rpmsgHandleUnlink >>= reportFailure message)
    (dispatched results message state)) ≠ []
  simp only [rpmsgHandleUnlink, commonHandler, bind_assoc, run_lprintf]
  show frames (Program.run _ _ (lerror _ _ >>= _) _) ≠ []
  unfold lerror
  split
  · exact List.cons_ne_nil _ _
  · exact List.cons_ne_nil _ _

/-! ## Correlation -/

/-- The handler of every entry with the function id runs, and what it sends has this id and the
trace id of the request; an id of no entry gets one answer, from no handler. -/
structure Correlated (message : Message) (memory : Mem) (events : List Event) : Prop where
  known : ∀ service ∈ serviceTable, service.id = message.id →
    handlersRun events = [service.cbFunction] ∧
      ∀ frame ∈ frames events,
        frame.id = message.id ∧ frame.params.take 4 = requestTrace message memory
  unknown : (∀ service ∈ serviceTable, service.id ≠ message.id) →
    handlersRun events = [] ∧ (frames events).map Frame.status = [.rpmsgRpcInvalidId]

/-- The function id is not that of `unlink`, not the one that `fileno` and `setvbuf` share, and is
not taken for another id. -/
def Distinguished (id : ℕ) : Prop :=
  id ≠ unlinkId ∧ id ≠ filenoId ∧
    (id < 2 ^ 32 ∨ ∀ service ∈ serviceTable, service.id ≠ id % 2 ^ 32)

instance (id : ℕ) : Decidable (Distinguished id) := inferInstanceAs (Decidable (_ ∧ _ ∧ (_ ∨ _)))

theorem id_lt : ∀ service ∈ serviceTable, service.id < 2 ^ 32 := by decide

theorem answerId_eq : ∀ service ∈ serviceTable, service.id ≠ unlinkId →
    service.cbFunction.answerId = service.id := by decide

theorem eq_of_id_eq : ∀ service ∈ serviceTable, service.id ≠ filenoId →
    ∀ service' ∈ serviceTable, service'.id = service.id → service' = service := by
  decide +kernel

section Correlation

variable {message : Message} (stack : ℕ → UInt8) (results : ℕ → OsResult) (state : State)

theorem correlated_of_not_found (fits : message.len ≤ rpcBufferSize)
    (missing : findService (message.id % 2 ^ 32) = none) :
    Correlated message state.mem (serve stack results message state) ∧
      Distinguished message.id := by
  have absent : ∀ service ∈ serviceTable, service.id ≠ message.id % 2 ^ 32 := by
    simpa [findService] using missing
  have noEntry : ∀ service ∈ serviceTable, service.id ≠ message.id := by
    intro service member same
    apply absent service member
    rw [← same, Nat.mod_eq_of_lt (id_lt service member)]
  have notUnlink := noEntry ⟨unlinkId, .handleUnlink⟩ (by decide)
  have notFileno := noEntry ⟨filenoId, .handleFileno⟩ (by decide)
  exact ⟨⟨fun service member same => absurd same (noEntry service member),
    fun _ => serve_of_not_found stack results state fits missing⟩,
    notUnlink.symm, notFileno.symm, Or.inr absent⟩

theorem not_correlated_of_large {service : RpcService} (fits : message.len ≤ rpcBufferSize)
    (found : findService (message.id % 2 ^ 32) = some service) (large : 2 ^ 32 ≤ message.id) :
    ¬Correlated message state.mem (serve stack results message state) := by
  intro correlated
  have noEntry : ∀ service ∈ serviceTable, service.id ≠ message.id := by
    intro service member same
    have small := id_lt service member
    omega
  have none := (correlated.unknown noEntry).1
  rw [handlersRun_serve_of_found stack results state fits found] at none
  exact List.cons_ne_nil _ _ none

theorem correlated_of_found {service : RpcService} (fits : message.len ≤ rpcBufferSize)
    (found : findService (message.id % 2 ^ 32) = some service) (member : service ∈ serviceTable)
    (sameId : service.id = message.id) (notUnlink : service.id ≠ unlinkId)
    (notFileno : service.id ≠ filenoId) :
    Correlated message state.mem (serve stack results message state) := by
  have answers := answers_handlerEvents stack results message state service.cbFunction
  refine ⟨?_, fun noEntry => absurd sameId (noEntry service member)⟩
  intro entry entryMember entryId
  have isService := eq_of_id_eq service member notFileno entry entryMember
    (entryId.trans sameId.symm)
  subst isService
  rw [handlersRun_serve_of_found stack results state fits found,
    frames_serve_of_found stack results state fits found, handlersRun_of_answers answers]
  refine ⟨rfl, ?_⟩
  have sent := frames_of_answers answers
  rwa [answerId_eq entry member notUnlink, sameId] at sent

theorem not_correlated_unlink (fits : message.len ≤ rpcBufferSize)
    (isUnlink : message.id = unlinkId) :
    ¬Correlated message state.mem (serve stack results message state) := by
  intro correlated
  have found : findService (message.id % 2 ^ 32) = some ⟨unlinkId, .handleUnlink⟩ := by
    rw [isUnlink]
    rfl
  obtain ⟨_, sent⟩ := correlated.known ⟨unlinkId, .handleUnlink⟩ (by decide) isUnlink.symm
  rw [frames_serve_of_found stack results state fits found] at sent
  have answered :=
    frames_of_answers (answers_handlerEvents stack results message state .handleUnlink)
  obtain ⟨frame, member⟩ :=
    List.exists_mem_of_ne_nil _ (frames_unlink_ne_nil stack results message state)
  have ids := (answered frame member).1.symm.trans (sent frame member).1
  rw [isUnlink] at ids
  exact absurd ids (by decide)

theorem not_correlated_fileno (isFileno : message.id = filenoId) :
    ¬Correlated message state.mem (serve stack results message state) := by
  intro correlated
  have fileno := (correlated.known ⟨filenoId, .handleFileno⟩ (by decide) isFileno.symm).1
  have setvbuf := (correlated.known ⟨setvbufId, .handleSetvbuf⟩ (by decide) isFileno.symm).1
  exact absurd (fileno.symm.trans setvbuf) (by decide)

/-- For every message that fits the buffer and every run, a client can match what it gets to its
call exactly if the function id is distinguished. -/
theorem correlated_iff_distinguished (fits : message.len ≤ rpcBufferSize) :
    Correlated message state.mem (serve stack results message state) ↔
      Distinguished message.id := by
  cases found : findService (message.id % 2 ^ 32) with
  | none =>
      have both := correlated_of_not_found stack results state fits found
      exact ⟨fun _ => both.2, fun _ => both.1⟩
  | some service =>
      have member := List.mem_of_find?_eq_some found
      have foundId : service.id = message.id % 2 ^ 32 := by
        simpa using List.find?_some found
      constructor
      · intro correlated
        refine ⟨?_, ?_, ?_⟩
        · exact fun isUnlink => not_correlated_unlink stack results state fits isUnlink correlated
        · exact fun isFileno => not_correlated_fileno stack results state isFileno correlated
        · by_contra taken
          have large : 2 ^ 32 ≤ message.id := by omega
          exact not_correlated_of_large stack results state fits found large correlated
      · rintro ⟨notUnlink, notFileno, small | absent⟩
        · have sameId : service.id = message.id := foundId.trans (Nat.mod_eq_of_lt small)
          rw [← sameId] at notUnlink notFileno
          exact correlated_of_found stack results state fits found member sameId notUnlink notFileno
        · exact absurd foundId (absent service member)

end Correlation

/-- A message of one function id and nothing else. -/
def callOf (id : ℕ) : Message := ⟨fun i => ((LittleEndian.bytes 8 id)[i]?).getD 0, 8, 0⟩

theorem correlated_close :
    Distinguished closeId ∧ Correlated (callOf closeId) (fun _ => 0)
      (serve (fun _ => 0) (fun _ => {}) (callOf closeId) ⟨fun _ => 0, 0, 0⟩) :=
  ⟨by decide, (correlated_iff_distinguished (fun _ => 0) (fun _ => {}) ⟨fun _ => 0, 0, 0⟩
    (show (8 : ℕ) ≤ rpcBufferSize by decide)).mpr (by decide)⟩

/-- The answer to `unlink` has the id of `ioctl`, `setvbuf` does not run, and `2 ^ 32 + 2` closes a
file. -/
theorem not_correlated_unlink_setvbuf_large :
    (¬Correlated (callOf unlinkId) (fun _ => 0)
      (serve (fun _ => 0) (fun _ => {}) (callOf unlinkId) ⟨fun _ => 0, 0, 0⟩)) ∧
    (¬Correlated (callOf setvbufId) (fun _ => 0)
      (serve (fun _ => 0) (fun _ => {}) (callOf setvbufId) ⟨fun _ => 0, 0, 0⟩)) ∧
    ¬Correlated (callOf (2 ^ 32 + closeId)) (fun _ => 0)
      (serve (fun _ => 0) (fun _ => {}) (callOf (2 ^ 32 + closeId)) ⟨fun _ => 0, 0, 0⟩) := by
  have fits (id : ℕ) : (callOf id).len ≤ rpcBufferSize := show 8 ≤ rpcBufferSize by decide
  refine ⟨?_, ?_, ?_⟩
  · exact not_correlated_unlink _ _ ⟨_, 0, 0⟩ (fits unlinkId) (by decide)
  · exact not_correlated_fileno _ _ ⟨_, 0, 0⟩ (show (callOf setvbufId).id = filenoId by decide)
  · have found : findService ((callOf (2 ^ 32 + closeId)).id % 2 ^ 32) =
        some ⟨closeId, .handleClose⟩ := by decide
    exact not_correlated_of_large _ _ ⟨_, 0, 0⟩ (fits _) found (by decide)

end Mica.Rpc

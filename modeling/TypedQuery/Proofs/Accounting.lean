import Mathlib.Data.List.Count
import TypedQuery.Proofs.Execution

/-!
The counters of a client. Every call that sends a request is counted once when it starts and once,
as a success or as an error, when it is done; nothing else is counted. What follows for a single
snapshot is an invariant of every sequence of calls.
-/

set_option autoImplicit false

namespace TypedQuery

-- What is done with a client or a clone of it. The policy is what the client's policy answers during
-- this call: one that keeps a state may answer otherwise in the next.
inductive Action : Type 1 where
  | prepare {α : Type} (models : ModelTable) (call : Call α)
  | execute {α : Type} (models : ModelTable) (call : Call α) (policy : RetryPolicy)
  | executeRequest (request : Request) (policy : RetryPolicy)
  | validate (oracle : TypeOracle) (text : String)

inductive Outcome : Type 1 where
  | request (result : Except Failure Request)
  | value {α : Type} (result : Except Failure α)
  | response (result : Except Failure Response)
  | verdict (result : Except Failure Unit)

def failsAsUsage {α : Type} : Except Failure α → Bool
  | .error failure => failure.isUsage
  | .ok _ => false

def Outcome.isSent : Outcome → Bool
  | .value result => !failsAsUsage result
  | .response result => !failsAsUsage result
  | .request _ | .verdict _ => false

def Outcome.isSuccess : Outcome → Bool
  | .value result => result.isOk
  | .response result => result.toOption.any Response.isOk
  | .request _ | .verdict _ => false

namespace Client

def perform (client : Client) (transport : Transport) (session : Session) : Action → Outcome × Session
  | .prepare models call => Prod.map .request id (client.prepare models call session)
  | .execute models call policy =>
      Prod.map .value id ({ client with retry := policy }.execute models transport call session)
  | .executeRequest request policy =>
      Prod.map .response id ({ client with retry := policy }.executeRequest transport request session)
  | .validate oracle text => Prod.map .verdict id (client.validate oracle text session)

def Completes (client : Client) (transport : Transport) (session : Session) : Action → Prop
  | .execute models call policy =>
      ∀ request prepared, client.prepare models call session = (.ok request, prepared) →
        ({ client with retry := policy }.lastAttempts transport request session).Nonempty
  | .executeRequest request policy => ({ client with retry := policy }.lastAttempts transport request session).Nonempty
  | .prepare _ _ | .validate _ _ => True

def performAll (client : Client) (transport : Transport) (session : Session) : List Action → List Outcome × Session
  | [] => ([], session)
  | action :: rest =>
      let performed := client.perform transport session action
      let finished := client.performAll transport performed.2 rest
      (performed.1 :: finished.1, finished.2)

def CompletesAll (client : Client) (transport : Transport) (session : Session) : List Action → Prop
  | [] => True
  | action :: rest =>
      client.Completes transport session action ∧
        client.CompletesAll transport (client.perform transport session action).2 rest

end Client

inductive Tallied (outcome : Outcome) (before after : Session) : Prop where
  | quiet (unsent : outcome.isSent = false) (events : List Event) (same : after = { before with events := events })
  | counted (sent : outcome.isSent) (repeated : Nat)
      (sends : after.sent.length = before.sent.length + 1 + repeated)
      (metrics : after.metrics =
        ⟨before.metrics.total + 1, before.metrics.success + outcome.isSuccess.toNat,
          before.metrics.error + (!outcome.isSuccess).toNat, before.metrics.retried + repeated⟩)

structure Accounted (outcomes : List Outcome) (session : Session) : Prop where
  answered : session.metrics.total = session.metrics.success + session.metrics.error
  sends : session.sent.length = session.metrics.total + session.metrics.retried
  calls : session.metrics.total = outcomes.countP Outcome.isSent
  successes : session.metrics.success = outcomes.countP Outcome.isSuccess

theorem record_metrics (ok : Bool) (session : Session) :
    (session.record ok).metrics =
      { session.metrics with
        success := session.metrics.success + ok.toNat, error := session.metrics.error + (!ok).toNat } := by
  cases ok <;> rfl

theorem unsent_not_success (outcome : Outcome) (unsent : outcome.isSent = false) : outcome.isSuccess = false := by
  cases outcome with
  | request result => rfl
  | verdict result => rfl
  | value result =>
      cases result with
      | error failure => rfl
      | ok value => exact nomatch unsent
  | response result =>
      cases result with
      | error failure => rfl
      | ok response => exact nomatch unsent

theorem answer_not_usage (request : Request) (delivery : Delivery) :
    failsAsUsage (delivery.answer request) = false := by
  unfold Delivery.answer
  cases delivery.read <;> rfl

theorem conclusion_not_usage {α : Type} (models : ModelTable) (call : Call α) (request : Request) (required : Bool)
    (response : Response) : failsAsUsage (response.conclusion models call request required) = false := by
  unfold Response.conclusion
  split
  · rfl
  · cases decodeMember models call.result response call.name required <;> rfl

theorem answered_not_usage {α : Type} (models : ModelTable) (call : Call α) (request : Request) (required : Bool)
    (delivery : Delivery) :
    failsAsUsage (delivery.answer request >>= fun response => response.conclusion models call request required) = false := by
  have sent := answer_not_usage request delivery
  cases answered : delivery.answer request with
  | error failure =>
      rw [answered] at sent
      exact sent
  | ok response => exact conclusion_not_usage models call request required response

theorem validate_frame (client : Client) (oracle : TypeOracle) (text : String) (session : Session) :
    ∃ events, (client.validate oracle text session).2 = { session with events := events } := by
  unfold Client.validate
  cases Schema.parse text with
  | error fault => exact ⟨session.events, rfl⟩
  | ok schema => exact ⟨_, rfl⟩

theorem progress_tallied (transport : Transport) (request : Request) (session after final : Session) (last : Nat)
    (outcome : Outcome) (positive : 1 ≤ last) (sent : outcome.isSent)
    (progress : Progress transport request session.countCall last (last - 1) after)
    (recorded : final = after.record outcome.isSuccess) : Tallied outcome session final := by
  subst recorded
  refine .counted sent (last - 1) ?_ ?_
  · change after.sent.length = session.sent.length + 1 + (last - 1)
    rw [progress.sent, List.length_append, List.length_replicate]
    change session.sent.length + last = session.sent.length + 1 + (last - 1)
    omega
  · rw [record_metrics, progress.metrics]
    rfl

theorem execute_tallied {α : Type} (client : Client) (models : ModelTable) (transport : Transport) (call : Call α)
    (session : Session) (ends : ∀ request prepared, client.prepare models call session = (.ok request, prepared) →
      (client.lastAttempts transport request session).Nonempty) :
    Tallied (.value (client.execute models transport call session).1) session
      (client.execute models transport call session).2 := by
  cases made : client.prepare models call session with
  | mk outcome prepared =>
      cases outcome with
      | error failure =>
          obtain ⟨⟨error, rfl⟩, rfl⟩ := prepare_error client models call session prepared failure made
          rw [execute_unprepared client models transport call prepared prepared (.usage error) made]
          exact .quiet rfl prepared.events rfl
      | ok request =>
          obtain ⟨last, least⟩ := least_last client transport request session (ends request prepared made)
          obtain ⟨result, after, progress, finished⟩ :=
            execute_progress client models transport call session prepared request last made least
          refine progress_tallied transport request session after _ last _ least.1.1 ?_ progress finished
          rw [Outcome.isSent, result, answered_not_usage, Bool.not_false]

theorem execute_request_tallied (client : Client) (transport : Transport) (request : Request) (session : Session)
    (ends : (client.lastAttempts transport request session).Nonempty) :
    Tallied (.response (client.executeRequest transport request session).1) session
      (client.executeRequest transport request session).2 := by
  obtain ⟨last, least⟩ := least_last client transport request session ends
  obtain ⟨after, answered, progress⟩ := send_progress client transport request session last least
  have finished := execute_request_session client transport request session
  rw [answered] at finished
  refine progress_tallied transport request session after _ last _ least.1.1 ?_ progress finished
  rw [Outcome.isSent, execute_request_result, answered, answer_not_usage, Bool.not_false]

theorem perform_tallied (client : Client) (transport : Transport) (session : Session) (action : Action)
    (completes : client.Completes transport session action) :
    Tallied (client.perform transport session action).1 session (client.perform transport session action).2 := by
  cases action with
  | prepare models call =>
      obtain ⟨events, frame⟩ := prepare_frame client models call session
      exact .quiet rfl events frame
  | execute models call policy =>
      exact execute_tallied { client with retry := policy } models transport call session completes
  | executeRequest request policy =>
      exact execute_request_tallied { client with retry := policy } transport request session completes
  | validate oracle text =>
      obtain ⟨events, frame⟩ := validate_frame client oracle text session
      exact .quiet rfl events frame

theorem accounted_start : Accounted [] Session.start := ⟨rfl, rfl, rfl, rfl⟩

theorem accounted_step (outcomes : List Outcome) (outcome : Outcome) (before after : Session)
    (accounted : Accounted outcomes before) (tallied : Tallied outcome before after) :
    Accounted (outcomes ++ [outcome]) after := by
  obtain ⟨answered, sends, calls, successes⟩ := accounted
  cases tallied with
  | quiet unsent events same =>
      subst same
      refine ⟨answered, sends, ?_, ?_⟩
      · rw [List.countP_append, List.countP_singleton, unsent]
        exact calls
      · rw [List.countP_append, List.countP_singleton, unsent_not_success outcome unsent]
        exact successes
  | counted sent repeated further metrics =>
      refine ⟨?_, ?_, ?_, ?_⟩
      · rw [metrics]
        cases outcome.isSuccess <;> simp only [Bool.toNat_true, Bool.toNat_false, Bool.not_true, Bool.not_false] <;> omega
      · rw [further, metrics]
        simp only
        omega
      · rw [metrics, List.countP_append, List.countP_singleton, if_pos sent, ← calls]
      · rw [metrics, List.countP_append, List.countP_singleton, ← successes]
        cases outcome.isSuccess <;> rfl

-- The induction is on the actions that are still to come.
theorem accounted_run (client : Client) (transport : Transport) (actions : List Action) (outcomes : List Outcome)
    (session : Session) (completes : client.CompletesAll transport session actions)
    (accounted : Accounted outcomes session) :
    Accounted (outcomes ++ (client.performAll transport session actions).1)
      (client.performAll transport session actions).2 := by
  induction actions generalizing outcomes session with
  | nil =>
      rw [Client.performAll, List.append_nil]
      exact accounted
  | cons action rest ih =>
      have tallied := perform_tallied client transport session action completes.1
      have next := accounted_step outcomes _ session _ accounted tallied
      have finished := ih _ _ completes.2 next
      rw [List.append_assoc] at finished
      exact finished

theorem metrics_account_for_calls (client : Client) (transport : Transport) (actions : List Action)
    (completes : client.CompletesAll transport Session.start actions) :
    (client.performAll transport Session.start actions).2.metrics.total =
        (client.performAll transport Session.start actions).2.metrics.success +
          (client.performAll transport Session.start actions).2.metrics.error ∧
      (client.performAll transport Session.start actions).2.sent.length =
        (client.performAll transport Session.start actions).2.metrics.total +
          (client.performAll transport Session.start actions).2.metrics.retried ∧
      (client.performAll transport Session.start actions).2.metrics.total =
        (client.performAll transport Session.start actions).1.countP Outcome.isSent ∧
      (client.performAll transport Session.start actions).2.metrics.success =
        (client.performAll transport Session.start actions).1.countP Outcome.isSuccess ∧
      ∀ session action, client.Completes transport session action →
        (client.perform transport session action).1.isSent = false →
          ∃ events, (client.perform transport session action).2 = { session with events := events } := by
  obtain ⟨answered, sends, calls, successes⟩ :=
    accounted_run client transport actions [] Session.start completes accounted_start
  refine ⟨answered, sends, calls, successes, ?_⟩
  intro session action ends unsent
  cases perform_tallied client transport session action ends with
  | quiet _ events same => exact ⟨events, same⟩
  | counted sent =>
      rw [unsent] at sent
      exact nomatch sent

def dropRun : List Action :=
  [.prepare Samples.models dropCall, .execute Samples.models dropCall stubbornClient.retry,
    .execute Samples.models { dropCall with name := "Drop" } RetryPolicy.never]

theorem drop_executed (session : Session) (unsent : session.sent = []) :
    (∃ value, (stubbornClient.execute Samples.models recoveringTransport dropCall session).1 = .ok value) ∧
      (stubbornClient.execute Samples.models recoveringTransport dropCall session).2.sent.length = 2 := by
  obtain ⟨prepared, made⟩ := drop_prepared session
  obtain ⟨result, after, progress, finished⟩ := execute_progress stubbornClient Samples.models recoveringTransport
    dropCall session prepared dropRequest 2 made (drop_second_attempt session unsent)
  constructor
  · rw [← is_ok_iff, result, Transport.attempt, unsent]
    decide +kernel
  · rw [finished]
    change after.sent.length = 2
    rw [progress.sent]
    change (session.sent ++ _).length = 2
    rw [unsent]
    rfl

theorem drop_unregistered (session : Session) :
    stubbornClient.prepare Samples.models { dropCall with name := "Drop" } session =
      (.error (.usage (.unknownOperation "Drop")), session) := rfl

theorem drop_run_prepared :
    ∃ prepared, stubbornClient.perform recoveringTransport Session.start (.prepare Samples.models dropCall) =
        (.request (.ok dropRequest), prepared) ∧ prepared.sent = [] := by
  obtain ⟨prepared, made⟩ := drop_prepared Session.start
  obtain ⟨events, frame⟩ := prepare_frame stubbornClient Samples.models dropCall Session.start
  rw [made] at frame
  refine ⟨prepared, congrArg (Prod.map Outcome.request id) made, ?_⟩
  rw [show prepared = { Session.start with events := events } from frame]
  rfl

theorem drop_run_completes : stubbornClient.CompletesAll recoveringTransport Session.start dropRun := by
  obtain ⟨prepared, first, unsent⟩ := drop_run_prepared
  refine ⟨trivial, ?_, ?_, trivial⟩
  · rw [first]
    intro request after prepares
    obtain ⟨again, expected⟩ := drop_prepared prepared
    obtain rfl : dropRequest = request := Except.ok.inj (Prod.mk.inj (expected.symm.trans prepares)).1
    exact (drop_second_attempt prepared unsent).nonempty
  · intro request after prepares
    exact nomatch (Prod.mk.inj ((drop_unregistered _).symm.trans prepares)).1

theorem drop_run_performed :
    ∃ (value : WireValue) (after : Session), stubbornClient.performAll recoveringTransport Session.start dropRun =
      ([.request (.ok dropRequest), .value (.ok value),
        @Outcome.value WireValue (.error (.usage (.unknownOperation "Drop")))], after) ∧
      after.sent.length = 2 := by
  obtain ⟨prepared, first, unsent⟩ := drop_run_prepared
  obtain ⟨⟨value, succeeded⟩, sent⟩ := drop_executed prepared unsent
  have second : stubbornClient.perform recoveringTransport prepared
      (.execute Samples.models dropCall stubbornClient.retry) =
        (.value (.ok value), (stubbornClient.execute Samples.models recoveringTransport dropCall prepared).2) :=
    Prod.ext (congrArg Outcome.value succeeded) rfl
  have third (session : Session) : stubbornClient.perform recoveringTransport session
      (.execute Samples.models { dropCall with name := "Drop" } RetryPolicy.never) =
        (.value (.error (.usage (.unknownOperation "Drop"))), session) :=
    congrArg (Prod.map Outcome.value id) (execute_unprepared _ Samples.models recoveringTransport _ session session _
      (drop_unregistered session))
  refine ⟨value, _, ?_, sent⟩
  simp only [dropRun, Client.performAll, first, second, third]

theorem drop_run_accounted :
    stubbornClient.CompletesAll recoveringTransport Session.start dropRun ∧
      (stubbornClient.performAll recoveringTransport Session.start dropRun).2.metrics = ⟨1, 1, 0, 1⟩ := by
  refine ⟨drop_run_completes, ?_⟩
  obtain ⟨answered, sends, calls, successes, _⟩ :=
    metrics_account_for_calls stubbornClient recoveringTransport dropRun drop_run_completes
  obtain ⟨value, after, performed, sent⟩ := drop_run_performed
  rw [performed] at answered sends calls successes ⊢
  simp only [sent] at sends
  cases counted : after.metrics with
  | mk total success error retried =>
      simp only [counted] at answered sends calls successes
      obtain rfl : total = 1 := calls
      obtain rfl : success = 1 := successes
      obtain rfl : error = 0 := by omega
      obtain rfl : retried = 1 := by omega
      rfl

end TypedQuery

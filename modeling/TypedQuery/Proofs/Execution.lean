import TypedQuery.Proofs.Retrying
import TypedQuery.Proofs.Validation

/-!
How a call is put together. Preparing, sending, looking at the server's errors and decoding follow
one another, the first of them that fails decides the result, and a call whose request cannot be
prepared leaves no trace.
-/

set_option autoImplicit false

namespace TypedQuery

def Response.conclusion {α : Type} (models : ModelTable) (call : Call α) (request : Request) (required : Bool)
    (response : Response) : Except Failure α :=
  if response.errors ≠ [] then .error (.remote response.errors)
  else (decodeMember models call.result response call.name required).mapError fun fault =>
    .client (fault.toClientError request response)

-- A call made by hand: its request is prepared, sent as it is, and what comes back is looked at.
def Client.executeByHand {α : Type} (client : Client) (models : ModelTable) (transport : Transport) (call : Call α)
    (session : Session) : Except Failure α :=
  match client.prepare models call session with
  | (.error failure, _) => .error failure
  | (.ok request, prepared) => do
      let response ← (client.executeRequest transport request prepared).1
      response.conclusion models call request
        ((client.registry.lookup call.name).any fun entry => entry.1.type.isNonNull)

theorem prepare_frame {α : Type} (client : Client) (models : ModelTable) (call : Call α) (session : Session) :
    ∃ events, (client.prepare models call session).2 = { session with events := events } := by
  unfold Client.prepare
  cases client.request models call with
  | error fault => exact ⟨session.events, rfl⟩
  | ok request =>
      dsimp only
      cases client.builtEvent? call request with
      | none => exact ⟨session.events, rfl⟩
      | some event => exact ⟨_, rfl⟩

theorem prepare_error {α : Type} (client : Client) (models : ModelTable) (call : Call α) (session after : Session)
    (failure : Failure) (failed : client.prepare models call session = (.error failure, after)) :
    (∃ error, failure = .usage error) ∧ after = session := by
  unfold Client.prepare at failed
  cases made : client.request models call with
  | ok request => simp [made] at failed
  | error fault =>
      simp only [made, Prod.mk.injEq, Except.error.injEq] at failed
      exact ⟨⟨fault, failed.1.symm⟩, failed.2.symm⟩

theorem prepare_registered {α : Type} (client : Client) (models : ModelTable) (call : Call α) (session prepared : Session)
    (request : Request) (made : client.prepare models call session = (.ok request, prepared)) :
    ∃ field kind, client.registry.lookup call.name = some (field, kind) := by
  have ok : (client.prepare models call session).1 = .ok request := by rw [made]
  obtain ⟨target, targeted, _⟩ := (prepare_ok client models call session request).mp ok
  exact ⟨target.field, target.kind, (target_ok client call target targeted).1⟩

theorem requires_registered (client : Client) (name : String) :
    client.requires name = (client.registry.lookup name).any fun entry => entry.1.type.isNonNull := by
  unfold Client.requires
  cases client.registry.lookup name <;> rfl

theorem conclude_result {α : Type} (client : Client) (models : ModelTable) (call : Call α) (request : Request)
    (response : Response) (session : Session) :
    (client.conclude models call request response session).1 =
      response.conclusion models call request (client.requires call.name) := by
  unfold Client.conclude Response.conclusion Response.isOk
  cases response.errors with
  | cons first rest => rfl
  | nil =>
      cases decodeMember models call.result response call.name (client.requires call.name) <;> rfl

theorem execute_prepared {α : Type} (client : Client) (models : ModelTable) (transport : Transport) (call : Call α)
    (session prepared : Session) (request : Request)
    (made : client.prepare models call session = (.ok request, prepared)) :
    (client.execute models transport call session).1 =
      (client.send transport request prepared).1 >>= fun response =>
        response.conclusion models call request (client.requires call.name) := by
  unfold Client.execute
  rw [made]
  dsimp only
  cases client.send transport request prepared with
  | mk outcome after =>
      cases outcome with
      | error failure => rfl
      | ok response => exact conclude_result client models call request response after

theorem execute_unprepared {α : Type} (client : Client) (models : ModelTable) (transport : Transport) (call : Call α)
    (session prepared : Session) (failure : Failure)
    (failed : client.prepare models call session = (.error failure, prepared)) :
    client.execute models transport call session = (.error failure, prepared) := by
  unfold Client.execute
  rw [failed]

theorem execute_progress {α : Type} (client : Client) (models : ModelTable) (transport : Transport) (call : Call α)
    (session prepared : Session) (request : Request) (last : Nat)
    (made : client.prepare models call session = (.ok request, prepared))
    (least : IsLeast (client.lastAttempts transport request session) last) :
    (client.execute models transport call session).1 =
        ((transport.attempt session last).answer request >>= fun response =>
          response.conclusion models call request (client.requires call.name)) ∧
      ∃ after, Progress transport request session.countCall last (last - 1) after ∧
        (client.execute models transport call session).2 =
          after.record (client.execute models transport call session).1.isOk := by
  obtain ⟨events, frame⟩ := prepare_frame client models call session
  rw [made] at frame
  change prepared = { session with events := events } at frame
  subst frame
  obtain ⟨after, answered, progress⟩ :=
    send_progress client transport request { session with events := events } last least
  obtain ⟨written, finished⟩ := execute_session client models transport call session _ request made
  constructor
  · rw [execute_prepared client models transport call session _ request made, answered]
    rfl
  · rw [answered] at finished
    exact ⟨{ after with events := written },
      ⟨progress.sent, progress.consultations, progress.metrics, progress.waits⟩, finished⟩

theorem execute_request_result (client : Client) (transport : Transport) (request : Request) (session : Session) :
    (client.executeRequest transport request session).1 = (client.send transport request session).1 := by
  unfold Client.executeRequest
  cases client.send transport request session with
  | mk outcome after => cases outcome <;> rfl

theorem answered_value {α : Type} (models : ModelTable) (call : Call α) (request : Request) (required : Bool)
    (delivery : Delivery) (value : α)
    (concluded : (delivery.answer request >>= fun response => response.conclusion models call request required) = .ok value) :
    ∃ received response, delivery = .response received ∧ 200 ≤ received.status ∧ received.status ≤ 299 ∧
      Response.read received.source = .ok response ∧ response.errors = [] := by
  obtain ⟨response, answered, decoded⟩ := (bind_ok_iff _ _ _).mp concluded
  have read := (map_error_ok_iff _ _ _).mp answered
  have clean : response.errors = [] := by
    unfold Response.conclusion at decoded
    split at decoded
    · simp at decoded
    · rename_i none
      exact Decidable.not_not.mp none
  cases delivery with
  | fault cause => simp [Delivery.read] at read
  | response received =>
      unfold Delivery.read at read
      cases success : received.isSuccess with
      | false => simp [success] at read
      | true =>
          simp only [success, Bool.not_true, Bool.false_eq_true, if_false] at read
          cases parsed : Response.read received.source with
          | error cause => simp [parsed] at read
          | ok other =>
              obtain rfl : other = response := by simpa [parsed] using read
              simp only [HttpResponse.isSuccess, Bool.and_eq_true, decide_eq_true_eq] at success
              exact ⟨received, other, rfl, success.1, success.2, parsed, clean⟩

theorem execute_stages {α : Type} (client : Client) (models : ModelTable) (transport : Transport) (call : Call α)
    (session : Session) :
    (∀ failure after, client.prepare models call session = (.error failure, after) →
      (∃ error, failure = .usage error) ∧ client.execute models transport call session = (.error failure, session)) ∧
    (∀ request prepared, client.prepare models call session = (.ok request, prepared) →
      ∃ field kind, client.registry.lookup call.name = some (field, kind) ∧
        ((client.lastAttempts transport request session).Nonempty →
          ∃ last, IsLeast (client.lastAttempts transport request session) last ∧
            (client.execute models transport call session).2.sent =
              session.sent ++ List.replicate last request.wire ∧
            (client.execute models transport call session).1 =
              ((transport.attempt session last).answer request >>= fun response =>
                response.conclusion models call request field.type.isNonNull) ∧
            ∀ value, (client.execute models transport call session).1 = .ok value →
              ∃ received response, transport.attempt session last = .response received ∧
                200 ≤ received.status ∧ received.status ≤ 299 ∧
                Response.read received.source = .ok response ∧ response.errors = [])) ∧
    (client.execute models transport call session).1 = client.executeByHand models transport call session := by
  refine ⟨?_, ?_, ?_⟩
  · intro failure after failed
    obtain ⟨usage, rfl⟩ := prepare_error client models call session after failure failed
    exact ⟨usage, execute_unprepared client models transport call after after failure failed⟩
  · intro request prepared made
    obtain ⟨field, kind, registered⟩ := prepare_registered client models call session prepared request made
    refine ⟨field, kind, registered, ?_⟩
    intro ends
    obtain ⟨last, least⟩ := least_last client transport request session ends
    obtain ⟨result, after, progress, finished⟩ :=
      execute_progress client models transport call session prepared request last made least
    rw [requires_registered, registered] at result
    refine ⟨last, least, ?_, result, ?_⟩
    · rw [finished]
      exact progress.sent
    · intro value succeeded
      exact answered_value models call request field.type.isNonNull _ value (result ▸ succeeded)
  · unfold Client.executeByHand
    cases made : client.prepare models call session with
    | mk outcome prepared =>
        cases outcome with
        | error failure => rw [execute_unprepared client models transport call session prepared failure made]
        | ok request =>
            rw [execute_prepared client models transport call session prepared request made, requires_registered,
              ← execute_request_result]

def stubbornClient : Client := { Client.ofSchema narrowSchema with retry := RetryPolicy.ofDelays [.ofMillis 5] }

def recoveringTransport : Transport :=
  Transport.ofList [.fault .timeout, .response (HttpResponse.ofText 200 "\x7b\"data\": \x7b\"drop\": true\x7d\x7d")] .timeout

def WireValue.isTrue : WireValue → Bool
  | .bool flag => flag
  | _ => false

theorem is_true_iff (value : WireValue) : value.isTrue ↔ value = .bool true := by
  cases value <;> simp [WireValue.isTrue]

theorem drop_prepared (session : Session) :
    ∃ prepared, stubbornClient.prepare Samples.models dropCall session = (.ok dropRequest, prepared) := by
  have made : stubbornClient.request Samples.models dropCall = .ok dropRequest := by decide +kernel
  unfold Client.prepare
  rw [made]
  exact ⟨_, rfl⟩

theorem second_attempt_last (received : HttpResponse) (session : Session) (unsent : session.sent = []) :
    IsLeast (stubbornClient.lastAttempts (Transport.ofList [.fault .timeout, .response received] .timeout) dropRequest
      session) 2 := by
  have brings (attempt : Nat) : Transport.attempt (Transport.ofList [.fault .timeout, .response received] .timeout)
      session attempt = Transport.ofList [.fault .timeout, .response received] .timeout (attempt - 1) := by
    rw [Transport.attempt, unsent, List.length_nil, Nat.zero_add]
  refine ⟨⟨by decide, by rw [brings]; trivial⟩, ?_⟩
  rintro attempt ⟨positive, stops⟩
  rw [brings] at stops
  match attempt, positive, stops with
  | 1, _, stops => exact nomatch stops
  | attempt + 2, _, _ => exact Nat.le_add_left 2 attempt

theorem drop_second_attempt (session : Session) (unsent : session.sent = []) :
    IsLeast (stubbornClient.lastAttempts recoveringTransport dropRequest session) 2 :=
  second_attempt_last _ session unsent

theorem drop_succeeds_again :
    (∃ prepared, stubbornClient.prepare Samples.models dropCall Session.start = (.ok dropRequest, prepared)) ∧
      (stubbornClient.lastAttempts recoveringTransport dropRequest Session.start).Nonempty ∧
      (stubbornClient.execute Samples.models recoveringTransport dropCall Session.start).1 = .ok (.bool true) ∧
      (stubbornClient.execute Samples.models recoveringTransport dropCall Session.start).2.sent =
        [dropRequest.wire, dropRequest.wire] ∧
      stubbornClient.prepare Samples.models { dropCall with name := "Drop" } Session.start =
        (.error (.usage (.unknownOperation "Drop")), Session.start) ∧
      stubbornClient.execute Samples.models recoveringTransport { dropCall with name := "Drop" } Session.start =
        (.error (.usage (.unknownOperation "Drop")), Session.start) := by
  obtain ⟨_, prepared⟩ := drop_prepared Session.start
  have declared : stubbornClient.registry.lookup "drop" =
      some (⟨"drop", .named "Boolean", [⟨"id", .nonNull (.named "ID")⟩, ⟨"hint", .named "String"⟩]⟩,
        .mutation) := by
    decide
  have second := drop_second_attempt Session.start rfl
  have refused : stubbornClient.prepare Samples.models { dropCall with name := "Drop" } Session.start =
      (.error (.usage (.unknownOperation "Drop")), Session.start) := by decide
  obtain ⟨_, stages, _⟩ := execute_stages stubbornClient Samples.models recoveringTransport dropCall Session.start
  obtain ⟨field, kind, registered, ended⟩ := stages dropRequest _ prepared
  obtain ⟨last, least, sent, result, _⟩ := ended second.nonempty
  obtain rfl := least.unique second
  obtain ⟨fails, _, _⟩ := execute_stages stubbornClient Samples.models recoveringTransport
    { dropCall with name := "Drop" } Session.start
  refine ⟨drop_prepared Session.start, second.nonempty, ?_, sent, refused, (fails _ _ refused).2⟩
  obtain ⟨rfl, rfl⟩ := Prod.mk.inj (Option.some.inj (registered.symm.trans declared))
  have decoded : (stubbornClient.execute Samples.models recoveringTransport dropCall Session.start).1.toOption.any
      WireValue.isTrue := by
    rw [result]
    decide +kernel
  obtain ⟨value, succeeded, holds⟩ := (ok_any_iff _ _).mp decoded
  rw [succeeded, (is_true_iff value).mp holds]

end TypedQuery

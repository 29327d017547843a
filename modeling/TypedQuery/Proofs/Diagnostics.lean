import TypedQuery.Proofs.Execution
import TypedQuery.Proofs.Utf8

/-!
What a failure tells about the call that it comes from. A failure that the client mints carries the
request and what the last attempt brought: the text of the fault, the body as it was received, or the
response as it was read. Every failure has a reason.
-/

set_option autoImplicit false

namespace TypedQuery

def HttpResponse.Refused (received : HttpResponse) : Prop := received.status < 200 ∨ 299 < received.status

instance (received : HttpResponse) : Decidable received.Refused :=
  inferInstanceAs (Decidable (_ ∨ _))

structure ClientError.Quotes (error : ClientError) (received : HttpResponse) : Prop where
  refused : received.Refused → error.response = some received.text ∧ error.cause = none ∧
    error.message = s!"HTTP response is not success (code {received.status})"
  unreadable : ∀ fault, ¬ received.Refused → Response.read received.source = .error fault →
    error.response = some received.text ∧ error.cause = some fault.message
  readable : ∀ response, ¬ received.Refused → Response.read received.source = .ok response →
    error.response = some response.pretty ∧
      (error.message = ClientError.nullForNonNull ∧ error.cause = none ∨
        error.message = ClientError.decodeFailure ∧ error.cause.isSome)

def ClientError.Reproduces (error : ClientError) (request : Request) : Delivery → Prop
  | .fault fault =>
      error.request = some request ∧ error.response = none ∧ error.cause = some fault.message ∧
        (Failure.client error).isRetryable
  | .response received =>
      error.request = some request ∧ (Failure.client error).isRetryable = false ∧ error.Quotes received

theorem refused_iff (received : HttpResponse) : received.Refused ↔ received.isSuccess = false := by
  rw [HttpResponse.Refused, HttpResponse.isSuccess, Bool.and_eq_false_iff, decide_eq_false_iff_not,
    decide_eq_false_iff_not]
  omega

theorem received_fault_not_retryable (request : Request) (received : HttpResponse) (fault : ExchangeFault)
    (read : (Delivery.response received).read = .error fault) :
    (Failure.client (fault.toClientError request)).isRetryable = false := by
  rw [← Bool.not_eq_true, exchange_fault_retryable]
  rintro ⟨cause, rfl⟩
  exact nomatch (read_transport _ cause).mp read

theorem received_read (received : HttpResponse) :
    (Delivery.response received).read =
      if received.Refused then .error (.status received.status received.text)
      else (Response.read received.source).mapError fun cause => .unreadable cause.message received.text := by
  cases success : received.isSuccess with
  | false =>
      rw [if_pos ((refused_iff received).mpr success), Delivery.read, success]
      rfl
  | true =>
      have kept : ¬ received.Refused := by rw [refused_iff, success]; decide
      rw [if_neg kept, Delivery.read, success]
      cases Response.read received.source <;> rfl

theorem answer_reproduces (request : Request) (delivery : Delivery) (error : ClientError)
    (failed : delivery.answer request = .error (.client error)) : error.Reproduces request delivery := by
  obtain ⟨fault, read, minted⟩ := (map_error_error_iff _ _ _).mp failed
  obtain rfl := Failure.client.inj minted
  cases delivery with
  | fault cause =>
      obtain rfl : ExchangeFault.transport cause = fault := Except.error.inj read
      exact ⟨rfl, rfl, rfl, (retryable_iff _).mpr rfl⟩
  | response received =>
      have final := received_fault_not_retryable request received fault read
      rw [received_read] at read
      by_cases refused : received.Refused
      · rw [if_pos refused, Except.error.injEq] at read
        subst read
        exact ⟨rfl, final, fun _ => ⟨rfl, rfl, rfl⟩, fun _ kept => absurd refused kept, fun _ kept => absurd refused kept⟩
      · rw [if_neg refused] at read
        obtain ⟨cause, unread, rfl⟩ := (map_error_error_iff _ _ _).mp read
        refine ⟨rfl, final, fun outside => absurd outside refused, ?_, ?_⟩
        · intro other _ same
          obtain rfl : cause = other := Except.error.inj (unread.symm.trans same)
          exact ⟨rfl, rfl⟩
        · intro response _ same
          exact nomatch unread.symm.trans same

theorem answer_response (request : Request) (delivery : Delivery) (response : Response)
    (answered : delivery.answer request = .ok response) :
    ∃ received, delivery = .response received ∧ ¬ received.Refused ∧ Response.read received.source = .ok response := by
  have read := (map_error_ok_iff _ _ _).mp answered
  cases delivery with
  | fault cause => exact nomatch read
  | response received =>
      rw [received_read] at read
      by_cases refused : received.Refused
      · rw [if_pos refused] at read
        exact nomatch read
      · rw [if_neg refused] at read
        exact ⟨received, rfl, refused, (map_error_ok_iff _ _ _).mp read⟩

-- Once a response was read, only its decoding makes the client mint a failure.
theorem conclusion_client_error {α : Type} (models : ModelTable) (call : Call α) (request : Request) (required : Bool)
    (response : Response) (error : ClientError)
    (failed : response.conclusion models call request required = .error (.client error)) :
    ∃ fault : DecodeFault, fault.toClientError request response = error := by
  unfold Response.conclusion at failed
  split at failed
  · exact nomatch failed
  · obtain ⟨fault, _, minted⟩ := (map_error_error_iff _ _ _).mp failed
    exact ⟨fault, Failure.client.inj minted⟩

theorem decode_fault_reproduces (request : Request) (received : HttpResponse) (response : Response) (fault : DecodeFault)
    (kept : ¬ received.Refused) (read : Response.read received.source = .ok response) :
    (fault.toClientError request response).Reproduces request (.response received) := by
  have final := decode_fault_not_retryable request response fault
  have quotes : (fault.toClientError request response).Quotes received := by
    refine ⟨fun refused => absurd refused kept, ?_, ?_⟩
    · intro cause _ unread
      exact nomatch read.symm.trans unread
    · intro other _ same
      obtain rfl : response = other := Except.ok.inj (read.symm.trans same)
      cases fault with
      | nullForNonNull => exact ⟨rfl, .inl ⟨rfl, rfl⟩⟩
      | mismatch cause => exact ⟨rfl, .inr ⟨rfl, rfl⟩⟩
  cases fault with
  | nullForNonNull => exact ⟨rfl, final, quotes⟩
  | mismatch cause => exact ⟨rfl, final, quotes⟩

theorem concluded_reproduces {α : Type} (models : ModelTable) (call : Call α) (request : Request) (required : Bool)
    (delivery : Delivery) (error : ClientError)
    (failed : (delivery.answer request >>= fun response => response.conclusion models call request required) =
      .error (.client error)) : error.Reproduces request delivery := by
  rcases (bind_error_iff _ _ _).mp failed with unanswered | ⟨response, answered, undecoded⟩
  · exact answer_reproduces request delivery error unanswered
  · obtain ⟨received, rfl, kept, read⟩ := answer_response request delivery response answered
    obtain ⟨fault, rfl⟩ := conclusion_client_error models call request required response error undecoded
    exact decode_fault_reproduces request received response fault kept read

theorem answer_has_reason (request : Request) (delivery : Delivery) (failure : Failure)
    (failed : delivery.answer request = .error failure) : failure.reasons ≠ [] := by
  obtain ⟨fault, _, rfl⟩ := (map_error_error_iff _ _ _).mp failed
  simp [Failure.reasons]

theorem conclusion_has_reason {α : Type} (models : ModelTable) (call : Call α) (request : Request) (required : Bool)
    (response : Response) (failure : Failure)
    (failed : response.conclusion models call request required = .error failure) : failure.reasons ≠ [] := by
  unfold Response.conclusion at failed
  split at failed
  · rename_i faulty
    obtain rfl := Except.error.inj failed
    simpa [Failure.reasons] using faulty
  · obtain ⟨fault, _, rfl⟩ := (map_error_error_iff _ _ _).mp failed
    simp [Failure.reasons]

theorem concluded_has_reason {α : Type} (models : ModelTable) (call : Call α) (request : Request) (required : Bool)
    (delivery : Delivery) (failure : Failure)
    (failed : (delivery.answer request >>= fun response => response.conclusion models call request required) =
      .error failure) : failure.reasons ≠ [] := by
  rcases (bind_error_iff _ _ _).mp failed with unanswered | ⟨response, _, undecoded⟩
  · exact answer_has_reason request delivery failure unanswered
  · exact conclusion_has_reason models call request required response failure undecoded

theorem validate_has_reason (client : Client) (oracle : TypeOracle) (text : String) (session : Session) (failure : Failure)
    (failed : (client.validate oracle text session).1 = .error failure) : failure.reasons ≠ [] := by
  cases parsed : Schema.parse text with
  | error fault =>
      unfold Client.validate at failed
      rw [parsed] at failed
      obtain rfl := Except.error.inj failed
      simp [Failure.reasons]
  | ok schema =>
      rw [validate_report client oracle text session schema parsed] at failed
      generalize validateAll oracle schema (client.registry.fields.map Prod.fst) = report at failed
      unfold Report.toExcept Report.failure? at failed
      by_cases good : report.isOk
      · simp [good] at failed
      · simp only [good, Bool.false_eq_true, if_false, Except.error.injEq] at failed
        subst failed
        simpa [Report.isOk, Failure.reasons, Report.messages] using good

theorem failures_reproduce_calls (client : Client) (transport : Transport) (session : Session) :
    (∀ request, (client.lastAttempts transport request session).Nonempty →
      ∀ failure, (client.executeRequest transport request session).1 = .error failure →
        failure.reasons ≠ [] ∧ ∀ error, failure = .client error →
          ∃ last, IsLeast (client.lastAttempts transport request session) last ∧
            (client.executeRequest transport request session).2.sent =
              session.sent ++ List.replicate last request.wire ∧
            error.Reproduces request (transport.attempt session last)) ∧
    (∀ (α : Type) models (call : Call α), (∀ request prepared, client.prepare models call session = (.ok request, prepared) →
        (client.lastAttempts transport request session).Nonempty) →
      ∀ failure, (client.execute models transport call session).1 = .error failure →
        failure.reasons ≠ [] ∧ ∀ error, failure = .client error →
          ∃ request prepared last, client.prepare models call session = (.ok request, prepared) ∧
            IsLeast (client.lastAttempts transport request session) last ∧
            (client.execute models transport call session).2.sent =
              session.sent ++ List.replicate last request.wire ∧
            error.Reproduces request (transport.attempt session last)) ∧
    (∀ oracle text failure, (client.validate oracle text session).1 = .error failure → failure.reasons ≠ []) ∧
    ∀ status text, (HttpResponse.ofBytes status (Text.Utf8.bytes text)).text = text := by
  refine ⟨?_, ?_, ?_, ?_⟩
  · intro request ends failure failed
    obtain ⟨last, least⟩ := least_last client transport request session ends
    obtain ⟨after, answered, progress⟩ := send_progress client transport request session last least
    have sent := execute_request_session client transport request session
    rw [execute_request_result, answered] at failed
    rw [answered] at sent
    refine ⟨answer_has_reason request _ failure failed, ?_⟩
    rintro error rfl
    refine ⟨last, least, ?_, answer_reproduces request _ error failed⟩
    rw [sent]
    exact progress.sent
  · intro α models call ends failure failed
    cases made : client.prepare models call session with
    | mk outcome prepared =>
        cases outcome with
        | error refusal =>
            obtain ⟨⟨usage, rfl⟩, rfl⟩ := prepare_error client models call session prepared refusal made
            rw [execute_unprepared client models transport call prepared prepared (.usage usage) made] at failed
            obtain rfl := Except.error.inj failed
            exact ⟨by simp [Failure.reasons], nofun⟩
        | ok request =>
            obtain ⟨last, least⟩ := least_last client transport request session (ends request prepared made)
            obtain ⟨result, after, progress, finished⟩ :=
              execute_progress client models transport call session prepared request last made least
            rw [result] at failed
            refine ⟨concluded_has_reason models call request _ _ failure failed, ?_⟩
            rintro error rfl
            refine ⟨request, prepared, last, rfl, least, ?_, concluded_reproduces models call request _ _ error failed⟩
            rw [finished]
            exact progress.sent
  · exact fun oracle text failure => validate_has_reason client oracle text session failure
  · intro status text
    rw [HttpResponse.of_bytes_text, HttpResponse.of_text_text]

def numberForTruth : String := "\x7b\"data\": \x7b\"drop\": 1\x7d\x7d"

def numberResponse : Response := ⟨some (.obj [("drop", .int 1)]), []⟩

def numberSnapshot : String :=
  "\x7b\n  \"data\": \x7b\n    \"drop\": 1\n  \x7d,\n  \"errors\": []\n\x7d"

def confusedTransport : Transport :=
  Transport.ofList [.fault .timeout, .response (HttpResponse.ofText 200 numberForTruth)] .timeout

theorem confused_drop_reproduced :
    (∀ request prepared, stubbornClient.prepare Samples.models dropCall Session.start = (.ok request, prepared) →
        (stubbornClient.lastAttempts confusedTransport request Session.start).Nonempty) ∧
      ∃ error, (stubbornClient.execute Samples.models confusedTransport dropCall Session.start).1 = .error (.client error) ∧
        error.request = some dropRequest ∧ (Failure.client error).isRetryable = false ∧
        error.response = some numberSnapshot := by
  obtain ⟨prepared, made⟩ := drop_prepared Session.start
  have second : IsLeast (stubbornClient.lastAttempts confusedTransport dropRequest Session.start) 2 :=
    second_attempt_last (HttpResponse.ofText 200 numberForTruth) Session.start rfl
  have ends : ∀ request after, stubbornClient.prepare Samples.models dropCall Session.start = (.ok request, after) →
      (stubbornClient.lastAttempts confusedTransport request Session.start).Nonempty := by
    intro request after prepares
    obtain rfl : dropRequest = request := Except.ok.inj (Prod.mk.inj (made.symm.trans prepares)).1
    exact second.nonempty
  obtain ⟨result, _⟩ := execute_progress stubbornClient Samples.models confusedTransport dropCall Session.start prepared
    dropRequest 2 made second
  have answered : (confusedTransport.attempt Session.start 2).answer dropRequest = .ok numberResponse := by decide +kernel
  obtain ⟨fault, undecoded⟩ : ∃ fault, decodeMember Samples.models dropCall.result numberResponse "drop"
      (stubbornClient.requires "drop") = .error fault := (is_error_iff _).mp (by decide +kernel)
  have failed : (stubbornClient.execute Samples.models confusedTransport dropCall Session.start).1 =
      .error (.client (fault.toClientError dropRequest numberResponse)) := by
    rw [result, answered]
    change numberResponse.conclusion Samples.models dropCall dropRequest (stubbornClient.requires "drop") = _
    rw [Response.conclusion, if_neg (by decide), show dropCall.name = "drop" from rfl, undecoded]
    rfl
  obtain ⟨_, calls, _⟩ := failures_reproduce_calls stubbornClient confusedTransport Session.start
  obtain ⟨_, reproduced⟩ := calls WireValue Samples.models dropCall ends _ failed
  obtain ⟨request, after, last, prepares, least, _, quotes⟩ := reproduced _ rfl
  obtain rfl : dropRequest = request := Except.ok.inj (Prod.mk.inj (made.symm.trans prepares)).1
  obtain rfl := least.unique second
  obtain ⟨carried, final, quotes⟩ := quotes
  refine ⟨ends, _, failed, carried, final, ?_⟩
  have readable := quotes.readable numberResponse (by decide) (by decide +kernel)
  exact readable.1.trans (by decide +kernel)

end TypedQuery

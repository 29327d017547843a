import Mathlib.Data.Nat.Find
import Mathlib.Order.Bounds.Basic
import TypedQuery.Client

/-!
How a request is sent again. Sending ends with the first attempt that brings a response or after
which the policy refuses; each attempt before it brought nothing, was put to the policy and was
repeated. The answer is made of the last delivery alone.
-/

set_option autoImplicit false

namespace TypedQuery

-- What an attempt of a call brings. Attempts count from one, sends from the session's first one.
def Transport.attempt (transport : Transport) (session : Session) (attempt : Nat) : Delivery :=
  transport (session.sent.length + (attempt - 1))

def Delivery.fault? : Delivery → Option TransportFault
  | .fault cause => some cause
  | .response _ => none

def faultFailure (request : Request) (fault : TransportFault) : Failure :=
  .client ⟨ClientError.transportFailure, some fault.message, some request, none⟩

def Delivery.answer (request : Request) (delivery : Delivery) : Except Failure Response :=
  delivery.read.mapError fun fault => .client (fault.toClientError request)

-- An attempt is the last one if it brings a response or the policy refuses another one.
def Client.StopsAt (client : Client) (request : Request) (attempt : Nat) : Delivery → Prop
  | .response _ => True
  | .fault fault => client.retry.decide (faultFailure request fault) attempt = none

def question (transport : Transport) (request : Request) (start : Session) (attempt : Nat) : Option Consultation :=
  (transport.attempt start attempt).fault?.map fun fault => ⟨attempt, faultFailure request fault⟩

def Client.lastAttempts (client : Client) (transport : Transport) (request : Request) (session : Session) : Set Nat :=
  { attempt | 1 ≤ attempt ∧ client.StopsAt request attempt (transport.attempt session attempt) }

-- A session in the middle of a call: how many attempts were made since its start, and how many of
-- them were repeated.
structure Progress (transport : Transport) (request : Request) (start : Session) (made repeated : Nat)
    (session : Session) : Prop where
  sent : session.sent = start.sent ++ List.replicate made request.wire
  consultations : session.consultations =
    start.consultations ++ (List.range' 1 made).filterMap (question transport request start)
  metrics : session.metrics = { start.metrics with retried := start.metrics.retried + repeated }
  waits : ∃ delays, delays.length = repeated ∧ session.waits = start.waits ++ delays

theorem retryable_iff (error : ClientError) :
    (Failure.client error).isRetryable ↔ error.message = ClientError.transportFailure :=
  decide_eq_true_iff

-- Of all that an exchange can fail with, only a transport fault has the text that is retried for.
theorem exchange_fault_retryable (request : Request) (fault : ExchangeFault) :
    (Failure.client (fault.toClientError request)).isRetryable ↔ ∃ cause, fault = .transport cause := by
  rw [retryable_iff]
  cases fault with
  | transport cause => exact ⟨fun _ => ⟨cause, rfl⟩, fun _ => rfl⟩
  | status code body =>
      have different : s!"HTTP response is not success (code {code})" ≠ ClientError.transportFailure := by
        intro same
        have heads := congrArg (fun text => text.toList.head?) same
        have status : (toString "HTTP response is not success (code ").toList.head? = some 'H' := by decide
        have transport : ClientError.transportFailure.toList.head? = some 'E' := by decide
        simp [String.toList_append, List.head?_append, status, transport] at heads
      exact ⟨fun same => absurd same different, nofun⟩
  | unreadable cause body =>
      have different : ClientError.decodeFailure ≠ ClientError.transportFailure := by decide
      exact ⟨fun same => absurd same different, nofun⟩

theorem decode_fault_not_retryable (request : Request) (response : Response) (fault : DecodeFault) :
    (Failure.client (fault.toClientError request response)).isRetryable = false := by
  rw [← Bool.not_eq_true, retryable_iff]
  cases fault with
  | nullForNonNull => exact (by decide : ClientError.nullForNonNull ≠ ClientError.transportFailure)
  | mismatch cause => exact (by decide : ClientError.decodeFailure ≠ ClientError.transportFailure)

theorem read_transport (delivery : Delivery) (cause : TransportFault) :
    delivery.read = .error (.transport cause) ↔ delivery = .fault cause := by
  cases delivery with
  | fault other => simp [Delivery.read]
  | response received =>
      simp only [Delivery.read, reduceCtorEq, iff_false]
      split
      · simp
      · split <;> simp

theorem exchange_read (redacted : List String) (transport : Transport) (request : Request) (session : Session) :
    ∃ after, exchange redacted transport request session = ((transport session.sent.length).read, after) ∧
      after.sent = session.sent ++ [request.wire] ∧ after.consultations = session.consultations ∧
      after.metrics = session.metrics ∧ after.waits = session.waits := by
  unfold exchange
  cases (transport session.sent.length).read with
  | error fault => exact ⟨_, rfl, rfl, rfl, rfl, rfl⟩
  | ok response => exact ⟨_, rfl, rfl, rfl, rfl, rfl⟩

section

variable (client : Client) (transport : Transport) (request : Request) (start : Session)

theorem progress_delivery (made repeated : Nat) (session : Session)
    (progress : Progress transport request start made repeated session) :
    transport session.sent.length = transport.attempt start (made + 1) := by
  rw [progress.sent, List.length_append, List.length_replicate]
  rfl

theorem progress_start : Progress transport request start 0 0 start where
  sent := by simp
  consultations := by simp
  metrics := rfl
  waits := ⟨[], rfl, by simp⟩

theorem progress_made (made repeated : Nat) (delay : Option Nat) (session next : Session)
    (progress : Progress transport request start made repeated session)
    (sent : next.sent = session.sent ++ [request.wire])
    (consultations : next.consultations =
      session.consultations ++ (question transport request start (made + 1)).toList)
    (metrics : next.metrics = { session.metrics with retried := session.metrics.retried + delay.toList.length })
    (waits : next.waits = session.waits ++ delay.toList) :
    Progress transport request start (made + 1) (repeated + delay.toList.length) next where
  sent := by rw [sent, progress.sent, List.replicate_succ', List.append_assoc]
  consultations := by
    rw [consultations, progress.consultations, List.range'_concat, List.filterMap_append, List.append_assoc,
      Nat.one_mul, Nat.add_comm 1 made]
    cases asked : question transport request start (made + 1) <;> simp [asked]
  metrics := by rw [metrics, progress.metrics, Nat.add_assoc]
  waits := by
    obtain ⟨delays, count, waited⟩ := progress.waits
    exact ⟨delays ++ delay.toList, by rw [List.length_append, count], by rw [waits, waited, List.append_assoc]⟩

theorem attempt_fault (attempt : Nat) (session : Session) (cause : TransportFault)
    (brings : transport session.sent.length = .fault cause) :
    ∃ asked, client.attempts transport request attempt session =
        (match client.retry.decide (faultFailure request cause) attempt with
          | some delay => client.attempts transport request (attempt + 1)
              ((asked.countRetry.log (Client.retryEvent delay)).wait delay.nanos)
          | none => (.error (faultFailure request cause), asked)) ∧
      asked.sent = session.sent ++ [request.wire] ∧
      asked.consultations = session.consultations ++ [⟨attempt, faultFailure request cause⟩] ∧
      asked.metrics = session.metrics ∧ asked.waits = session.waits := by
  obtain ⟨after, exchanged, sent, consultations, metrics, waits⟩ :=
    exchange_read client.config.redactFields transport request session
  have read : (transport session.sent.length).read = .error (.transport cause) := (read_transport _ cause).mpr brings
  refine ⟨after.consult attempt (faultFailure request cause), ?_, sent, ?_, metrics, waits⟩
  · rw [Client.attempts, exchanged, read]
    rfl
  · rw [← consultations]
    rfl

theorem attempt_again (made : Nat) (session : Session)
    (progress : Progress transport request start made made session)
    (goes : ¬ client.StopsAt request (made + 1) (transport.attempt start (made + 1))) :
    ∃ next, client.attempts transport request (made + 1) session = client.attempts transport request (made + 2) next ∧
      Progress transport request start (made + 1) (made + 1) next := by
  have brings := progress_delivery transport request start made made session progress
  cases delivery : transport.attempt start (made + 1) with
  | response received =>
      rw [delivery] at goes
      exact absurd trivial goes
  | fault cause =>
      rw [delivery] at goes brings
      obtain ⟨delay, again⟩ := Option.ne_none_iff_exists'.mp goes
      obtain ⟨asked, attempted, sent, consultations, metrics, waits⟩ :=
        attempt_fault client transport request (made + 1) session cause brings
      rw [again] at attempted
      refine ⟨_, attempted, progress_made transport request start made made (some delay.nanos) session _ progress sent ?_ ?_ ?_⟩
      · rw [question, delivery]
        exact consultations
      · rw [← metrics]
        rfl
      · rw [← waits]
        rfl

theorem attempt_last (made : Nat) (session : Session)
    (progress : Progress transport request start made made session)
    (stops : client.StopsAt request (made + 1) (transport.attempt start (made + 1))) :
    ∃ after, client.attempts transport request (made + 1) session =
        ((transport.attempt start (made + 1)).answer request, after) ∧
      Progress transport request start (made + 1) made after := by
  have brings := progress_delivery transport request start made made session progress
  cases delivery : transport.attempt start (made + 1) with
  | fault cause =>
      rw [delivery] at stops brings
      obtain ⟨asked, attempted, sent, consultations, metrics, waits⟩ :=
        attempt_fault client transport request (made + 1) session cause brings
      rw [show client.retry.decide (faultFailure request cause) (made + 1) = none from stops] at attempted
      refine ⟨asked, attempted, progress_made transport request start made made none session asked progress sent ?_ metrics
        (waits.trans (List.append_nil _).symm)⟩
      rw [question, delivery]
      exact consultations
  | response received =>
      rw [delivery] at brings
      obtain ⟨after, exchanged, sent, consultations, metrics, waits⟩ :=
        exchange_read client.config.redactFields transport request session
      rw [brings] at exchanged
      refine ⟨after, ?_, progress_made transport request start made made none session after progress sent ?_ metrics
        (waits.trans (List.append_nil _).symm)⟩
      · rw [Client.attempts, exchanged, Delivery.answer]
        cases read : (Delivery.response received).read with
        | ok response => rfl
        | error fault =>
            have final : (Failure.client (fault.toClientError request)).isRetryable = false := by
              rw [← Bool.not_eq_true, exchange_fault_retryable]
              rintro ⟨cause, rfl⟩
              exact nomatch (read_transport _ cause).mp read
            simp only [final]
            rfl
      · rw [question, delivery, consultations]
        exact (List.append_nil _).symm

-- The induction is on the attempts that are still to be repeated.
theorem attempts_progress (more made : Nat) (session : Session)
    (progress : Progress transport request start made made session)
    (goes : ∀ attempt, made < attempt → attempt < made + more + 1 →
      ¬ client.StopsAt request attempt (transport.attempt start attempt))
    (stops : client.StopsAt request (made + more + 1) (transport.attempt start (made + more + 1))) :
    ∃ after, client.attempts transport request (made + 1) session =
        ((transport.attempt start (made + more + 1)).answer request, after) ∧
      Progress transport request start (made + more + 1) (made + more) after := by
  induction more generalizing made session with
  | zero => exact attempt_last client transport request start made session progress stops
  | succ more ih =>
      obtain ⟨next, again, further⟩ := attempt_again client transport request start made session progress
        (goes (made + 1) (by omega) (by omega))
      have shift : made + 1 + more = made + (more + 1) := by omega
      obtain ⟨after, answered, ended⟩ := ih (made + 1) next further
        (fun attempt past before => goes attempt (by omega) (by omega)) (by rwa [shift])
      rw [shift] at answered ended
      exact ⟨after, again.trans answered, ended⟩

theorem least_last (session : Session) (ends : (client.lastAttempts transport request session).Nonempty) :
    ∃ last, IsLeast (client.lastAttempts transport request session) last := by
  classical
  exact ⟨Nat.find ends, Nat.find_spec ends, fun attempt member => Nat.find_min' ends member⟩

theorem send_progress (session : Session) (last : Nat)
    (least : IsLeast (client.lastAttempts transport request session) last) :
    ∃ after, client.send transport request session = ((transport.attempt session last).answer request, after) ∧
      Progress transport request session.countCall last (last - 1) after := by
  obtain ⟨⟨positive, stops⟩, first⟩ := least
  obtain ⟨more, rfl⟩ := Nat.exists_eq_add_of_le' positive
  have shift : 0 + more + 1 = more + 1 := by omega
  obtain ⟨after, answered, ended⟩ := attempts_progress client transport request session.countCall more 0
    session.countCall (progress_start transport request session.countCall)
    (fun attempt past before stopped => by
      have least := first ⟨past, stopped⟩
      omega)
    (by rw [shift]; exact stops)
  rw [shift, Nat.zero_add] at ended
  rw [shift] at answered
  exact ⟨after, answered, ended⟩

end

theorem execute_request_session (client : Client) (transport : Transport) (request : Request) (session : Session) :
    (client.executeRequest transport request session).2 =
      (client.send transport request session).2.record
        ((client.executeRequest transport request session).1.toOption.any Response.isOk) := by
  unfold Client.executeRequest
  cases client.send transport request session with
  | mk outcome after => cases outcome <;> rfl

theorem conclude_session {α : Type} (client : Client) (models : ModelTable) (call : Call α) (request : Request)
    (response : Response) (session : Session) :
    ∃ events, (client.conclude models call request response session).2 =
      Session.record (client.conclude models call request response session).1.isOk { session with events := events } := by
  unfold Client.conclude
  cases response.isOk with
  | false => exact ⟨_, rfl⟩
  | true =>
      cases decodeMember models call.result response call.name (client.requires call.name) with
      | error fault => exact ⟨_, rfl⟩
      | ok value => exact ⟨session.events, rfl⟩

theorem execute_session {α : Type} (client : Client) (models : ModelTable) (transport : Transport) (call : Call α)
    (before session : Session) (request : Request)
    (prepared : client.prepare models call before = (.ok request, session)) :
    ∃ events, (client.execute models transport call before).2 =
      Session.record (client.execute models transport call before).1.isOk
        { (client.send transport request session).2 with events := events } := by
  unfold Client.execute
  rw [prepared]
  dsimp only
  cases client.send transport request session with
  | mk outcome after =>
      cases outcome with
      | error failure => exact ⟨after.events, rfl⟩
      | ok response => exact conclude_session client models call request response after

theorem retry_loop_exact (client : Client) (transport : Transport) (request : Request) (session : Session)
    (ends : (client.lastAttempts transport request session).Nonempty) :
    ∃ last, IsLeast (client.lastAttempts transport request session) last ∧
      (client.send transport request session).1 = (transport.attempt session last).answer request ∧
      (client.send transport request session).2.sent = session.sent ++ List.replicate last request.wire ∧
      (client.send transport request session).2.consultations =
        session.consultations ++ (List.range' 1 last).filterMap (question transport request session) ∧
      (client.send transport request session).2.metrics =
        { session.metrics with total := session.metrics.total + 1, retried := session.metrics.retried + (last - 1) } ∧
      (client.executeRequest transport request session).2.consultations =
        (client.send transport request session).2.consultations ∧
      (∀ (α : Type) (models : ModelTable) (call : Call α) before, client.prepare models call before = (.ok request, session) →
        (client.execute models transport call before).2.consultations =
          (client.send transport request session).2.consultations) ∧
      (∀ fault, (Failure.client (ExchangeFault.toClientError request fault)).isRetryable ↔
        ∃ cause, fault = .transport cause) ∧
      ∀ response fault, (Failure.client (DecodeFault.toClientError request response fault)).isRetryable = false := by
  obtain ⟨last, least⟩ := least_last client transport request session ends
  obtain ⟨after, answered, progress⟩ := send_progress client transport request session last least
  refine ⟨last, least, ?_, ?_, ?_, ?_, ?_, ?_, exchange_fault_retryable request, decode_fault_not_retryable request⟩
  · rw [answered]
  · rw [answered]
    exact progress.sent
  · rw [answered]
    exact progress.consultations
  · rw [answered]
    exact progress.metrics
  · rw [execute_request_session]
    rfl
  · intro α models call before prepared
    obtain ⟨events, finished⟩ := execute_session client models transport call before session request prepared
    rw [finished]
    rfl

def patientClient : Client := ⟨Registry.empty, ClientConfig.default, RetryPolicy.ofDelays [.ofMillis 5, .ofMillis 7]⟩

def slowTransport : Transport :=
  Transport.ofList [.fault .timeout, .fault (.connect "refused"), .response (HttpResponse.ofText 503 "busy")] .timeout

def pingRequest : Request := Request.new "query ping \x7b ping \x7d" "ping"

theorem slow_answer_retried_twice :
    (patientClient.lastAttempts slowTransport pingRequest Session.start).Nonempty ∧
      (patientClient.send slowTransport pingRequest Session.start).1 =
        .error (.client ⟨"HTTP response is not success (code 503)", none, some pingRequest, some "busy"⟩) ∧
      (patientClient.send slowTransport pingRequest Session.start).2.sent = List.replicate 3 pingRequest.wire ∧
      (patientClient.send slowTransport pingRequest Session.start).2.consultations =
        [⟨1, .client ⟨"Exception while processing request", some "request timed out", some pingRequest, none⟩⟩,
          ⟨2, .client ⟨"Exception while processing request", some "connection failed: refused", some pingRequest, none⟩⟩] ∧
      (patientClient.send slowTransport pingRequest Session.start).2.metrics = ⟨1, 0, 0, 2⟩ := by
  have third : IsLeast (patientClient.lastAttempts slowTransport pingRequest Session.start) 3 := by
    refine ⟨⟨by decide, trivial⟩, ?_⟩
    rintro attempt ⟨positive, stops⟩
    match attempt, positive, stops with
    | 1, _, stops => exact nomatch stops
    | 2, _, stops => exact nomatch stops
    | attempt + 3, _, _ => exact Nat.le_add_left 3 attempt
  obtain ⟨last, least, answer, sent, consultations, metrics, _⟩ :=
    retry_loop_exact patientClient slowTransport pingRequest Session.start third.nonempty
  obtain rfl := least.unique third
  refine ⟨third.nonempty, answer.trans ?_, sent, consultations, metrics⟩
  decide

end TypedQuery

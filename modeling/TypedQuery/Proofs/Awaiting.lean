import TypedQuery.Proofs.Bodies
import TypedQuery.Proofs.Execution

/-!
Adding an instance and waiting for it. The addition is made once; if it succeeds, the instance that it
gave is polled for until a poll finds it, three times at most, and a poll that fails counts as one that
finds nothing.
-/

set_option autoImplicit false

namespace TypedQuery.Hosting

structure Run (α : Type) where
  attempts : Nat
  pauses : List Nat
  outcome : Except HostingError α

-- The instance that a poll finds. One that was answered with null finds none, and neither does one that failed.
def Run.found? (poll : Run (Option Instance)) : Option Instance := poll.outcome.toOption.join

def understood {α : Type} (read : WireValue → Option α) : Except Failure WireValue → Except HostingError α
  | .error failure => .error (.call failure)
  | .ok value => match read value with
    | some result => .ok result
    | none => .error (.call (.client (ClientError.new ClientError.decodeFailure)))

namespace Service

-- An operation of a field: its request is sent up to the first attempt that may be the last one, and what that
-- attempt brings decides the outcome.
structure Operates {α : Type} (service : Service) (field : FieldDescriptor) (call : Call WireValue) (request : Request)
    (read : WireValue → Option α) (before : Session) (run : Run α) (after : Session) : Prop where
  last : IsLeast (service.client.lastAttempts service.transport request before) run.attempts
  outcome : run.outcome =
    understood read ((service.transport.attempt before run.attempts).answer request >>= fun response =>
      response.conclusion models call request field.type.isNonNull)
  sent : after.sent = before.sent ++ List.replicate run.attempts request.wire
  paused : run.pauses.length + 1 = run.attempts
  waits : after.waits = before.waits ++ run.pauses
  calls : after.metrics.total = before.metrics.total + 1

def Adds (service : Service) (input : InstanceInput) (before : Session) (add : Run Instance) (after : Session) : Prop :=
  service.Operates addingField (addingCall input) (addingRequest service.client input.encoding) Instance.ofWire? before
    add after

def Reads (service : Service) (dgraphId : String) (before : Session) (poll : Run (Option Instance)) (after : Session) :
    Prop :=
  service.Operates readingField (readingCall dgraphId) (readingRequest service.client dgraphId)
    (absentOr Instance.ofWire?) before poll after

def Settles (service : Service) (request : Request) (session : Session) : Prop :=
  (service.client.lastAttempts service.transport request session).Nonempty

def under (service : Service) (policy : RetryPolicy) : Service :=
  { service with client := { service.client with retry := policy } }

-- Waiting for an instance where each poll brings its own policy: a policy that keeps a state may answer otherwise
-- in the next operation.
def awaitUnder (service : Service) (policies : Nat → RetryPolicy) (dgraphId : String) :
    Nat → Nat → Session → Outcome Instance
  | 0, _, session => (.error (.notReady dgraphId), session)
  | left + 1, poll, session =>
      match (service.under (policies poll)).awaitInstance dgraphId 1 poll session with
      | (.ok found, after) => (.ok found, after)
      | (.error _, after) => service.awaitUnder policies dgraphId left (poll + 1) after

def addAndAwaitUnder (service : Service) (policies : Nat → RetryPolicy) (input : InstanceInput) (session : Session) :
    Outcome Instance :=
  match (service.under (policies 0)).addInstance input session with
  | (.error error, after) => (.error error, after)
  | (.ok added, after) => service.awaitUnder policies added.dgraphId pollCount 1 after

-- Polls for an instance, the first of a given number. Poll `n` comes after a wait of `n` intervals.
inductive Polls (service : Service) (policies : Nat → RetryPolicy) (dgraphId : String) :
    Nat → Session → List (Run (Option Instance)) → Session → Prop
  | done (number : Nat) (session : Session) : Polls service policies dgraphId number session [] session
  | next (number : Nat) (before between after : Session) (poll : Run (Option Instance))
      (rest : List (Run (Option Instance)))
      (reads : (service.under (policies number)).Reads dgraphId (before.wait (service.pollInterval.nanos * number)) poll
        between)
      (further : Polls service policies dgraphId (number + 1) between rest after) :
      Polls service policies dgraphId number before (poll :: rest) after

structure Settled (service : Service) (policies : Nat → RetryPolicy) (input : InstanceInput) (session : Session) :
    Prop where
  adding : (service.under (policies 0)).Settles (addingRequest service.client input.encoding) session
  polling : ∀ add added item polls between, (service.under (policies 0)).Adds input session add added →
    add.outcome = .ok item → service.Polls policies item.dgraphId 1 added polls between → polls.length < 3 →
      (∀ poll ∈ polls, poll.found? = none) →
        (service.under (policies (polls.length + 1))).Settles (readingRequest service.client item.dgraphId) between

end Service

structure UpTo (most : Nat) (polls : List (Run (Option Instance))) : Prop where
  bounded : polls.length ≤ most
  unfound : ∀ poll ∈ polls.dropLast, poll.found? = none
  exhausted : (∀ poll ∈ polls, poll.found? = none) → polls.length = most

def verdict (dgraphId : String) (polls : List (Run (Option Instance))) : Except HostingError Instance :=
  match polls.findSome? Run.found? with
  | some item => .ok item
  | none => .error (.notReady dgraphId)

-- An addition and the polls after it. An addition that fails is the whole run; after one that succeeds, the
-- instance that it gave is polled for, and what the polls find decides.
structure Service.Awaited (service : Service) (policies : Nat → RetryPolicy) (input : InstanceInput) (session : Session)
    (add : Run Instance) (added : Session) (result : Except HostingError Instance) (after : Session) : Prop where
  adds : (service.under (policies 0)).Adds input session add added
  asked : input.Sound → AsksToAdd input (addingRequest service.client input.encoding).wire
  apart : input.Sound → ∀ dgraphId,
    (addingRequest service.client input.encoding).wire ≠ (readingRequest service.client dgraphId).wire
  failed : ∀ error, add.outcome = .error error →
    result = .error error ∧ after = added ∧ error.addedInstance? = none
  polled : ∀ item, add.outcome = .ok item → ∃ polls,
    service.Polls policies item.dgraphId 1 added polls after ∧ 1 ≤ polls.length ∧ UpTo 3 polls ∧
      result = verdict item.dgraphId polls ∧
      AsksToRead item.dgraphId (readingRequest service.client item.dgraphId).wire ∧
      after.sent = session.sent ++ List.replicate add.attempts (addingRequest service.client input.encoding).wire ++
        (polls.flatMap fun poll => List.replicate poll.attempts (readingRequest service.client item.dgraphId).wire) ∧
      after.waits = session.waits ++ add.pauses ++
        ((polls.zipIdx 1).flatMap fun poll => service.pollInterval.nanos * poll.2 :: poll.1.pauses) ∧
      after.metrics.total = session.metrics.total + 1 + polls.length
  named : ∀ dgraphId, (∃ error, result = .error error ∧ error.addedInstance? = some dgraphId) ↔
    (∃ item, add.outcome = .ok item ∧ item.dgraphId = dgraphId) ∧ ∃ error, result = .error error

section

variable {α : Type} (service : Service) (read : WireValue → Option α)

theorem understood_error (result : Except Failure WireValue) (error : HostingError)
    (failed : understood read result = .error error) : error.addedInstance? = none := by
  unfold understood at failed
  split at failed
  · obtain rfl := Except.error.inj failed
    rfl
  · split at failed
    · exact nomatch failed
    · obtain rfl := Except.error.inj failed
      rfl

theorem call_understood (name : String) (argument : Argument) (type : WireType) (session : Session) :
    service.call name argument type read session =
      (understood read (service.client.execute models service.transport
          ⟨name, name, [argument], ResultType.ofWire records type⟩ session).1,
        (service.client.execute models service.transport
          ⟨name, name, [argument], ResultType.ofWire records type⟩ session).2) := by
  unfold Service.call understood
  dsimp only
  cases service.client.execute models service.transport ⟨name, name, [argument], ResultType.ofWire records type⟩ session with
  | mk outcome after =>
      cases outcome with
      | error failure => rfl
      | ok value =>
          dsimp only
          cases read value <;> rfl

theorem record_total (ok : Bool) (session : Session) : (session.record ok).metrics.total = session.metrics.total := by
  cases ok <;> rfl

theorem operates_logged (field : FieldDescriptor) (call : Call WireValue) (request : Request) (before after : Session)
    (run : Run α) (event : Event) (operates : service.Operates field call request read before run after) :
    service.Operates field call request read before run (after.log event) :=
  ⟨operates.last, operates.outcome, operates.sent, operates.paused, operates.waits, operates.calls⟩

theorem call_operates (field : FieldDescriptor) (kind : OperationKind) (argument : Argument) (type : WireType)
    (request : Request) (session : Session) (found : service.client.registry.lookup field.name = some (field, kind))
    (made : service.client.request models (fieldCall field argument type) = .ok request)
    (settles : service.Settles request session) :
    ∃ run, service.Operates field (fieldCall field argument type) request read session run
        (service.call field.name argument type read session).2 ∧
      (service.call field.name argument type read session).1 = run.outcome := by
  obtain ⟨last, least⟩ := least_last service.client service.transport request session settles
  have prepared : service.client.prepare models (fieldCall field argument type) session =
      (.ok request, (service.client.prepare models (fieldCall field argument type) session).2) :=
    Prod.ext (prepare_requested service.client models _ session request made) rfl
  obtain ⟨result, after, progress, finished⟩ :=
    execute_progress service.client models service.transport _ session _ request last prepared least
  rw [requires_registered, show (fieldCall field argument type).name = field.name from rfl, found] at result
  obtain ⟨pauses, paused, waits⟩ := progress.waits
  have positive := least.1.1
  rw [call_understood]
  change ∃ run : Run α, service.Operates field (fieldCall field argument type) request read session run
    (service.client.execute models service.transport (fieldCall field argument type) session).2 ∧
      understood read (service.client.execute models service.transport (fieldCall field argument type) session).1 =
        run.outcome
  refine ⟨⟨last, pauses, _⟩, ⟨least, congrArg (understood read) result, ?_, ?_, ?_, ?_⟩, rfl⟩
  · rw [finished]
    exact progress.sent
  · dsimp only
    omega
  · rw [finished]
    exact waits
  · rw [finished, record_total, progress.metrics]
    rfl

end

section

variable (service : Service) (offers : Offers service.client)

include offers

theorem add_operates (input : InstanceInput) (session : Session)
    (settles : service.Settles (addingRequest service.client input.encoding) session) :
    ∃ add, service.Adds input session add (service.addInstance input session).2 ∧
      (service.addInstance input session).1 = add.outcome := by
  have made := adding_request service.client offers input input.encoding rfl nofun
  obtain ⟨add, operates, outcome⟩ := call_operates service Instance.ofWire? addingField .mutation
    (Service.argument InstanceInput.type input.toWire) Instance.type _ session offers.adding made settles
  unfold Service.addInstance
  rw [show addingField.name = "addDgraphInstance" from rfl] at operates outcome
  cases called : service.call "addDgraphInstance" (Service.argument InstanceInput.type input.toWire) Instance.type
      Instance.ofWire? session with
  | mk result after =>
      rw [called] at operates outcome
      cases result with
      | error error => exact ⟨add, operates, outcome⟩
      | ok added => exact ⟨add, operates_logged service _ _ _ _ _ _ _ _ operates, outcome⟩

theorem read_operates (dgraphId : String) (session : Session)
    (settles : service.Settles (readingRequest service.client dgraphId) session) :
    ∃ poll, service.Reads dgraphId session poll (service.getInstance dgraphId session).2 ∧
      (service.getInstance dgraphId session).1 = poll.outcome :=
  call_operates service (absentOr Instance.ofWire?) readingField .query (Service.text dgraphId) (.option Instance.type) _
    session offers.reading (reading_request service.client offers dgraphId) settles

end

theorem verdict_cons (dgraphId : String) (poll : Run (Option Instance)) (rest : List (Run (Option Instance))) :
    verdict dgraphId (poll :: rest) =
      match poll.found? with
      | some item => .ok item
      | none => verdict dgraphId rest := by
  unfold verdict
  rw [List.findSome?_cons]
  cases poll.found? <;> rfl

theorem under_own (service : Service) : service.under service.client.retry = service := rfl

theorem offers_under (service : Service) (policy : RetryPolicy) (offers : Offers service.client) :
    Offers (service.under policy).client :=
  ⟨offers.adding, offers.reading⟩

section

variable (service : Service) (policies : Nat → RetryPolicy) (offers : Offers service.client)

theorem await_own (dgraphId : String) (left number : Nat) (session : Session) :
    service.awaitInstance dgraphId left number session =
      service.awaitUnder (fun _ => service.client.retry) dgraphId left number session := by
  induction left generalizing number session with
  | zero => rfl
  | succ left ih =>
      unfold Service.awaitUnder
      rw [under_own]
      unfold Service.awaitInstance
      cases service.getInstance dgraphId (session.wait (service.pollInterval.nanos * number)) with
      | mk result after =>
          cases result with
          | error error => exact ih (number + 1) _
          | ok found =>
              cases found with
              | none => exact ih (number + 1) _
              | some item => rfl

theorem add_and_await_own (input : InstanceInput) (session : Session) :
    service.addInstanceAndWait input session =
      service.addAndAwaitUnder (fun _ => service.client.retry) input session := by
  unfold Service.addInstanceAndWait Service.addAndAwaitUnder
  rw [under_own]
  cases service.addInstance input session with
  | mk result after =>
      cases result with
      | error error => rfl
      | ok added => exact await_own service added.dgraphId pollCount 1 after

include offers

theorem poll_once (dgraphId : String) (number : Nat) (session : Session)
    (settles : service.Settles (readingRequest service.client dgraphId) session) :
    ∃ poll between, service.Reads dgraphId (session.wait (service.pollInterval.nanos * number)) poll between ∧
      service.awaitInstance dgraphId 1 number session = (verdict dgraphId [poll], between) := by
  obtain ⟨poll, reads, outcome⟩ :=
    read_operates service offers dgraphId (session.wait (service.pollInterval.nanos * number)) settles
  unfold Service.awaitInstance
  cases called : service.getInstance dgraphId (session.wait (service.pollInterval.nanos * number)) with
  | mk result after =>
      rw [called] at reads outcome
      change result = poll.outcome at outcome
      have logged (event : Event) := operates_logged service _ _ _ _ _ _ poll event reads
      have single := verdict_cons dgraphId poll []
      rw [Run.found?, ← outcome] at single
      cases result with
      | error error => exact ⟨poll, _, logged _, by rw [single]; rfl⟩
      | ok found =>
          cases found with
          | none => exact ⟨poll, _, logged _, by rw [single]; rfl⟩
          | some item => exact ⟨poll, after, reads, by rw [single]; rfl⟩

-- The induction is on the polls that are left.
theorem await_polls (dgraphId : String) (left number : Nat) (session : Session)
    (settles : ∀ polls between, service.Polls policies dgraphId number session polls between → polls.length < left →
      (∀ poll ∈ polls, poll.found? = none) →
        (service.under (policies (polls.length + number))).Settles (readingRequest service.client dgraphId) between) :
    ∃ polls,
      service.Polls policies dgraphId number session polls
          (service.awaitUnder policies dgraphId left number session).2 ∧
        UpTo left polls ∧
        (service.awaitUnder policies dgraphId left number session).1 = verdict dgraphId polls := by
  have noPoll {p : Run (Option Instance) → Prop} : ∀ poll ∈ ([] : List (Run (Option Instance))), p poll :=
    fun _ none => absurd none List.not_mem_nil
  induction left generalizing number session with
  | zero => exact ⟨[], .done number session, ⟨Nat.le_refl 0, noPoll, fun _ => rfl⟩, rfl⟩
  | succ left ih =>
      have first := settles [] session (.done number session) (Nat.succ_pos left) noPoll
      rw [List.length_nil, Nat.zero_add] at first
      obtain ⟨poll, between, reads, once⟩ :=
        poll_once (service.under (policies number)) (offers_under service _ offers) dgraphId number session first
      unfold Service.awaitUnder
      rw [once, verdict_cons]
      cases found : poll.found? with
      | some item =>
          refine ⟨[poll], .next _ _ _ _ _ _ reads (.done _ between),
            ⟨Nat.succ_le_succ (Nat.zero_le left), noPoll, ?_⟩, ?_⟩
          · intro unfound
            rw [unfound poll List.mem_cons_self] at found
            exact nomatch found
          · rw [verdict_cons, found]
      | none =>
          obtain ⟨rest, further, upTo, result⟩ := ih (number + 1) between fun polls last more fewer unfound => by
            have later := settles (poll :: polls) last (.next _ _ _ _ _ _ reads more) (Nat.succ_lt_succ fewer)
              (List.forall_mem_cons.mpr ⟨found, unfound⟩)
            rwa [List.length_cons, Nat.add_right_comm, Nat.add_assoc] at later
          refine ⟨poll :: rest, .next _ _ _ _ _ _ reads further, ⟨Nat.succ_le_succ upTo.bounded, ?_, ?_⟩, ?_⟩
          · intro other member
            cases rest with
            | nil => exact absurd member List.not_mem_nil
            | cons second rest =>
                rcases List.mem_cons.mp member with rfl | later
                · exact found
                · exact upTo.unfound other later
          · intro unfound
            rw [List.length_cons, upTo.exhausted fun other member => unfound other (List.mem_cons_of_mem _ member)]
          · rw [verdict_cons, found]
            exact result

end

section

variable (service : Service) (policies : Nat → RetryPolicy) (dgraphId : String) (number : Nat) (before after : Session)
  (polls : List (Run (Option Instance)))

theorem polls_sent (run : service.Polls policies dgraphId number before polls after) :
    after.sent = before.sent ++
      polls.flatMap fun poll => List.replicate poll.attempts (readingRequest service.client dgraphId).wire := by
  induction run with
  | done number session => exact (List.append_nil _).symm
  | next number before between after poll rest reads further ih =>
      rw [ih, reads.sent, List.flatMap_cons, List.append_assoc]
      rfl

theorem polls_waits (run : service.Polls policies dgraphId number before polls after) :
    after.waits = before.waits ++
      (polls.zipIdx number).flatMap fun poll => service.pollInterval.nanos * poll.2 :: poll.1.pauses := by
  induction run with
  | done number session => exact (List.append_nil _).symm
  | next number before between after poll rest reads further ih =>
      rw [ih, reads.waits, List.zipIdx_cons, List.flatMap_cons]
      simp [Session.wait]

theorem polls_calls (run : service.Polls policies dgraphId number before polls after) :
    after.metrics.total = before.metrics.total + polls.length := by
  induction run with
  | done number session => rfl
  | next number before between after poll rest reads further ih =>
      have one : between.metrics.total = before.metrics.total + 1 := reads.calls
      rw [ih, one, List.length_cons]
      omega

end

theorem operates_once {α : Type} (service : Service) (field : FieldDescriptor) (call : Call WireValue) (request : Request)
    (read : WireValue → Option α) (before after : Session) (run : Run α) (received : HttpResponse)
    (operates : service.Operates field call request read before run after)
    (brings : service.transport before.sent.length = .response received) :
    run.attempts = 1 ∧ run.pauses = [] ∧ after.sent = before.sent ++ [request.wire] ∧
      run.outcome = understood read ((Delivery.response received).answer request >>= fun response =>
        response.conclusion models call request field.type.isNonNull) := by
  have first : service.transport.attempt before 1 = .response received := brings
  have least : IsLeast (service.client.lastAttempts service.transport request before) 1 := by
    refine ⟨⟨Nat.le_refl 1, ?_⟩, fun attempt member => member.1⟩
    rw [first]
    trivial
  have once := operates.last.unique least
  have unpaused := operates.paused
  have sent := operates.sent
  have outcome := operates.outcome
  rw [once] at unpaused sent outcome
  rw [first] at outcome
  exact ⟨once, List.length_eq_zero_iff.mp (Nat.succ.inj unpaused), sent, outcome⟩

theorem script_settles (service : Service) (delays : List Duration)
    (script : service.client.retry = RetryPolicy.ofDelays delays) (request : Request) (session : Session) :
    service.Settles request session := by
  refine ⟨delays.length + 1, Nat.succ_pos _, ?_⟩
  cases service.transport.attempt session (delays.length + 1) with
  | response received => trivial
  | fault cause =>
      change service.client.retry.decide _ _ = none
      rw [script]
      exact List.getElem?_eq_none (Nat.le_refl _)

theorem verdict_names (dgraphId : String) (polls : List (Run (Option Instance))) (error : HostingError)
    (failed : verdict dgraphId polls = .error error) : error.addedInstance? = some dgraphId := by
  unfold verdict at failed
  split at failed
  · exact nomatch failed
  · obtain rfl := Except.error.inj failed
    rfl

theorem up_to_nonempty (more : Nat) (polls : List (Run (Option Instance))) (upTo : UpTo (more + 1) polls) :
    1 ≤ polls.length := by
  cases polls with
  | nil => exact absurd (upTo.exhausted fun _ none => absurd none List.not_mem_nil) (Nat.succ_ne_zero more).symm
  | cons poll rest => exact Nat.succ_pos _

theorem script_settled (service : Service) (policies : Nat → RetryPolicy)
    (scripts : ∀ operation, ∃ delays, policies operation = RetryPolicy.ofDelays delays) (input : InstanceInput)
    (session : Session) : service.Settled policies input session := by
  have settles (operation : Nat) (request : Request) (start : Session) :
      (service.under (policies operation)).Settles request start := by
    obtain ⟨delays, script⟩ := scripts operation
    exact script_settles _ delays script request start
  exact ⟨settles 0 _ session, fun _ _ _ _ between _ _ _ _ _ => settles _ _ between⟩

theorem awaited_under (service : Service) (policies : Nat → RetryPolicy) (input : InstanceInput) (session : Session)
    (offers : Offers service.client) (settled : service.Settled policies input session) :
    ∃ add added, service.Awaited policies input session add added
      (service.addAndAwaitUnder policies input session).1 (service.addAndAwaitUnder policies input session).2 := by
  obtain ⟨add, adds, outcome⟩ :=
    add_operates (service.under (policies 0)) (offers_under service _ offers) input session settled.adding
  have waited : service.addAndAwaitUnder policies input session =
      match add.outcome with
      | .error error => (.error error, ((service.under (policies 0)).addInstance input session).2)
      | .ok item => service.awaitUnder policies item.dgraphId pollCount 1
          ((service.under (policies 0)).addInstance input session).2 := by
    rw [← outcome]
    unfold Service.addAndAwaitUnder
    cases (service.under (policies 0)).addInstance input session with
    | mk result after => cases result <;> rfl
  have asks := adding_asks service.client input
  have apart (sound : input.Sound) (dgraphId : String) := bodies_apart service.client input dgraphId sound
  cases added : add.outcome with
  | error error =>
      rw [added] at waited
      rw [waited]
      have unnamed := understood_error _ _ error (adds.outcome.symm.trans added)
      refine ⟨add, _, adds, asks, apart, ?_, ?_, ?_⟩
      · intro other failed
        obtain rfl := Except.error.inj (added.symm.trans failed)
        exact ⟨rfl, rfl, unnamed⟩
      · intro item succeeded
        rw [added] at succeeded
        exact nomatch succeeded
      · intro dgraphId
        constructor
        · rintro ⟨other, failed, named⟩
          obtain rfl := Except.error.inj failed
          rw [unnamed] at named
          exact nomatch named
        · rintro ⟨⟨item, succeeded, _⟩, _⟩
          rw [added] at succeeded
          exact nomatch succeeded
  | ok item =>
      rw [added] at waited
      obtain ⟨polls, run, upTo, result⟩ := await_polls service policies offers item.dgraphId pollCount 1 _
        fun polls between run fewer unfound => settled.polling add _ item polls between adds added run fewer unfound
      rw [waited]
      refine ⟨add, _, adds, asks, apart, ?_, ?_, ?_⟩
      · intro error failed
        rw [added] at failed
        exact nomatch failed
      · intro other succeeded
        obtain rfl := Except.ok.inj (added.symm.trans succeeded)
        refine ⟨polls, run, up_to_nonempty 2 polls upTo, upTo, result, reading_asks service.client _, ?_, ?_, ?_⟩
        · rw [polls_sent service policies item.dgraphId 1 _ _ polls run, adds.sent]
          rfl
        · rw [polls_waits service policies item.dgraphId 1 _ _ polls run, adds.waits]
        · rw [polls_calls service policies item.dgraphId 1 _ _ polls run, adds.calls]
      · intro dgraphId
        constructor
        · rintro ⟨error, failed, named⟩
          have own := verdict_names item.dgraphId polls error (result.symm.trans failed)
          exact ⟨⟨item, added, Option.some.inj (own.symm.trans named)⟩, error, failed⟩
        · rintro ⟨⟨other, succeeded, rfl⟩, error, failed⟩
          obtain rfl := Except.ok.inj (added.symm.trans succeeded)
          exact ⟨error, failed, verdict_names item.dgraphId polls error (result.symm.trans failed)⟩

theorem instance_added_and_awaited (service : Service) (input : InstanceInput) (session : Session)
    (offers : Offers service.client) :
    (service.Settled (fun _ => service.client.retry) input session →
      ∃ add added, service.Awaited (fun _ => service.client.retry) input session add added
        (service.addInstanceAndWait input session).1 (service.addInstanceAndWait input session).2) ∧
    (∀ policies, service.Settled policies input session →
      ∃ add added, service.Awaited policies input session add added
        (service.addAndAwaitUnder policies input session).1 (service.addAndAwaitUnder policies input session).2) ∧
    ∀ policies, (∀ operation, ∃ delays, policies operation = RetryPolicy.ofDelays delays) →
      service.Settled policies input session := by
  refine ⟨?_, ?_, fun policies scripts => script_settled service policies scripts input session⟩
  · intro settled
    rw [add_and_await_own]
    exact awaited_under service _ input session offers settled
  · exact fun policies settled => awaited_under service policies input session offers settled

def pollingService : Service where
  client := { Client.ofSchema serviceSchema with retry := RetryPolicy.ofDelays [.ofMillis 5] }
  transport := Transport.ofList
    [.response (HttpResponse.ofText 200 "\x7b\"data\": \x7b\"addDgraphInstance\": \x7b\"dgraphId\": \"d-1\"\x7d\x7d\x7d"),
      .response (HttpResponse.ofText 503 "busy"),
      .response (HttpResponse.ofText 200
        "\x7b\"data\": \x7b\"getDgraphInstance\": \x7b\"dgraphId\": \"d-1\"\x7d\x7d\x7d")] .timeout
  pollInterval := .ofMillis 10
  short := by decide

def foundInstance : Instance := ⟨"d-1", none, none, none, none, none, none⟩

def wholeInstance : String :=
  "\x7b dgraphId createdAt replicas shards storageGB env \x7b id createdAt name \x7d " ++
    "certificates \x7b caCert clientCert clientKey \x7d \x7d"

theorem second_poll_finds :
    Offers pollingService.client ∧ smallInput.Sound ∧
      pollingService.Settled (fun _ => pollingService.client.retry) smallInput Session.start ∧
      (pollingService.addInstanceAndWait smallInput Session.start).1 = .ok foundInstance ∧
      (pollingService.addInstanceAndWait smallInput Session.start).2.sent =
        [(addingRequest pollingService.client smallInput.encoding).wire,
          (readingRequest pollingService.client "d-1").wire, (readingRequest pollingService.client "d-1").wire] ∧
      Request.parse (addingRequest pollingService.client smallInput.encoding).wire =
        .ok ⟨"mutation addDgraphInstance($input: DgraphInstanceInput!) \x7b addDgraphInstance(input: $input) " ++
            wholeInstance ++ " \x7d", "addDgraphInstance",
          [("input", .obj [("replicas", .int 3), ("shards", .int 1), ("storageGB", .int 10),
            ("env", .obj [("id", .str "e-1")])])]⟩ ∧
      Request.parse (readingRequest pollingService.client "d-1").wire =
        .ok ⟨"query getDgraphInstance($dgraphId: ID!) \x7b getDgraphInstance(dgraphId: $dgraphId) " ++
            wholeInstance ++ " \x7d", "getDgraphInstance", [("dgraphId", .str "d-1")]⟩ ∧
      (pollingService.addInstanceAndWait smallInput Session.start).2.waits = [10000000, 20000000] := by
  have offers : Offers pollingService.client := ⟨by decide, by decide⟩
  obtain ⟨performed, _, scripted⟩ := instance_added_and_awaited pollingService smallInput Session.start offers
  have settled := scripted (fun _ => pollingService.client.retry) fun _ => ⟨[.ofMillis 5], rfl⟩
  have small : smallInput.Sound := ⟨by decide, by decide, by decide⟩
  obtain ⟨add, added, adds, _, _, _, awaited, _⟩ := performed settled
  obtain ⟨addedOnce, addedAtOnce, addedSent, addedOutcome⟩ :=
    operates_once pollingService addingField _ _ _ _ _ add _ adds rfl
  obtain ⟨polls, run, polled, upTo, result, _, sent, waits, _⟩ :=
    awaited foundInstance (addedOutcome.trans (by decide +kernel))
  cases run with
  | done => exact absurd polled (by decide)
  | next _ _ between _ first rest reads further =>
      obtain ⟨firstOnce, firstAtOnce, firstSent, firstOutcome⟩ :=
        operates_once pollingService readingField _ _ _ _ _ first (HttpResponse.ofText 503 "busy") reads
          (by change pollingService.transport added.sent.length = _; rw [addedSent]; rfl)
      have busy : first.found? = none := by
        rw [Run.found?, firstOutcome]
        decide +kernel
      cases further with
      | done => exact absurd (upTo.exhausted (List.forall_mem_singleton.mpr busy)) (by simp)
      | next _ _ last _ second rest reads further =>
          obtain ⟨secondOnce, secondAtOnce, _, secondOutcome⟩ :=
            operates_once pollingService readingField _ _ _ _ _ second _ reads
              (by change pollingService.transport between.sent.length = _
                  rw [firstSent]
                  change pollingService.transport (added.sent ++ _).length = _
                  rw [addedSent]
                  rfl)
          have found : second.found? = some foundInstance := by
            rw [Run.found?, secondOutcome]
            decide +kernel
          cases rest with
          | cons third more =>
              have unfound := upTo.unfound second (List.mem_cons_of_mem _ List.mem_cons_self)
              rw [found] at unfound
              exact nomatch unfound
          | nil =>
              refine ⟨offers, small, settled, ?_, ?_, ?_, ?_, ?_⟩
              · rw [result, verdict_cons, busy]
                dsimp only
                rw [verdict_cons, found]
              · rw [sent, addedOnce]
                simp only [List.flatMap_cons, List.flatMap_nil, firstOnce, secondOnce]
                rfl
              · exact (field_request_parsed _ addingField .mutation _ _ rfl (encoding_carried smallInput small)).trans
                  (by decide +kernel)
              · exact (field_request_parsed _ readingField .query _ _ rfl (id_carried "d-1")).trans (by decide +kernel)
              · rw [waits, addedAtOnce]
                simp only [List.zipIdx_cons, List.zipIdx_nil, List.flatMap_cons, List.flatMap_nil, firstAtOnce, secondAtOnce]
                rfl

end TypedQuery.Hosting

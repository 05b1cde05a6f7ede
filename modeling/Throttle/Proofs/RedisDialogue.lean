import Throttle.Limiter
import Throttle.Proofs.RecordBounds
import Throttle.Redis.Client

/-!
# Dialogues with a Redis server

`Server.noted` keeps the dialogue that a store has with its server: every command that is sent, with the
reply or the silence that follows.  The server is arbitrary, so what is said here of dialogues is said of
all replies in any order.

A request to an endpoint reads one record or two (`Reads`), and counts with one call more where the last
record holds a limit (`Sends`).  `found` and `judged` tell what the last replies of these two parts come
to, and the main statement puts them together: `Decided` lists, for each outcome of a request, the replies
that lead to it.
-/

namespace Throttle.Redis

variable {σ α β : Type} {hash : Script → String}

/-! ## Exchanges -/

/-- A command that a server is sent, and what it replies. -/
structure Exchange where
  command : List String
  reply : Option Reply

def lastReply (talk : List Exchange) : Option Reply := talk.getLast?.bind Exchange.reply

def Server.noted (server : Server σ) : Server (σ × List Exchange) := fun command s =>
  let (reply, after) := server command s.1
  (reply, after, s.2 ++ [⟨command, reply⟩])

/-- The exchanges of one call.  Its command is repeated in one case only: the server has asked for a
    script, and has taken it. -/
inductive Sends (hash : Script → String) (call : Call) : List Exchange → Prop
  | once {reply : Option Reply}
      (kept : (scriptOf call).isSome → ∀ r ∈ reply, r.asksForScript = false) :
      Sends hash call [⟨words hash call, reply⟩]
  | refused {script : Script} {asking : Reply} {reply : Option Reply}
      (runs : scriptOf call = some script) (asks : asking.asksForScript = true)
      (refuses : ∀ r ∈ reply, r.hasError = true) :
      Sends hash call [⟨words hash call, some asking⟩, ⟨loadWords script, reply⟩]
  | repeated {script : Script} {asking taking : Reply} {reply : Option Reply}
      (runs : scriptOf call = some script) (asks : asking.asksForScript = true)
      (takes : taking.hasError = false) :
      Sends hash call [⟨words hash call, some asking⟩, ⟨loadWords script, some taking⟩,
        ⟨words hash call, reply⟩]

theorem exists_retry_eq {call : Call} {script : Script} {asking : Reply} (server : Server σ)
    (runs : scriptOf call = some script) (asks : asking.asksForScript = true) (s : σ)
    (talk : List Exchange) :
    ∃ after exchanges, Sends hash call (⟨words hash call, some asking⟩ :: exchanges) ∧
      exchanges ≠ [] ∧ retry hash server.noted call script (s, talk) =
        (received call (lastReply exchanges), after, talk ++ exchanges) := by
  unfold retry
  rcases loading : server (loadWords script) s with ⟨_ | reply, s₁⟩
  · refine ⟨s₁, [⟨loadWords script, none⟩], .refused runs asks (by simp), by simp, ?_⟩
    simp [Server.noted, loading, received, lastReply]
  · cases failed : reply.hasError with
    | true =>
      refine ⟨s₁, [⟨loadWords script, some reply⟩], .refused runs asks (by simpa), by simp, ?_⟩
      simp [Server.noted, loading, failed, received, lastReply, Reply.decode]
    | false =>
      rcases again : server (words hash call) s₁ with ⟨answer, s₂⟩
      refine ⟨s₂, [⟨loadWords script, some reply⟩, ⟨words hash call, answer⟩],
        .repeated runs asks failed, by simp, ?_⟩
      simp [Server.noted, loading, again, failed, lastReply]

/-- A call is answered by the last reply, be it to its own command or to the script. -/
theorem exists_client_eq (server : Server σ) (call : Call) (s : σ) (talk : List Exchange) :
    ∃ after exchanges, Sends hash call exchanges ∧ client hash server.noted call (s, talk) =
      (received call (lastReply exchanges), after, talk ++ exchanges) := by
  rcases first : server (words hash call) s with ⟨reply, s₁⟩
  unfold client
  cases runs : scriptOf call with
  | none =>
    refine ⟨s₁, [⟨words hash call, reply⟩], .once (by simp [runs]), ?_⟩
    simp [Server.noted, first, lastReply]
  | some script =>
    cases reply with
    | none =>
      refine ⟨s₁, [⟨words hash call, none⟩], .once (by simp), ?_⟩
      simp [Server.noted, first, lastReply]
    | some reply =>
      cases asks : reply.asksForScript with
      | false =>
        refine ⟨s₁, [⟨words hash call, some reply⟩], .once (by simp [asks]), ?_⟩
        simp [Server.noted, first, asks, received, lastReply]
      | true =>
        obtain ⟨after, rest, sends, nonempty, retried⟩ :=
          exists_retry_eq server runs asks s₁ (talk ++ [⟨words hash call, some reply⟩])
        refine ⟨after, ⟨words hash call, some reply⟩ :: rest, sends, ?_⟩
        have last : lastReply (⟨words hash call, some reply⟩ :: rest) = lastReply rest := by
          obtain ⟨e, later, rfl⟩ := List.exists_cons_of_ne_nil nonempty
          simp [lastReply, List.getLast?_cons_cons]
        simp [Server.noted, first, asks, retried, last]

theorem Sends.eq_single {call : Call} {talk : List Exchange} (sends : Sends hash call talk)
    (own : scriptOf call = none) : ∃ reply, talk = [⟨words hash call, reply⟩] := by
  cases sends with
  | once kept => exact ⟨_, rfl⟩
  | refused runs asks refuses => rw [own] at runs; cases runs
  | repeated runs asks takes => rw [own] at runs; cases runs

/-! ## Replies -/

theorem eq_error_or_array {reply : Reply} (failed : reply.hasError = true) :
    (∃ text, reply = .error text) ∨ ∃ items, reply = .array items := by
  cases reply with
  | error text => exact .inl ⟨text, rfl⟩
  | array items => exact .inr ⟨items, rfl⟩
  | nil | integer _ | bulk _ | status _ => cases failed

theorem text?_of_hasError {reply : Reply} (failed : reply.hasError = true) : reply.text? = none := by
  obtain ⟨_, rfl⟩ | ⟨_, rfl⟩ := eq_error_or_array failed <;> rfl

theorem word?_of_hasError {reply : Reply} (failed : reply.hasError = true) : reply.word? = none := by
  obtain ⟨_, rfl⟩ | ⟨_, rfl⟩ := eq_error_or_array failed <;> rfl

theorem count?_of_hasError {reply : Reply} (failed : reply.hasError = true) :
    reply.count? = none := by
  obtain ⟨_, rfl⟩ | ⟨_, rfl⟩ := eq_error_or_array failed <;> rfl

theorem pair?_of_hasError {reply : Reply} (failed : reply.hasError = true) :
    reply.pair? = none := by
  unfold Reply.pair?
  split
  · rename_i first second
    simp only [Reply.hasError, Reply.error?, Reply.firstError?, Option.or_none, Option.isSome_or,
      Bool.or_eq_true] at failed
    obtain failed | failed := failed
    · simp [word?_of_hasError failed]
    · cases first.word? <;> simp [word?_of_hasError failed]
  · rfl

theorem text?_eq_nil_iff {reply : Reply} : reply.text? = some none ↔ reply = .nil := by
  cases reply <;> simp [Reply.text?]

def usable : Option α → Except ErrorKind α
  | some value => .ok value
  | none => .error .storeUnavailable

theorem usable_bind_eq_ok_iff {held : Option α} {f : α → Except ErrorKind β} {result : β} :
    (usable held).bind f = .ok result ↔ ∃ value, held = some value ∧ f value = .ok result := by
  cases held <;> simp [usable, Except.bind]

theorem usable_bind_eq_error_iff {held : Option α} {f : α → Except ErrorKind β} {kind : ErrorKind} :
    (usable held).bind f = .error kind ↔
      (held = none ∧ kind = .storeUnavailable) ∨ ∃ value, held = some value ∧ f value = .error kind := by
  cases held with
  | none => simp [usable, Except.bind, eq_comm]
  | some value => simp [usable, Except.bind]

/-- A call that takes its answer from a reply in one way fails for lack of the store, or not at all. -/
theorem mapError_received {call : Call} {read : Reply → Option call.Answer}
    (answers : ∀ reply : Reply, reply.answer call = Reply.orUnusable (read reply))
    (useless : ∀ {reply : Reply}, reply.hasError = true → read reply = none) (reply : Option Reply) :
    (received call reply).mapError LimiterError.kind = usable (reply.bind read) := by
  cases reply with
  | none => rfl
  | some reply =>
    change (reply.decode call).mapError LimiterError.kind = usable (read reply)
    unfold Reply.decode
    cases failed : reply.hasError with
    | true =>
      rw [useless failed]
      rfl
    | false =>
      rw [if_neg (by decide), answers]
      cases read reply <;> rfl

/-! ## Dialogues of plans -/

/-- Whatever was said before, the exchanges of the plan and its outcome, with the kinds of errors only,
    are related. -/
def Converses (hash : Script → String) (server : Server σ) (p : Plan α)
    (R : List Exchange → Except ErrorKind α → Prop) : Prop :=
  ∀ s talk, ∃ after exchanges outcome,
    p.run (client hash server.noted) (s, talk) = (outcome, after, talk ++ exchanges) ∧
      R exchanges (outcome.mapError LimiterError.kind)

variable {server : Server σ} {R : List Exchange → Except ErrorKind α → Prop}
  {Q : List Exchange → Except ErrorKind β → Prop}

theorem converses_ofExcept {result : Except LimiterError α}
    (related : R [] (result.mapError LimiterError.kind)) :
    Converses hash server (Plan.ofExcept result) R := by
  intro s talk
  refine ⟨s, [], result, ?_, related⟩
  cases result <;> simp [Plan.ofExcept, Plan.run]

theorem converses_done {value : α} (related : R [] (.ok value)) :
    Converses hash server (.done value) R := by
  change Converses hash server (Plan.ofExcept (.ok value)) R
  exact converses_ofExcept related

theorem converses_call {call : Call} {R : List Exchange → Except ErrorKind call.Answer → Prop}
    (related : ∀ talk, Sends hash call talk →
      R talk ((received call (lastReply talk)).mapError LimiterError.kind)) :
    Converses hash server (Plan.call call) R := by
  intro s talk
  obtain ⟨after, exchanges, sends, asked⟩ := exists_client_eq server call s talk
  refine ⟨after, exchanges, received call (lastReply exchanges), ?_, related exchanges sends⟩
  unfold Plan.call
  rw [Plan.run, asked]
  cases received call (lastReply exchanges) <;> rfl

theorem Converses.imp {p : Plan α} {R' : List Exchange → Except ErrorKind α → Prop}
    (converses : Converses hash server p R)
    (weaker : ∀ talk outcome, R talk outcome → R' talk outcome) : Converses hash server p R' := by
  intro s talk
  obtain ⟨after, exchanges, outcome, ran, related⟩ := converses s talk
  exact ⟨after, exchanges, outcome, ran, weaker _ _ related⟩

theorem Converses.bind {p : Plan α} {f : α → Plan β} (first : Converses hash server p R)
    (fails : ∀ talk kind, R talk (.error kind) → Q talk (.error kind))
    (next : ∀ value, Converses hash server (f value) fun talk outcome =>
      ∀ earlier, R earlier (.ok value) → Q (earlier ++ talk) outcome) :
    Converses hash server (p.bind f) Q := by
  intro s talk
  obtain ⟨after, exchanges, outcome, ran, related⟩ := first s talk
  rw [Plan.run_bind, ran]
  cases outcome with
  | error error => exact ⟨after, exchanges, .error error, rfl, fails _ _ related⟩
  | ok value =>
    obtain ⟨last, exchanges', outcome, ran', related'⟩ := next value after (talk ++ exchanges)
    refine ⟨last, exchanges ++ exchanges', outcome, ?_, related' exchanges related⟩
    rw [← List.append_assoc]
    exact ran'

/-! ## Reading records -/

/-- The exchanges of a limiter that looks for the limit of an endpoint: it reads the endpoint's record,
    and where there is none the default's of the service. -/
inductive Reads (base service endpoint : String) : List Exchange → Prop
  | own {reply : Option Reply} (present : reply ≠ some .nil) : Reads base service endpoint
      [⟨["GET", (LimitKey.ofEndpoint service endpoint).configKey base], reply⟩]
  | fallback {reply : Option Reply} : Reads base service endpoint
      [⟨["GET", (LimitKey.ofEndpoint service endpoint).configKey base], some .nil⟩,
        ⟨["GET", (LimitKey.serviceDefault service).configKey base], reply⟩]

/-- The limit that a record stands for, where there is a record. -/
def recorded : Option String → Except ErrorKind (Option Limit)
  | none => .ok none
  | some text => ((Record.decodeLimit text).map some).mapError LimiterError.kind

/-- What the reply to a read comes to: nothing, a limit, or a failure of some kind. -/
def found (reply : Option Reply) : Except ErrorKind (Option Limit) :=
  (usable (reply.bind Reply.text?)).bind recorded

theorem recorded_of_ok {text : String} {limit : Limit} (read : Record.decodeLimit text = .ok limit) :
    recorded (some text) = .ok (some limit) := by
  rw [recorded, read]
  rfl

theorem recorded_of_error {text : String} {error : LimiterError}
    (read : Record.decodeLimit text = .error error) : recorded (some text) = .error error.kind := by
  rw [recorded, read]
  rfl

theorem lookUp_converses (server : Server σ) (base : String) (key : LimitKey) :
    Converses hash server (Limiter.lookUp base key) fun talk outcome =>
      ∃ reply, talk = [⟨["GET", key.configKey base], reply⟩] ∧ outcome = found reply := by
  have answer (reply : Option Reply) :
      (received (.get (key.configKey base)) reply).mapError LimiterError.kind =
        usable (reply.bind Reply.text?) :=
    mapError_received (fun _ => rfl) text?_of_hasError reply
  have told : Converses hash server (Plan.call (.get (key.configKey base))) fun talk outcome =>
      ∃ reply, talk = [⟨["GET", key.configKey base], reply⟩] ∧
        outcome = usable (reply.bind Reply.text?) := by
    apply converses_call
    intro talk sends
    obtain ⟨reply, rfl⟩ := sends.eq_single rfl
    exact ⟨reply, rfl, answer reply⟩
  refine told.bind ?_ ?_
  · rintro talk kind ⟨reply, rfl, failed⟩
    refine ⟨reply, rfl, ?_⟩
    unfold found
    rw [← failed]
    rfl
  · rintro (_ | text)
    · refine converses_done ?_
      rintro earlier ⟨reply, rfl, read⟩
      refine ⟨reply, rfl, ?_⟩
      unfold found
      rw [← read]
      rfl
    · have decoding : ((Plan.ofExcept (Record.decodeLimit text)).bind fun limit =>
          .done (some limit)) = Plan.ofExcept ((Record.decodeLimit text).map some) := by
        cases Record.decodeLimit text <;> rfl
      simp only [Plan.bind_eq, Plan.pure_eq, decoding]
      refine converses_ofExcept ?_
      rintro earlier ⟨reply, rfl, read⟩
      refine ⟨reply, rfl, ?_⟩
      unfold found
      rw [← read]
      rfl

theorem found_eq_none_iff {reply : Option Reply} : found reply = .ok none ↔ reply = some .nil := by
  unfold found
  rw [usable_bind_eq_ok_iff]
  constructor
  · rintro ⟨_ | text, told, decoded⟩
    · obtain ⟨r, rfl, blank⟩ := Option.bind_eq_some_iff.mp told
      rw [text?_eq_nil_iff.mp blank]
    · cases read : Record.decodeLimit text with
      | error error => rw [recorded_of_error read] at decoded; cases decoded
      | ok limit => rw [recorded_of_ok read] at decoded; cases decoded
  · rintro rfl
    exact ⟨none, rfl, rfl⟩

theorem resolve_converses (server : Server σ) (base service endpoint : String) :
    Converses hash server (Limiter.resolve base service endpoint) fun talk outcome =>
      Reads base service endpoint talk ∧ outcome = found (lastReply talk) := by
  have own {reply : Option Reply} (present : found reply ≠ .ok none) : Reads base service endpoint
      [⟨["GET", (LimitKey.ofEndpoint service endpoint).configKey base], reply⟩] :=
    .own (mt found_eq_none_iff.mpr present)
  refine (lookUp_converses server base (.ofEndpoint service endpoint)).bind ?_ ?_
  · rintro talk kind ⟨reply, rfl, failed⟩
    exact ⟨own (by simp [← failed]), failed⟩
  · rintro (_ | limit)
    · refine (lookUp_converses server base (.serviceDefault service)).imp ?_
      rintro talk outcome ⟨reply, rfl, read⟩ earlier ⟨reply', rfl, absent⟩
      obtain rfl := found_eq_none_iff.mp absent.symm
      exact ⟨.fallback, read⟩
    · refine converses_done ?_
      rintro earlier ⟨reply, rfl, read⟩
      exact ⟨own (by simp [← read]), read⟩

/-! ## Counting requests -/

/-- The call with which a limiter counts a request. -/
def countingCall (base : String) (now : Int) (ticket : String) (key : LimitKey) (limit : Limit) :
    Call :=
  match limit.algorithm with
  | .fixedWindow => .incr (key.stateKey base "fw") 1 limit.window
  | .slidingWindow =>
    .recordInWindow (key.stateKey base "sw") now limit.window (Limiter.logMember now ticket)
  | .tokenBucket => .askBucket (Limiter.tokenBucket base key limit) now
  | .leakyBucket => .askBucket (Limiter.leakyBucket base key limit) now

/-- What the bucket's script reports: a decision, unless the status is negative. -/
def settled : Int × Int → Except ErrorKind Bool
  | (status, _) => if status < 0 then .error .serialization else .ok (status == 1)

theorem settled_eq_ok_true_iff {status content : Int} :
    settled (status, content) = .ok true ↔ status = 1 := by
  unfold settled
  by_cases lost : status < 0
  · simp only [lost, if_true, reduceCtorEq, false_iff]
    omega
  · simp [lost]

theorem settled_eq_error_iff {status content : Int} {kind : ErrorKind} :
    settled (status, content) = .error kind ↔ status < 0 ∧ kind = .serialization := by
  unfold settled
  by_cases lost : status < 0 <;> simp [lost, eq_comm]

/-- What the reply to that call comes to: a decision, or a failure of some kind. -/
def judged (limit : Limit) (reply : Option Reply) : Except ErrorKind Bool :=
  match limit.algorithm with
  | .fixedWindow =>
    (usable (reply.bind Reply.word?)).bind fun count => .ok (decide (count ≤ limit.maxRequests))
  | .slidingWindow =>
    (usable (reply.bind Reply.count?)).bind fun count => .ok (decide (count ≤ limit.maxRequests))
  | .tokenBucket | .leakyBucket => (usable (reply.bind Reply.pair?)).bind settled

theorem converses_call_bind {call : Call} (f : call.Answer → Bool) :
    Converses hash server ((Plan.call call).bind fun answer => .done (f answer)) fun talk outcome =>
      Sends hash call talk ∧
        outcome = ((received call (lastReply talk)).mapError LimiterError.kind).map f := by
  have told : Converses hash server (Plan.call call) fun talk outcome => Sends hash call talk ∧
      outcome = (received call (lastReply talk)).mapError LimiterError.kind :=
    converses_call fun talk sends => ⟨sends, rfl⟩
  refine told.bind ?_ fun answer => converses_done ?_
  · rintro talk kind ⟨sends, failed⟩
    exact ⟨sends, by rw [← failed]; rfl⟩
  · rintro earlier ⟨sends, answered⟩
    rw [List.append_nil]
    exact ⟨sends, by rw [← answered]; rfl⟩

theorem mapError_received_askBucket (bucket : Bucket) (now : Int) (reply : Option Reply) :
    ((received (.askBucket bucket now) reply).mapError LimiterError.kind).map
        BucketOutcome.admitted = (usable (reply.bind Reply.pair?)).bind settled := by
  cases reply with
  | none => rfl
  | some reply =>
    change ((reply.decode (.askBucket bucket now)).mapError LimiterError.kind).map
      BucketOutcome.admitted = _
    unfold Reply.decode
    rw [Option.bind_some]
    cases failed : reply.hasError with
    | true =>
      rw [pair?_of_hasError failed]
      rfl
    | false =>
      rw [if_neg (by decide), Reply.answer]
      rcases reply.pair? with _ | ⟨status, content⟩
      · rfl
      · change ((Reply.bucketOutcome bucket.contentKey (status, content)).mapError
          LimiterError.kind).map BucketOutcome.admitted = settled (status, content)
        unfold Reply.bucketOutcome settled
        dsimp only
        split <;> rfl

theorem evaluate_converses (server : Server σ) (base : String) (now : Int) (ticket : String)
    (key : LimitKey) (limit : Limit) :
    Converses hash server (Limiter.evaluate base now ticket key limit) fun talk outcome =>
      Sends hash (countingCall base now ticket key limit) talk ∧
        (limit.Valid → outcome = judged limit (lastReply talk)) := by
  unfold Limiter.evaluate countingCall judged
  cases limit.algorithm with
  | fixedWindow =>
    refine (converses_call_bind _).imp ?_
    rintro talk outcome ⟨sends, rfl⟩
    refine ⟨sends, fun valid => ?_⟩
    rw [mapError_received (fun _ => rfl) word?_of_hasError, valid.capacity_eq]
    rfl
  | slidingWindow =>
    refine (converses_call_bind _).imp ?_
    rintro talk outcome ⟨sends, rfl⟩
    refine ⟨sends, fun _ => ?_⟩
    rw [mapError_received (fun _ => rfl) count?_of_hasError]
    rfl
  | tokenBucket | leakyBucket =>
    refine (converses_call_bind _).imp ?_
    rintro talk outcome ⟨sends, rfl⟩
    exact ⟨sends, fun _ => mapError_received_askBucket _ _ _⟩

/-! ## Requests to endpoints -/

variable {reply : Option Reply} {text : String} {limit : Limit}

/-- The reply is a text. -/
def Holds (reply : Option Reply) (text : String) : Prop :=
  ∃ r ∈ reply, r.text? = some (some text)

/-- The reply is the record of a limit that could have been published. -/
def HoldsLimit (reply : Option Reply) (limit : Limit) : Prop :=
  ∃ text, Holds reply text ∧ Record.decodeLimit text = .ok limit

/-- The text is no record, or its algorithm is known and its limits are not positive. -/
def Malformed (text : String) : Prop :=
  (∃ defect, Record.read text = .error defect) ∨
    ∃ record algorithm, Record.read text = .ok record ∧
      Algorithm.ofName? record.algorithm = some algorithm ∧
      (record.maxRequests ≤ 0 ∨ record.windowMillis ≤ 0)

/-- The text is a record whose algorithm has no known name. -/
def OfUnknownAlgorithm (text : String) : Prop :=
  ∃ record, Record.read text = .ok record ∧ Algorithm.ofName? record.algorithm = none

/-- The reply lets a request in: a count that is within the limit, or a bucket's status of one. -/
def Admits (limit : Limit) (reply : Reply) : Prop :=
  match limit.algorithm with
  | .fixedWindow => ∃ count, reply.word? = some count ∧ count ≤ limit.maxRequests
  | .slidingWindow => ∃ count, reply.count? = some count ∧ count ≤ limit.maxRequests
  | .tokenBucket | .leakyBucket => ∃ content, reply.pair? = some (1, content)

/-- The reply does not convert to what the algorithm asks for. -/
def Unusable (algorithm : Algorithm) (reply : Reply) : Prop :=
  match algorithm with
  | .fixedWindow => reply.word? = none
  | .slidingWindow => reply.count? = none
  | .tokenBucket | .leakyBucket => reply.pair? = none

/-- The reply tells of a bucket whose state is no integer. -/
def Corrupt (algorithm : Algorithm) (reply : Reply) : Prop :=
  match algorithm with
  | .fixedWindow | .slidingWindow => False
  | .tokenBucket | .leakyBucket =>
    ∃ status content, reply.pair? = some (status, content) ∧ status < 0

/-! ### Records -/

theorem recorded_of_unreadable {defect : Defect} (read : Record.read text = .error defect) :
    recorded (some text) = .error .serialization := by
  rw [recorded, Record.decodeLimit, read]
  rfl

theorem recorded_of_readable {record : Record} (read : Record.read text = .ok record) :
    recorded (some text) = (record.toLimit.map some).mapError LimiterError.kind := by
  rw [recorded, Record.decodeLimit, read]

theorem recorded_eq_error_iff {kind : ErrorKind} :
    recorded (some text) = .error kind ↔
      (kind = .serialization ∧ Malformed text) ∨
        (kind = .unsupportedAlgorithm ∧ OfUnknownAlgorithm text) := by
  unfold Malformed OfUnknownAlgorithm
  cases read : Record.read text with
  | error defect => simp [recorded_of_unreadable read, eq_comm]
  | ok record =>
    rw [recorded_of_readable read, Record.toLimit]
    cases named : Algorithm.ofName? record.algorithm with
    | none => simp [named, Except.map, Except.mapError, LimiterError.kind, eq_comm]
    | some algorithm =>
      by_cases nonpositive : record.maxRequests ≤ 0 ∨ record.windowMillis ≤ 0 <;>
        simp [named, nonpositive, Except.map, Except.mapError, LimiterError.kind, eq_comm]

theorem recorded_eq_limit_iff :
    recorded (some text) = .ok (some limit) ↔ Record.decodeLimit text = .ok limit := by
  cases read : Record.decodeLimit text with
  | error error => simp [recorded_of_error read]
  | ok limit' => simp [recorded_of_ok read]

theorem found_eq_limit_iff : found reply = .ok (some limit) ↔ HoldsLimit reply limit := by
  unfold found HoldsLimit Holds
  rw [usable_bind_eq_ok_iff]
  constructor
  · rintro ⟨_ | text, told, decoded⟩
    · cases decoded
    · exact ⟨text, Option.bind_eq_some_iff.mp told, recorded_eq_limit_iff.mp decoded⟩
  · rintro ⟨text, told, decoded⟩
    exact ⟨some text, Option.bind_eq_some_iff.mpr told, recorded_eq_limit_iff.mpr decoded⟩

theorem found_eq_error_iff {kind : ErrorKind} :
    found reply = .error kind ↔
      (kind = .storeUnavailable ∧ ∀ r ∈ reply, r.text? = none) ∨
        ∃ text, Holds reply text ∧ ((kind = .serialization ∧ Malformed text) ∨
          (kind = .unsupportedAlgorithm ∧ OfUnknownAlgorithm text)) := by
  unfold found Holds
  rw [usable_bind_eq_error_iff, Option.bind_eq_none_iff, and_comm]
  refine or_congr_right ?_
  constructor
  · rintro ⟨_ | text, told, failed⟩
    · cases failed
    · exact ⟨text, Option.bind_eq_some_iff.mp told, recorded_eq_error_iff.mp failed⟩
  · rintro ⟨text, told, failed⟩
    exact ⟨some text, Option.bind_eq_some_iff.mpr told, recorded_eq_error_iff.mpr failed⟩

/-! ### Decisions -/

theorem judged_admits_iff :
    judged limit reply = .ok true ↔ ∃ r ∈ reply, Admits limit r := by
  unfold judged Admits
  cases limit.algorithm with
  | fixedWindow | slidingWindow =>
    simp only [usable_bind_eq_ok_iff, Option.bind_eq_some_iff, Option.mem_def, Except.ok.injEq,
      decide_eq_true_eq]
    grind
  | tokenBucket | leakyBucket =>
    simp only [usable_bind_eq_ok_iff, Option.bind_eq_some_iff, Option.mem_def, Prod.exists,
      settled_eq_ok_true_iff]
    grind

theorem judged_eq_error_iff {kind : ErrorKind} :
    judged limit reply = .error kind ↔
      (kind = .storeUnavailable ∧ ∀ r ∈ reply, Unusable limit.algorithm r) ∨
        (kind = .serialization ∧ ∃ r ∈ reply, Corrupt limit.algorithm r) := by
  unfold judged Unusable Corrupt
  cases limit.algorithm with
  | fixedWindow | slidingWindow =>
    simp [usable_bind_eq_error_iff, Option.bind_eq_none_iff, and_comm]
  | tokenBucket | leakyBucket =>
    simp only [usable_bind_eq_error_iff, settled_eq_error_iff, Option.bind_eq_none_iff,
      Option.bind_eq_some_iff, Option.mem_def, Prod.exists]
    grind

/-! ### Outcomes -/

/-- What a request comes to, by the last reply to its reads and by the exchanges of the call that counts
    it. -/
structure Decided (hash : Script → String) (call : Limit → Call) (record : Option Reply)
    (counting : List Exchange) (outcome : Except ErrorKind Bool) : Prop where
  /-- A request is counted against a limit that is held, and with one call. -/
  counted : ∀ limit, HoldsLimit record limit → Sends hash (call limit) counting
  uncounted : (∀ limit, ¬ HoldsLimit record limit) → counting = []
  admitted_iff : outcome = .ok true ↔ record = some .nil ∨
    ∃ limit, HoldsLimit record limit ∧ ∃ r ∈ lastReply counting, Admits limit r
  failed_iff : ∀ kind, outcome = .error kind ↔
    (kind = .storeUnavailable ∧ ((∀ r ∈ record, r.text? = none) ∨
      ∃ limit, HoldsLimit record limit ∧ ∀ r ∈ lastReply counting, Unusable limit.algorithm r)) ∨
    (kind = .serialization ∧ ((∃ text, Holds record text ∧ Malformed text) ∨
      ∃ limit, HoldsLimit record limit ∧ ∃ r ∈ lastReply counting, Corrupt limit.algorithm r)) ∨
    (kind = .unsupportedAlgorithm ∧ ∃ text, Holds record text ∧ OfUnknownAlgorithm text)

theorem decided_of_counted {call : Limit → Call} {counting : List Exchange}
    (holds : found reply = .ok (some limit)) (sends : Sends hash (call limit) counting) :
    Decided hash call reply counting (judged limit (lastReply counting)) := by
  have only (limit' : Limit) : HoldsLimit reply limit' ↔ limit' = limit := by
    rw [← found_eq_limit_iff, holds]
    simp [eq_comm]
  -- A reply that holds a limit is no failure.
  have sound (kind : ErrorKind) : found reply ≠ .error kind := by
    rw [holds]
    exact fun same => nomatch same
  have told : ¬ ∀ r ∈ reply, r.text? = none := fun lost =>
    sound _ (found_eq_error_iff.mpr (.inl ⟨rfl, lost⟩))
  have formed : ¬ ∃ text, Holds reply text ∧ Malformed text := fun ⟨text, held, malformed⟩ =>
    sound _ (found_eq_error_iff.mpr (.inr ⟨text, held, .inl ⟨rfl, malformed⟩⟩))
  have known : ¬ ∃ text, Holds reply text ∧ OfUnknownAlgorithm text := fun ⟨text, held, unknown⟩ =>
    sound _ (found_eq_error_iff.mpr (.inr ⟨text, held, .inr ⟨rfl, unknown⟩⟩))
  refine ⟨?counted, ?uncounted, ?admitted, ?failed⟩
  case counted =>
    intro limit' holds'
    rw [(only limit').mp holds']
    exact sends
  case uncounted => exact fun unlimited => absurd ((only limit).mpr rfl) (unlimited limit)
  case admitted =>
    rw [judged_admits_iff, ← found_eq_none_iff, holds]
    simp [only]
  case failed =>
    intro kind
    rw [judged_eq_error_iff]
    simp only [told, formed, known, only, exists_eq_left, false_or, and_false, or_false]

theorem decided_of_uncounted {call : Limit → Call}
    (unlimited : ∀ limit, found reply ≠ .ok (some limit)) :
    Decided hash call reply [] ((found reply).map fun _ => true) := by
  have no_limit (limit : Limit) : ¬ HoldsLimit reply limit :=
    mt found_eq_limit_iff.mpr (unlimited limit)
  refine ⟨?counted, ?uncounted, ?admitted, ?failed⟩
  case counted => exact fun limit holds => absurd holds (no_limit limit)
  case uncounted => exact fun _ => rfl
  case admitted =>
    rw [← found_eq_none_iff]
    rcases read : found reply with kind | _ | limit
    · simp [Except.map, no_limit]
    · simp [Except.map]
    · exact absurd read (unlimited limit)
  case failed =>
    intro kind
    have same : (found reply).map (fun _ => true) = .error kind ↔ found reply = .error kind := by
      cases found reply <;> simp [Except.map]
    rw [same, found_eq_error_iff]
    simp only [no_limit, false_and, exists_false, or_false]
    grind

theorem allow_converses (server : Server σ) (base : String) (now : Int)
    (ticket service endpoint : String) :
    Converses hash server (Limiter.allow base now ticket service endpoint) fun talk outcome =>
      ∃ reads counting, talk = reads ++ counting ∧ Reads base service endpoint reads ∧
        Decided hash (countingCall base now ticket (.ofEndpoint service endpoint)) (lastReply reads)
          counting outcome := by
  refine (resolve_converses server base service endpoint).bind ?_ ?_
  · rintro talk kind ⟨reads, failed⟩
    have decided : Decided hash (countingCall base now ticket (.ofEndpoint service endpoint))
        (lastReply talk) [] ((found (lastReply talk)).map fun _ => true) :=
      decided_of_uncounted (by simp [← failed])
    rw [← failed] at decided
    exact ⟨talk, [], by simp, reads, decided⟩
  · rintro (_ | limit)
    · refine converses_done ?_
      rintro earlier ⟨reads, read⟩
      have decided : Decided hash (countingCall base now ticket (.ofEndpoint service endpoint))
          (lastReply earlier) [] ((found (lastReply earlier)).map fun _ => true) :=
        decided_of_uncounted (by simp [← read])
      rw [← read] at decided
      exact ⟨earlier, [], rfl, reads, decided⟩
    · refine (evaluate_converses server base now ticket _ limit).imp ?_
      rintro talk outcome ⟨sends, judges⟩ earlier ⟨reads, read⟩
      obtain ⟨text, -, decoded⟩ := found_eq_limit_iff.mp read.symm
      rw [judges (Record.valid_of_decodeLimit decoded)]
      exact ⟨earlier, talk, rfl, reads, decided_of_counted read.symm sends⟩

/-- **An outage is never an admission.**  Whatever a server replies, a request to an endpoint reads its
    record, reads the default of its service if and only if there is none, and is counted with one call
    if and only if the last read holds a limit.  It is admitted exactly if nothing is held, or the call
    is answered by a reply that admits; any other reply is told by the kind of the error. -/
theorem outage_is_no_admission (hash : Script → String) (server : Server σ) (base : String)
    (now : Int) (ticket service endpoint : String) (s : σ) :
    ∃ reads counting after outcome,
      (Limiter.allow base now ticket service endpoint).run (client hash server.noted) (s, []) =
        (outcome, after, reads ++ counting) ∧
      Reads base service endpoint reads ∧
      Decided hash (countingCall base now ticket (.ofEndpoint service endpoint)) (lastReply reads)
        counting (outcome.mapError LimiterError.kind) := by
  obtain ⟨after, talk, outcome, ran, reads, counting, rfl, read, decided⟩ :=
    allow_converses server base now ticket service endpoint s []
  exact ⟨reads, counting, after, outcome, ran, read, decided⟩

end Throttle.Redis

import Mathlib.Data.List.Induction
import Throttle.Proofs.Footprint
import Throttle.Proofs.StoreKey
import Throttle.Session

/-!
# Runs of a session

A run is a list of actions.  `Session.trace` carries it out and notes every reply with the reading of
the clock, and `Session.requests` picks out the requests that were counted for one key.

An action is foreign to a key when it is no request for it and writes none of its state.
`part_step_of_foreign` says that a foreign action changes nothing that the key's state holds except
by the passing of time, and `Traffic.invariant` makes this an induction over runs in which the clock
is never set back: what holds of a session and of the past requests of a key is kept by its
requests and by all foreign actions.  `Traffic.throughout` is another one: what holds of the next
request after any run holds of each request of a run.
-/

namespace Throttle

/-! ## Actions -/

/-- Something that happens to a session. -/
inductive Action
  /-- A request is counted for a key against a limit that the caller brings. -/
  | evaluate (key : LimitKey) (limit : Limit) (ticket : String)
  /-- A request to an endpoint is decided by what is published for it. -/
  | allow (service endpoint ticket : String)
  | resolve (service endpoint : String)
  /-- A limit is published, with a lifetime of its record. -/
  | publish (lifetime : Option Duration) (limit : Limit)
  | publishRules (lifetime : Option Duration) (document : RulesDocument)
  /-- The store is used without the limiter. -/
  | call (call : Call)
  | purge
  | setClock (reading : Int)

inductive Reply
  | decision (outcome : Except LimiterError Bool)
  | resolved (outcome : Except LimiterError (Option Limit))
  | published (outcome : Except LimiterError Unit)
  | rulesPublished (outcome : Except LimiterError Nat)
  | answer (call : Call) (outcome : Except LimiterError call.Answer)
  | purged (count : Nat)
  | clockSet

namespace Action

/-- The clock reading from an action on, where it sets the clock. -/
def reading? : Action → Option Int
  | setClock reading => some reading
  | _ => none

def Foreign (base : String) (key : LimitKey) : Action → Prop
  | evaluate k _ _ => k ≠ key
  | allow service endpoint _ => LimitKey.ofEndpoint service endpoint ≠ key
  | call c => ∀ part, key.stateKey base part ∉ c.writes
  | resolve _ _ | publish _ _ | publishRules _ _ | purge | setClock _ => True

end Action

/-- The clock readings of a run that starts at `now`. -/
def readings (now : Int) (run : List Action) : List Int := now :: run.filterMap Action.reading?

/-- The clock stays between zero and the largest word. -/
def InTime (now : Int) (run : List Action) : Prop :=
  ∀ reading ∈ readings now run, 0 ≤ reading ∧ reading < Word.maxValue

def Forward (now : Int) (run : List Action) : Prop := (readings now run).Pairwise (· ≤ ·)

instance (now : Int) (run : List Action) : Decidable (InTime now run) :=
  inferInstanceAs (Decidable (∀ reading ∈ readings now run, 0 ≤ reading ∧ reading < Word.maxValue))

instance (now : Int) (run : List Action) : Decidable (Forward now run) :=
  inferInstanceAs (Decidable ((readings now run).Pairwise (· ≤ ·)))

theorem InTime.now {now : Int} {run : List Action} (inTime : InTime now run) :
    0 ≤ now ∧ now < Word.maxValue :=
  inTime now List.mem_cons_self

theorem readings_tail_subset (now : Int) (action : Action) (rest : List Action) :
    readings (action.reading?.getD now) rest ⊆ readings now (action :: rest) := by
  intro reading member
  unfold readings at *
  cases set : action.reading? with
  | none => simp_all
  | some later => simp_all

theorem InTime.tail {now : Int} {action : Action} {rest : List Action}
    (inTime : InTime now (action :: rest)) : InTime (action.reading?.getD now) rest :=
  fun reading member => inTime reading (readings_tail_subset now action rest member)

theorem Forward.tail {now : Int} {action : Action} {rest : List Action}
    (forward : Forward now (action :: rest)) : Forward (action.reading?.getD now) rest := by
  unfold Forward readings at *
  cases set : action.reading? with
  | none => simpa [set] using forward
  | some later =>
    simp only [List.filterMap_cons, set] at forward
    exact forward.of_cons

theorem readings_append (now : Int) (run rest : List Action) :
    readings now (run ++ rest) = readings now run ++ rest.filterMap Action.reading? :=
  congrArg (now :: ·) List.filterMap_append

theorem InTime.left {now : Int} {run rest : List Action} (inTime : InTime now (run ++ rest)) :
    InTime now run := by
  intro reading member
  apply inTime reading
  rw [readings_append]
  exact List.mem_append_left _ member

theorem Forward.left {now : Int} {run rest : List Action} (forward : Forward now (run ++ rest)) :
    Forward now run := by
  rw [Forward, readings_append] at forward
  exact (List.pairwise_append.mp forward).1

theorem Forward.le {now : Int} {action : Action} {rest : List Action}
    (forward : Forward now (action :: rest)) : now ≤ action.reading?.getD now := by
  unfold Forward readings at forward
  cases set : action.reading? with
  | none => exact Int.le_refl now
  | some later =>
    simp only [List.filterMap_cons, set] at forward
    exact List.rel_of_pairwise_cons forward List.mem_cons_self

/-! ## Carrying out -/

namespace Session

/-- Carries out a plan and replies with its outcome. -/
def reply {α : Type} (wrap : Except LimiterError α → Reply) (p : Plan α) (s : Session) :
    Reply × Session :=
  (wrap (s.perform p).1, (s.perform p).2)

def step (s : Session) : Action → Reply × Session
  | .evaluate key limit ticket =>
    s.reply .decision (Limiter.evaluate s.base s.now ticket key limit)
  | .allow service endpoint ticket =>
    s.reply .decision (Limiter.allow s.base s.now ticket service endpoint)
  | .resolve service endpoint => s.reply .resolved (Limiter.resolve s.base service endpoint)
  | .publish lifetime limit => s.reply .published (Publisher.publishLimit ⟨s.base, lifetime⟩ limit)
  | .publishRules lifetime document =>
    s.reply .rulesPublished (Publisher.publish ⟨s.base, lifetime⟩ document)
  | .call c => s.reply (.answer c) (Plan.call c)
  | .purge => (.purged s.purge.1, s.purge.2)
  | .setClock reading => (.clockSet, s.setClock reading)

def after (s : Session) (run : List Action) : Session := run.foldl (fun s action => (s.step action).2) s

end Session

/-- An action with the clock reading at which it happened and its reply. -/
structure Entry where
  action : Action
  time : Int
  reply : Reply

/-- A request that was counted for a key. -/
structure Request where
  time : Int
  limit : Limit
  ticket : String
  outcome : Except LimiterError Bool

namespace Request

/-- The member under which a rolling log knows the request. -/
def member (r : Request) : String := Limiter.logMember r.time r.ticket

def admitted (r : Request) : Bool :=
  match r.outcome with
  | .ok admitted => admitted
  | .error _ => false

end Request

/-- The request for a key that an entry tells of, if it tells of one. -/
def Entry.request? (key : LimitKey) : Entry → Option Request
  | ⟨.evaluate k limit ticket, time, .decision outcome⟩ =>
    if k = key then some ⟨time, limit, ticket, outcome⟩ else none
  | _ => none

namespace Session

/-- Every action of a run with its reply. -/
def trace (s : Session) : List Action → List Entry
  | [] => []
  | action :: rest => ⟨action, s.now, (s.step action).1⟩ :: (s.step action).2.trace rest

/-- The requests of a run that are counted for a key, in order. -/
def requests (s : Session) (key : LimitKey) (run : List Action) : List Request :=
  (s.trace run).filterMap (Entry.request? key)

def request (s : Session) (key : LimitKey) (limit : Limit) (ticket : String) : Request :=
  ⟨s.now, limit, ticket, (s.perform (Limiter.evaluate s.base s.now ticket key limit)).1⟩

variable {key : LimitKey} {limit : Limit} {ticket : String} {action : Action} {rest : List Action}

@[simp] theorem requests_nil (s : Session) (key : LimitKey) : s.requests key [] = [] := rfl

theorem requests_own (s : Session) (rest : List Action) :
    s.requests key (.evaluate key limit ticket :: rest) =
      s.request key limit ticket ::
        (s.step (.evaluate key limit ticket)).2.requests key rest := by
  unfold requests
  rw [trace, List.filterMap_cons_some]
  exact if_pos rfl

theorem requests_foreign (s : Session) {base : String} (foreign : action.Foreign base key) :
    s.requests key (action :: rest) = (s.step action).2.requests key rest := by
  unfold requests
  rw [trace, List.filterMap_cons_none]
  cases action with
  | evaluate k limit ticket => exact if_neg foreign
  | allow _ _ _ | resolve _ _ | publish _ _ | publishRules _ _ | call _ | purge | setClock _ => rfl

end Session

/-! ## Healthy sessions -/

/-- Without faults, a watched store runs a plan as the store behind it does. -/
theorem Plan.run_watched {α σ : Type} (store : Store σ) (p : Plan α) (log : List Call) (inner : σ) :
    ∃ log', p.run store.watched ⟨[], log, inner⟩ =
      ((p.run store inner).1, ⟨[], log', (p.run store inner).2⟩) := by
  -- The log of calls grows, so the induction is for every log and every inner store.
  induction p generalizing log inner with
  | done value => exact ⟨log, rfl⟩
  | fail error => exact ⟨log, rfl⟩
  | ask call next ih =>
    simp only [run, Store.watched_ok]
    rcases store call inner with ⟨_ | answer, inner'⟩
    · exact ⟨call :: log, rfl⟩
    · exact ih answer (call :: log) inner'

namespace Session

/-- No call of the session fails for an outside reason. -/
def Healthy (s : Session) : Prop := s.store.faults = []

/-- Runs a plan on the store behind the watch. -/
def run {α : Type} (s : Session) (p : Plan α) : Except LimiterError α × Memory :=
  (s.compounding.plan p).run (Memory.answer s.now) s.store.inner

variable {s : Session} {α : Type} {key : LimitKey} {action : Action}

theorem Healthy.store_eq (healthy : s.Healthy) : s.store = ⟨[], s.store.log, s.store.inner⟩ := by
  rw [← (healthy : s.store.faults = [])]

theorem exists_perform_eq (healthy : s.Healthy) (p : Plan α) :
    ∃ log, s.perform p = ((s.run p).1, { s with store := ⟨[], log, (s.run p).2⟩ }) := by
  obtain ⟨log, ran⟩ :=
    Plan.run_watched (Memory.answer s.now) (s.compounding.plan p) s.store.log s.store.inner
  refine ⟨log, ?_⟩
  unfold perform
  rw [healthy.store_eq, ran]
  rfl

theorem perform_fst (healthy : s.Healthy) (p : Plan α) : (s.perform p).1 = (s.run p).1 := by
  obtain ⟨log, eq⟩ := exists_perform_eq healthy p
  rw [eq]

theorem inner_perform (healthy : s.Healthy) (p : Plan α) :
    (s.perform p).2.store.inner = (s.run p).2 := by
  obtain ⟨log, eq⟩ := exists_perform_eq healthy p
  rw [eq]

@[simp] theorem compounding_step (s : Session) (action : Action) :
    (s.step action).2.compounding = s.compounding := by
  cases action <;> rfl

@[simp] theorem base_step (s : Session) (action : Action) : (s.step action).2.base = s.base := by
  cases action <;> rfl

theorem now_step (s : Session) (action : Action) :
    (s.step action).2.now = action.reading?.getD s.now := by
  cases action <;> rfl

theorem readings_step_subset (s : Session) (action : Action) (rest : List Action) :
    readings (s.step action).2.now rest ⊆ readings s.now (action :: rest) := by
  rw [now_step]
  exact readings_tail_subset s.now action rest

theorem le_now_step {rest : List Action} (forward : Forward s.now (action :: rest)) :
    s.now ≤ (s.step action).2.now := by
  rw [now_step]
  exact forward.le

theorem forward_step {rest : List Action} (forward : Forward s.now (action :: rest)) :
    Forward (s.step action).2.now rest := by
  rw [now_step]
  exact forward.tail

theorem inTime_step {rest : List Action} (inTime : InTime s.now (action :: rest)) :
    InTime (s.step action).2.now rest :=
  fun reading member => inTime reading (readings_step_subset s action rest member)

/-! ### The order of time -/

theorem le_time_of_mem_trace : ∀ {run : List Action} {s : Session}, Forward s.now run →
    ∀ entry ∈ s.trace run, s.now ≤ entry.time
  | [], _, _, _, member => nomatch member
  | _ :: _, s, forward, entry, member => by
    rcases List.mem_cons.mp member with rfl | later
    · exact Int.le_refl s.now
    · exact Int.le_trans (le_now_step forward)
        (le_time_of_mem_trace (forward_step forward) entry later)

theorem trace_ordered : ∀ {run : List Action} {s : Session}, Forward s.now run →
    (s.trace run).Pairwise fun a b => a.time ≤ b.time
  | [], _, _ => .nil
  | action :: _, s, forward => by
    refine .cons ?_ (trace_ordered (forward_step forward))
    intro entry later
    exact Int.le_trans (le_now_step forward)
      (le_time_of_mem_trace (forward_step forward) entry later)

theorem le_now_after : ∀ {run : List Action} {s : Session}, Forward s.now run →
    s.now ≤ (s.after run).now
  | [], s, _ => Int.le_refl s.now
  | _ :: _, _, forward => Int.le_trans (le_now_step forward) (le_now_after (forward_step forward))

theorem time_le_now_after_of_mem_trace : ∀ {run : List Action} {s : Session}, Forward s.now run →
    ∀ entry ∈ s.trace run, entry.time ≤ (s.after run).now
  | [], _, _, _, member => nomatch member
  | _ :: _, _, forward, entry, member => by
    rcases List.mem_cons.mp member with rfl | later
    · exact le_now_after forward
    · exact time_le_now_after_of_mem_trace (forward_step forward) entry later

theorem time_of_request? {entry : Entry} {r : Request} (told : entry.request? key = some r) :
    r.time = entry.time := by
  unfold Entry.request? at told
  split at told
  · split_ifs at told
    obtain rfl := Option.some.inj told
    rfl
  · cases told

theorem requests_ordered {run : List Action} (forward : Forward s.now run) :
    (s.requests key run).Pairwise fun a b => a.time ≤ b.time := by
  refine (trace_ordered forward).filterMap _ ?_
  intro a b order r told t told'
  rw [time_of_request? told, time_of_request? told']
  exact order

theorem earlier_le {run : List Action} {earlier later : List Request} {r : Request}
    (forward : Forward s.now run) (split : s.requests key run = earlier ++ r :: later) :
    ∀ e ∈ earlier, e.time ≤ r.time := by
  have ordered : (earlier ++ r :: later).Pairwise fun a b => a.time ≤ b.time :=
    split ▸ requests_ordered forward
  exact fun e member => (List.pairwise_append.mp ordered).2.2 e member r List.mem_cons_self

theorem time_le_now_after {run : List Action} (forward : Forward s.now run) :
    ∀ r ∈ s.requests key run, r.time ≤ (s.after run).now := by
  intro r member
  obtain ⟨entry, traced, told⟩ := List.mem_filterMap.mp member
  rw [time_of_request? told]
  exact time_le_now_after_of_mem_trace forward entry traced

/-! ### Runs put together -/

theorem trace_append (run rest : List Action) (s : Session) :
    s.trace (run ++ rest) = s.trace run ++ (s.after run).trace rest := by
  induction run generalizing s with
  | nil => rfl
  | cons action run ih => exact congrArg (_ :: ·) (ih (s.step action).2)

theorem requests_append (s : Session) (key : LimitKey) (run rest : List Action) :
    s.requests key (run ++ rest) = s.requests key run ++ (s.after run).requests key rest := by
  rw [requests, trace_append, List.filterMap_append]
  rfl

theorem now_after (run : List Action) (s : Session) :
    (s.after run).now = (run.filterMap Action.reading?).getLastD s.now := by
  induction run generalizing s with
  | nil => rfl
  | cons action run ih =>
    refine (ih (s.step action).2).trans ?_
    rw [now_step]
    cases set : action.reading? with
    | none => rw [List.filterMap_cons_none set, Option.getD_none]
    | some reading => rw [List.filterMap_cons_some set, List.getLastD_cons, Option.getD_some]

@[simp] theorem base_after (run : List Action) (s : Session) : (s.after run).base = s.base := by
  induction run generalizing s with
  | nil => rfl
  | cons action run ih => exact (ih (s.step action).2).trans (base_step s action)

theorem forward_right {run rest : List Action} {s : Session}
    (forward : Forward s.now (run ++ rest)) : Forward (s.after run).now rest := by
  induction run generalizing s with
  | nil => exact forward
  | cons action run ih => exact ih (forward_step forward)

theorem inTime_right {run rest : List Action} {s : Session}
    (inTime : InTime s.now (run ++ rest)) : InTime (s.after run).now rest := by
  induction run generalizing s with
  | nil => exact inTime
  | cons action run ih => exact ih (inTime_step inTime)

theorem inTime_after {run : List Action} {s : Session} (inTime : InTime s.now run) :
    InTime (s.after run).now [] :=
  inTime_right (by rwa [List.append_nil])

/-! ### Faults -/

theorem healthy_step (healthy : s.Healthy) (action : Action) : (s.step action).2.Healthy := by
  have performed {α : Type} (p : Plan α) : (s.perform p).2.Healthy := by
    obtain ⟨log, eq⟩ := exists_perform_eq healthy p
    rw [eq]
    rfl
  cases action with
  | purge => exact healthy
  | setClock reading => exact healthy
  | evaluate _ _ _ | allow _ _ _ | resolve _ _ | publish _ _ | publishRules _ _ | call _ =>
    exact performed _

theorem healthy_after (healthy : s.Healthy) (run : List Action) : (s.after run).Healthy := by
  induction run generalizing s with
  | nil => exact healthy
  | cons action run ih => exact ih (healthy_step healthy action)

/-! ## What a key holds -/

/-- What a store key holds now. -/
def slot (s : Session) (storeKey : String) : Slot := s.store.inner.liveSlot s.now storeKey

/-- What one part of a key's state holds now. -/
def part (s : Session) (key : LimitKey) (name : String) : Slot :=
  s.slot (key.stateKey s.base name)

theorem slot_perform {p : Plan α} (healthy : s.Healthy) (storeKey : String) :
    (s.perform p).2.slot storeKey = (s.run p).2.liveSlot s.now storeKey := by
  rw [← inner_perform healthy]
  rfl

theorem perform_keeps {p : Plan α} {storeKey : String} (healthy : s.Healthy)
    (spared : p.Spares storeKey) :
    Memory.Keeps s.now storeKey s.store.inner (s.perform p).2.store.inner := by
  rw [inner_perform healthy, run]
  cases s.compounding with
  | whole => exact Plan.run_keeps spared _
  | inSteps => exact Plan.run_keeps spared.inSteps _

theorem step_keeps (healthy : s.Healthy) (foreign : action.Foreign s.base key) (name : String) :
    Memory.Keeps s.now (key.stateKey s.base name) s.store.inner (s.step action).2.store.inner := by
  cases action with
  | evaluate k limit ticket =>
    apply perform_keeps healthy
    -- Escaped keys are injective, so another key's state lies elsewhere.
    exact Limiter.evaluate_spares limit fun part _ same =>
      foreign (LimitKey.stateKey_injective same).1.symm
  | allow service endpoint ticket =>
    apply perform_keeps healthy
    exact Limiter.allow_spares fun part same =>
      foreign (LimitKey.stateKey_injective same).1.symm
  | resolve service endpoint =>
    exact perform_keeps healthy (Limiter.resolve_spares _ _ _ _)
  | publish lifetime limit =>
    apply perform_keeps healthy
    exact Publisher.publishLimit_spares (LimitKey.configKey_ne_stateKey _ _ _ _).symm
  | publishRules lifetime document =>
    apply perform_keeps healthy
    exact Publisher.publish_spares document fun k =>
      (LimitKey.configKey_ne_stateKey k key s.base name).symm
  | call c => exact perform_keeps healthy (Plan.spares_call (foreign name))
  | purge => exact Memory.keeps_purge _ _ _
  | setClock reading => exact .refl _ _ _

/-- A foreign action changes the state of a key only by the passing of time. -/
theorem part_step_of_foreign (healthy : s.Healthy) (foreign : action.Foreign s.base key)
    (order : s.now ≤ (s.step action).2.now) (name : String) :
    (s.step action).2.part key name = (s.part key name).aged (s.step action).2.now := by
  unfold part slot
  -- `Keeps` speaks of `s.now`, and the clock may have moved since: the slot is aged once more.
  rw [base_step, (step_keeps healthy foreign name).liveSlot order]
  exact (Slot.aged_aged order _).symm

end Session

/-! ## Runs with requests for one key -/

/-- A run on a session without faults in which every action is foreign to a key or a request for it
    against a limit of some kind. -/
structure Traffic (key : LimitKey) (Kind : Limit → Prop) (s : Session) (run : List Action) : Prop where
  healthy : s.Healthy
  inTime : InTime s.now run
  actions : ∀ action ∈ run, action.Foreign s.base key ∨
    ∃ limit ticket, action = .evaluate key limit ticket ∧ Kind limit

namespace Traffic

variable {key : LimitKey} {Kind : Limit → Prop} {s : Session} {action : Action} {rest : List Action}

theorem tail (traffic : Traffic key Kind s (action :: rest)) :
    Traffic key Kind (s.step action).2 rest where
  healthy := Session.healthy_step traffic.healthy action
  inTime := Session.inTime_step traffic.inTime
  actions := by
    intro other member
    rw [Session.base_step]
    exact traffic.actions other (List.mem_cons_of_mem _ member)

/-- After a run its session is still without faults and in time. -/
theorem after : ∀ {run : List Action} {s : Session}, Traffic key Kind s run →
    Traffic key Kind (s.after run) []
  | [], _, traffic => traffic
  | _ :: _, _, traffic => traffic.tail.after

theorem left {run rest : List Action} (traffic : Traffic key Kind s (run ++ rest)) :
    Traffic key Kind s run where
  healthy := traffic.healthy
  inTime := traffic.inTime.left
  actions action member := traffic.actions action (List.mem_append_left _ member)

theorem right {run rest : List Action} (traffic : Traffic key Kind s (run ++ rest)) :
    Traffic key Kind (s.after run) rest where
  healthy := traffic.left.after.healthy
  inTime := Session.inTime_right traffic.inTime
  actions := by
    intro action member
    rw [Session.base_after]
    exact traffic.actions action (List.mem_append_right _ member)

theorem imp {Kind' : Limit → Prop} {run : List Action} (traffic : Traffic key Kind s run)
    (weaker : ∀ limit, Kind limit → Kind' limit) : Traffic key Kind' s run where
  healthy := traffic.healthy
  inTime := traffic.inTime
  actions := by
    intro action member
    refine (traffic.actions action member).imp_right ?_
    rintro ⟨limit, ticket, same, kind⟩
    exact ⟨limit, ticket, same, weaker limit kind⟩

/-- The requests are against the limits that the actions bring. -/
theorem kind_of_mem_requests : ∀ {run : List Action} {s : Session}, Traffic key Kind s run →
    ∀ r ∈ s.requests key run, Kind r.limit
  | [], _, _, _, member => nomatch member
  | action :: rest, s, traffic, r, member => by
    obtain alien | ⟨limit, ticket, rfl, kind⟩ := traffic.actions action List.mem_cons_self
    · rw [Session.requests_foreign s alien] at member
      exact kind_of_mem_requests traffic.tail r member
    · rw [Session.requests_own] at member
      rcases List.mem_cons.mp member with rfl | later
      · exact kind
      · exact kind_of_mem_requests traffic.tail r later

/-- The actions of a run, one at a time: a property of the session and of the requests that its key
    has made is kept by the requests and by what is foreign to the key. -/
theorem invariant {I : Session → List Request → Prop}
    (own : ∀ s past limit ticket, s.Healthy → 0 ≤ s.now → s.now < Word.maxValue → Kind limit →
      I s past →
      I (s.step (.evaluate key limit ticket)).2 (past ++ [s.request key limit ticket]))
    (foreign : ∀ s past action, s.Healthy → action.Foreign s.base key →
      s.now ≤ (s.step action).2.now → (s.step action).2.now < Word.maxValue → I s past →
      I (s.step action).2 past) :
    ∀ {run : List Action} {s : Session} {past : List Request}, Traffic key Kind s run →
      Forward s.now run → I s past → I (s.after run) (past ++ s.requests key run)
  | [], s, past, _, _, holds => by
    rw [Session.requests_nil, List.append_nil]
    exact holds
  | action :: rest, s, past, traffic, forward, holds => by
    -- The induction is on the run; the past grows at its end while the run loses its head.
    have clock := Session.le_now_step forward
    have forward' := Session.forward_step forward
    obtain alien | ⟨limit, ticket, rfl, kind⟩ := traffic.actions action List.mem_cons_self
    · rw [Session.requests_foreign s alien]
      exact invariant own foreign traffic.tail forward'
        (foreign s past action traffic.healthy alien clock traffic.tail.inTime.now.2 holds)
    · rw [Session.requests_own, List.append_cons]
      exact invariant own foreign traffic.tail forward'
        (own s past limit ticket traffic.healthy traffic.inTime.now.1 traffic.inTime.now.2 kind
          holds)

end Traffic

/-! ## One request after the other -/

/-- Every request of a history stands to those before it as `P` says. -/
def Throughout (P : List Request → Request → Prop) (requests : List Request) : Prop :=
  ∀ earlier r later, requests = earlier ++ r :: later → P earlier r

theorem Throughout.snoc {P : List Request → Request → Prop} {past : List Request} {r : Request}
    (all : Throughout P past) (last : P past r) : Throughout P (past ++ [r]) := by
  intro earlier other later split
  -- Either the new request is the one in question, or it stands at the end of what comes later.
  rcases List.eq_nil_or_concat' later with rfl | ⟨between, final, rfl⟩
  · obtain ⟨rfl, same⟩ := List.append_inj' split rfl
    obtain rfl := List.head_eq_of_cons_eq same
    exact last
  · rw [← List.cons_append, ← List.append_assoc] at split
    exact all earlier other between (List.append_inj' split rfl).1

/-- What holds of every request of a run holds of the one that is made after its first actions. -/
theorem Throughout.request {P : List Request → Request → Prop} {s : Session} {key : LimitKey}
    {limit : Limit} {ticket : String} {rest : List Action} (front : List Action)
    (all : Throughout P (s.requests key (front ++ .evaluate key limit ticket :: rest))) :
    P (s.requests key front) ((s.after front).request key limit ticket) := by
  apply all
  rw [Session.requests_append, Session.requests_own]

/-- What holds of the next request after any run holds of every request of a run. -/
theorem Traffic.throughout {key : LimitKey} {Kind : Limit → Prop} {s : Session}
    {P : List Request → Request → Prop} {run : List Action}
    (next : ∀ run limit ticket, Traffic key Kind s run → Forward s.now run → Kind limit →
      P (s.requests key run) ((s.after run).request key limit ticket))
    (traffic : Traffic key Kind s run) (forward : Forward s.now run) :
    Throughout P (s.requests key run) := by
  induction run using List.reverseRecOn with
  | nil =>
    intro earlier r later split
    exact absurd split.symm (by simp)
  | append_singleton run action ih =>
    have earlier := ih traffic.left forward.left
    rw [Session.requests_append]
    obtain alien | ⟨limit, ticket, rfl, kind⟩ := traffic.right.actions action List.mem_cons_self
    · rw [Session.requests_foreign _ alien, Session.requests_nil, List.append_nil]
      exact earlier
    · rw [Session.requests_own, Session.requests_nil]
      exact earlier.snoc (next run limit ticket traffic.left forward.left kind)

end Throttle

import Mathlib.Data.List.Nodup
import Throttle.Proofs.LikeLogs
import Throttle.Proofs.Resolution

/-!
# Isolation of endpoints

What an endpoint answers depends on its own requests, on the limits published for it and for its
service's default, and on the clock.  `isolation` says so of two runs: everything else that happens
to other endpoints and keys may be deleted from a run, and the endpoint answers the same.

The proof relates the two runs step by step.  `Matched` says that the store keys of the endpoint
hold the same in both, but for the members of its log, of which only the scores are the same.  A
deleted action leaves the store keys of the endpoint alone (`agrees_of_deleted`), and one that is in
both runs is answered the same and keeps the relation (`Matched.step`).
-/

namespace Throttle

namespace Action

/-- The actions of the service: publications of limits, requests to endpoints, purges and the
    clock. -/
def Served : Action → Prop
  | publish _ _ | allow _ _ _ | purge | setClock _ => True
  | evaluate _ _ _ | resolve _ _ | publishRules _ _ | call _ => False

/-- The action may matter to an endpoint: it is no request to another one, and no publication of a
    limit that the endpoint's requests do not read. -/
def concerns (service endpoint : String) : Action → Bool
  | allow service' endpoint' _ => decide (service' = service ∧ endpoint' = endpoint)
  | publish _ limit => decide (limit.key = .ofEndpoint service endpoint ∨
      limit.key = .serviceDefault service)
  | _ => true

def untagged : Action → Action
  | allow service endpoint _ => allow service endpoint ""
  | action => action

theorem exists_eq_allow {action : Action} {service endpoint : String}
    (same : action.untagged = .allow service endpoint "") :
    ∃ ticket, action = .allow service endpoint ticket := by
  cases action with
  | allow service' endpoint' ticket =>
    obtain ⟨rfl, rfl, -⟩ := Action.allow.inj same
    exact ⟨ticket, rfl⟩
  | evaluate _ _ _ | resolve _ _ | publish _ _ | publishRules _ _ | call _ | purge | setClock _ =>
    cases same

theorem eq_of_untagged_eq {action other : Action} (same : other.untagged = action)
    (no_request : ∀ service endpoint ticket, action ≠ .allow service endpoint ticket) :
    other = action := by
  cases other with
  | allow service endpoint ticket => exact absurd same.symm (no_request _ _ _)
  | evaluate _ _ _ | resolve _ _ | publish _ _ | publishRules _ _ | call _ | purge | setClock _ =>
    exact same

end Action

/-- The answer to a request to an endpoint that an entry tells of, if it tells of one. -/
def Entry.answer? (service endpoint : String) : Entry → Option (Except LimiterError Bool)
  | ⟨.allow service' endpoint' _, _, .decision outcome⟩ =>
    if service' = service ∧ endpoint' = endpoint then some outcome else none
  | _ => none

def Entry.member? (service endpoint : String) : Entry → Option String
  | ⟨.allow service' endpoint' ticket, time, _⟩ =>
    if service' = service ∧ endpoint' = endpoint then some (Limiter.logMember time ticket) else none
  | _ => none

namespace Session

def answers (s : Session) (service endpoint : String) (run : List Action) :
    List (Except LimiterError Bool) :=
  (s.trace run).filterMap (Entry.answer? service endpoint)

def members (s : Session) (service endpoint : String) (run : List Action) : List String :=
  (s.trace run).filterMap (Entry.member? service endpoint)

end Session

/-! ## The store keys of an endpoint -/

/-- The store keys by which the requests to an endpoint are decided. -/
inductive Owned (base service endpoint : String) : String → Prop
  | limit : Owned base service endpoint ((LimitKey.ofEndpoint service endpoint).configKey base)
  | default : Owned base service endpoint ((LimitKey.serviceDefault service).configKey base)
  | state (part : String) :
    Owned base service endpoint ((LimitKey.ofEndpoint service endpoint).stateKey base part)

/-- Two sessions that differ in nothing that an endpoint's requests may see. -/
structure Session.Agrees (service endpoint : String) (s t : Session) : Prop where
  base : t.base = s.base
  compounding : t.compounding = s.compounding
  now : t.now = s.now
  healthy : s.Healthy → t.Healthy
  slots : ∀ storeKey, Owned s.base service endpoint storeKey → t.slot storeKey = s.slot storeKey

namespace Session

variable {s t : Session} {service endpoint : String} {action : Action}

theorem Agrees.part_eq (agrees : s.Agrees service endpoint t) (name : String) :
    t.part (.ofEndpoint service endpoint) name = s.part (.ofEndpoint service endpoint) name := by
  unfold part
  rw [agrees.base]
  exact agrees.slots _ (.state name)

theorem Unchanged.agrees {m : Memory} (unchanged : s.Unchanged m) :
    s.Agrees service endpoint (s.holding m) :=
  ⟨rfl, rfl, rfl, id, fun storeKey _ => unchanged.slot_eq storeKey⟩

theorem agrees_of_keeps (healthy : s.Healthy) (still : (s.step action).2.now = s.now)
    (kept : ∀ storeKey, Owned s.base service endpoint storeKey →
      Memory.Keeps s.now storeKey s.store.inner (s.step action).2.store.inner) :
    s.Agrees service endpoint (s.step action).2 := by
  refine ⟨base_step s action, compounding_step s action, still,
    fun _ => healthy_step healthy action, ?_⟩
  intro storeKey owned
  unfold slot
  rw [still]
  exact (kept storeKey owned).liveSlot (Int.le_refl s.now)

/-- What is deleted leaves the store keys of the endpoint alone. -/
theorem agrees_of_deleted (healthy : s.Healthy) (served : action.Served)
    (deleted : action.concerns service endpoint = false) :
    s.Agrees service endpoint (s.step action).2 := by
  cases action with
  | allow service' endpoint' ticket =>
    have other : ¬ (service' = service ∧ endpoint' = endpoint) := of_decide_eq_false deleted
    apply agrees_of_keeps healthy rfl
    intro storeKey owned
    apply perform_keeps healthy
    apply Limiter.allow_spares
    intro part same
    -- Another endpoint's state is no record, and no state of this one.
    cases owned with
    | limit => exact LimitKey.configKey_ne_stateKey _ _ _ _ same
    | default => exact LimitKey.configKey_ne_stateKey _ _ _ _ same
    | state part' =>
      have same_key := (LimitKey.stateKey_injective same).1
      simp only [LimitKey.ofEndpoint, LimitKey.mk.injEq, Option.some.injEq] at same_key
      exact other ⟨same_key.1.symm, same_key.2.symm⟩
  | publish lifetime limit =>
    have other : ¬ (limit.key = .ofEndpoint service endpoint ∨
      limit.key = .serviceDefault service) := of_decide_eq_false deleted
    apply agrees_of_keeps healthy rfl
    intro storeKey owned
    apply perform_keeps healthy
    apply Publisher.publishLimit_spares
    intro same
    cases owned with
    | limit => exact other (.inl (LimitKey.configKey_injective same).symm)
    | default => exact other (.inr (LimitKey.configKey_injective same).symm)
    | state part => exact LimitKey.configKey_ne_stateKey _ _ _ _ same.symm
  | purge => cases deleted
  | setClock reading => cases deleted
  | evaluate _ _ _ | resolve _ _ | publishRules _ _ | call _ => cases served

end Session

/-! ## One request to an endpoint -/

namespace Session

variable {s : Session} {service endpoint : String}

theorem step_allow_of_unchanged {ticket : String} {outcome : Except LimiterError Bool} {m : Memory}
    (healthy : s.Healthy) (unchanged : s.Unchanged m)
    (ran : s.run (Limiter.allow s.base s.now ticket service endpoint) = (outcome, m)) :
    (s.step (.allow service endpoint ticket)).1 = .decision outcome ∧
      s.Agrees service endpoint (s.step (.allow service endpoint ticket)).2 := by
  constructor
  · exact congrArg Reply.decision ((perform_fst healthy _).trans (congrArg Prod.fst ran))
  · apply agrees_of_keeps healthy rfl
    intro storeKey _
    have inner : (s.step (.allow service endpoint ticket)).2.store.inner = m :=
      (inner_perform healthy _).trans (congrArg Prod.snd ran)
    rw [inner]
    exact unchanged storeKey

theorem step_allow_open (healthy : s.Healthy) (ticket : String)
    (resolved : s.resolution service endpoint = .ok none) :
    (s.step (.allow service endpoint ticket)).1 = .decision (.ok true) ∧
      s.Agrees service endpoint (s.step (.allow service endpoint ticket)).2 := by
  obtain ⟨m, unchanged, ran⟩ := exists_run_allow s ticket service endpoint
  rw [resolved] at ran
  exact step_allow_of_unchanged healthy unchanged ran

theorem step_allow_failed {error : LimiterError} (healthy : s.Healthy) (ticket : String)
    (resolved : s.resolution service endpoint = .error error) :
    (s.step (.allow service endpoint ticket)).1 = .decision (.error error) ∧
      s.Agrees service endpoint (s.step (.allow service endpoint ticket)).2 := by
  obtain ⟨m, unchanged, ran⟩ := exists_run_allow s ticket service endpoint
  rw [resolved] at ran
  exact step_allow_of_unchanged healthy unchanged ran

theorem step_allow_limited {limit : Limit} (healthy : s.Healthy) (ticket : String)
    (resolved : s.resolution service endpoint = .ok (some limit)) :
    ∃ t, s.Agrees service endpoint t ∧
      (s.step (.allow service endpoint ticket)).1 =
        .decision (t.request (.ofEndpoint service endpoint) limit ticket).outcome ∧
      (t.step (.evaluate (.ofEndpoint service endpoint) limit ticket)).2.Agrees service endpoint
        (s.step (.allow service endpoint ticket)).2 := by
  obtain ⟨m, unchanged, ran⟩ := exists_run_allow s ticket service endpoint
  rw [resolved] at ran
  have healthy' : (s.holding m).Healthy := healthy
  -- The request is one for the key, on the session that has read the records.
  refine ⟨s.holding m, unchanged.agrees, ?_, rfl, rfl, rfl, ?_, ?_⟩
  · rw [outcome_request healthy']
    exact congrArg Reply.decision ((perform_fst healthy _).trans (congrArg Prod.fst ran))
  · intro _
    exact healthy_step healthy _
  · intro storeKey _
    have left : (s.step (.allow service endpoint ticket)).2.slot storeKey = _ :=
      slot_perform healthy storeKey
    have right : ((s.holding m).step (.evaluate (.ofEndpoint service endpoint) limit
        ticket)).2.slot storeKey = _ :=
      slot_perform healthy' storeKey
    rw [left, right, ran]
    rfl

/-! ## Publications, purges and the clock -/

theorem slot_publish (healthy : s.Healthy) (lifetime : Option Duration) (limit : Limit)
    (storeKey : String) :
    (s.step (.publish lifetime limit)).2.slot storeKey =
      match limit.check with
      | .error _ => s.slot storeKey
      | .ok () =>
        if storeKey = limit.key.configKey s.base then
          Slot.aged s.now ⟨some (.scalar (Record.ofLimit limit).write),
            lifetime.map (deadlineAfter s.now)⟩
        else s.slot storeKey := by
  have after : (s.step (.publish lifetime limit)).2.slot storeKey = _ :=
    slot_perform healthy storeKey
  rw [after, run_publishLimit]
  cases limit.check with
  | error error => rfl
  | ok accepted =>
    dsimp only
    split
    · rename_i own
      rw [own]
      exact Memory.liveSlot_writeScalar _ _ _ _ _
    · rename_i other
      exact (Memory.keeps_writeScalar _ _ other).liveSlot (Int.le_refl s.now)

theorem part_publish (healthy : s.Healthy) (lifetime : Option Duration) (limit : Limit)
    (key : LimitKey) (name : String) :
    (s.step (.publish lifetime limit)).2.part key name = s.part key name := by
  unfold part
  rw [base_step, slot_publish healthy, if_neg (LimitKey.configKey_ne_stateKey _ _ _ _).symm]
  cases limit.check <;> rfl

theorem agrees_purge (s : Session) (service endpoint : String) :
    s.Agrees service endpoint (s.step .purge).2 := by
  refine ⟨rfl, rfl, rfl, id, fun storeKey _ => ?_⟩
  exact (Memory.keeps_purge s.now storeKey s.store.inner).liveSlot (Int.le_refl s.now)

theorem slot_setClock {reading : Int} (order : s.now ≤ reading) (storeKey : String) :
    (s.step (.setClock reading)).2.slot storeKey = (s.slot storeKey).aged reading :=
  (Slot.aged_aged order _).symm

theorem part_setClock {reading : Int} (order : s.now ≤ reading) (key : LimitKey) (name : String) :
    (s.step (.setClock reading)).2.part key name = (s.part key name).aged reading :=
  slot_setClock order _

end Session

/-! ## The relation between the runs -/

/-- The store keys of an endpoint hold the same in two sessions, but for the members of its log,
    which are among those used in each. -/
structure Matched (service endpoint : String) (a b : Session) (used used' : List String) :
    Prop where
  base : b.base = a.base
  compounding : b.compounding = a.compounding
  now : b.now = a.now
  healthy : a.Healthy
  healthy' : b.Healthy
  limit : b.slot ((LimitKey.ofEndpoint service endpoint).configKey a.base) =
    a.slot ((LimitKey.ofEndpoint service endpoint).configKey a.base)
  default : b.slot ((LimitKey.serviceDefault service).configKey a.base) =
    a.slot ((LimitKey.serviceDefault service).configKey a.base)
  counts : ∀ part, part ≠ "sw" →
    b.part (.ofEndpoint service endpoint) part = a.part (.ofEndpoint service endpoint) part
  logs : (a.part (.ofEndpoint service endpoint) "sw").Alike
    (b.part (.ofEndpoint service endpoint) "sw")
  members : (a.part (.ofEndpoint service endpoint) "sw").members ⊆ used
  members' : (b.part (.ofEndpoint service endpoint) "sw").members ⊆ used'

namespace Matched

variable {service endpoint : String} {a a' b b' : Session} {used used' : List String}

theorem symm (matched : Matched service endpoint a b used used') :
    Matched service endpoint b a used' used where
  base := matched.base.symm
  compounding := matched.compounding.symm
  now := matched.now.symm
  healthy := matched.healthy'
  healthy' := matched.healthy
  limit := by
    rw [matched.base]
    exact matched.limit.symm
  default := by
    rw [matched.base]
    exact matched.default.symm
  counts part other := (matched.counts part other).symm
  logs := matched.logs.symm
  members := matched.members'
  members' := matched.members

theorem right (matched : Matched service endpoint a b used used')
    (agrees : b.Agrees service endpoint b') : Matched service endpoint a b' used used' where
  base := agrees.base.trans matched.base
  compounding := agrees.compounding.trans matched.compounding
  now := agrees.now.trans matched.now
  healthy := matched.healthy
  healthy' := agrees.healthy matched.healthy'
  limit := by
    rw [← matched.limit, ← matched.base]
    exact agrees.slots _ .limit
  default := by
    rw [← matched.default, ← matched.base]
    exact agrees.slots _ .default
  counts part other := (agrees.part_eq part).trans (matched.counts part other)
  logs := by
    rw [agrees.part_eq]
    exact matched.logs
  members := matched.members
  members' := by
    rw [agrees.part_eq]
    exact matched.members'

theorem left (matched : Matched service endpoint a b used used')
    (agrees : a.Agrees service endpoint a') : Matched service endpoint a' b used used' :=
  (matched.symm.right agrees).symm

/-! ### Requests -/

section

variable {limit : Limit} {ticket ticket' : String}

theorem bucket_eq (matched : Matched service endpoint a b used used') (kind : BucketKind)
    (limit : Limit) :
    b.bucket kind (.ofEndpoint service endpoint) limit =
      a.bucket kind (.ofEndpoint service endpoint) limit := by
  unfold Session.bucket
  rw [matched.base]

theorem held_eq (matched : Matched service endpoint a b used used') (kind : BucketKind)
    (limit : Limit) :
    b.held kind (.ofEndpoint service endpoint) limit =
      a.held kind (.ofEndpoint service endpoint) limit := by
  unfold Session.held
  rw [matched.bucket_eq]
  cases kind with
  | tokens => rw [matched.counts _ (by decide), matched.counts _ (by decide)]
  | level => rw [matched.counts _ (by decide), matched.counts _ (by decide)]

theorem log_eq (matched : Matched service endpoint a b used used') (limit : Limit)
    (fresh : Limiter.logMember a.now ticket ∉ used)
    (fresh' : Limiter.logMember b.now ticket' ∉ used') :
    let key := LimitKey.ofEndpoint service endpoint
    (a.log key limit ticket (a.part key "sw")).1 = (b.log key limit ticket' (b.part key "sw")).1 ∧
      (a.log key limit ticket (a.part key "sw")).2.Alike
        (b.log key limit ticket' (b.part key "sw")).2 :=
  Session.alike_log matched.logs limit ticket ticket' matched.base.symm matched.compounding.symm
    matched.now.symm (fun old => fresh (matched.members old))
    fun old => fresh' (matched.members' old)

theorem outcome_bucket (matched : Matched service endpoint a b used used') (kind : BucketKind)
    (counted : limit.algorithm = kind.algorithm) :
    (b.request (.ofEndpoint service endpoint) limit ticket').outcome =
      (a.request (.ofEndpoint service endpoint) limit ticket).outcome := by
  rw [Session.outcome_bucket matched.healthy counted,
    Session.outcome_bucket matched.healthy' counted, matched.held_eq, matched.bucket_eq,
    matched.now]

theorem outcome_request (matched : Matched service endpoint a b used used') (limit : Limit)
    (fresh : Limiter.logMember a.now ticket ∉ used)
    (fresh' : Limiter.logMember b.now ticket' ∉ used') :
    (b.request (.ofEndpoint service endpoint) limit ticket').outcome =
      (a.request (.ofEndpoint service endpoint) limit ticket).outcome := by
  cases counted : limit.algorithm with
  | fixedWindow =>
    rw [Session.outcome_fixedWindow matched.healthy counted,
      Session.outcome_fixedWindow matched.healthy' counted, matched.counts "fw" (by decide),
      matched.base, matched.now]
  | slidingWindow =>
    rw [Session.outcome_slidingWindow matched.healthy counted,
      Session.outcome_slidingWindow matched.healthy' counted,
      (matched.log_eq limit fresh fresh').1]
  | tokenBucket => exact matched.outcome_bucket .tokens counted
  | leakyBucket => exact matched.outcome_bucket .level counted

theorem part_bucket (matched : Matched service endpoint a b used used') (kind : BucketKind)
    (counted : limit.algorithm = kind.algorithm) {part : String}
    (own : part ∈ limit.algorithm.parts) (other : part ≠ "sw") :
    (b.step (.evaluate (.ofEndpoint service endpoint) limit ticket')).2.part
        (.ofEndpoint service endpoint) part =
      (a.step (.evaluate (.ofEndpoint service endpoint) limit ticket)).2.part
        (.ofEndpoint service endpoint) part := by
  cases read : a.held kind (.ofEndpoint service endpoint) limit with
  | error error =>
    have read' := (matched.held_eq kind limit).trans read
    rw [Session.part_bucket_failed matched.healthy counted read,
      Session.part_bucket_failed matched.healthy' counted read', matched.counts part other]
  | ok held =>
    have read' := (matched.held_eq kind limit).trans read
    rw [counted, BucketKind.parts_algorithm, List.mem_cons, List.mem_singleton] at own
    rcases own with rfl | rfl
    · rw [Session.content_bucket matched.healthy counted read,
        Session.content_bucket matched.healthy' counted read', matched.bucket_eq, matched.now]
    · rw [Session.stamp_bucket matched.healthy counted read,
        Session.stamp_bucket matched.healthy' counted read', matched.now]

theorem part_request (matched : Matched service endpoint a b used used') {part : String}
    (own : part ∈ limit.algorithm.parts) (other : part ≠ "sw") :
    (b.step (.evaluate (.ofEndpoint service endpoint) limit ticket')).2.part
        (.ofEndpoint service endpoint) part =
      (a.step (.evaluate (.ofEndpoint service endpoint) limit ticket)).2.part
        (.ofEndpoint service endpoint) part := by
  cases counted : limit.algorithm with
  | fixedWindow =>
    rw [counted] at own
    obtain rfl := List.mem_singleton.mp own
    rw [Session.part_fixedWindow matched.healthy counted,
      Session.part_fixedWindow matched.healthy' counted, matched.counts "fw" (by decide),
      matched.base, matched.now]
  | slidingWindow =>
    rw [counted] at own
    exact absurd (List.mem_singleton.mp own) other
  | tokenBucket => exact matched.part_bucket .tokens counted own other
  | leakyBucket => exact matched.part_bucket .level counted own other

theorem slidingWindow_of_log (own : "sw" ∈ limit.algorithm.parts) :
    limit.algorithm = .slidingWindow := by
  cases counted : limit.algorithm with
  | slidingWindow => rfl
  | fixedWindow | tokenBucket | leakyBucket =>
    rw [counted] at own
    exact absurd own (by decide)

/-- The logs after a request, whether or not it is counted in them. -/
theorem log_request (matched : Matched service endpoint a b used used') (limit : Limit)
    (fresh : Limiter.logMember a.now ticket ∉ used)
    (fresh' : Limiter.logMember b.now ticket' ∉ used') :
    let key := LimitKey.ofEndpoint service endpoint
    let later := (a.step (.evaluate key limit ticket)).2.part key "sw"
    let later' := (b.step (.evaluate key limit ticket')).2.part key "sw"
    later.Alike later' ∧ later.members ⊆ Limiter.logMember a.now ticket :: used ∧
      later'.members ⊆ Limiter.logMember b.now ticket' :: used' := by
  intro key later later'
  -- The algorithm may have changed since the log was written, so both cases occur.
  by_cases own : "sw" ∈ limit.algorithm.parts
  · have counted := slidingWindow_of_log own
    refine ⟨?_, Session.members_slidingWindow matched.healthy counted matched.members,
      Session.members_slidingWindow matched.healthy' counted matched.members'⟩
    have part : later = _ := Session.part_slidingWindow matched.healthy counted
    have part' : later' = _ := Session.part_slidingWindow matched.healthy' counted
    rw [part, part', matched.now]
    exact (matched.log_eq limit fresh fresh').2.aged a.now
  · have part : later = a.part key "sw" := Session.part_evaluate_of_spared matched.healthy own
    have part' : later' = b.part key "sw" := Session.part_evaluate_of_spared matched.healthy' own
    rw [part, part']
    exact ⟨matched.logs, List.subset_cons_of_subset _ matched.members,
      List.subset_cons_of_subset _ matched.members'⟩

theorem request (matched : Matched service endpoint a b used used') (limit : Limit)
    (fresh : Limiter.logMember a.now ticket ∉ used)
    (fresh' : Limiter.logMember b.now ticket' ∉ used') :
    Matched service endpoint
      (a.step (.evaluate (.ofEndpoint service endpoint) limit ticket)).2
      (b.step (.evaluate (.ofEndpoint service endpoint) limit ticket')).2
      (Limiter.logMember a.now ticket :: used) (Limiter.logMember b.now ticket' :: used') := by
  have record (s : Session) (healthy : s.Healthy) (base : s.base = a.base) (key : LimitKey)
      (ticket : String) : (s.step (.evaluate (.ofEndpoint service endpoint) limit ticket)).2.slot
        (key.configKey a.base) = s.slot (key.configKey a.base) := by
    rw [← base]
    exact Session.slot_evaluate_of_spared healthy fun part _ =>
      LimitKey.configKey_ne_stateKey _ _ _ part
  obtain ⟨logs, members, members'⟩ := matched.log_request limit fresh fresh'
  refine ⟨?_, ?_, matched.now, ?_, ?_, ?_, ?_, ?_, logs, members, members'⟩
  · rw [Session.base_step, Session.base_step, matched.base]
  · rw [Session.compounding_step, Session.compounding_step, matched.compounding]
  · exact Session.healthy_step matched.healthy _
  · exact Session.healthy_step matched.healthy' _
  · rw [Session.base_step, record a matched.healthy rfl,
      record b matched.healthy' matched.base, matched.limit]
  · rw [Session.base_step, record a matched.healthy rfl,
      record b matched.healthy' matched.base, matched.default]
  · intro part other
    by_cases counted : part ∈ limit.algorithm.parts
    · exact matched.part_request counted other
    · rw [Session.part_evaluate_of_spared matched.healthy counted,
        Session.part_evaluate_of_spared matched.healthy' counted, matched.counts part other]

theorem resolution_eq (matched : Matched service endpoint a b used used') :
    b.resolution service endpoint = a.resolution service endpoint := by
  unfold Session.resolution Session.published
  rw [matched.base, matched.limit, matched.default]

theorem mono {more more' : List String} (matched : Matched service endpoint a b used used')
    (grows : used ⊆ more) (grows' : used' ⊆ more') : Matched service endpoint a b more more' :=
  { matched with
    members := List.Subset.trans matched.members grows
    members' := List.Subset.trans matched.members' grows' }

theorem allow (matched : Matched service endpoint a b used used')
    (fresh : Limiter.logMember a.now ticket ∉ used)
    (fresh' : Limiter.logMember b.now ticket' ∉ used') :
    (b.step (.allow service endpoint ticket')).1 = (a.step (.allow service endpoint ticket)).1 ∧
      Matched service endpoint (a.step (.allow service endpoint ticket)).2
        (b.step (.allow service endpoint ticket')).2 (Limiter.logMember a.now ticket :: used)
        (Limiter.logMember b.now ticket' :: used') := by
  have same := matched.resolution_eq
  have grown := matched.mono (List.subset_cons_self (Limiter.logMember a.now ticket) used)
    (List.subset_cons_self (Limiter.logMember b.now ticket') used')
  cases resolved : a.resolution service endpoint with
  | error error =>
    rw [resolved] at same
    obtain ⟨reply, agrees⟩ := Session.step_allow_failed matched.healthy ticket resolved
    obtain ⟨reply', agrees'⟩ := Session.step_allow_failed matched.healthy' ticket' same
    exact ⟨reply'.trans reply.symm, (grown.left agrees).right agrees'⟩
  | ok found =>
    rw [resolved] at same
    cases found with
    | none =>
      obtain ⟨reply, agrees⟩ := Session.step_allow_open matched.healthy ticket resolved
      obtain ⟨reply', agrees'⟩ := Session.step_allow_open matched.healthy' ticket' same
      exact ⟨reply'.trans reply.symm, (grown.left agrees).right agrees'⟩
    | some limit =>
      obtain ⟨t, agrees, reply, after⟩ :=
        Session.step_allow_limited matched.healthy ticket resolved
      obtain ⟨t', agrees', reply', after'⟩ :=
        Session.step_allow_limited matched.healthy' ticket' same
      -- Both runs resolve the limit first, and are still matched when they count.
      have between := (matched.left agrees).right agrees'
      rw [← agrees.now] at fresh
      rw [← agrees'.now] at fresh'
      have outcome := between.outcome_request limit fresh fresh'
      have later := between.request limit fresh fresh'
      rw [agrees.now, agrees'.now] at later
      refine ⟨?_, (later.left after).right after'⟩
      rw [reply, reply', outcome]

/-! ### Publications, purges and the clock -/

theorem publish (matched : Matched service endpoint a b used used') (lifetime : Option Duration)
    (limit : Limit) :
    Matched service endpoint (a.step (.publish lifetime limit)).2
      (b.step (.publish lifetime limit)).2 used used' := by
  have record (key : LimitKey)
      (same : b.slot (key.configKey a.base) = a.slot (key.configKey a.base)) :
      (b.step (.publish lifetime limit)).2.slot (key.configKey a.base) =
        (a.step (.publish lifetime limit)).2.slot (key.configKey a.base) := by
    rw [Session.slot_publish matched.healthy, Session.slot_publish matched.healthy', same,
      matched.base, matched.now]
  have part (s : Session) (healthy : s.Healthy) (name : String) :
      (s.step (.publish lifetime limit)).2.part (.ofEndpoint service endpoint) name =
        s.part (.ofEndpoint service endpoint) name :=
    Session.part_publish healthy lifetime limit _ name
  refine ⟨?_, ?_, matched.now, ?_, ?_, ?_, ?_, ?_, ?_, ?_, ?_⟩
  · rw [Session.base_step, Session.base_step, matched.base]
  · rw [Session.compounding_step, Session.compounding_step, matched.compounding]
  · exact Session.healthy_step matched.healthy _
  · exact Session.healthy_step matched.healthy' _
  · rw [Session.base_step]
    exact record _ matched.limit
  · rw [Session.base_step]
    exact record _ matched.default
  · intro name other
    rw [part a matched.healthy, part b matched.healthy', matched.counts name other]
  · rw [part a matched.healthy, part b matched.healthy']
    exact matched.logs
  · rw [part a matched.healthy]
    exact matched.members
  · rw [part b matched.healthy']
    exact matched.members'

theorem purge (matched : Matched service endpoint a b used used') :
    Matched service endpoint (a.step .purge).2 (b.step .purge).2 used used' :=
  (matched.left (a.agrees_purge service endpoint)).right (b.agrees_purge service endpoint)

theorem setClock (matched : Matched service endpoint a b used used') {reading : Int}
    (order : a.now ≤ reading) :
    Matched service endpoint (a.step (.setClock reading)).2 (b.step (.setClock reading)).2 used
      used' := by
  have order' : b.now ≤ reading := by
    rw [matched.now]
    exact order
  refine ⟨matched.base, matched.compounding, rfl, matched.healthy, matched.healthy', ?_, ?_, ?_, ?_,
    ?_, ?_⟩
  · rw [Session.base_step, Session.slot_setClock order, Session.slot_setClock order', matched.limit]
  · rw [Session.base_step, Session.slot_setClock order, Session.slot_setClock order',
      matched.default]
  · intro name other
    rw [Session.part_setClock order, Session.part_setClock order', matched.counts name other]
  · rw [Session.part_setClock order, Session.part_setClock order']
    exact matched.logs.aged reading
  · rw [Session.part_setClock order]
    exact List.Subset.trans (Slot.members_aged reading _) matched.members
  · rw [Session.part_setClock order']
    exact List.Subset.trans (Slot.members_aged reading _) matched.members'

end

/-- An action that is in both runs is answered the same, and keeps the relation. -/
theorem step (matched : Matched service endpoint a b used used') {action other : Action}
    (served : action.Served) (kept : action.concerns service endpoint = true)
    (same : other.untagged = action.untagged) (order : a.now ≤ (a.step action).2.now)
    (fresh : ∀ member ∈ Entry.member? service endpoint ⟨action, a.now, (a.step action).1⟩,
      member ∉ used)
    (fresh' : ∀ member ∈ Entry.member? service endpoint ⟨other, b.now, (b.step other).1⟩,
      member ∉ used') :
    Entry.answer? service endpoint ⟨other, b.now, (b.step other).1⟩ =
        Entry.answer? service endpoint ⟨action, a.now, (a.step action).1⟩ ∧
      Matched service endpoint (a.step action).2 (b.step other).2
        ((Entry.member? service endpoint ⟨action, a.now, (a.step action).1⟩).toList ++ used)
        ((Entry.member? service endpoint ⟨other, b.now, (b.step other).1⟩).toList ++ used') := by
  cases action with
  | allow service' endpoint' ticket =>
    obtain ⟨rfl, rfl⟩ : service' = service ∧ endpoint' = endpoint := of_decide_eq_true kept
    obtain ⟨ticket', rfl⟩ := Action.exists_eq_allow same
    have named (s : Session) (ticket : String) :
        Entry.member? service' endpoint' ⟨.allow service' endpoint' ticket, s.now,
          (s.step (.allow service' endpoint' ticket)).1⟩ =
            some (Limiter.logMember s.now ticket) :=
      if_pos ⟨rfl, rfl⟩
    rw [named] at fresh fresh' ⊢
    rw [named]
    obtain ⟨reply, later⟩ := matched.allow (fresh _ rfl) (fresh' _ rfl)
    rw [reply]
    exact ⟨rfl, later⟩
  | publish lifetime limit =>
    obtain rfl := Action.eq_of_untagged_eq same (by simp [Action.untagged])
    exact ⟨rfl, matched.publish lifetime limit⟩
  | purge =>
    obtain rfl := Action.eq_of_untagged_eq same (by simp [Action.untagged])
    exact ⟨rfl, matched.purge⟩
  | setClock reading =>
    obtain rfl := Action.eq_of_untagged_eq same (by simp [Action.untagged])
    exact ⟨rfl, matched.setClock order⟩
  | evaluate _ _ _ | resolve _ _ | publishRules _ _ | call _ => cases served

end Matched

/-! ## Runs -/

namespace Session

variable {service endpoint : String}

theorem answers_cons (s : Session) (action : Action) (rest : List Action) :
    s.answers service endpoint (action :: rest) =
      (Entry.answer? service endpoint ⟨action, s.now, (s.step action).1⟩).toList ++
        (s.step action).2.answers service endpoint rest := by
  unfold answers
  rw [trace, List.filterMap_cons]
  cases Entry.answer? service endpoint ⟨action, s.now, (s.step action).1⟩ <;> rfl

theorem members_cons (s : Session) (action : Action) (rest : List Action) :
    s.members service endpoint (action :: rest) =
      (Entry.member? service endpoint ⟨action, s.now, (s.step action).1⟩).toList ++
        (s.step action).2.members service endpoint rest := by
  unfold members
  rw [trace, List.filterMap_cons]
  cases Entry.member? service endpoint ⟨action, s.now, (s.step action).1⟩ <;> rfl

end Session

theorem Session.not_told (s : Session) {service endpoint : String} {action : Action}
    (served : action.Served) (deleted : action.concerns service endpoint = false) :
    Entry.answer? service endpoint ⟨action, s.now, (s.step action).1⟩ = none ∧
      Entry.member? service endpoint ⟨action, s.now, (s.step action).1⟩ = none := by
  cases action with
  | allow service' endpoint' ticket =>
    have other : ¬ (service' = service ∧ endpoint' = endpoint) := of_decide_eq_false deleted
    exact ⟨if_neg other, if_neg other⟩
  | publish _ _ | purge | setClock _ => exact ⟨rfl, rfl⟩
  | evaluate _ _ _ | resolve _ _ | publishRules _ _ | call _ => cases served

theorem fresh_of_nodup {used rest : List String} {member : Option String}
    (distinct : (used ++ (member.toList ++ rest)).Nodup) :
    (∀ name ∈ member, name ∉ used) ∧ ((member.toList ++ used) ++ rest).Nodup := by
  cases member with
  | none => exact ⟨by simp, distinct⟩
  | some name =>
    have first := List.nodup_middle.mp distinct
    refine ⟨?_, first⟩
    intro other told old
    obtain rfl := Option.mem_some_iff.mp told
    exact (List.nodup_cons.mp first).1 (List.mem_append_left _ old)

theorem answers_eq {service endpoint : String} :
    ∀ {run other : List Action} {a b : Session} {used used' : List String},
      Matched service endpoint a b used used' → (∀ action ∈ run, action.Served) →
      other.map Action.untagged =
        (run.filter (Action.concerns service endpoint)).map Action.untagged →
      Forward a.now run → (used ++ a.members service endpoint run).Nodup →
      (used' ++ b.members service endpoint other).Nodup →
      b.answers service endpoint other = a.answers service endpoint run
  | [], other, a, b, used, used', _, _, deleted, _, _, _ => by
    obtain rfl := List.map_eq_nil_iff.mp deleted
    rfl
  | action :: rest, other, a, b, used, used', matched, served, deleted, forward, distinct,
      distinct' => by
    have served_rest : ∀ action ∈ rest, action.Served := fun action member =>
      served action (List.mem_cons_of_mem _ member)
    have served_action := served action List.mem_cons_self
    have forward_rest := Session.forward_step forward
    rw [Session.members_cons] at distinct
    cases kept : action.concerns service endpoint with
    | false =>
      have deleted_action : ¬ action.concerns service endpoint = true := by simp [kept]
      rw [List.filter_cons_of_neg deleted_action] at deleted
      obtain ⟨no_answer, no_member⟩ := a.not_told served_action kept
      -- A deleted action moves the first run alone.
      rw [no_member] at distinct
      rw [Session.answers_cons, no_answer]
      exact answers_eq (matched.left (Session.agrees_of_deleted matched.healthy served_action kept))
        served_rest deleted forward_rest distinct distinct'
    | true =>
      rw [List.filter_cons_of_pos kept, List.map_cons] at deleted
      obtain ⟨action', others, rfl, same, deleted⟩ := List.map_eq_cons_iff.mp deleted
      rw [Session.members_cons] at distinct'
      obtain ⟨fresh, distinct⟩ := fresh_of_nodup distinct
      obtain ⟨fresh', distinct'⟩ := fresh_of_nodup distinct'
      -- An action that is kept moves both runs.
      obtain ⟨answer, matched⟩ := matched.step served_action kept same
        (Session.le_now_step forward) fresh fresh'
      rw [Session.answers_cons, Session.answers_cons, answer,
        answers_eq matched served_rest deleted forward_rest distinct distinct']

theorem Matched.start (publisher : Publisher) (compounding : Compounding) (now : Int)
    (service endpoint : String) :
    Matched service endpoint (Session.start publisher compounding now)
      (Session.start publisher compounding now) [] [] where
  base := rfl
  compounding := rfl
  now := rfl
  healthy := rfl
  healthy' := rfl
  limit := rfl
  default := rfl
  counts _ _ := rfl
  logs := .inl rfl
  members := List.Subset.refl []
  members' := List.Subset.refl []

/-- **Isolation of endpoints.**  From an empty store, under a clock that is never set back, the
    answers to the requests to an endpoint are the same when the requests to all other endpoints and
    all publications but those for the endpoint and its service's default are deleted from a run.
    The requests that stay may have other tickets, as long as members are all different. -/
theorem isolation (publisher : Publisher) (compounding : Compounding) (now : Int)
    (service endpoint : String) (run other : List Action) (served : ∀ action ∈ run, action.Served)
    (deleted : other.map Action.untagged =
      (run.filter (Action.concerns service endpoint)).map Action.untagged)
    (forward : Forward now run)
    (distinct :
      ((Session.start publisher compounding now).members service endpoint run).Nodup)
    (distinct' :
      ((Session.start publisher compounding now).members service endpoint other).Nodup) :
    (Session.start publisher compounding now).answers service endpoint other =
      (Session.start publisher compounding now).answers service endpoint run :=
  answers_eq (Matched.start publisher compounding now service endpoint) served deleted forward
    distinct distinct'

/-- Two endpoints on the default of their service, and a limit of another service. -/
theorem isolation_of_query :
    let publisher : Publisher := ⟨"limits", none⟩
    let limit : Limit := ⟨"search", none, .slidingWindow, 1, .ofMillis 1000⟩
    let mail : Limit := ⟨"mail", none, .fixedWindow, 5, .ofMillis 60000⟩
    let run : List Action := [.publish none limit, .allow "search" "query" "a",
      .allow "search" "index" "b", .setClock 500, .publish none mail, .purge,
      .allow "search" "query" "c"]
    let other : List Action := [.publish none limit, .allow "search" "query" "d", .setClock 500,
      .purge, .allow "search" "query" "e"]
    (∀ action ∈ run, action.Served) ∧ other.map Action.untagged =
        (run.filter (Action.concerns "search" "query")).map Action.untagged ∧ Forward 0 run ∧
      ((Session.start publisher .inSteps 0).members "search" "query" run).Nodup ∧
      ((Session.start publisher .inSteps 0).members "search" "query" other).Nodup ∧
      (Session.start publisher .inSteps 0).answers "search" "query" other =
        (Session.start publisher .inSteps 0).answers "search" "query" run := by
  intro publisher limit mail run other
  have served : ∀ action ∈ run, action.Served := by simp [run, Action.Served]
  have deleted : other.map Action.untagged =
      (run.filter (Action.concerns "search" "query")).map Action.untagged := by rfl
  have forward : Forward 0 run := by decide
  have distinct : ((Session.start publisher .inSteps 0).members "search" "query" run).Nodup := by
    decide +kernel
  have distinct' : ((Session.start publisher .inSteps 0).members "search" "query" other).Nodup := by
    decide +kernel
  exact ⟨served, deleted, forward, distinct, distinct',
    isolation publisher .inSteps 0 "search" "query" run other served deleted forward distinct
      distinct'⟩

end Throttle

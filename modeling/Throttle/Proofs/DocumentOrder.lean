import Mathlib.Data.List.Sort
import Throttle.Proofs.Admission
import Throttle.Rules.Basic

/-!
# The rules of a document in their order

A rule has a place in its document: the number of its service and, unless it is the default of the service,
the number of its endpoint.  Services come one after the other, and of each the default before the
endpoints (`Place.Before`).  `RulesDocument.Lists` says of a list that it holds the rules of a document in
this order, and `lists_iff` that there is exactly one such list for each document.

What a rule is published as, and what it is refused for, is told by its own fields here (`PlacedRule`);
`limits_eq` and `check_limit_cases` say that the limits of a document and their checks agree with that.
-/

namespace Throttle

/-! ## Rules and what they are for -/

/-- A rule with the service and the endpoint it is for. -/
structure PlacedRule where
  service : String
  /-- None for the default of the service. -/
  endpoint : Option String
  rule : LimitRule
  deriving DecidableEq, Repr

namespace PlacedRule

variable {r : PlacedRule}

def key (r : PlacedRule) : LimitKey := ⟨r.service, r.endpoint⟩

def record (r : PlacedRule) : Record :=
  ⟨r.service, r.endpoint, r.rule.algorithm.name, r.rule.maxRequests, r.rule.windowMillis⟩

def limit (r : PlacedRule) : Limit :=
  ⟨r.service, r.endpoint, r.rule.algorithm, r.rule.maxRequests, .ofMillis r.rule.windowMillis⟩

/-- Nothing keeps the rule from being published: its service has a name, and its numbers are words from
    one on. -/
def Publishable (r : PlacedRule) : Prop :=
  r.service ≠ "" ∧ (1 ≤ r.rule.maxRequests ∧ (r.rule.maxRequests : Int) ≤ Word.maxValue) ∧
    1 ≤ r.rule.windowMillis ∧ (r.rule.windowMillis : Int) ≤ Word.maxValue

instance (r : PlacedRule) : Decidable r.Publishable := inferInstanceAs (Decidable (_ ∧ _))

/-- What is wrong with a rule: a problem counts only where none of those before it is there. -/
inductive Breaks (r : PlacedRule) : LimitProblem → Prop
  | emptyService (anonymous : r.service = "") : r.Breaks .emptyService
  | noRequests (named : r.service ≠ "") (requests : r.rule.maxRequests = 0) :
      r.Breaks (.noRequests r.key)
  | tooManyRequests (named : r.service ≠ "") (requests : Word.maxValue < r.rule.maxRequests) :
      r.Breaks (.tooManyRequests r.key)
  | windowTooShort (named : r.service ≠ "")
      (requests : 1 ≤ r.rule.maxRequests ∧ (r.rule.maxRequests : Int) ≤ Word.maxValue)
      (window : r.rule.windowMillis = 0) : r.Breaks (.windowTooShort r.key)
  | windowTooLong (named : r.service ≠ "")
      (requests : 1 ≤ r.rule.maxRequests ∧ (r.rule.maxRequests : Int) ≤ Word.maxValue)
      (window : Word.maxValue < r.rule.windowMillis) : r.Breaks (.windowTooLong r.key)

theorem breaks_of_problem? {problem : LimitProblem} (found : r.limit.problem? = some problem) :
    r.Breaks problem := by
  have requests : r.limit.maxRequests = r.rule.maxRequests := rfl
  have millis : r.limit.window.millis = r.rule.windowMillis := Duration.millis_ofMillis _
  unfold Limit.problem? at found
  split_ifs at found with anonymous none many short long <;> obtain rfl := Option.some.inj found
  · exact .emptyService anonymous
  · exact .noRequests anonymous none
  · exact .tooManyRequests anonymous many
  · exact .windowTooShort anonymous (by omega) (by omega)
  · exact .windowTooLong anonymous (by omega) (by omega)

theorem check_limit_eq_ok_iff : r.limit.check = .ok () ↔ r.Publishable := by
  rw [Limit.check_eq_ok_iff]
  unfold Publishable
  rw [← Duration.millis_ofMillis r.rule.windowMillis]
  constructor
  · rintro ⟨named, valid⟩
    exact ⟨named, ⟨valid.one_le_requests, valid.requests_le⟩, valid.one_le_window, valid.window_le⟩
  · rintro ⟨named, ⟨some_requests, requests⟩, some_window, window⟩
    exact ⟨named, some_requests, requests, some_window, window⟩

theorem check_limit_cases (r : PlacedRule) :
    r.Publishable ∧ r.limit.check = .ok () ∨
      ∃ problem, r.Breaks problem ∧ r.limit.check = .error (.invalidLimit problem) := by
  cases found : r.limit.problem? with
  | none =>
    have accepted : r.limit.check = .ok () := by rw [Limit.check, found]
    exact .inl ⟨check_limit_eq_ok_iff.mp accepted, accepted⟩
  | some problem => exact .inr ⟨problem, breaks_of_problem? found, by rw [Limit.check, found]⟩

theorem Breaks.not_publishable {problem : LimitProblem} (broken : r.Breaks problem) :
    ¬ r.Publishable := by
  rintro ⟨named, requests, window⟩
  cases broken with
  | emptyService anonymous => exact named anonymous
  | noRequests _ none | tooManyRequests _ none | windowTooShort _ _ none | windowTooLong _ _ none =>
    omega

/-- The numbers of a rule that can be published are written down as they are. -/
theorem Publishable.record_eq (fine : r.Publishable) : Record.ofLimit r.limit = r.record := by
  have valid : r.limit.Valid := (r.limit.check_eq_ok_iff.mp (check_limit_eq_ok_iff.mpr fine)).2
  unfold Record.ofLimit record
  rw [valid.capacity_eq, valid.windowMillis_eq]
  simp [limit]

end PlacedRule

/-! ## Places -/

/-- Where a rule stands in a document. -/
structure Place where
  service : Nat
  /-- None for the default of the service. -/
  endpoint : Option Nat
  deriving DecidableEq, Repr

namespace Place

/-- The place of an earlier service, or in the same service that of an earlier endpoint, where the default
    (none) is before all endpoints. -/
def Before (a b : Place) : Prop :=
  a.service < b.service ∨ a.service = b.service ∧ a.endpoint < b.endpoint

theorem Before.asymm {a b : Place} (first : a.Before b) : ¬ b.Before a := by
  obtain ⟨i, e⟩ := a
  obtain ⟨j, f⟩ := b
  unfold Before at *
  cases e <;> cases f <;> simp at first ⊢ <;> omega

instance : Std.Irrefl Before := ⟨fun _ self => self.asymm self⟩

instance : Std.Antisymm Before := ⟨fun _ _ first second => absurd second first.asymm⟩

/-- The same place when one service more comes first. -/
def shift (place : Place) : Place := ⟨place.service + 1, place.endpoint⟩

theorem shift_injective : Function.Injective shift := by
  rintro ⟨i, e⟩ ⟨j, f⟩ same
  simpa [shift] using same

theorem mem_map_shift (place : Place) (places : List Place) :
    place.shift ∈ places.map shift ↔ place ∈ places :=
  List.mem_map_of_injective shift_injective

end Place

/-- The rule at a place of a service; none is the place of the default. -/
def ServiceRules.ruleAt? (s : ServiceRules) : Option Nat → Option PlacedRule
  | none => s.default.map fun r => ⟨s.service, none, r⟩
  | some j => s.endpoints[j]?.map fun e => ⟨s.service, some e.endpoint, e.rule⟩

namespace RulesDocument

def ruleAt? (d : RulesDocument) (place : Place) : Option PlacedRule :=
  d.services[place.service]?.bind fun s => s.ruleAt? place.endpoint

/-- The list holds the rules of all places, in the order of the places. -/
def Lists (d : RulesDocument) (rules : List PlacedRule) : Prop :=
  ∃ places : List Place, places.Pairwise Place.Before ∧
    (∀ place, place ∈ places ↔ (d.ruleAt? place).isSome) ∧ places.map d.ruleAt? = rules.map some

variable {d : RulesDocument} {rules other : List PlacedRule}

theorem Lists.unique (lists : d.Lists rules) (lists' : d.Lists other) : other = rules := by
  obtain ⟨places, ordered, all, held⟩ := lists
  obtain ⟨places', ordered', all', held'⟩ := lists'
  have same : places' = places :=
    ordered'.eq_of_mem_iff ordered fun place => (all' place).trans (all place).symm
  rw [same, held] at held'
  exact (List.map_injective_iff.mpr (Option.some_injective _) held').symm

end RulesDocument

/-! ## The list of all rules -/

def ServiceRules.rules (s : ServiceRules) : List PlacedRule :=
  (s.default.map fun r => ⟨s.service, none, r⟩).toList ++
    s.endpoints.map fun e => ⟨s.service, some e.endpoint, e.rule⟩

def RulesDocument.rules (d : RulesDocument) : List PlacedRule := d.services.flatMap ServiceRules.rules

theorem RulesDocument.limits_eq (d : RulesDocument) : d.limits = d.rules.map PlacedRule.limit := by
  unfold limits rules
  rw [List.map_flatMap]
  congr 1
  funext s
  unfold ServiceRules.limits ServiceRules.rules
  rw [List.map_append, List.map_map, Option.toList_map, Option.toList_map, List.map_map]
  rfl

theorem ServiceRules.exists_places (s : ServiceRules) :
    ∃ places : List (Option Nat), places.Pairwise (· < ·) ∧
      (∀ place, place ∈ places ↔ (s.ruleAt? place).isSome) ∧
      places.map s.ruleAt? = s.rules.map some := by
  have ordered : ((List.range s.endpoints.length).map some).Pairwise (· < ·) :=
    List.pairwise_map.mpr (List.pairwise_lt_range.imp Option.some_lt_some.mpr)
  have all (j : Nat) : (s.ruleAt? (some j)).isSome ↔ j < s.endpoints.length := by
    simp [ruleAt?]
  have held : ((List.range s.endpoints.length).map some).map s.ruleAt? =
      (s.endpoints.map fun e => (⟨s.service, some e.endpoint, e.rule⟩ : PlacedRule)).map some := by
    apply List.ext_getElem
    · simp
    · intro j _ bound
      have inside : j < s.endpoints.length := by simpa using bound
      simp [ruleAt?, List.getElem?_eq_getElem inside]
  cases default : s.default with
  | none =>
    refine ⟨(List.range s.endpoints.length).map some, ordered, ?_, ?_⟩
    · rintro (_ | j)
      · simp [ruleAt?, default]
      · simp [all]
    · rw [held, rules, default]
      rfl
  | some r =>
    refine ⟨none :: (List.range s.endpoints.length).map some, ?_, ?_, ?_⟩
    · exact .cons (by simp) ordered
    · rintro (_ | j)
      · simp [ruleAt?, default]
      · simp [all]
    · rw [List.map_cons, held, rules, default]
      simp [ruleAt?, default]

theorem lists_flatMap_rules : ∀ services : List ServiceRules,
    (RulesDocument.mk services).Lists (services.flatMap ServiceRules.rules)
  | [] => ⟨[], .nil, by simp [RulesDocument.ruleAt?], rfl⟩
  | s :: rest => by
    obtain ⟨own, ordered, all, held⟩ := s.exists_places
    obtain ⟨places, ordered', all', held'⟩ := lists_flatMap_rules rest
    -- The first service has number zero, and the numbers of the others are one more than before.
    refine ⟨own.map (Place.mk 0) ++ places.map Place.shift, ?_, ?_, ?_⟩
    · refine List.pairwise_append.mpr ⟨?_, ?_, ?_⟩
      · exact List.pairwise_map.mpr (ordered.imp fun earlier => .inr ⟨rfl, earlier⟩)
      · refine List.pairwise_map.mpr (ordered'.imp ?_)
        rintro a b (earlier | ⟨same, earlier⟩)
        · exact .inl (Nat.succ_lt_succ earlier)
        · exact .inr ⟨congrArg Nat.succ same, earlier⟩
      · intro a first b later
        obtain ⟨e, -, rfl⟩ := List.mem_map.mp first
        obtain ⟨place, -, rfl⟩ := List.mem_map.mp later
        exact .inl (Nat.succ_pos _)
    · rintro ⟨_ | i, e⟩
      · simp [Place.shift, all, RulesDocument.ruleAt?]
      · have moved : ⟨i + 1, e⟩ ∈ places.map Place.shift ↔ ⟨i, e⟩ ∈ places :=
          Place.mem_map_shift ⟨i, e⟩ places
        rw [List.mem_append, moved, all']
        simp [RulesDocument.ruleAt?]
    · rw [List.map_append, List.map_map, List.map_map, List.flatMap_cons, List.map_append]
      exact congrArg₂ _ held held'

/-- A document has one list of its rules. -/
theorem RulesDocument.lists_iff (d : RulesDocument) (rules : List PlacedRule) :
    d.Lists rules ↔ rules = d.rules := by
  have lists : d.Lists d.rules := lists_flatMap_rules d.services
  refine ⟨lists.unique, ?_⟩
  rintro rfl
  exact lists

end Throttle

import Mathlib.Data.List.Basic
import Throttle.LimitKey

/-!
# Store keys are unambiguous

Limiters of one base share a store, so what keeps them apart is that their store keys differ.
Escaping is injective and its image holds neither of the signs that structure a key, so that a key
splits at its colons in one way only.

Main statements: `text_injective`, `configKey_injective`, `stateKey_injective` and
`configKey_ne_stateKey`, which `store_keys_never_collide` puts together.
-/

namespace Throttle.LimitKey

/-! ## Splitting at a sign -/

/-- A list splits in one way at the first occurrence of a sign. -/
theorem eq_of_append_cons_eq {α : Type} {sign : α} :
    ∀ {before before' after after' : List α}, sign ∉ before → sign ∉ before' →
      before ++ sign :: after = before' ++ sign :: after' → before = before' ∧ after = after'
  | [], [], _, _, _, _, same => ⟨rfl, (List.cons.inj same).2⟩
  | [], _ :: _, _, _, _, absent', same =>
    absurd (List.mem_cons.2 (.inl (List.cons.inj same).1)) absent'
  | _ :: _, [], _, _, absent, _, same =>
    absurd (List.mem_cons.2 (.inl (List.cons.inj same).1.symm)) absent
  | first :: before, first' :: before', _, _, absent, absent', same => by
    rw [List.mem_cons, not_or] at absent absent'
    obtain ⟨heads, tails⟩ := List.cons.inj same
    obtain ⟨befores, afters⟩ := eq_of_append_cons_eq absent.2 absent'.2 tails
    exact ⟨by rw [heads, befores], afters⟩

/-! ## Escaping -/

theorem not_mem_escapeChar (c : Char) : ':' ∉ escapeChar c ∧ '*' ∉ escapeChar c := by
  unfold escapeChar
  split
  · decide
  · decide
  · decide
  · rename_i colon star
    simp only [List.mem_singleton]
    exact ⟨fun same => colon same.symm, fun same => star same.symm⟩

/-- Only a percent sign starts an escaped form, and what follows it tells the character. -/
theorem escapeChar_append_inj {c d : Char} {cs ds : List Char}
    (same : escapeChar c ++ cs = escapeChar d ++ ds) : c = d ∧ cs = ds := by
  unfold escapeChar at same
  split at same <;> split at same <;> grind

theorem flatMap_escapeChar_injective :
    ∀ {cs ds : List Char}, cs.flatMap escapeChar = ds.flatMap escapeChar → cs = ds
  | [], [], _ => rfl
  | [], d :: ds, same => by
    rw [List.flatMap_nil, List.flatMap_cons] at same
    unfold escapeChar at same
    split at same <;> simp at same
  | c :: cs, [], same => by
    rw [List.flatMap_nil, List.flatMap_cons] at same
    unfold escapeChar at same
    split at same <;> simp at same
  | c :: cs, d :: ds, same => by
    rw [List.flatMap_cons, List.flatMap_cons] at same
    obtain ⟨heads, tails⟩ := escapeChar_append_inj same
    rw [heads, flatMap_escapeChar_injective tails]

theorem escape_injective {s t : String} (same : escape s = escape t) : s = t := by
  unfold escape at same
  exact String.toList_inj.1 (flatMap_escapeChar_injective (String.ofList_injective same))

theorem not_mem_escape (s : String) : ':' ∉ (escape s).toList ∧ '*' ∉ (escape s).toList := by
  simp only [escape, String.toList_ofList, List.mem_flatMap, not_exists, not_and]
  exact ⟨fun c _ => (not_mem_escapeChar c).1, fun c _ => (not_mem_escapeChar c).2⟩

theorem not_mem_endpointText (endpoint : Option String) :
    ':' ∉ (endpointText endpoint).toList := by
  cases endpoint with
  | none => decide
  | some endpoint => exact (not_mem_escape endpoint).1

theorem endpointText_injective {a b : Option String} (same : endpointText a = endpointText b) :
    a = b := by
  -- The mark of a default is the one sign that no escaped endpoint holds.
  have star : '*' ∈ (endpointText none).toList := by decide
  cases a with
  | none =>
    cases b with
    | none => rfl
    | some b =>
      rw [same] at star
      exact absurd star (not_mem_escape b).2
  | some a =>
    cases b with
    | none =>
      rw [← same] at star
      exact absurd star (not_mem_escape a).2
    | some b => rw [escape_injective same]

/-! ## Keys -/

theorem toList_text (key : LimitKey) :
    key.text.toList = (escape key.service).toList ++ ':' :: (endpointText key.endpoint).toList := by
  simp [text]

theorem eq_of_escaped_eq {k l : LimitKey}
    (services : (escape k.service).toList = (escape l.service).toList)
    (endpoints : (endpointText k.endpoint).toList = (endpointText l.endpoint).toList) : k = l := by
  have service := escape_injective (String.toList_inj.1 services)
  have endpoint := endpointText_injective (String.toList_inj.1 endpoints)
  cases k
  cases l
  simp only [LimitKey.mk.injEq]
  exact ⟨service, endpoint⟩

theorem text_injective {k l : LimitKey} (same : k.text = l.text) : k = l := by
  have lists := congrArg String.toList same
  rw [toList_text, toList_text] at lists
  -- An escaped service holds no colon, so the first one ends it.
  obtain ⟨services, endpoints⟩ :=
    eq_of_append_cons_eq (not_mem_escape k.service).1 (not_mem_escape l.service).1 lists
  exact eq_of_escaped_eq services endpoints

theorem configKey_injective {k l : LimitKey} {base : String}
    (same : k.configKey base = l.configKey base) : k = l := by
  have lists := congrArg String.toList same
  simp only [configKey, String.toList_append, List.append_assoc, List.append_cancel_left_eq] at lists
  exact text_injective (String.toList_inj.1 lists)

theorem stateKey_injective {k l : LimitKey} {base part part' : String}
    (same : k.stateKey base part = l.stateKey base part') : k = l ∧ part = part' := by
  have lists := congrArg String.toList same
  simp only [stateKey, String.toList_append, toList_text, List.append_assoc,
    List.append_cancel_left_eq, List.cons_append, show ":".toList = [':'] from rfl,
    List.nil_append] at lists
  -- The part may hold colons itself; the two before it still mark where it starts.
  obtain ⟨services, rest⟩ :=
    eq_of_append_cons_eq (not_mem_escape k.service).1 (not_mem_escape l.service).1 lists
  obtain ⟨endpoints, parts⟩ :=
    eq_of_append_cons_eq (not_mem_endpointText k.endpoint) (not_mem_endpointText l.endpoint) rest
  exact ⟨eq_of_escaped_eq services endpoints, String.toList_inj.1 parts⟩

theorem configKey_ne_stateKey (k l : LimitKey) (base part : String) :
    k.configKey base ≠ l.stateKey base part := by
  intro same
  have lists := congrArg String.toList same
  simp only [configKey, stateKey, String.toList_append, List.append_assoc,
    List.append_cancel_left_eq] at lists
  -- Both go on after the base, and the first letters that follow the colon tell them apart.
  have second := congrArg (fun cs => cs[1]?) lists
  simp at second

/-- **Store keys never collide.**  The text of a key tells the service and whether there is an endpoint,
    and which.  Under any base, records have a key each, the parts of all states have a key each, and
    no record is where a part of a state is. -/
theorem store_keys_never_collide :
    (∀ k l : LimitKey, k.text = l.text ↔ k = l) ∧
    ∀ base : String,
      (∀ k l : LimitKey, k.configKey base = l.configKey base ↔ k = l) ∧
      (∀ (k l : LimitKey) (part part' : String),
        k.stateKey base part = l.stateKey base part' ↔ k = l ∧ part = part') ∧
      ∀ (k l : LimitKey) (part : String), k.configKey base ≠ l.stateKey base part := by
  refine ⟨fun k l => ⟨text_injective, congrArg text⟩, fun base => ⟨?_, ?_, ?_⟩⟩
  · intro k l
    exact ⟨configKey_injective, congrArg (configKey · base)⟩
  · intro k l part part'
    constructor
    · exact stateKey_injective
    · rintro ⟨rfl, rfl⟩
      rfl
  · intro k l part
    exact configKey_ne_stateKey k l base part

end Throttle.LimitKey

import Throttle.Proofs.Admission
import Throttle.Record

/-!
# The numbers of a record

The numbers that are read from a record are words, so a limit that is decoded can be published
(`valid_of_decodeLimit`).
-/

namespace Throttle

theorem exists_of_bind_ok {ε α β : Type} {x : Except ε α} {f : α → Except ε β} {result : β}
    (bound : (x >>= f) = .ok result) : ∃ value, x = .ok value ∧ f value = .ok result := by
  cases x with
  | error error => cases bound
  | ok value => exact ⟨value, rfl, bound⟩

theorem Json.Numeral.nonpos_of_negative {numeral : Numeral} {n : Int}
    (held : numeral.value? = some (.negative n)) : n ≤ 0 := by
  have float {x : Option Float} : x.map Number.float ≠ some (.negative n) := by
    cases x <;> simp
  unfold value? at held
  split at held
  · dsimp only at held
    split at held
    · split_ifs at held
      · cases held
      · obtain rfl := Number.negative.inj (Option.some.inj held)
        omega
      · cases held
    · exact absurd held float
  · exact absurd held float

namespace Record

theorem le_of_readWord {value : Json} {n : Int} (read : readWord value = .ok n) :
    n ≤ Word.maxValue := by
  unfold readWord at read
  split at read
  · split at read
    · split_ifs at read
      obtain rfl := Except.ok.inj read
      omega
    · rename_i negative held
      obtain rfl := Except.ok.inj read
      have := Json.Numeral.nonpos_of_negative held
      unfold Word.maxValue
      omega
    · cases read
    · cases read
  · cases read
  · cases read
  · cases read

/-! ## Objects -/

/-- The numbers that have been read so far are not too large for words. -/
structure Fields.Bounded (f : Fields) : Prop where
  maxRequests : ∀ n ∈ f.maxRequests, n ≤ Word.maxValue
  windowMillis : ∀ n ∈ f.windowMillis, n ≤ Word.maxValue

theorem le_of_once {name : String} {present held : Option Int} {value : Json}
    (read : once name present (readWord value) = .ok held) : ∀ n ∈ held, n ≤ Word.maxValue := by
  intro n member
  unfold once at read
  split at read
  · cases read
  · cases found : readWord value with
    | error defect =>
      rw [found] at read
      cases read
    | ok word =>
      rw [found] at read
      obtain rfl := Except.ok.inj read
      obtain rfl := Option.some.inj member
      exact le_of_readWord found

theorem Fields.Bounded.read {f after : Fields} (bounded : f.Bounded) {member : Option String × Json}
    (read : f.read member = .ok after) : after.Bounded := by
  obtain ⟨_ | key, value⟩ := member
  · cases read
  · unfold Fields.read at read
    dsimp only at read
    split_ifs at read with service endpoint algorithm requests window
    · obtain ⟨held, -, rest⟩ := exists_of_bind_ok read
      obtain rfl := Except.ok.inj rest
      exact ⟨bounded.maxRequests, bounded.windowMillis⟩
    · obtain ⟨held, -, rest⟩ := exists_of_bind_ok read
      obtain rfl := Except.ok.inj rest
      exact ⟨bounded.maxRequests, bounded.windowMillis⟩
    · obtain ⟨held, -, rest⟩ := exists_of_bind_ok read
      obtain rfl := Except.ok.inj rest
      exact ⟨bounded.maxRequests, bounded.windowMillis⟩
    · obtain ⟨held, word, rest⟩ := exists_of_bind_ok read
      obtain rfl := Except.ok.inj rest
      exact ⟨le_of_once word, bounded.windowMillis⟩
    · obtain ⟨held, word, rest⟩ := exists_of_bind_ok read
      obtain rfl := Except.ok.inj rest
      exact ⟨bounded.maxRequests, le_of_once word⟩
    · obtain rfl := Except.ok.inj read
      exact bounded

theorem Fields.Bounded.foldlM {after : Fields} :
    ∀ {members : List (Option String × Json)} {f : Fields}, f.Bounded →
      members.foldlM Fields.read f = .ok after → after.Bounded
  | [], f, bounded, read => by
    obtain rfl := Except.ok.inj read
    exact bounded
  | member :: rest, f, bounded, read => by
    rw [List.foldlM_cons] at read
    obtain ⟨next, first, read⟩ := exists_of_bind_ok read
    exact (bounded.read first).foldlM read

/-- The numbers of the record are not too large for words. -/
structure Bounded (r : Record) : Prop where
  maxRequests : r.maxRequests ≤ Word.maxValue
  windowMillis : r.windowMillis ≤ Word.maxValue

theorem eq_some_of_required {α : Type} {name : String} {held : Option α} {value : α}
    (there : required name held = .ok value) : held = some value := by
  cases held with
  | none => cases there
  | some other =>
    obtain rfl := Except.ok.inj there
    rfl

theorem Fields.Bounded.finish {f : Fields} (bounded : f.Bounded) {r : Record}
    (finished : f.finish = .ok r) : r.Bounded := by
  obtain ⟨service, -, finished⟩ := exists_of_bind_ok finished
  obtain ⟨algorithm, -, finished⟩ := exists_of_bind_ok finished
  obtain ⟨maxRequests, requests, finished⟩ := exists_of_bind_ok finished
  obtain ⟨windowMillis, window, finished⟩ := exists_of_bind_ok finished
  obtain rfl := Except.ok.inj finished
  exact ⟨bounded.maxRequests _ (eq_some_of_required requests),
    bounded.windowMillis _ (eq_some_of_required window)⟩

/-! ## Arrays -/

theorem le_of_nextItem {closed : Bool} {items : List Json} {result : Int × List Json}
    (read : nextItem closed readWord items = .ok result) : result.1 ≤ Word.maxValue := by
  cases items with
  | nil => cases read
  | cons item rest =>
    obtain ⟨word, found, read⟩ := exists_of_bind_ok read
    obtain rfl := Except.ok.inj read
    exact le_of_readWord found

theorem bounded_of_ofItems {items : List Json} {closed : Bool} {r : Record}
    (read : ofItems items closed = .ok r) : r.Bounded := by
  -- Whether or not there is something to read for the endpoint, what follows is read alike.
  have rest (service : String) (endpoint : Option String) (items : List Json)
      (read : (do
        let algorithm ← nextItem closed readText items
        let maxRequests ← nextItem closed readWord algorithm.2
        let windowMillis ← nextItem closed readWord maxRequests.2
        if windowMillis.2.isEmpty && closed then
          return ⟨service, endpoint, algorithm.1, maxRequests.1, windowMillis.1⟩
        else throw .malformed : Except Defect Record) = .ok r) : r.Bounded := by
    obtain ⟨algorithm, -, read⟩ := exists_of_bind_ok read
    obtain ⟨maxRequests, requests, read⟩ := exists_of_bind_ok read
    obtain ⟨windowMillis, window, read⟩ := exists_of_bind_ok read
    split_ifs at read
    obtain rfl := Except.ok.inj read
    exact ⟨le_of_nextItem requests, le_of_nextItem window⟩
  obtain ⟨service, -, read⟩ := exists_of_bind_ok read
  dsimp only at read
  split_ifs at read
  · exact rest _ _ _ read
  · obtain ⟨endpoint, -, read⟩ := exists_of_bind_ok read
    exact rest _ _ _ read

/-! ## Records -/

theorem bounded_of_ofJson {value : Json} {r : Record} (read : ofJson value = .ok r) :
    r.Bounded := by
  unfold ofJson at read
  split at read
  · obtain ⟨fields, folded, read⟩ := exists_of_bind_ok read
    split_ifs at read
    refine (Fields.Bounded.foldlM ?_ folded).finish read
    exact ⟨fun _ absent => (nomatch absent), fun _ absent => (nomatch absent)⟩
  · exact bounded_of_ofItems read
  · cases read
  · cases read
  · cases read
  · cases read

theorem bounded_of_read {text : String} {r : Record} (read : Record.read text = .ok r) :
    r.Bounded := by
  unfold Record.read at read
  dsimp only at read
  obtain ⟨record, root, read⟩ := exists_of_bind_ok read
  split_ifs at read
  obtain rfl := Except.ok.inj read
  exact bounded_of_ofJson root

theorem Bounded.valid {r : Record} (bounded : r.Bounded) {limit : Limit}
    (made : r.toLimit = .ok limit) : limit.Valid := by
  unfold toLimit at made
  split at made
  · cases made
  · split_ifs at made with positive
    obtain rfl := Except.ok.inj made
    obtain ⟨requests, window⟩ := bounded
    refine ⟨?_, ?_, ?_, ?_⟩
    · dsimp only
      omega
    · dsimp only
      omega
    · rw [Duration.millis_ofMillis]
      omega
    · rw [Duration.millis_ofMillis]
      omega

/-- A limit that is decoded is as good as one that was checked. -/
theorem valid_of_decodeLimit {text : String} {limit : Limit}
    (decoded : decodeLimit text = .ok limit) : limit.Valid := by
  unfold decodeLimit at decoded
  cases read : Record.read text with
  | error defect =>
    rw [read] at decoded
    cases decoded
  | ok r =>
    rw [read] at decoded
    exact (bounded_of_read read).valid decoded

end Record
end Throttle

import Throttle.Proofs.Admission
import Throttle.Record

/-!
# Records read back

What is written of a record reads back as that record (`read_write`), for all texts and all words, so
that what is published of a limit decodes to the limit again, with its window cut to whole
milliseconds (`decodeLimit_write`).  No other limit does: a record cuts numbers that are too large, and
is refused where one is zero (`toLimit_ofLimit_eq`).  Main statement: `records_hold_checked_limits`.

The text of a record is scanned piece by piece.  `Json.Scans` says which tokens a piece makes whatever
follows it, so that pieces can be put together (`Scans.append`); a number is a piece only with the
sign behind it, which ends it.
-/

namespace Throttle

namespace Json

/-! ## Scanning -/

/-- Whatever follows them, the characters make these tokens. -/
def Scans (cs : List Char) (tokens : List Token) : Prop :=
  ∀ rest, Scan.between.run (cs ++ rest) = tokens ++ Scan.between.run rest

variable {c : Char} {cs ds : List Char} {token : Token} {tokens tokens' : List Token}

theorem Scans.append (first : Scans cs tokens) (second : Scans ds tokens') :
    Scans (cs ++ ds) (tokens ++ tokens') := by
  intro rest
  rw [List.append_assoc, first, second, List.append_assoc]

theorem Scans.scan_eq (scans : Scans cs tokens) : Token.scan cs = tokens := by
  have ended := scans []
  rwa [List.append_nil, show Scan.between.run [] = [] from rfl, List.append_nil] at ended

theorem scans_nil : Scans [] [] := fun _ => rfl

theorem scans_sign (sign : Scan.start c = some ([token], .between)) : Scans [c] [token] := by
  intro rest
  rw [List.singleton_append, Scan.run, Scan.next, sign]

/-! ### Strings -/

theorem hexValue?_hexDigit : ∀ n < 16, Text.hexValue? (hexDigit n) = some n := by decide

theorem pushUnit_control (control : c.toNat < 0x20) (before : List Char) :
    Unescaped.pushUnit ⟨before, none, false⟩ c.toNat = ⟨c :: before, none, false⟩ := by
  -- A control is no half of a surrogate pair.
  rw [Unescaped.pushUnit, if_neg (by omega), if_neg (by omega), Char.ofNat_toNat]
  rfl

theorem run_quotedChar (c : Char) (before rest : List Char) :
    (Scan.text ⟨before, none, false⟩).run (quotedChar c ++ rest) =
      (Scan.text ⟨c :: before, none, false⟩).run rest := by
  unfold quotedChar
  split_ifs with sign backspace tab newline feed carriage control
  · rcases sign with rfl | rfl <;> rfl
  · subst backspace; rfl
  · subst tab; rfl
  · subst newline; rfl
  · subst feed; rfl
  · subst carriage; rfl
  · have zero : Text.hexValue? '0' = some 0 := by decide
    have high := hexValue?_hexDigit (c.toNat / 16) (by omega)
    have low := hexValue?_hexDigit (c.toNat % 16) (by omega)
    have value : c.toNat / 16 * 16 + c.toNat % 16 = c.toNat := Nat.div_add_mod' _ _
    simp [Scan.run, Scan.next, zero, high, low, value, pushUnit_control control]
  · rw [not_or] at sign
    simp [Scan.run, Scan.next, sign, control, Unescaped.push]

theorem run_quotedChars : ∀ cs before rest : List Char,
    (Scan.text ⟨before, none, false⟩).run (cs.flatMap quotedChar ++ rest) =
      (Scan.text ⟨cs.reverse ++ before, none, false⟩).run rest
  | [], _, _ => rfl
  | c :: cs, before, rest => by
    rw [List.flatMap_cons, List.append_assoc, run_quotedChar, run_quotedChars cs,
      List.reverse_cons, List.append_assoc, List.singleton_append]

theorem scans_quoted (text : String) : Scans (quoted text.toList) [.string (some text)] := by
  intro rest
  have opened : Scan.between.run (quoted text.toList ++ rest) =
      (Scan.text ⟨[], none, false⟩).run (text.toList.flatMap quotedChar ++ '\x22' :: rest) := by
    rw [quoted, List.cons_append, List.cons_append, List.append_assoc]
    rfl
  rw [opened, run_quotedChars, List.append_nil]
  simp [Scan.run, Scan.next, Unescaped.text]

/-! ### Numbers -/

/-- The numeral by which an integer is written. -/
def Numeral.ofInt : Int → Numeral
  | .ofNat n => ⟨false, Decimal.digits n, [], none⟩
  | .negSucc n => ⟨true, Decimal.digits (n + 1), [], none⟩

theorem all_digits (n : Nat) : (Decimal.digits n).all Char.isDigit = true :=
  List.all_eq_true.2 fun _ member => Nat.isDigit_of_mem_toDigits (by decide) (by decide) member

theorem exists_digits_succ (n : Nat) :
    ∃ k ds, Decimal.digits (n + 1) = Nat.digitChar k :: ds ∧ k < 10 ∧ k ≠ 0 := by
  induction n using Nat.strongRecOn with
  | ind n ih =>
    by_cases small : n + 1 < 10
    · exact ⟨n + 1, [], Nat.toDigits_of_lt_base small, small, by omega⟩
    · -- The last digit is behind those of the tenth part, which is not zero.
      obtain ⟨k, ds, eq, leading⟩ := ih ((n + 1) / 10 - 1) (by omega)
      rw [Nat.sub_add_cancel (by omega)] at eq
      refine ⟨k, ds ++ [Nat.digitChar ((n + 1) % 10)], ?_, leading⟩
      rw [Decimal.digits, Nat.toDigits_of_base_le (by decide) (by omega), ← Decimal.digits, eq,
        List.cons_append]

theorem run_whole (negative : Bool) : ∀ {ds : List Char}, ds.all Char.isDigit = true →
    ∀ whole rest : List Char, (Scan.number ⟨negative, whole, [], none⟩ .whole).run (ds ++ rest) =
      (Scan.number ⟨negative, whole ++ ds, [], none⟩ .whole).run rest
  | [], _, whole, _ => by rw [List.append_nil, List.nil_append]
  | d :: ds, digits, whole, rest => by
    rw [List.all_cons, Bool.and_eq_true] at digits
    have longer : Scan.extend ⟨negative, whole, [], none⟩ d .whole =
        some (⟨negative, whole ++ [d], [], none⟩, .whole) := if_pos digits.1
    rw [List.cons_append, Scan.run, Scan.next, longer]
    dsimp only
    rw [List.nil_append, run_whole negative digits.2, List.append_assoc, List.singleton_append]

/-- The sign may stand behind a number. -/
def Closes (c : Char) (token : Token) : Prop :=
  c = ',' ∧ token = .comma ∨ c = '\x7d' ∧ token = .endObject

theorem run_closed (closes : Closes c token) (negative : Bool) (whole rest : List Char)
    {part : NumberPart} (complete : part = .zero ∨ part = .whole) :
    (Scan.number ⟨negative, whole, [], none⟩ part).run (c :: rest) =
      .number ⟨negative, whole, [], none⟩ :: token :: Scan.between.run rest := by
  rcases closes with ⟨rfl, rfl⟩ | ⟨rfl, rfl⟩ <;> rcases complete with rfl | rfl <;> rfl

/-- From a place at which a digit starts a number, the scanner reads all of it. -/
theorem run_digits (closes : Closes c token) (negative : Bool) {s : Scan}
    (starts : ∀ k < 10, s.next (Nat.digitChar k) =
      some ([], .number ⟨negative, [Nat.digitChar k], [], none⟩ (if k = 0 then .zero else .whole)))
    (n : Nat) (rest : List Char) :
    s.run (Decimal.digits n ++ c :: rest) =
      .number ⟨negative, Decimal.digits n, [], none⟩ :: token :: Scan.between.run rest := by
  cases n with
  | zero =>
    change s.run (Nat.digitChar 0 :: c :: rest) = _
    rw [Scan.run, starts 0 (by decide)]
    exact run_closed closes negative _ rest (.inl rfl)
  | succ n =>
    obtain ⟨k, ds, eq, digit, nonzero⟩ := exists_digits_succ n
    have digits := all_digits (n + 1)
    rw [eq, List.all_cons, Bool.and_eq_true] at digits
    rw [eq, List.cons_append, Scan.run, starts k digit, if_neg nonzero]
    dsimp only
    rw [List.nil_append, run_whole negative digits.2]
    exact run_closed closes negative _ rest (.inr rfl)

theorem scans_int (closes : Closes c token) (n : Int) :
    Scans (Decimal.chars n ++ [c]) [.number (.ofInt n), token] := by
  intro rest
  rw [List.append_assoc, List.singleton_append]
  cases n with
  | ofNat n => exact run_digits (s := .between) closes false (by decide) n rest
  | negSucc n =>
    exact run_digits (s := .number ⟨true, [], [], none⟩ .sign) closes true (by decide) (n + 1) rest

/-! ## The value of a numeral -/

theorem le_ofDigitChars : ∀ (cs : List Char) (n : Nat), n ≤ Nat.ofDigitChars 10 cs n
  | [], n => Nat.le_refl n
  | c :: cs, n => by
    rw [Nat.ofDigitChars_cons]
    exact Nat.le_trans (by omega) (le_ofDigitChars cs _)

/-- No digit is left over where the number fits the bound. -/
theorem significand_eq : ∀ (cs : List Char) (n : Nat),
    Nat.ofDigitChars 10 cs n ≤ Numeral.significandBound →
      Numeral.significand n cs = (Nat.ofDigitChars 10 cs n, 0)
  | [], _, _ => rfl
  | c :: cs, n, bounded => by
    have next : n * 10 + Numeral.digitValue c = 10 * n + (c.toNat - '0'.toNat) := by
      rw [Numeral.digitValue, Nat.mul_comm]
    rw [Nat.ofDigitChars_cons, ← next] at bounded ⊢
    have fits := Nat.le_trans (le_ofDigitChars cs _) bounded
    rw [Numeral.significand, if_neg (by omega), significand_eq cs _ bounded]

theorem significand_digits {n : Nat} (bounded : n ≤ Numeral.significandBound) :
    Numeral.significand 0 (Decimal.digits n) = (n, 0) := by
  have same : Nat.ofDigitChars 10 (Decimal.digits n) 0 = n := Nat.ofDigitChars_ten_toDigits
  rw [significand_eq _ _ (by rwa [same]), same]

end Json

namespace Record

theorem readWord_ofInt {n : Int} (word : Word.InRange n) :
    readWord (.number (.ofInt n)) = .ok n := by
  unfold Word.InRange Word.minValue Word.maxValue at word
  cases n with
  | ofNat n =>
    rw [Int.ofNat_eq_natCast] at word
    have whole := Json.significand_digits (n := n) (by unfold Json.Numeral.significandBound; omega)
    have value : (Json.Numeral.ofInt (.ofNat n)).value? = some (.natural n) := by
      simp [Json.Numeral.value?, Json.Numeral.ofInt, whole]
    simp only [readWord, value]
    exact if_neg (by unfold Word.maxValue; omega)
  | negSucc n =>
    rw [Int.negSucc_eq] at word
    have whole := Json.significand_digits (n := n + 1)
      (by unfold Json.Numeral.significandBound; omega)
    have value : (Json.Numeral.ofInt (.negSucc n)).value? = some (.negative (.negSucc n)) := by
      simp [Json.Numeral.value?, Json.Numeral.ofInt, whole, Int.negSucc_eq]
      omega
    simp only [readWord, value]

/-! ## The tokens and the tree of a record -/

def textTokens (name text : String) : List Json.Token :=
  [.string (some name), .colon, .string (some text), .comma]

def numberTokens (name : String) (n : Int) (closing : Json.Token) : List Json.Token :=
  [.string (some name), .colon, .number (.ofInt n), closing]

def tokens (r : Record) : List Json.Token :=
  [.beginObject] ++ textTokens "service_name" r.service ++
    r.endpoint.elim [] (textTokens "endpoint") ++ textTokens "algorithm" r.algorithm ++
    numberTokens "max_requests" r.maxRequests .comma ++
    numberTokens "time_window_ms" r.windowMillis .endObject

theorem scans_fieldName (name : String) :
    Json.Scans (fieldName name) [.string (some name), .colon] :=
  (Json.scans_quoted name).append (Json.scans_sign rfl)

theorem scans_textField (name text : String) :
    Json.Scans (fieldName name ++ Json.quoted text.toList ++ [',']) (textTokens name text) :=
  ((scans_fieldName name).append (Json.scans_quoted text)).append (Json.scans_sign rfl)

theorem scans_endpointField (endpoint : Option String) :
    Json.Scans (endpointField endpoint) (endpoint.elim [] (textTokens "endpoint")) := by
  cases endpoint with
  | none => exact Json.scans_nil
  | some endpoint => exact scans_textField "endpoint" endpoint

theorem scans_numberField {c : Char} {closing : Json.Token} (closes : Json.Closes c closing)
    (name : String) (n : Int) :
    Json.Scans (fieldName name ++ (Decimal.chars n ++ [c])) (numberTokens name n closing) :=
  (scans_fieldName name).append (Json.scans_int closes n)

theorem scans_chars (r : Record) : Json.Scans r.chars r.tokens := by
  have opening : Json.Scans ['\x7b'] [.beginObject] := Json.scans_sign rfl
  have requests := scans_numberField (.inl ⟨rfl, rfl⟩) "max_requests" r.maxRequests
  have window := scans_numberField (.inr ⟨rfl, rfl⟩) "time_window_ms" r.windowMillis
  have fields := ((((opening.append (scans_textField "service_name" r.service)).append
    (scans_endpointField r.endpoint)).append (scans_textField "algorithm" r.algorithm)).append
    requests).append window
  simpa only [chars, tokens, List.append_assoc] using fields

def members (r : Record) : List (Option String × Json) :=
  [(some "service_name", .string (some r.service))] ++
    r.endpoint.elim [] (fun endpoint => [(some "endpoint", .string (some endpoint))]) ++
    [(some "algorithm", .string (some r.algorithm)),
      (some "max_requests", .number (.ofInt r.maxRequests)),
      (some "time_window_ms", .number (.ofInt r.windowMillis))]

theorem build_tokens (r : Record) :
    Json.build .value [] r.tokens = (.object r.members true, []) := by
  unfold tokens members
  cases r.endpoint <;> rfl

theorem ofText_write (r : Record) : Json.ofText r.write = (.object r.members true, true) := by
  rw [Json.ofText, write, String.toList_ofList, r.scans_chars.scan_eq, build_tokens]
  rfl

/-! ## Reading back -/

theorem foldlM_members {r : Record} (requests : Word.InRange r.maxRequests)
    (window : Word.InRange r.windowMillis) :
    r.members.foldlM Fields.read {} = .ok ⟨some r.service, r.endpoint.map some, some r.algorithm,
      some r.maxRequests, some r.windowMillis⟩ := by
  have requests := readWord_ofInt requests
  have window := readWord_ofInt window
  unfold members
  cases r.endpoint <;>
    simp [Fields.read, once, readText, readOptionalText, requests, window, Except.map, bind,
      Except.bind, pure, Except.pure]

/-- A record reads back as itself. -/
theorem read_write {r : Record} (requests : Word.InRange r.maxRequests)
    (window : Word.InRange r.windowMillis) : read r.write = .ok r := by
  have finished : Fields.finish ⟨some r.service, r.endpoint.map some, some r.algorithm,
      some r.maxRequests, some r.windowMillis⟩ = .ok r := by
    cases r with
    | mk service endpoint algorithm maxRequests windowMillis => cases endpoint <;> rfl
  have tree : ofJson (.object r.members true) = .ok r := by
    rw [ofJson, foldlM_members requests window]
    exact finished
  rw [read, ofText_write]
  dsimp only
  rw [tree]
  rfl

end Record

/-- The limit with its window cut to whole milliseconds. -/
def Limit.inMillis (l : Limit) : Limit := { l with window := .ofMillis l.window.millis }

namespace Record

/-- What a limit comes to in its record: nothing where a number of it is zero, and otherwise the limit
    with its numbers cut to the largest word. -/
theorem toLimit_ofLimit_eq (limit : Limit) :
    (ofLimit limit).toLimit =
      if limit.maxRequests = 0 ∨ limit.window.millis = 0 then .error (.nonPositiveLimits limit.service)
      else .ok ⟨limit.service, limit.endpoint, limit.algorithm,
        min limit.maxRequests Word.maxValue.toNat,
        .ofMillis (min limit.window.millis Word.maxValue.toNat)⟩ := by
  have cut (n : Nat) : (Word.saturate n).toNat = min n Word.maxValue.toNat := by
    unfold Word.saturate Word.minValue Word.maxValue
    omega
  have positive (n : Nat) : Word.saturate n ≤ 0 ↔ n = 0 := by
    unfold Word.saturate Word.minValue Word.maxValue
    omega
  unfold toLimit ofLimit Limit.capacity Limit.windowMillis
  dsimp only
  rw [Algorithm.ofName?_name]
  simp only [cut, positive]

theorem toLimit_ofLimit {limit : Limit} (valid : limit.Valid) :
    (ofLimit limit).toLimit = .ok limit.inMillis := by
  obtain ⟨requests, requests_le, window, window_le⟩ := valid
  rw [toLimit_ofLimit_eq, if_neg (by omega), Nat.min_eq_left (by omega), Nat.min_eq_left (by omega)]
  rfl

/-- A limit is lost in its record just where it must not be published. -/
theorem toLimit_ofLimit_eq_ok_iff {limit : Limit} :
    (ofLimit limit).toLimit = .ok limit.inMillis ↔ limit.Valid := by
  refine ⟨fun kept => ?_, toLimit_ofLimit⟩
  rw [toLimit_ofLimit_eq] at kept
  split_ifs at kept with zero
  have same := Except.ok.inj kept
  have requests : min limit.maxRequests Word.maxValue.toNat = limit.maxRequests :=
    congrArg Limit.maxRequests same
  have window : min limit.window.millis Word.maxValue.toNat = limit.window.millis := by
    simpa [Limit.inMillis] using congrArg (fun l : Limit => l.window.millis) same
  unfold Word.maxValue at requests window
  exact ⟨by omega, by unfold Word.maxValue; omega, by omega, by unfold Word.maxValue; omega⟩

theorem decodeLimit_write_eq (limit : Limit) :
    decodeLimit (ofLimit limit).write = (ofLimit limit).toLimit := by
  rw [decodeLimit, read_write (Word.inRange_saturate _) (Word.inRange_saturate _)]

/-- What is published of a limit decodes to the limit. -/
theorem decodeLimit_write {limit : Limit} (valid : limit.Valid) :
    decodeLimit (ofLimit limit).write = .ok limit.inMillis := by
  rw [decodeLimit_write_eq]
  exact toLimit_ofLimit valid

/-- **Records round-trip, and the check accepts just the limits that they can hold.**  A record of any
    texts and any words reads back as itself.  A limit that names a service passes its check iff its
    record decodes to the limit, with the window cut to whole milliseconds. -/
theorem records_hold_checked_limits :
    (∀ r : Record, Word.InRange r.maxRequests → Word.InRange r.windowMillis →
      read r.write = .ok r) ∧
    ∀ limit : Limit, limit.service ≠ "" →
      (limit.check = .ok () ↔ decodeLimit (ofLimit limit).write = .ok limit.inMillis) := by
  refine ⟨fun r requests window => read_write requests window, fun limit named => ?_⟩
  rw [limit.check_eq_ok_iff, decodeLimit_write_eq, toLimit_ofLimit_eq_ok_iff]
  exact and_iff_right named

/-- A record of signs that are escaped, with a number at either end of the words, and a limit that is
    lost as it allows one request more than a word can say. -/
theorem records_hold_checked_limits_at_ends :
    let r : Record := ⟨"a\"\\\n\x01é", some "", "😀", Word.minValue, Word.maxValue⟩
    let limit : Limit := ⟨"search", some "*", .tokenBucket, 9223372036854775807, ⟨1500000⟩⟩
    let beyond : Limit := { limit with maxRequests := 9223372036854775808 }
    (Word.InRange r.maxRequests ∧ Word.InRange r.windowMillis ∧ read r.write = .ok r) ∧
      (limit.service ≠ "" ∧
        decodeLimit (ofLimit limit).write = .ok { limit with window := .ofMillis 1 }) ∧
      beyond.service ≠ "" ∧ decodeLimit (ofLimit beyond).write ≠ .ok beyond.inMillis := by
  intro r limit beyond
  have requests : Word.InRange r.maxRequests := by decide
  have window : Word.InRange r.windowMillis := by decide
  have named : limit.service ≠ "" := by decide
  have cut : limit.inMillis = { limit with window := .ofMillis 1 } := by decide
  have accepted : limit.check = .ok () :=
    limit.check_eq_ok_iff.mpr ⟨named, by decide, by decide, by decide, by decide⟩
  have refused : beyond.check ≠ .ok () := by
    intro accepted
    exact absurd (beyond.check_eq_ok_iff.mp accepted).2.requests_le (by decide)
  refine ⟨⟨requests, window, records_hold_checked_limits.1 r requests window⟩, ⟨named, ?_⟩, named, ?_⟩
  · rw [← cut]
    exact (records_hold_checked_limits.2 limit named).mp accepted
  · intro kept
    exact refused ((records_hold_checked_limits.2 beyond named).mpr kept)

end Record

end Throttle

import Throttle.Proofs.RedisDialogue

/-!
# Reading commands back

A command tells the call it was sent for.  `callOf?` is a reader of commands: it finds the call by the
first word, or by the script whose hash is the second, and the arguments in the words that follow.  So the
scripts have to have distinct hashes.  A duration is written in whole milliseconds, and for a call that adds
to an integer a zero stands for no lifetime, so the reader is right for the calls whose durations are whole
milliseconds from one on and fit a word (`Call.Exact`).

Main statement: `commands_tell_calls`, for the dialogue with any server.
-/

namespace Throttle

/-- The duration is a whole number of milliseconds, at least one, and fits a word. -/
def Duration.Exact (d : Duration) : Prop :=
  d = .ofMillis d.millis ∧ 1 ≤ d.millis ∧ (d.millis : Int) ≤ Word.maxValue

instance (d : Duration) : Decidable d.Exact := inferInstanceAs (Decidable (_ ∧ _ ∧ _))

def Call.durations : Call → List Duration
  | .set _ _ lifetime | .incr _ _ lifetime => lifetime.toList
  | .expire _ lifetime => [lifetime]
  | .recordInWindow _ _ window _ => [window]
  | .askBucket bucket _ => [bucket.window]
  | .get _ | .decr _ | .zadd _ _ _ | .zrem _ _ _ | .zcount _ _ _ => []

def Call.Exact (call : Call) : Prop := ∀ d ∈ call.durations, d.Exact

instance (call : Call) : Decidable call.Exact :=
  inferInstanceAs (Decidable (∀ d ∈ call.durations, d.Exact))

namespace Redis

variable {hash : Script → String}

/-! ## Words -/

def integerOf? (word : String) : Option Int := Decimal.intOfChars? word.toList

def durationOf? (word : String) : Option Duration :=
  (integerOf? word).map fun n => .ofMillis n.toNat

/-- No milliseconds are no lifetime. -/
def lifetimeOf? (word : String) : Option (Option Duration) :=
  (integerOf? word).map fun n => if n = 0 then none else some (.ofMillis n.toNat)

def boundOf? (word : String) : Option Int :=
  if word = "-inf" then some Word.minValue
  else if word = "+inf" then some Word.maxValue
  else integerOf? word

def kindOf? (word : String) : Option BucketKind :=
  [BucketKind.tokens, BucketKind.level].find? (·.name = word)

def scriptOfHash? (hash : Script → String) (word : String) : Option Script :=
  [Script.incr, Script.window, Script.bucket].find? (hash · = word)

@[simp] theorem integerOf?_write (n : Int) : integerOf? (Decimal.write n) = some n := by
  rw [integerOf?, Decimal.write, String.toList_ofList, Decimal.intOfChars?_chars]

theorem write_ne_of_integerOf?_eq_none {word : String} (unread : integerOf? word = none) (n : Int) :
    Decimal.write n ≠ word := by
  rintro rfl
  rw [integerOf?_write] at unread
  cases unread

@[simp] theorem boundOf?_scoreBound (score : Int) : boundOf? (scoreBound score) = some score := by
  unfold scoreBound
  split
  · rename_i lowest
    rw [boundOf?, if_pos rfl, lowest]
  · split
    · rename_i greatest
      rw [boundOf?, if_neg (by decide), if_pos rfl, greatest]
    · rw [boundOf?, if_neg (write_ne_of_integerOf?_eq_none rfl score),
        if_neg (write_ne_of_integerOf?_eq_none rfl score), integerOf?_write]

@[simp] theorem kindOf?_name (kind : BucketKind) : kindOf? kind.name = some kind := by
  cases kind <;> rfl

theorem scriptOfHash?_hash (distinct : Function.Injective hash) (script : Script) :
    scriptOfHash? hash (hash script) = some script := by
  cases script <;> simp [scriptOfHash?, List.find?, distinct.eq_iff]

/-! ## Durations -/

section Durations

variable {d : Duration}

theorem inRange_millis_of_exact (exact : d.Exact) : Word.InRange d.millis :=
  Word.inRange_of_nonneg (Int.natCast_nonneg _) exact.2.2

theorem signedMillis_of_exact (exact : d.Exact) : signedMillis d = d.millis :=
  Word.wrap_of_inRange (inRange_millis_of_exact exact)

theorem unsignedMillis_of_exact (exact : d.Exact) : (unsignedMillis d : Int) = d.millis := by
  obtain ⟨-, -, bounded⟩ := exact
  unfold Word.maxValue at bounded
  unfold unsignedMillis Word.modulus
  omega

theorem windowMillis_of_exact {b : Bucket} (exact : b.window.Exact) :
    b.windowMillis = b.window.millis :=
  Word.saturate_of_inRange (inRange_millis_of_exact exact)

theorem durationOf?_write_millis (exact : d.Exact) :
    durationOf? (Decimal.write d.millis) = some d := by
  rw [durationOf?, integerOf?_write, Option.map_some, Int.toNat_natCast, ← exact.1]

theorem lifetimeOf?_write_lifetime {lifetime : Option Duration} (exact : ∀ d ∈ lifetime, d.Exact) :
    lifetimeOf? (Decimal.write ((lifetime.map signedMillis).getD 0)) = some lifetime := by
  rw [lifetimeOf?, integerOf?_write, Option.map_some]
  cases lifetime with
  | none => rfl
  | some d =>
    have exact := exact d rfl
    -- Without this, the lifetime would be taken for none.
    have positive : (d.millis : Int) ≠ 0 :=
      Int.natCast_ne_zero.mpr (Nat.one_le_iff_ne_zero.mp exact.2.1)
    rw [Option.map_some, Option.getD_some, signedMillis_of_exact exact, if_neg positive,
      Int.toNat_natCast, ← exact.1]

end Durations

/-! ## Commands -/

/-- The call that a script was run for, by the words after its name. -/
def scriptCall? : Script → List String → Option Call
  | .incr, ["1", key, delta, millis] => do
    return .incr key (← integerOf? delta) (← lifetimeOf? millis)
  | .window, ["1", key, now, millis, member] => do
    return .recordInWindow key (← integerOf? now) (← durationOf? millis) member
  | .bucket, ["2", contentKey, stampKey, now, capacity, millis, kind] => do
    return .askBucket ⟨← kindOf? kind, contentKey, stampKey, ← integerOf? capacity,
      ← durationOf? millis⟩ (← integerOf? now)
  | _, _ => none

/-- The call that a command was sent for. -/
def callOf? (hash : Script → String) : List String → Option Call
  | ["GET", key] => some (.get key)
  | ["SET", key, value] => some (.set key value none)
  | ["PSETEX", key, millis, value] => do
    return .set key value (some (← durationOf? millis))
  | ["DECRBY", key, "1"] => some (.decr key)
  | ["ZADD", key, score, member] => do
    return .zadd key (← integerOf? score) member
  | ["ZREMRANGEBYSCORE", key, min, max] => do
    return .zrem key (← boundOf? min) (← boundOf? max)
  | ["ZCOUNT", key, min, max] => do
    return .zcount key (← boundOf? min) (← boundOf? max)
  | ["PEXPIRE", key, millis] => do
    return .expire key (← durationOf? millis)
  | "EVALSHA" :: name :: rest => (scriptOfHash? hash name).bind (scriptCall? · rest)
  | _ => none

@[simp] theorem write_one : Decimal.write 1 = "1" := rfl

@[simp] theorem write_two : Decimal.write 2 = "2" := rfl

theorem callOf?_scriptWords (distinct : Function.Injective hash) (script : Script)
    (keys arguments : List String) : callOf? hash (scriptWords hash script keys arguments) =
      scriptCall? script (Decimal.write keys.length :: (keys ++ arguments)) := by
  simp [callOf?, scriptWords, scriptOfHash?_hash distinct]

/-- A call is read back from its command with all its arguments. -/
theorem callOf?_words (distinct : Function.Injective hash) {call : Call} (exact : call.Exact) :
    callOf? hash (words hash call) = some call := by
  cases call with
  | get key => rfl
  | set key value lifetime =>
    cases lifetime with
    | none => rfl
    | some lifetime =>
      have exact : lifetime.Exact := exact lifetime List.mem_cons_self
      simp [callOf?, words, unsignedMillis_of_exact exact, durationOf?_write_millis exact]
  | incr key delta lifetime =>
    have exact : ∀ d ∈ lifetime, d.Exact := fun d member => exact d (Option.mem_toList.mpr member)
    rw [words, callOf?_scriptWords distinct]
    simp [scriptCall?, lifetimeOf?_write_lifetime exact]
  | decr key => rfl
  | zadd key score member => simp [callOf?, words]
  | zrem key min max => simp [callOf?, words]
  | zcount key min max => simp [callOf?, words]
  | expire key lifetime =>
    have exact : lifetime.Exact := exact lifetime List.mem_cons_self
    simp [callOf?, words, signedMillis_of_exact exact, durationOf?_write_millis exact]
  | recordInWindow key now window member =>
    have exact : window.Exact := exact window List.mem_cons_self
    rw [words, callOf?_scriptWords distinct]
    simp [scriptCall?, signedMillis_of_exact exact, durationOf?_write_millis exact]
  | askBucket bucket now =>
    have exact : bucket.window.Exact := exact bucket.window List.mem_cons_self
    rw [words, callOf?_scriptWords distinct]
    simp [scriptCall?, windowMillis_of_exact exact, durationOf?_write_millis exact]

theorem eq_of_words_eq (distinct : Function.Injective hash) {call other : Call} (exact : call.Exact)
    (exact' : other.Exact) (same : words hash call = words hash other) : call = other := by
  apply Option.some.inj
  rw [← callOf?_words distinct exact, same, callOf?_words distinct exact']

/-! ## Dialogues -/

theorem callOf?_loadWords (hash : Script → String) (script : Script) :
    callOf? hash (loadWords script) = none := rfl

section Sends

variable {call : Call} {talk : List Exchange}

/-- A call is one command, as long as the server does not ask for a script. -/
theorem Sends.commands_eq (sends : Sends hash call talk)
    (unasked : ∀ e ∈ talk, ∀ reply ∈ e.reply, reply.asksForScript = false) :
    talk.map Exchange.command = [words hash call] := by
  cases sends with
  | once kept => rfl
  | refused runs asks refuses | repeated runs asks takes =>
    rw [unasked _ List.mem_cons_self _ rfl] at asks
    cases asks

theorem Sends.command_of_mem (sends : Sends hash call talk) {e : Exchange} (member : e ∈ talk) :
    e.command = words hash call ∨ ∃ script, e.command = loadWords script := by
  cases sends with
  | once kept =>
    obtain rfl := List.mem_singleton.mp member
    exact .inl rfl
  | refused runs asks refuses =>
    simp only [List.mem_cons, List.not_mem_nil, or_false] at member
    rcases member with rfl | rfl
    · exact .inl rfl
    · exact .inr ⟨_, rfl⟩
  | repeated runs asks takes =>
    simp only [List.mem_cons, List.not_mem_nil, or_false] at member
    rcases member with rfl | rfl | rfl
    · exact .inl rfl
    · exact .inr ⟨_, rfl⟩
    · exact .inl rfl

end Sends

/-- **Commands tell their calls.**  Whatever a server replies, a call is one command, except that the
    server is given the script of the call where it asks for that, and then the command again.  If the
    hashes of the scripts are distinct, and the durations of the call are whole milliseconds within words,
    the call is read back from its command and from nothing else that is sent, and no other such call is
    put in the same words. -/
theorem commands_tell_calls {σ : Type} {hash : Script → String} (distinct : Function.Injective hash)
    (server : Server σ) (call : Call) (exact : call.Exact) (s : σ) :
    ∃ after talk, client hash server.noted call (s, []) =
        (received call (lastReply talk), after, talk) ∧ Sends hash call talk ∧
      ((∀ e ∈ talk, ∀ reply ∈ e.reply, reply.asksForScript = false) →
        talk.map Exchange.command = [words hash call]) ∧
      callOf? hash (words hash call) = some call ∧
      (∀ e ∈ talk, ∀ other, callOf? hash e.command = some other → other = call) ∧
      ∀ other : Call, other.Exact → words hash other = words hash call → other = call := by
  have reads := callOf?_words distinct exact
  obtain ⟨after, talk, sends, answered⟩ := exists_client_eq server call s []
  refine ⟨after, talk, answered, sends, sends.commands_eq, reads, fun e member other told => ?_,
    fun other exact' same => eq_of_words_eq distinct exact' exact same⟩
  rcases sends.command_of_mem member with own | ⟨script, loads⟩
  · rw [own, reads] at told
    exact (Option.some.inj told).symm
  · rw [loads, callOf?_loadWords] at told
    cases told

/-- A bucket of half a day under the smallest capacity, on a server that has to be given the script.  The
    hashes are the SHA-1 digests of the scripts' texts. -/
theorem commands_tell_calls_bucket :
    let hash : Script → String
      | .incr => "47bacb2797f0c93df6038db254348af9da590496"
      | .window => "42faf2f23a1e35e78e5124e649aa762decb46ced"
      | .bucket => "2e33ca54fb2a2c673b3c47b190e5bbec995cac01"
    let call : Call := .askBucket ⟨.tokens, "tokens", "1", Word.minValue, .ofSecs 43200⟩ (-1)
    let command := ["EVALSHA", "2e33ca54fb2a2c673b3c47b190e5bbec995cac01", "2", "tokens", "1", "-1",
      "-9223372036854775808", "43200000", "tokens"]
    let start : Transcript :=
      ⟨[some (.error "NOSCRIPT"), some (.array [.integer 1, .integer 7])], []⟩
    Function.Injective hash ∧ call.Exact ∧ words hash call = command ∧
      (∃ after talk, client hash Transcript.server.noted call (start, []) =
          (.ok ⟨true, 7⟩, after, talk) ∧ after.sent = [command, command] ∧ talk.length = 3 ∧
        ∀ e ∈ talk, ∀ other, callOf? hash e.command = some other → other = call) ∧
      ∀ other : Call, other.Exact → words hash other = words hash call → other = call := by
  intro hash call command start
  have distinct : Function.Injective hash := by
    intro first second same
    cases first <;> cases second <;> simp [hash] at same <;> rfl
  have exact : call.Exact := by decide
  obtain ⟨after, talk, answered, -, -, -, told, unique⟩ :=
    commands_tell_calls distinct Transcript.server call exact start
  have length : (client hash Transcript.server.noted call (start, [])).2.2.length = 3 := rfl
  have sent : (client hash Transcript.server.noted call (start, [])).2.1.sent = [command, command] :=
    rfl
  have admitted : (client hash Transcript.server.noted call (start, [])).1 = .ok ⟨true, 7⟩ := rfl
  rw [answered] at length sent admitted
  refine ⟨distinct, exact, rfl, ⟨after, talk, ?_, sent, length, told⟩, unique⟩
  rw [answered, ← admitted]

end Redis

end Throttle

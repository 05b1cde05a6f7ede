import Throttle.Proofs.RollingLog

/-!
# Logs with the same scores

The members of a log are named by tickets, which say nothing about a request.  Logs with the same
scores are `Alike`, whatever their members are, and two requests that are made at one time under new
tickets are answered the same by them and leave them alike (`Session.alike_log`).
-/

namespace Throttle

namespace Slot

def members (s : Slot) : List String :=
  match s.value with
  | some (.sorted members) => members.keys
  | _ => []

/-- The slots are the same, or two sorted sets with the same scores. -/
def Alike (a b : Slot) : Prop :=
  a = b ∨ ∃ members members' deadline, a = ⟨some (.sorted members), deadline⟩ ∧
    b = ⟨some (.sorted members'), deadline⟩ ∧ members.values.Perm members'.values

theorem Alike.symm {a b : Slot} (alike : a.Alike b) : b.Alike a := by
  rcases alike with rfl | ⟨members, members', deadline, left, right, perm⟩
  · exact .inl rfl
  · exact .inr ⟨members', members, deadline, right, left, perm.symm⟩

theorem Alike.aged {a b : Slot} (alike : a.Alike b) (now : Int) :
    (a.aged now).Alike (b.aged now) := by
  rcases alike with rfl | ⟨members, members', deadline, rfl, rfl, perm⟩
  · exact .inl rfl
  · have same : live now ⟨some (.sorted members), deadline⟩ =
        live now ⟨some (.sorted members'), deadline⟩ := rfl
    unfold Slot.aged
    rw [same]
    split
    · exact .inr ⟨members, members', deadline, rfl, rfl, perm⟩
    · exact .inl rfl

theorem members_aged (now : Int) (s : Slot) : (s.aged now).members ⊆ s.members := by
  unfold aged
  split
  · exact List.Subset.refl _
  · exact List.nil_subset _

theorem keys_of_sortedSet {key : String} {s : Slot} {members : Table Int}
    (held : Memory.sortedSet key s = .ok members) : members.keys ⊆ s.members := by
  unfold Memory.sortedSet at held
  unfold Slot.members
  split at held
  · obtain rfl := Except.ok.inj held
    exact List.nil_subset _
  · rename_i found
    obtain rfl := Except.ok.inj held
    rw [found]
    exact List.Subset.refl _
  · cases held

theorem Alike.sortedSet {a b : Slot} (alike : a.Alike b) (key : String) :
    (∃ error, Memory.sortedSet key a = .error error ∧ a = b) ∨
      ∃ members members', Memory.sortedSet key a = .ok members ∧
        Memory.sortedSet key b = .ok members' ∧ members.values.Perm members'.values := by
  rcases alike with rfl | ⟨members, members', deadline, rfl, rfl, perm⟩
  · cases held : Memory.sortedSet key a with
    | error error => exact .inl ⟨error, rfl, rfl⟩
    | ok members => exact .inr ⟨members, members, rfl, rfl, .refl _⟩
  · exact .inr ⟨members, members', rfl, rfl, perm⟩

end Slot

namespace Memory

variable {clock : Int} {key : String} {now : Int} {window : Duration} {member member' : String}
  {a b : Slot} {members members' : Table Int}

theorem perm_values_insert (now : Int) (perm : members.values.Perm members'.values)
    (fresh : member ∉ members.keys) (fresh' : member' ∉ members'.keys) (p : Int → Bool) :
    ((members.insert member now).filter fun _ score => p score).values.Perm
      ((members'.insert member' now).filter fun _ score => p score).values := by
  -- New members add their score to the others, and filtering respects permutations.
  rw [Table.values_filter, Table.values_filter, Table.values_insert fresh,
    Table.values_insert fresh']
  exact (perm.cons now).filter p

theorem size_eq_of_perm (perm : members.values.Perm members'.values) :
    members.size = members'.size := by
  rw [← Table.length_values, ← Table.length_values, perm.length_eq]

theorem count_eq_of_perm (perm : members.values.Perm members'.values) (p : Int → Bool) :
    (members.count fun _ score => p score) = members'.count fun _ score => p score := by
  apply size_eq_of_perm
  rw [Table.values_filter, Table.values_filter]
  exact perm.filter p

theorem alike_logRequest (alike : a.Alike b) (fresh : member ∉ a.members)
    (fresh' : member' ∉ b.members) :
    (logRequest clock key now window member a).1 = (logRequest clock key now window member' b).1 ∧
      (logRequest clock key now window member a).2.Alike
        (logRequest clock key now window member' b).2 := by
  obtain ⟨error, held, rfl⟩ | ⟨members, members', held, held', perm⟩ := alike.sortedSet key
  · unfold logRequest
    rw [held]
    exact ⟨rfl, .inl rfl⟩
  · have kept := perm_values_insert now perm (fun old => fresh (Slot.keys_of_sortedSet held old))
      (fun old => fresh' (Slot.keys_of_sortedSet held' old))
      fun score => decide (now - window.wrappedMillis ≤ score)
    unfold logRequest
    rw [held, held']
    exact ⟨congrArg Except.ok (size_eq_of_perm kept), .inr ⟨_, _, _, rfl, rfl, kept⟩⟩

theorem alike_logInSteps (alike : a.Alike b) (fresh : member ∉ a.members)
    (fresh' : member' ∉ b.members) :
    (logInSteps clock key now window member a).1 = (logInSteps clock key now window member' b).1 ∧
      (logInSteps clock key now window member a).2.Alike
        (logInSteps clock key now window member' b).2 := by
  obtain ⟨error, held, rfl⟩ | ⟨members, members', held, held', perm⟩ := alike.sortedSet key
  · unfold logInSteps
    rw [held]
    exact ⟨rfl, .inl rfl⟩
  · have kept : (trimmed now window member members).values.Perm
        (trimmed now window member' members').values :=
      perm_values_insert now perm (fun old => fresh (Slot.keys_of_sortedSet held old))
        (fun old => fresh' (Slot.keys_of_sortedSet held' old))
        fun score => !inRange Word.minValue (now - window.wrappedMillis - 1) score
    unfold logInSteps
    rw [held, held']
    refine ⟨congrArg Except.ok (count_eq_of_perm kept _), ?_⟩
    dsimp only
    -- Both logs are drained or neither is, as they have the same size.
    unfold keptSlot
    rw [size_eq_of_perm kept]
    split
    · exact .inl rfl
    · exact .inr ⟨_, _, _, rfl, rfl, kept⟩

theorem keys_insert_filter (held : sortedSet key a = .ok members) (p : String → Int → Bool) :
    ((members.insert member now).filter p).keys ⊆ member :: a.members := by
  intro name left
  rcases List.mem_cons.mp (Table.keys_insert _ _ _ (Table.keys_filter _ _ left)) with rfl | old
  · exact List.mem_cons_self
  · exact List.mem_cons_of_mem _ (Slot.keys_of_sortedSet held old)

theorem members_logRequest (clock : Int) (key : String) (now : Int) (window : Duration)
    (member : String) (s : Slot) :
    (logRequest clock key now window member s).2.members ⊆ member :: s.members := by
  unfold logRequest
  cases held : sortedSet key s with
  | error error => exact List.subset_cons_self _ _
  | ok members => exact keys_insert_filter held _

theorem members_logInSteps (clock : Int) (key : String) (now : Int) (window : Duration)
    (member : String) (s : Slot) :
    (logInSteps clock key now window member s).2.members ⊆ member :: s.members := by
  unfold logInSteps
  cases held : sortedSet key s with
  | error error => exact List.subset_cons_self _ _
  | ok members =>
    dsimp only
    unfold keptSlot
    split
    · exact List.nil_subset _
    · exact keys_insert_filter held _

end Memory

namespace Session

variable {s t : Session} {key : LimitKey}

/-- Requests at one time log the same, under tickets that are new. -/
theorem alike_log {a b : Slot} (alike : a.Alike b) (limit : Limit) (ticket ticket' : String)
    (base : s.base = t.base) (compounding : s.compounding = t.compounding) (now : s.now = t.now)
    (fresh : Limiter.logMember s.now ticket ∉ a.members)
    (fresh' : Limiter.logMember t.now ticket' ∉ b.members) :
    (s.log key limit ticket a).1 = (t.log key limit ticket' b).1 ∧
      (s.log key limit ticket a).2.Alike (t.log key limit ticket' b).2 := by
  unfold log
  rw [base, compounding, now] at *
  cases t.compounding with
  | whole => exact Memory.alike_logRequest alike fresh fresh'
  | inSteps => exact Memory.alike_logInSteps alike fresh fresh'

theorem members_log (s : Session) (key : LimitKey) (limit : Limit) (ticket : String) (slot : Slot) :
    (s.log key limit ticket slot).2.members ⊆ Limiter.logMember s.now ticket :: slot.members := by
  unfold log
  cases s.compounding with
  | whole => exact Memory.members_logRequest _ _ _ _ _ _
  | inSteps => exact Memory.members_logInSteps _ _ _ _ _ _

theorem members_slidingWindow {limit : Limit} {ticket : String} {used : List String}
    (healthy : s.Healthy) (counted : limit.algorithm = .slidingWindow)
    (known : (s.part key "sw").members ⊆ used) :
    ((s.step (.evaluate key limit ticket)).2.part key "sw").members ⊆
      Limiter.logMember s.now ticket :: used := by
  rw [part_slidingWindow healthy counted]
  intro member held
  have logged := members_log s key limit ticket _ (Slot.members_aged _ _ held)
  exact List.cons_subset_cons _ known logged

end Session

end Throttle

import Fieldwatch.Broker.Basic

/-!
# Courses of deliveries

A published envelope takes a course of its own to each of its subscribers: it is handed over, the
subscriber answers, and after a refusal it is handed over again until the attempts run out and a
dead letter is kept. Whatever the subscriber answers, the attempts are numbered one by one and the
course comes to an end.
-/
namespace Fieldwatch

/-- How often an envelope is handed to a subscriber that refuses it. -/
def BrokerPolicy.most (policy : BrokerPolicy) : Nat := max 1 policy.maxAttempts.toNat

theorem toNat_add_one_of_lt {a b : UInt32} (below : a < b) : (a + 1).toNat = a.toNat + 1 := by
  have below := UInt32.lt_iff_toNat_lt.mp below
  have bound := b.toNat_lt
  rw [UInt32.toNat_add]
  change (a.toNat + 1) % 2 ^ 32 = _
  omega

/-- A parcel that is delivered again had an attempt left. -/
theorem BrokerPolicy.judge_eq_again {ι : Type} {policy : BrokerPolicy} {parcel again : Parcel ι}
    {result : Except String Unit} (judged : policy.judge parcel result = .again again) :
    parcel.attempt < policy.maxAttempts ∧ again.attempt = parcel.attempt + 1 := by
  cases result with
  | ok _ => cases judged
  | error reason =>
    simp only [judge] at judged
    split at judged
    · next left =>
      cases judged
      exact ⟨left, rfl⟩
    · cases judged

namespace Broker

variable {ι : Type}

/-- How far the delivery to one subscriber has come. -/
inductive Stage (ι : Type)
  /-- It is to be handed over, after the wait if there is one. -/
  | ready (parcel : Parcel ι)
  /-- The subscriber has it and did not answer yet. -/
  | handed (parcel : Parcel ι)
  /-- It was refused for good, and the letter is to be kept. -/
  | dead (letter : DeadLetter ι)
  | ended

def Stage.ofVerdict : Verdict ι → Stage ι
  | .taken => .ended
  | .again parcel => .ready parcel
  | .dead letter => .dead letter

/-- A subscriber's answer to what it was handed. -/
abbrev Call (ι : Type) := Parcel ι × Except String Unit

/-- The delivery to one subscriber. -/
@[ext]
structure Course (ι : Type) where
  stage : Stage ι
  /-- What the subscriber was handed and answered, in order. -/
  calls : List (Call ι) := []
  /-- The dead letters that were kept. -/
  letters : List (DeadLetter ι) := []

/-- What may happen next on a course, and the letters that it adds to those of the broker. -/
inductive Course.Moves (policy : BrokerPolicy) :
    Course ι → List (DeadLetter ι) → Course ι → Prop
  | hand {parcel calls letters} :
    Moves policy ⟨.ready parcel, calls, letters⟩ [] ⟨.handed parcel, calls, letters⟩
  | answer {parcel calls letters} (result : Except String Unit) :
    Moves policy ⟨.handed parcel, calls, letters⟩ []
      ⟨.ofVerdict (policy.judge parcel result), calls ++ [(parcel, result)], letters⟩
  | bury {letter calls letters} :
    Moves policy ⟨.dead letter, calls, letters⟩ [letter] ⟨.ended, calls, letters ++ [letter]⟩

/-! ## What a course amounts to -/

section Accounts

/-- An envelope on its way to a subscriber for a given time. -/
def parcelAt (envelope : Envelope) (subscriber : ι) (attempt : Nat) : Parcel ι :=
  ⟨envelope, subscriber, UInt32.ofNat attempt⟩

/-- Whether a subscriber was handed an envelope, time after time, and always refused it. -/
structure Refused (envelope : Envelope) (subscriber : ι) (calls : List (Call ι)) : Prop where
  numbered : calls.map Prod.fst =
    (List.range calls.length).map fun before => parcelAt envelope subscriber (before + 1)
  refused : ∀ call ∈ calls, ∃ reason, call.2 = .error reason

/-- How a course ends: the subscriber refuses until it takes the envelope, or it refuses as often
as it is tried and a dead letter says why in the end. -/
inductive Served (most : Nat) (envelope : Envelope) (subscriber : ι) :
    List (Call ι) → List (DeadLetter ι) → Prop
  | taken {calls} (before : Refused envelope subscriber calls) (few : calls.length < most) :
    Served most envelope subscriber
      (calls ++ [(parcelAt envelope subscriber (calls.length + 1), .ok ())]) []
  | dead {calls reason} (before : Refused envelope subscriber calls)
    (last : calls.length + 1 = most) :
    Served most envelope subscriber
      (calls ++ [(parcelAt envelope subscriber most, .error reason)])
      [⟨envelope, subscriber, UInt32.ofNat most, reason⟩]

/-- What holds of a course at every stage. -/
inductive Course.Sound (most : Nat) (envelope : Envelope) (subscriber : ι) : Course ι → Prop
  | ready {calls} (before : Refused envelope subscriber calls) (few : calls.length < most) :
    Sound most envelope subscriber
      ⟨.ready (parcelAt envelope subscriber (calls.length + 1)), calls, []⟩
  | handed {calls} (before : Refused envelope subscriber calls) (few : calls.length < most) :
    Sound most envelope subscriber
      ⟨.handed (parcelAt envelope subscriber (calls.length + 1)), calls, []⟩
  | dead {calls letter} (served : Served most envelope subscriber calls [letter]) :
    Sound most envelope subscriber ⟨.dead letter, calls, []⟩
  | ended {calls letters} (served : Served most envelope subscriber calls letters) :
    Sound most envelope subscriber ⟨.ended, calls, letters⟩

variable {policy : BrokerPolicy} {envelope : Envelope} {subscriber : ι} {course next : Course ι}
  {added : List (DeadLetter ι)} {calls : List (Call ι)}

theorem Refused.nil : Refused envelope subscriber [] := ⟨rfl, by rintro _ ⟨⟩⟩

theorem Refused.numbered_append (before : Refused envelope subscriber calls)
    (result : Except String Unit) :
    (calls ++ [(parcelAt envelope subscriber (calls.length + 1), result)]).map Prod.fst =
      (List.range (calls.length + 1)).map fun before =>
        parcelAt envelope subscriber (before + 1) := by
  rw [List.map_append, before.numbered, List.range_succ, List.map_append]
  rfl

theorem Refused.append (before : Refused envelope subscriber calls) (reason : String) :
    Refused envelope subscriber
      (calls ++ [(parcelAt envelope subscriber (calls.length + 1), .error reason)]) := by
  constructor
  · rw [before.numbered_append, List.length_append, List.length_singleton]
  · intro call member
    rcases List.mem_append.mp member with earlier | last
    · exact before.refused call earlier
    · obtain rfl := List.mem_singleton.mp last
      exact ⟨reason, rfl⟩

theorem parcelAt_succ (envelope : Envelope) (subscriber : ι) (attempt : Nat) :
    ({ parcelAt envelope subscriber attempt with
        attempt := (parcelAt envelope subscriber attempt).attempt + 1 } : Parcel ι) =
      parcelAt envelope subscriber (attempt + 1) :=
  congrArg (Parcel.mk envelope subscriber) (UInt32.ofNat_add attempt 1).symm

/-- The number of an attempt that is made is held exactly. -/
theorem toNat_attempt_parcelAt (envelope : Envelope) (subscriber : ι) {attempt : Nat}
    (few : attempt ≤ policy.most) :
    (parcelAt envelope subscriber attempt).attempt.toNat = attempt := by
  have bound := policy.maxAttempts.toNat_lt
  have size : UInt32.size = 4294967296 := rfl
  have within : policy.most < UInt32.size := by
    unfold BrokerPolicy.most
    omega
  exact UInt32.toNat_ofNat_of_lt' (Nat.lt_of_le_of_lt few within)

theorem Course.Sound.of_moves (sound : course.Sound policy.most envelope subscriber)
    (moves : course.Moves policy added next) : next.Sound policy.most envelope subscriber := by
  cases moves with
  | hand =>
    obtain ⟨before, few⟩ | _ := sound
    exact .handed before few
  | @answer _ calls _ result =>
    obtain _ | ⟨before, few⟩ := sound
    cases result with
    | ok _ => exact .ended (.taken before few)
    | error reason =>
      -- the broker compares the number that the parcel holds, which is that of the attempt
      have counted := toNat_attempt_parcelAt envelope subscriber few
      have refused := before.append reason
      have most : policy.most = max 1 policy.maxAttempts.toNat := rfl
      simp only [BrokerPolicy.judge]
      split
      · next again =>
        rw [UInt32.lt_iff_toNat_lt, counted] at again
        rw [parcelAt_succ]
        have longer : (calls ++ [(parcelAt envelope subscriber (calls.length + 1),
          (.error reason : Except String Unit))]).length = calls.length + 1 := by simp
        have next : Course.Sound policy.most envelope subscriber _ :=
          .ready refused (by rw [longer]; omega)
        rw [longer] at next
        exact next
      · next never =>
        rw [UInt32.lt_iff_toNat_lt, counted] at never
        have last : calls.length + 1 = policy.most := by omega
        rw [last]
        exact .dead (.dead before last)
  | bury =>
    obtain _ | _ | served := sound
    exact .ended served

/-- A course goes on, whatever the subscriber answers, until it is over. -/
theorem Course.ended_or_moves (policy : BrokerPolicy) (course : Course ι) :
    course.stage = .ended ∨ ∃ added next, course.Moves policy added next := by
  obtain ⟨stage, calls, letters⟩ := course
  cases stage with
  | ready parcel => exact .inr ⟨_, _, .hand⟩
  | handed parcel => exact .inr ⟨_, _, .answer (.ok ())⟩
  | dead letter => exact .inr ⟨_, _, .bury⟩
  | ended => exact .inl rfl

theorem Course.Moves.letters_eq (moves : course.Moves policy added next) :
    next.letters = course.letters ++ added := by
  cases moves with
  | hand => exact (List.append_nil _).symm
  | answer result => exact (List.append_nil _).symm
  | bury => rfl

/-- How much may still happen at a stage. -/
def Stage.weight (most : Nat) : Stage ι → Nat
  -- an attempt is handed over and answered, and with a letter for the last there are three things
  | ready parcel => 3 * (most + 1 - parcel.attempt.toNat) + 3
  | handed parcel => 3 * (most + 1 - parcel.attempt.toNat) + 2
  | dead _ => 1
  | ended => 0

/-- Whatever happens on a course, less may happen then. -/
theorem Course.Moves.weight_lt (moves : course.Moves policy added next) :
    next.stage.weight policy.most < course.stage.weight policy.most := by
  cases moves with
  | hand =>
    simp only [Stage.weight]
    omega
  | bury =>
    simp only [Stage.weight]
    omega
  | @answer parcel _ _ result =>
    cases result with
    | ok _ =>
      simp only [BrokerPolicy.judge, Stage.ofVerdict, Stage.weight]
      omega
    | error reason =>
      simp only [BrokerPolicy.judge]
      split
      · next again =>
        have counted := toNat_add_one_of_lt again
        have below := UInt32.lt_iff_toNat_lt.mp again
        have most : policy.most = max 1 policy.maxAttempts.toNat := rfl
        simp only [Stage.ofVerdict, Stage.weight, counted]
        omega
      · simp only [Stage.ofVerdict, Stage.weight]
        omega

/-! ## Courses apart -/

/-- Whether the subscriber answers each attempt in a given way. -/
def Follows (behaviour : UInt32 → Except String Unit) (calls : List (Call ι)) : Prop :=
  ∀ call ∈ calls, call.2 = behaviour call.1.attempt

variable {most : Nat} {behaviour : UInt32 → Except String Unit} {letters : List (DeadLetter ι)}

theorem Follows.eq_map (follows : Follows behaviour calls) :
    calls = (calls.map Prod.fst).map fun parcel => (parcel, behaviour parcel.attempt) := by
  rw [List.map_map]
  refine (List.map_id calls).symm.trans (List.map_congr_left fun call member => ?_)
  exact Prod.ext rfl (follows call member)

theorem Served.numbered (served : Served most envelope subscriber calls letters) :
    calls.map Prod.fst =
      (List.range calls.length).map fun before => parcelAt envelope subscriber (before + 1) := by
  obtain ⟨before, few⟩ | ⟨before, last⟩ := served
  · rw [before.numbered_append, List.length_append, List.length_singleton]
  · rw [← last, before.numbered_append, List.length_append, List.length_singleton]

theorem Refused.behaviour_eq (before : Refused envelope subscriber calls)
    (follows : Follows behaviour calls) {attempt : Nat} (earlier : attempt < calls.length) :
    ∃ reason, behaviour (UInt32.ofNat (attempt + 1)) = .error reason := by
  have handed : parcelAt envelope subscriber (attempt + 1) ∈ calls.map Prod.fst := by
    rw [before.numbered]
    exact List.mem_map.mpr ⟨attempt, List.mem_range.mpr earlier, rfl⟩
  obtain ⟨call, member, same⟩ := List.mem_map.mp handed
  obtain ⟨reason, refused⟩ := before.refused call member
  refine ⟨reason, ?_⟩
  rw [← refused, follows call member, same]
  rfl

/-- A course ends with the first attempt that is taken, or with the last. -/
theorem Served.ends (served : Served most envelope subscriber calls letters)
    (follows : Follows behaviour calls) :
    ∃ earlier, calls.length = earlier + 1 ∧ earlier < most ∧
      (∀ attempt < earlier, ∃ reason, behaviour (UInt32.ofNat (attempt + 1)) = .error reason) ∧
      (behaviour (UInt32.ofNat (earlier + 1)) = .ok () ∧ letters = [] ∨
        earlier + 1 = most ∧ ∃ reason, behaviour (UInt32.ofNat (earlier + 1)) = .error reason ∧
          letters = [⟨envelope, subscriber, UInt32.ofNat most, reason⟩]) := by
  obtain @⟨calls, before, few⟩ | @⟨calls, reason, before, last⟩ := served
  · have answered := follows _ (List.mem_append_right _ List.mem_cons_self)
    refine ⟨calls.length, List.length_append, few, ?_, .inl ⟨answered.symm, rfl⟩⟩
    exact fun attempt earlier => before.behaviour_eq
      (fun call member => follows call (List.mem_append_left _ member)) earlier
  · have answered := follows _ (List.mem_append_right _ List.mem_cons_self)
    rw [← last] at answered
    refine ⟨calls.length, List.length_append, by omega, ?_,
      .inr ⟨last, reason, answered.symm, rfl⟩⟩
    exact fun attempt earlier => before.behaviour_eq
      (fun call member => follows call (List.mem_append_left _ member)) earlier

/-- What a subscriber receives, and the letter that is kept of it, depends on its own answers
alone. -/
theorem Served.eq_of_follows {others : List (Call ι)} {otherLetters : List (DeadLetter ι)}
    (served : Served most envelope subscriber calls letters)
    (again : Served most envelope subscriber others otherLetters)
    (follows : Follows behaviour calls) (followsToo : Follows behaviour others) :
    calls = others ∧ letters = otherLetters := by
  obtain ⟨earlier, count, few, refused, ends⟩ := served.ends follows
  obtain ⟨earlierToo, countToo, fewToo, refusedToo, endsToo⟩ := again.ends followsToo
  -- neither course goes on after the attempt with which the other ends
  have same : earlier = earlierToo := by
    rcases Nat.lt_trichotomy earlier earlierToo with less | same | more
    · obtain ⟨reason, failed⟩ := refusedToo earlier less
      rcases ends with ⟨taken, -⟩ | ⟨last, -⟩
      · rw [failed] at taken
        cases taken
      · omega
    · exact same
    · obtain ⟨reason, failed⟩ := refused earlierToo more
      rcases endsToo with ⟨taken, -⟩ | ⟨last, -⟩
      · rw [failed] at taken
        cases taken
      · omega
  subst same
  constructor
  · rw [follows.eq_map, followsToo.eq_map, served.numbered, again.numbered, count, countToo]
  · rcases ends with ⟨taken, none⟩ | ⟨-, reason, failed, letter⟩
    · rcases endsToo with ⟨-, noneToo⟩ | ⟨-, reason, failed, -⟩
      · rw [none, noneToo]
      · rw [failed] at taken
        cases taken
    · rcases endsToo with ⟨taken, -⟩ | ⟨-, reasonToo, failedToo, letterToo⟩
      · rw [failed] at taken
        cases taken
      · rw [failed] at failedToo
        cases failedToo
        rw [letter, letterToo]

end Accounts
end Broker
end Fieldwatch

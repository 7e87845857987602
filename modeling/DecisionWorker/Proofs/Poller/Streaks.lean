import DecisionWorker.Proofs.Poller.Waits
import DecisionWorker.Proofs.Backpressure.Row

set_option autoImplicit false

/-!
Loops that hold back together.

All loops count the polls that fail, and one poll that ends well makes them all forget the
count. `endedPolls` says how the polls of a run have ended, whichever loop made them, and `row`
keeps the failures since the last success; the backpressure of a poller is nothing but that row
(`Sharing`), so every loop is told to hold back for as long as the policy has it for the row.
-/

namespace DecisionWorker

def Occurrence.endsPoll : Occurrence → Bool
  | .polled _ _ => true
  | .pollFailed _ _ _ => true
  | _ => false

/-- A poll that has ended: when, and with which result. -/
abbrev EndedPoll := Instant × Except ServiceError (Option DecisionTask)

/-- The moments of some failures and then of another poll, unless it ends well. -/
def extend (row : List Instant) (poll : EndedPoll) : List Instant :=
  match poll.2 with
  | .ok _ => []
  | .error _ => row ++ [poll.1]

/-- When polls have failed since one last ended well. -/
def row (polls : List EndedPoll) : List Instant := polls.foldl extend []

/-- How long a loop has to hold back after polls have failed in a row at these moments. -/
def holdBack (poller : Poller) (consultation : Nat) (now : Instant) :
    List Instant → Except Crash (Option Duration)
  | [] => .ok none
  | first :: rest =>
      (poller.backpressure.consult consultation (min (rest.length + 1) greatestAttempt)
        (now - first)).map NextDelay.delay?

namespace PollerState

/-- Whether a poll ends with an error of a call: the error is permanent, or the policy stops. -/
def GivesUp (poller : Poller) (current : PollerState) (progress : PollProgress)
    (error : ServiceError) : Prop :=
  error.isTransient = false ∨
    poller.pollRetry.consult current.consultations (nextAttempt progress.attempt)
      (current.now - progress.started) = .ok .stop

instance (poller : Poller) (current : PollerState) (progress : PollProgress)
    (error : ServiceError) : Decidable (GivesUp poller current progress error) :=
  inferInstanceAs (Decidable (_ ∨ _))

def pollResult? (poller : Poller) (current : PollerState) (progress : PollProgress) :
    PollAnswer → Option (Except ServiceError (Option DecisionTask))
  | .empty => some (.ok none)
  | .task task => some (.ok (some task))
  | .failure error => if GivesUp poller current progress error then some (.error error) else none
  | .crash _ => none

/-- How a poll ends with the next move of the loop, if it does. A loop gives up its poll without
a result when the token is cancelled. -/
def pollEnd? (poller : Poller) (current : PollerState) (loop : Nat) :
    Option (Except ServiceError (Option DecisionTask)) :=
  match current.loops[loop]? with
  | some (.calling progress ends answer) =>
      if current.cancelled = true ∨ current.now < ends then none
      else current.pollResult? poller progress answer
  | _ => none

def endedPoll? (poller : Poller) (current : PollerState) : CompanyMove → Option EndedPoll
  | .own (.task (.loop loop)) =>
      (current.pollEnd? poller loop).map fun result => (current.now, result)
  | _ => none

/-- The polls of all loops that end in the course of some moves, in order. -/
def endedPolls (poller : Poller) (current : PollerState) : List CompanyMove → List EndedPoll
  | [] => []
  | first :: rest =>
      (current.endedPoll? poller first).toList ++
        (current.proceed poller first).1.endedPolls poller rest

structure Sharing (poller : Poller) (shared : Backpressure) (row : List Instant) : Prop where
  policy : shared.policy = poller.backpressure
  failures : shared.streak.failures = min row.length Streak.greatest
  since : shared.streak.since = row.head?
  usable : shared.poisoned = false

section Sharing

variable {poller : Poller} {shared : Backpressure} {row : List Instant}

theorem sharing_start (poller : Poller) : Sharing poller (.start poller.backpressure) [] :=
  ⟨rfl, rfl, rfl, rfl⟩

theorem Sharing.streak (sharing : Sharing poller shared row) : shared.streak = .ofRow row := by
  rw [Streak.ofRow, ← sharing.failures, ← sharing.since]

theorem Sharing.failed (sharing : Sharing poller shared row) (now : Instant) :
    Sharing poller { shared with streak := shared.streak.failed now } (row ++ [now]) := by
  rw [sharing.streak, Streak.failed_ofRow]
  exact ⟨sharing.policy, rfl, rfl, sharing.usable⟩

theorem Sharing.succeeded (sharing : Sharing poller shared row) :
    Sharing poller { shared with streak := .empty } [] :=
  ⟨sharing.policy, rfl, rfl, sharing.usable⟩

theorem Sharing.failureCount (sharing : Sharing poller shared row) :
    shared.failureCount = .ok (min row.length Streak.greatest) := by
  simp [Backpressure.failureCount, sharing.usable, sharing.failures]

theorem Sharing.delay (sharing : Sharing poller shared row) (now : Instant) :
    (shared.delay now).delay = holdBack poller shared.consultations now row := by
  cases row with
  | nil =>
      rw [Backpressure.delay_of_empty sharing.usable sharing.streak]
      rfl
  | cons first rest =>
      rw [Backpressure.delay_of_row sharing.usable sharing.streak, sharing.policy, holdBack]
      cases poller.backpressure.consult shared.consultations _ _ with
      | ok answer => rfl
      | error crash => rfl

theorem exists_holdBack (steady : poller.backpressure.Steady) (consultation : Nat)
    (now : Instant) (row : List Instant) :
    ∃ delay, holdBack poller consultation now row = .ok delay := by
  cases row with
  | nil => exact ⟨none, rfl⟩
  | cons first rest =>
      simp only [holdBack]
      cases consulted : poller.backpressure.consult consultation _ _ with
      | error crash => exact absurd consulted (steady _ _ _ _)
      | ok answer => exact ⟨answer.delay?, rfl⟩

theorem Sharing.ask (sharing : Sharing poller shared row) (steady : poller.backpressure.Steady)
    (now : Instant) : Sharing poller (shared.delay now).shared row := by
  obtain ⟨policy, failures, since, usable⟩ := sharing
  unfold Backpressure.delay
  simp only [usable, Bool.false_eq_true, if_false]
  split
  · exact ⟨policy, failures, since, usable⟩
  · split
    next crash crashes =>
      rw [policy] at crashes
      exact absurd crashes (steady _ _ _ _)
    next answer _ => exact ⟨policy, failures, since, rfl⟩

end Sharing

section Ends

variable {poller : Poller} {current : PollerState} {loop : Nat} {phase : LoopPhase}
  {outcome : Outcome}

theorem verdict_of_givesUp {progress : PollProgress} {error : ServiceError}
    (givesUp : GivesUp poller current progress error) :
    current.verdict poller progress error = .giveUp := by
  unfold verdict RetryPlan.consider
  rcases givesUp with permanent | stops
  · simp [RetryPlan.accepts, pollPlan, permanent]
  · simp only [pollPlan, stops]
    split <;> rfl

theorem givesUp_of_verdict {progress : PollProgress} {error : ServiceError}
    (verdict : current.verdict poller progress error = .giveUp) :
    GivesUp poller current progress error := by
  unfold PollerState.verdict RetryPlan.consider at verdict
  split at verdict
  next accepted =>
    simp only [pollPlan] at verdict
    split at verdict
    next => cases verdict
    next stops => exact .inr stops
    next => cases verdict
  next rejected => exact .inl (by simpa [RetryPlan.accepts, pollPlan] using rejected)

theorem pollEnd?_of_calling {progress : PollProgress} {ends : Instant} {answer : PollAnswer}
    (stands : current.loops[loop]? = some (.calling progress ends answer))
    (going : current.cancelled = false) (due : ends ≤ current.now) :
    current.pollEnd? poller loop = current.pollResult? poller progress answer := by
  have late : ¬ current.now < ends := Nat.not_lt.mpr due
  simp only [pollEnd?, stands, going, late, Bool.false_eq_true, or_self, if_false]

theorem pollEnd?_of_cancelled (cancelled : current.cancelled = true) :
    current.pollEnd? poller loop = none := by
  unfold pollEnd?
  split
  · simp [cancelled]
  · rfl

theorem pollEnd?_of_waiting (waits : stepLoop poller current loop = none) :
    current.pollEnd? poller loop = none := by
  unfold pollEnd?
  split
  next progress ends answer stands =>
    have early : ¬ ends ≤ current.now := by
      intro due
      simp only [stepLoop, stands, due, if_true] at waits
      split at waits <;> cases waits
    simp [Nat.not_le.mp early, Duration.lt_iff]
  · rfl

theorem pollResult?_of_result {progress : PollProgress} {answer : PollAnswer}
    {task : Option DecisionTask} (result : answer.result? = some task) :
    current.pollResult? poller progress answer = some (.ok task) := by
  cases answer with
  | empty | task =>
      cases result
      rfl
  | failure | crash => cases result

/-- What a move means for the backpressure, and which ends of polls it reports. -/
structure Reports (poller : Poller) (current : PollerState) (row : List Instant)
    (move : CompanyMove) (outcome : Outcome) : Prop where
  sharing :
    Sharing poller outcome.1.shared ((current.endedPoll? poller move).toList.foldl extend row)
  succeeds : ∀ {loop task}, .polled loop task ∈ outcome.2 ↔
    move = .own (.task (.loop loop)) ∧ current.pollEnd? poller loop = some (.ok task)
  fails : ∀ {loop failures error}, .pollFailed loop failures error ∈ outcome.2 ↔
    move = .own (.task (.loop loop)) ∧ current.pollEnd? poller loop = some (.error error) ∧
      failures = min (row.length + 1) Streak.greatest

theorem reports_of_success {row : List Instant} {task : Option DecisionTask} {next : PollerState}
    (ended : current.pollEnd? poller loop = some (.ok task))
    (sharing : Sharing poller next.shared []) :
    Reports poller current row (.own (.task (.loop loop))) (next, [.polled loop task]) where
  sharing := by
    rw [endedPoll?, ended]
    exact sharing
  succeeds {other result} := by
    constructor
    · rintro member
      cases List.mem_singleton.mp member
      exact ⟨rfl, ended⟩
    · rintro ⟨⟨⟩, same⟩
      cases ended.symm.trans same
      exact List.mem_singleton_self _
  fails := by
    intro other failures error
    constructor
    · intro member
      cases List.mem_singleton.mp member
    · rintro ⟨⟨⟩, same, -⟩
      cases ended.symm.trans same

theorem reports_of_failure {row : List Instant} {error : ServiceError} {next : PollerState}
    (ended : current.pollEnd? poller loop = some (.error error))
    (sharing : Sharing poller next.shared (row ++ [current.now])) {count : Nat}
    (counted : count = min (row.length + 1) Streak.greatest) :
    Reports poller current row (.own (.task (.loop loop)))
      (next, [.pollFailed loop count error]) where
  sharing := by
    rw [endedPoll?, ended]
    exact sharing
  succeeds {other result} := by
    constructor
    · intro member
      cases List.mem_singleton.mp member
    · rintro ⟨⟨⟩, same⟩
      cases ended.symm.trans same
  fails := by
    intro other failures reported
    constructor
    · intro member
      cases List.mem_singleton.mp member
      exact ⟨rfl, ended, counted⟩
    · rintro ⟨⟨⟩, same, rfl⟩
      cases ended.symm.trans same
      rw [counted]
      exact List.mem_singleton_self _

theorem reports_of_silent {row : List Instant} {move : CompanyMove}
    (sharing : Sharing poller outcome.1.shared row)
    (goesOn : ∀ loop, move = .own (.task (.loop loop)) → current.pollEnd? poller loop = none)
    (silent : ∀ occurrence ∈ outcome.2, occurrence.endsPoll = false) :
    Reports poller current row move outcome where
  sharing := by
    have none : current.endedPoll? poller move = none := by
      unfold endedPoll?
      split
      next loop => rw [goesOn loop rfl, Option.map_none]
      next => rfl
    rw [none]
    exact sharing
  succeeds {loop task} := by
    constructor
    · intro member
      cases silent _ member
    · rintro ⟨own, ended⟩
      cases (goesOn loop own).symm.trans ended
  fails := by
    intro loop failures error
    constructor
    · intro member
      cases silent _ member
    · rintro ⟨own, ended, -⟩
      cases (goesOn loop own).symm.trans ended

theorem reports_of_goingOn {row : List Instant} (sharing : Sharing poller outcome.1.shared row)
    (goesOn : current.pollEnd? poller loop = none)
    (silent : ∀ occurrence ∈ outcome.2, occurrence.endsPoll = false) :
    Reports poller current row (.own (.task (.loop loop))) outcome := by
  refine reports_of_silent sharing ?_ silent
  rintro _ ⟨⟩
  exact goesOn

theorem endsPoll_perform {operation : CacheOperation StateName} {occurrence : Occurrence}
    (member : occurrence ∈ (current.perform operation).2.2) : occurrence.endsPoll = false := by
  obtain ⟨_, rfl⟩ := mem_perform member
  rfl

theorem LoopStep.reports {row : List Instant} (steady : poller.backpressure.Steady)
    (sharing : Sharing poller current.shared row) (stands : current.loops[loop]? = some phase)
    (step : LoopStep poller current loop phase outcome) :
    Reports poller current row (.own (.task (.loop loop))) outcome := by
  cases step with
  | release | hold | crashAsking =>
      exact reports_of_goingOn (sharing.ask steady _) (by simp only [pollEnd?, stands])
        (by simp [depart, Occurrence.endsPoll])
  | abandon _ cancelled =>
      exact reports_of_goingOn sharing (pollEnd?_of_cancelled cancelled)
        (by simp [depart, Occurrence.endsPoll])
  | wake | crashLooking | crashConcluding | crashHandling =>
      exact reports_of_goingOn sharing (by simp only [pollEnd?, stands])
        (by simp [depart, Occurrence.endsPoll])
  | call | callAgain =>
      exact reports_of_goingOn sharing (by simp only [pollEnd?, stands])
        (by simp [PollerState.call, Occurrence.endsPoll])
  | @handle task usable =>
      obtain ⟨_, _, _, same, -⟩ := handle_eq poller usable loop task
      refine reports_of_goingOn (by rw [same]; exact sharing) (by simp only [pollEnd?, stands]) ?_
      intro occurrence member
      rcases mem_handle usable member with ⟨_, rfl⟩ | rfl | ⟨_, rfl⟩ <;> rfl
  | store | forget =>
      refine reports_of_goingOn sharing (by simp only [pollEnd?, stands]) ?_
      intro occurrence member
      rcases mem_decided member with rfl | ⟨_, rfl⟩ <;> rfl
  | @succeed progress ends answer task going due result =>
      have ended : current.pollEnd? poller loop = some (.ok task) := by
        rw [pollEnd?_of_calling stands going due, pollResult?_of_result result]
      exact reports_of_success ended sharing.succeeded
  | @fail progress ends error consultations going due givesUp =>
      have ended : current.pollEnd? poller loop = some (.error error) := by
        rw [pollEnd?_of_calling stands going due, pollResult?,
          if_pos (givesUp_of_verdict givesUp)]
      have failed := sharing.failed current.now
      exact reports_of_failure ended failed (by simpa using failed.failures)
  | @rest progress ends error attempt delay consultations going due again =>
      have hopeful : ¬ GivesUp poller current progress error := by
        intro givesUp
        cases again.symm.trans (verdict_of_givesUp givesUp)
      have goesOn : current.pollEnd? poller loop = none := by
        rw [pollEnd?_of_calling stands going due, pollResult?, if_neg hopeful]
      exact reports_of_goingOn sharing goesOn (by simp [Occurrence.endsPoll])
  | @crashPolling progress ends answer crash consultations going due reason =>
      have goesOn : current.pollEnd? poller loop = none := by
        rw [pollEnd?_of_calling stands going due]
        rcases reason with rfl | poisoned | ⟨error, rfl, crashed⟩
        · rfl
        · cases poisoned.symm.trans sharing.usable
        · have unanswered : ¬ GivesUp poller current progress error := by
            intro givesUp
            cases crashed.symm.trans (verdict_of_givesUp givesUp)
          rw [pollResult?, if_neg unanswered]
      exact reports_of_goingOn sharing goesOn (by simp [depart, Occurrence.endsPoll])

end Ends

section Runs

variable {poller : Poller} {current : PollerState} {move : CompanyMove} {outcome : Outcome}

theorem Happens.reports {row : List Instant} (steady : poller.backpressure.Steady)
    (sharing : Sharing poller current.shared row)
    (happens : Happens poller current move outcome) : Reports poller current row move outcome := by
  cases happens with
  | loop stands step => exact step.reports steady sharing stands
  | begins | dispatches | cancels | passes =>
      exact reports_of_silent sharing nofun (by simp [PollerState.cancel, Occurrence.endsPoll])
  | joins =>
      refine reports_of_silent sharing nofun ?_
      intro occurrence member
      obtain ⟨_, -, rfl⟩ := List.mem_map.mp member
      rfl
  | finishes =>
      refine reports_of_silent sharing nofun ?_
      intro occurrence member
      rcases mem_cleared member with ⟨_, rfl⟩ | rfl | ⟨_, rfl⟩ <;> rfl
  | visits => exact reports_of_silent sharing nofun fun _ => endsPoll_perform
  | @waits task waits =>
      refine reports_of_silent sharing ?_ nofun
      rintro loop ⟨⟩
      exact pollEnd?_of_waiting waits

theorem Sharing.after {row : List Instant} (steady : poller.backpressure.Steady)
    (sharing : Sharing poller current.shared row)
    (moves : List CompanyMove) :
    Sharing poller (current.after poller moves).shared
      ((current.endedPolls poller moves).foldl extend row) := by
  induction moves generalizing current row with
  | nil => exact sharing
  | cons first rest inductionHypothesis =>
      have reports := (happens_proceed poller current first).reports steady sharing
      rw [endedPolls, List.foldl_append]
      exact inductionHypothesis reports.sharing

theorem sharing_after (steady : poller.backpressure.Steady) (sticky : StickyCache StateName)
    (moves : List CompanyMove) :
    Sharing poller ((start poller sticky).after poller moves).shared
      (row ((start poller sticky).endedPolls poller moves)) := by
  have begun : Sharing poller (start poller sticky).shared [] := sharing_start poller
  exact begun.after steady moves

end Runs

end PollerState

end DecisionWorker

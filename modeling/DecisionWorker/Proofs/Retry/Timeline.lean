import DecisionWorker.Retry.Loop

set_option autoImplicit false

/-!
The timeline of a retry loop that nobody cancels.

It says when each call starts and ends, what is done about the call, and whether a pause or
the end of the loop comes after it. A loop follows its timeline call by call until it is over
or the token is cancelled: `run_of_reaches` is the induction on which all that is said of
whole loops rests.
-/

namespace DecisionWorker

theorem Duration.add_sub_cancel_left (moment time : Duration) : moment + time - moment = time :=
  congrArg Duration.mk (Nat.add_sub_cancel_left _ _)

theorem Duration.add_assoc (moment first second : Duration) :
    moment + first + second = moment + (first + second) :=
  congrArg Duration.mk (Nat.add_assoc _ _ _)

/-- How a call that has ended is read: by its outcome, by the predicate, and by the policy. -/
inductive Aftermath (Value Failure : Type) where
  | succeeded (value : Value)
  | rejected (failure : Failure)
  | stopped (failure : Failure)
  | crashed (failure : Failure) (crash : Crash)
  | paused (failure : Failure) (delay : Duration)

namespace Aftermath

variable {Value Failure : Type}

/-- The result of the loop, unless it goes on to wait. -/
def result? : Aftermath Value Failure → Option (RetryResult Value Failure)
  | succeeded value => some (.returned value)
  | rejected failure => some (.failed (.operation failure))
  | stopped failure => some (.failed (.operation failure))
  | crashed _ crash => some (.crashed crash)
  | paused _ _ => none

def cutShort (aftermath : Aftermath Value Failure) : RetryResult Value Failure :=
  aftermath.result?.getD (.failed .cancelled)

def wait : Aftermath Value Failure → Duration
  | paused _ delay => delay.timer
  | _ => .zero

def steps (plan : RetryPlan Failure) (attempt : Nat) (elapsed : Duration) :
    Aftermath Value Failure → List (RetryStep Failure)
  | succeeded _ => []
  | rejected failure => plan.judgement failure
  | stopped failure => plan.judgement failure ++ [.consulted attempt elapsed .stop]
  | crashed failure _ => plan.judgement failure
  | paused failure delay =>
      plan.judgement failure ++
        [.consulted attempt elapsed (.wait delay), .notified attempt failure delay,
          .logged attempt delay]

end Aftermath

/-- The number of the attempt that may follow a call, if all calls up to it have failed. -/
def attemptAfter (number : Nat) : Nat := min (number + 1) greatestAttempt

theorem nextAttempt_eq (number : Nat) :
    nextAttempt (min number greatestAttempt) = attemptAfter number := by
  simp only [nextAttempt, attemptAfter]
  omega

def RetryReport.after {Value Failure : Type} (steps : List (Instant × RetryStep Failure))
    (report : RetryReport Value Failure) : RetryReport Value Failure :=
  { report with trace := steps ++ report.trace }

theorem cancelledBy_mono {cancelAt : Option Instant} {now later : Instant}
    (ordered : now ≤ later) (cancelled : cancelledBy cancelAt now = true) :
    cancelledBy cancelAt later = true := by
  cases cancelAt with
  | none => exact cancelled
  | some moment => exact decide_eq_true (Nat.le_trans (of_decide_eq_true cancelled) ordered)

namespace RetryLoop

variable {Value Failure : Type}

def aftermathAt (loop : RetryLoop Value Failure) (number : Nat) (elapsed : Duration) :
    Aftermath Value Failure :=
  match (loop.call number).outcome with
  | .ok value => .succeeded value
  | .error failure =>
      if loop.plan.accepts failure then
        match loop.plan.policy.consult number (attemptAfter number) elapsed with
        | .ok (.wait delay) => .paused failure delay
        | .ok .stop => .stopped failure
        | .error crash => .crashed failure crash
      else .rejected failure

def elapsed (loop : RetryLoop Value Failure) : Nat → Duration
  | 0 => (loop.call 0).latency.roundUp
  | number + 1 =>
      loop.elapsed number + (loop.aftermathAt number (loop.elapsed number)).wait +
        (loop.call (number + 1)).latency.roundUp

def aftermath (loop : RetryLoop Value Failure) (number : Nat) : Aftermath Value Failure :=
  loop.aftermathAt number (loop.elapsed number)

inductive Reads (loop : RetryLoop Value Failure) (number : Nat) (elapsed : Duration) :
    Aftermath Value Failure → Prop where
  | succeeded {value : Value} (outcome : (loop.call number).outcome = .ok value) :
      loop.Reads number elapsed (.succeeded value)
  | rejected {failure : Failure} (outcome : (loop.call number).outcome = .error failure)
      (hopeless : loop.plan.accepts failure = false) :
      loop.Reads number elapsed (.rejected failure)
  | stopped {failure : Failure} (outcome : (loop.call number).outcome = .error failure)
      (accepted : loop.plan.accepts failure = true)
      (answer : loop.plan.policy.consult number (attemptAfter number) elapsed = .ok .stop) :
      loop.Reads number elapsed (.stopped failure)
  | crashed {failure : Failure} {crash : Crash}
      (outcome : (loop.call number).outcome = .error failure)
      (accepted : loop.plan.accepts failure = true)
      (answer : loop.plan.policy.consult number (attemptAfter number) elapsed = .error crash) :
      loop.Reads number elapsed (.crashed failure crash)
  | paused {failure : Failure} {delay : Duration}
      (outcome : (loop.call number).outcome = .error failure)
      (accepted : loop.plan.accepts failure = true)
      (answer : loop.plan.policy.consult number (attemptAfter number) elapsed =
        .ok (.wait delay)) :
      loop.Reads number elapsed (.paused failure delay)

theorem reads_aftermath (loop : RetryLoop Value Failure) (number : Nat) :
    loop.Reads number (loop.elapsed number) (loop.aftermath number) := by
  unfold aftermath aftermathAt
  split
  next value outcome => exact .succeeded outcome
  next failure outcome =>
    split
    next accepted =>
      split
      next delay answer => exact .paused outcome accepted answer
      next answer => exact .stopped outcome accepted answer
      next crash answer => exact .crashed outcome accepted answer
    next hopeless => exact .rejected outcome (Bool.eq_false_iff.mpr hopeless)

def ends (loop : RetryLoop Value Failure) (number : Nat) : Instant :=
  loop.start + loop.elapsed number

def starts (loop : RetryLoop Value Failure) : Nat → Instant
  | 0 => loop.start
  | number + 1 => loop.ends number + (loop.aftermath number).wait

def episode (loop : RetryLoop Value Failure) (number : Nat) :
    List (Instant × RetryStep Failure) :=
  (loop.starts number, .called) ::
    ((loop.aftermath number).steps loop.plan (attemptAfter number) (loop.elapsed number)).map
      fun step => (loop.ends number, step)

def account (loop : RetryLoop Value Failure) (calls : Nat) : List (Instant × RetryStep Failure) :=
  (List.range calls).flatMap loop.episode

theorem account_succ (loop : RetryLoop Value Failure) (calls : Nat) :
    loop.account (calls + 1) = loop.account calls ++ loop.episode calls := by
  simp [account, List.range_succ]

/-- The loop that is about to make a call, as long as nobody has cancelled it. -/
def progressAt (loop : RetryLoop Value Failure) (number : Nat) : RetryProgress :=
  ⟨loop.starts number, number, min number greatestAttempt, false⟩

theorem progressAt_zero (loop : RetryLoop Value Failure) : loop.progressAt 0 = loop.begin := by
  simp [progressAt, begin, starts]

theorem starts_add_latency (loop : RetryLoop Value Failure) (number : Nat) :
    loop.starts number + (loop.call number).latency.roundUp = loop.ends number := by
  cases number with
  | zero => rfl
  | succ number =>
      simp only [starts, ends, elapsed, aftermath, Duration.add_assoc]

theorem ends_sub_start (loop : RetryLoop Value Failure) (number : Nat) :
    loop.ends number - loop.start = loop.elapsed number :=
  Duration.add_sub_cancel_left _ _

theorem ends_le_starts (loop : RetryLoop Value Failure) (number : Nat) :
    loop.ends number ≤ loop.starts (number + 1) :=
  Nat.le_add_right _ _

/-- One round of the loop is one episode of its timeline. -/
theorem round_progressAt (loop : RetryLoop Value Failure) (number : Nat) :
    loop.round (loop.progressAt number) =
      (loop.episode number,
        match loop.aftermath number with
        | .paused _ delay =>
            loop.rest (loop.ends number) (number + 1) (attemptAfter number)
              (loop.call number).cancels delay
        | aftermath => .done aftermath.cutShort (loop.ends number)) := by
  simp only [round, progressAt, starts_add_latency, ends_sub_start, aftermath, aftermathAt,
    episode, Bool.false_or]
  cases (loop.call number).outcome with
  | ok value => rfl
  | error failure =>
      simp only [RetryPlan.consider, nextAttempt_eq]
      cases loop.plan.accepts failure with
      | false => rfl
      | true =>
          cases loop.plan.policy.consult number (attemptAfter number) (loop.elapsed number) with
          | error crash => rfl
          | ok answer => cases answer <;> rfl

/-- Whether the loop goes on from a call to the next one. -/
def Continues (loop : RetryLoop Value Failure) (number : Nat) : Prop :=
  (loop.aftermath number).result? = none ∧ (loop.call number).cancels = false ∧
    cancelledBy loop.cancelAt (loop.starts (number + 1)) = false

instance (loop : RetryLoop Value Failure) (number : Nat) : Decidable (loop.Continues number) :=
  inferInstanceAs (Decidable (_ = none ∧ _ = false ∧ _ = false))

/-- Whether the token is cancelled by the time the call ends. -/
def cancelledDuring (loop : RetryLoop Value Failure) (number : Nat) : Bool :=
  (loop.call number).cancels || cancelledBy loop.cancelAt (loop.ends number)

/-- The moment at which a loop ends that does not go on from a call. -/
def conclusion (loop : RetryLoop Value Failure) (number : Nat) : Instant :=
  match (loop.aftermath number).result? with
  | some _ => loop.ends number
  | none =>
      if loop.cancelledDuring number then loop.ends number
      else loop.cancelAt.getD (loop.ends number)

theorem cancelledBy_starts {loop : RetryLoop Value Failure} {number : Nat}
    (before : cancelledBy loop.cancelAt (loop.starts (number + 1)) = false) :
    cancelledBy loop.cancelAt (loop.ends number) = false := by
  cases during : cancelledBy loop.cancelAt (loop.ends number) with
  | false => rfl
  | true =>
      rw [cancelledBy_mono (loop.ends_le_starts number) during] at before
      contradiction

theorem round_of_continues {loop : RetryLoop Value Failure} {number : Nat}
    (continues : loop.Continues number) :
    loop.round (loop.progressAt number) =
      (loop.episode number, .more (loop.progressAt (number + 1))) := by
  obtain ⟨unfinished, uncancelled, untouched⟩ := continues
  have awake := cancelledBy_starts untouched
  rw [round_progressAt]
  simp only [starts] at untouched
  cases read : loop.aftermath number with
  | paused failure delay =>
      simp only [read, Aftermath.wait] at untouched
      simp only [rest, uncancelled, awake, Bool.or_false, progressAt, starts, read,
        Aftermath.wait]
      cases token : loop.cancelAt with
      | none => rfl
      | some moment =>
          rw [token] at untouched
          have late : ¬ moment ≤ loop.ends number + delay.timer := of_decide_eq_false untouched
          simp only [if_neg late]
          rfl
  | _ => simp [read, Aftermath.result?] at unfinished

theorem round_of_not_continues {loop : RetryLoop Value Failure} {number : Nat}
    (ceases : ¬ loop.Continues number) :
    loop.round (loop.progressAt number) =
      (loop.episode number,
        .done (loop.aftermath number).cutShort (loop.conclusion number)) := by
  rw [round_progressAt]
  cases read : loop.aftermath number with
  | paused failure delay =>
      simp only [conclusion, read, Aftermath.result?]
      by_cases during : loop.cancelledDuring number = true
      · rw [if_pos during]
        congr 1
        exact if_pos during
      · have cancelled : cancelledBy loop.cancelAt (loop.ends number + delay.timer) = true := by
          cases untouched : cancelledBy loop.cancelAt (loop.ends number + delay.timer) with
          | true => rfl
          | false =>
              apply absurd _ ceases
              refine ⟨by rw [read]; rfl, ?_, ?_⟩
              · exact (Bool.or_eq_false_iff.mp ((Bool.not_eq_true _).mp during)).1
              · simpa only [starts, read, Aftermath.wait] using untouched
        rw [if_neg during]
        congr 1
        apply Eq.trans (if_neg during)
        cases token : loop.cancelAt with
        | none => simp [token, cancelledBy] at cancelled
        | some moment =>
            rw [token] at cancelled
            exact if_pos (of_decide_eq_true cancelled)
  | _ => simp only [conclusion, read, Aftermath.result?]

/-- The steps of the loop from some point on, as far as its first `limit` rounds. -/
def stepsWithin (loop : RetryLoop Value Failure) :
    (limit : Nat) → RetryProgress → List (Instant × RetryStep Failure)
  | 0, _ => []
  | limit + 1, progress =>
      match loop.round progress with
      | (steps, .done _ _) => steps
      | (steps, .more next) => steps ++ loop.stepsWithin limit next

def observed (loop : RetryLoop Value Failure) (limit : Nat) : List (Instant × RetryStep Failure) :=
  loop.stepsWithin limit loop.begin

/-- Whether the loop gets as far as making a call. -/
def Reaches (loop : RetryLoop Value Failure) (number : Nat) : Prop :=
  ∀ earlier < number, loop.Continues earlier

theorem Reaches.succ {loop : RetryLoop Value Failure} {number : Nat}
    (reaches : loop.Reaches number) (continues : loop.Continues number) :
    loop.Reaches (number + 1) := by
  intro earlier before
  rcases Nat.lt_succ_iff_lt_or_eq.mp before with earlier | rfl
  · exact reaches _ earlier
  · exact continues

/-- The calls that the loop gets as far as making are behind it after as many rounds. -/
theorem run_of_reaches (loop : RetryLoop Value Failure) (number rest : Nat)
    (reaches : loop.Reaches number) :
    loop.run (number + rest) =
        (loop.runFrom rest (loop.progressAt number)).map (.after (loop.account number)) ∧
      loop.observed (number + rest) =
        loop.account number ++ loop.stepsWithin rest (loop.progressAt number) := by
  -- The number of rounds that are left is general: the next call takes one of them.
  induction number generalizing rest with
  | zero =>
      rw [Nat.zero_add, progressAt_zero]
      constructor
      · exact Option.map_id'.symm
      · rfl
  | succ number inductionHypothesis =>
      have continues := reaches number (Nat.lt_succ_self number)
      obtain ⟨ran, seen⟩ := inductionHypothesis (rest + 1)
        fun earlier before => reaches earlier (Nat.lt_succ_of_lt before)
      have shift : number + 1 + rest = number + (rest + 1) := by omega
      rw [shift, ran, seen, account_succ, List.append_assoc]
      simp only [runFrom, stepsWithin, round_of_continues continues]
      constructor
      · cases loop.runFrom rest (loop.progressAt (number + 1)) with
        | none => rfl
        | some report => simp [RetryReport.after, List.append_assoc]
      · trivial

theorem reaches_or_stops (loop : RetryLoop Value Failure) (limit : Nat) :
    loop.Reaches limit ∨ ∃ last < limit, loop.Reaches last ∧ ¬ loop.Continues last := by
  induction limit with
  | zero => exact Or.inl fun _ before => absurd before (Nat.not_lt_zero _)
  | succ limit inductionHypothesis =>
      rcases inductionHypothesis with reaches | ⟨last, before, reaches, ceases⟩
      · by_cases continues : loop.Continues limit
        · exact Or.inl (reaches.succ continues)
        · exact Or.inr ⟨limit, Nat.lt_succ_self limit, reaches, continues⟩
      · exact Or.inr ⟨last, Nat.lt_succ_of_lt before, reaches, ceases⟩

theorem run_of_last (loop : RetryLoop Value Failure) {last limit : Nat}
    (within : last < limit) (reaches : loop.Reaches last) (ceases : ¬ loop.Continues last) :
    loop.run limit =
        some ⟨(loop.aftermath last).cutShort, loop.conclusion last, loop.account (last + 1)⟩ ∧
      loop.observed limit = loop.account (last + 1) := by
  obtain ⟨rest, rfl⟩ := Nat.exists_eq_add_of_lt within
  rw [account_succ, Nat.add_assoc]
  obtain ⟨ran, seen⟩ := loop.run_of_reaches last (rest + 1) reaches
  simp only [runFrom, stepsWithin, round_of_not_continues ceases] at ran seen
  exact ⟨ran, seen⟩

/-- A loop that gets as far as `limit` calls makes more than these. -/
theorem run_of_reaches_limit (loop : RetryLoop Value Failure) {limit : Nat}
    (reaches : loop.Reaches limit) :
    loop.run limit = none ∧ loop.observed limit = loop.account limit := by
  obtain ⟨ran, seen⟩ := loop.run_of_reaches limit 0 reaches
  simp only [Nat.add_zero, runFrom, stepsWithin, Option.map_none, List.append_nil] at ran seen
  exact ⟨ran, seen⟩

end RetryLoop

end DecisionWorker

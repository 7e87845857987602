import DecisionWorker.Proofs.Retry.History

set_option autoImplicit false

/-!
What cancelling its token does to a retry loop.

The loop keeps to the timeline of the same loop with a token that is never cancelled. It
leaves the timeline with the first call from which it does not go on, either because the
loop is over or because the token is cancelled by the time the next call would start.
-/

namespace DecisionWorker

namespace RetryLoop

variable {Value Failure : Type}

/-- The same loop, with a token that is never cancelled. -/
def uncancelled (loop : RetryLoop Value Failure) : RetryLoop Value Failure :=
  { loop with
    cancelAt := none
    call := fun number => { loop.call number with cancels := false } }

def callsWithin (loop : RetryLoop Value Failure) (limit : Nat) : List Instant :=
  (loop.observed limit).filterMap RetryStep.called?

/-- Whether the token is cancelled by some moment, from outside or by a call that was made
and that has ended. -/
def TokenCancelled (loop : RetryLoop Value Failure) (limit : Nat) (moment : Instant) : Prop :=
  cancelledBy loop.cancelAt moment = true ∨
    ∃ number begun, (loop.callsWithin limit)[number]? = some begun ∧
      (loop.call number).cancels = true ∧
      begun + (loop.call number).latency.roundUp ≤ moment

theorem TokenCancelled.mono {loop : RetryLoop Value Failure} {limit : Nat}
    {moment later : Instant} (ordered : moment ≤ later)
    (cancelled : loop.TokenCancelled limit moment) : loop.TokenCancelled limit later := by
  rcases cancelled with outside | ⟨number, begun, called, cancels, ended⟩
  · exact Or.inl (cancelledBy_mono ordered outside)
  · exact Or.inr ⟨number, begun, called, cancels, Nat.le_trans ended ordered⟩

/-- How far a loop gets in its first `limit` rounds, and what becomes of it there. -/
inductive Makes (loop : RetryLoop Value Failure) (limit : Nat) : Nat → Prop where
  | unfinished (reaches : loop.Reaches limit) (ran : loop.run limit = none)
      (seen : loop.observed limit = loop.account limit) : loop.Makes limit limit
  | finished {last : Nat} (within : last < limit) (reaches : loop.Reaches last)
      (ceases : ¬ loop.Continues last)
      (ran : loop.run limit =
        some ⟨(loop.aftermath last).cutShort, loop.conclusion last, loop.account (last + 1)⟩)
      (seen : loop.observed limit = loop.account (last + 1)) : loop.Makes limit (last + 1)

theorem exists_makes (loop : RetryLoop Value Failure) (limit : Nat) :
    ∃ made, loop.Makes limit made := by
  rcases loop.reaches_or_stops limit with reaches | ⟨last, within, reaches, ceases⟩
  · obtain ⟨ran, seen⟩ := loop.run_of_reaches_limit reaches
    exact ⟨limit, .unfinished reaches ran seen⟩
  · obtain ⟨ran, seen⟩ := loop.run_of_last within reaches ceases
    exact ⟨last + 1, .finished within reaches ceases ran seen⟩

theorem uncancelled_elapsed (loop : RetryLoop Value Failure) (number : Nat) :
    loop.uncancelled.elapsed number = loop.elapsed number := by
  induction number with
  | zero => rfl
  | succ number inductionHypothesis =>
      rw [elapsed, inductionHypothesis]
      rfl

theorem uncancelled_aftermath (loop : RetryLoop Value Failure) (number : Nat) :
    loop.uncancelled.aftermath number = loop.aftermath number := by
  rw [aftermath, uncancelled_elapsed]
  rfl

theorem Continues.uncancelled {loop : RetryLoop Value Failure} {number : Nat}
    (continues : loop.Continues number) : loop.uncancelled.Continues number := by
  apply continues_of_uncancelled
  · rfl
  · rfl
  · rw [uncancelled_aftermath]
    exact continues.1

namespace Makes

variable {loop : RetryLoop Value Failure} {limit made : Nat}

theorem seen_eq (makes : loop.Makes limit made) : loop.observed limit = loop.account made := by
  cases makes with
  | unfinished _ _ seen => exact seen
  | finished _ _ _ _ seen => exact seen

theorem call_iff (makes : loop.Makes limit made) {number : Nat} {begun : Instant} :
    (loop.callsWithin limit)[number]? = some begun ↔
      number < made ∧ begun = loop.starts number := by
  rw [callsWithin, makes.seen_eq, called_account, List.getElem?_map]
  by_cases before : number < made
  · simp [before, eq_comm]
  · simp [before]

theorem reaches (makes : loop.Makes limit made) {number : Nat} (called : number < made) :
    loop.Reaches number := by
  intro earlier before
  cases makes with
  | unfinished reaches => exact reaches earlier (Nat.lt_trans before called)
  | finished _ reaches =>
      exact reaches earlier (Nat.lt_of_lt_of_le before (Nat.le_of_lt_succ called))

/-- Only the last call that is made can be one from which the loop does not go on. -/
theorem eq_succ_of_not_continues (makes : loop.Makes limit made) {number : Nat}
    (called : number < made) (ceases : ¬ loop.Continues number) : made = number + 1 := by
  by_contra more
  exact ceases (makes.reaches (by omega) number (Nat.lt_succ_self number))

theorem run_of_not_continues (makes : loop.Makes limit made) {number : Nat}
    (called : number < made) (ceases : ¬ loop.Continues number) :
    loop.run limit =
      some ⟨(loop.aftermath number).cutShort, loop.conclusion number, loop.observed limit⟩ := by
  have last := makes.eq_succ_of_not_continues called ceases
  cases makes with
  | unfinished reaches => exact absurd (reaches number called) ceases
  | finished _ _ _ ran seen =>
      cases last
      rw [ran, seen]

end Makes

end RetryLoop

end DecisionWorker

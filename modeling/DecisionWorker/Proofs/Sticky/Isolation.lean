import DecisionWorker.Proofs.Sticky.Releases

set_option autoImplicit false

/-!
What the users of a cache see of it, whatever its dispatcher does.

A user sees the reply to each use and the states that are disposed meanwhile. `Standing.sights`
says what there is to see of a cache that has neither a dispatcher nor a clock, and
`sights_eq` that nobody sees anything else.
-/

namespace DecisionWorker

variable {State : Type}

inductive CacheUse (State : Type) where
  | operate (operation : CacheOperation State)
  | crashInserting (crash : Crash)
  | drop

/-- What a user sees of a use: the reply, and the states disposed in order, each with the length
of the cache that it sees. -/
structure Sight (State : Type) where
  reply : CacheReply State
  disposed : List (State × Option Nat)
  deriving DecidableEq

def StickyMove.use? : StickyMove State → Option (CacheUse State)
  | .operate operation => some (.operate operation)
  | .crashInserting crash => some (.crashInserting crash)
  | .drop => some .drop
  | .dispatch | .pass _ | .settle | .advance _ => none

def usesIn (moves : List (StickyMove State)) : List (CacheUse State) :=
  moves.filterMap StickyMove.use?

def CacheEffect.disposal? : CacheEffect State → Option (State × Option Nat)
  | .disposed state length => some (state, length)
  | _ => none

def StickyEvent.disposal? : StickyEvent State → Option (State × Option Nat)
  | .effect happened => happened.disposal?
  | .dispatched _ => none

def StickyOutcome.sight (outcome : StickyOutcome State) : Sight State :=
  ⟨outcome.reply, outcome.effects.filterMap CacheEffect.disposal?⟩

def StickyResult.sight (result : StickyResult State) : Sight State :=
  ⟨result.reply, result.trace.filterMap fun event => event.2.disposal?⟩

namespace StickyCache

/-- To hand over a notice disposes nothing, whether or not anyone takes it. -/
theorem disposals_notifyAll (dispatcher : Dispatcher) (evicted : Option (Entry State)) :
    (notifyAll dispatcher evicted).2.filterMap CacheEffect.disposal? = [] := by
  cases evicted with
  | none => rfl
  | some entry =>
      simp only [notifyAll, notify]
      split <;> rfl

variable [DecidableEq State]

def use (sticky : StickyCache State) : CacheUse State → StickyOutcome State
  | .operate operation => sticky.perform operation
  | .crashInserting crash => sticky.crashInserting crash
  | .drop => sticky.drop

theorem sight_performLive (dispatcher other : Dispatcher) (cache : Cache State)
    (operation : CacheOperation State) :
    (performLive dispatcher cache operation).sight = (performLive other cache operation).sight := by
  simp only [performLive, StickyOutcome.sight, List.filterMap_append, disposals_notifyAll]

/-- What a use does to the cache and what there is to see of it has nothing to do with the
dispatcher. -/
theorem use_congr {sticky other : StickyCache State} (same : sticky.standing = other.standing)
    (use : CacheUse State) :
    (sticky.use use).sticky.standing = (other.use use).sticky.standing ∧
      (sticky.use use).sight = (other.use use).sight := by
  obtain ⟨standing, dispatcher⟩ := sticky
  obtain ⟨_, otherDispatcher⟩ := other
  subst same
  cases use with
  | operate operation =>
      cases standing with
      | live cache => exact ⟨rfl, sight_performLive dispatcher otherDispatcher cache operation⟩
      | poisoned => cases operation <;> exact ⟨rfl, rfl⟩
      | dropped => exact ⟨rfl, rfl⟩
  | crashInserting crash => cases standing <;> exact ⟨rfl, rfl⟩
  | drop => cases standing <;> exact ⟨rfl, rfl⟩

end StickyCache

namespace Standing

variable [DecidableEq State]

/-- A use of a cache whose dispatcher never does anything. -/
def use (standing : Standing State) (use : CacheUse State) : StickyOutcome State :=
  (StickyCache.mk standing .start).use use

def sights (standing : Standing State) : List (CacheUse State) → List (Sight State)
  | [] => []
  | first :: rest =>
      (standing.use first).sight :: sights (standing.use first).sticky.standing rest

def after (standing : Standing State) (uses : List (CacheUse State)) : Standing State :=
  uses.foldl (fun current use => (current.use use).sticky.standing) standing

end Standing

namespace StickyMoment

theorem sight_operated (now : Instant) (outcome : StickyOutcome State) :
    (operated now outcome).sight = outcome.sight := by
  simp only [operated, StickyResult.sight, StickyOutcome.sight, List.filterMap_map]
  rfl

theorem background_of_use?_eq_none {move : StickyMove State} (unused : move.use? = none) :
    move.Background := by
  cases move with
  | operate | crashInserting | drop => cases unused
  | dispatch | pass | settle | advance => trivial

variable [DecidableEq State]

def sights (service : ResetService) (moment : StickyMoment State) :
    List (StickyMove State) → List (Sight State)
  | [] => []
  | first :: rest =>
      let moved := moment.move service first
      (first.use?.map fun _ => moved.sight).toList ++ sights service moved.after rest

theorem move_of_use (service : ResetService) (moment : StickyMoment State)
    {move : StickyMove State} {use : CacheUse State} (used : move.use? = some use) :
    (moment.move service move).after.sticky.standing =
        (moment.sticky.standing.use use).sticky.standing ∧
      (moment.move service move).sight = (moment.sticky.standing.use use).sight := by
  have alone : moment.sticky.standing = (StickyCache.mk moment.sticky.standing .start).standing :=
    rfl
  cases move with
  | operate operation =>
      cases used
      obtain ⟨standing, sight⟩ := StickyCache.use_congr alone (.operate operation)
      exact ⟨standing, (sight_operated _ _).trans sight⟩
  | crashInserting crash =>
      cases used
      obtain ⟨standing, sight⟩ := StickyCache.use_congr alone (.crashInserting crash)
      exact ⟨standing, (sight_operated _ _).trans sight⟩
  | drop =>
      cases used
      obtain ⟨standing, sight⟩ := StickyCache.use_congr alone .drop
      exact ⟨standing, (sight_operated _ _).trans sight⟩
  | dispatch | pass | settle | advance => cases used

theorem standing_run (service : ResetService) (moment : StickyMoment State)
    (moves : List (StickyMove State)) :
    (moment.run service moves).1.sticky.standing =
      moment.sticky.standing.after (usesIn moves) := by
  induction moves generalizing moment with
  | nil => rfl
  | cons first rest inductionHypothesis =>
      simp only [run, inductionHypothesis]
      cases used : first.use? with
      | none =>
          rw [standing_move_of_background service moment (background_of_use?_eq_none used)]
          simp only [usesIn, List.filterMap_cons, used]
      | some use =>
          rw [(moment.move_of_use service used).1]
          simp only [usesIn, List.filterMap_cons, used]
          rfl

theorem sights_eq (service : ResetService) (moment : StickyMoment State)
    (moves : List (StickyMove State)) :
    moment.sights service moves = moment.sticky.standing.sights (usesIn moves) := by
  induction moves generalizing moment with
  | nil => rfl
  | cons first rest inductionHypothesis =>
      simp only [sights, inductionHypothesis]
      cases used : first.use? with
      | none =>
          rw [standing_move_of_background service moment (background_of_use?_eq_none used)]
          simp only [usesIn, List.filterMap_cons, used, Option.map_none, Option.toList_none,
            List.nil_append]
      | some use =>
          obtain ⟨standing, sight⟩ := moment.move_of_use service used
          rw [standing, sight]
          simp only [usesIn, List.filterMap_cons, used, Option.map_some, Option.toList_some,
            List.singleton_append]
          rfl

/-- Two runs in which the users do the same look the same to them, whatever the service does in
each, however long the calls may take, and whenever the dispatcher and the clock move. -/
theorem users_see_nothing_of_resets {first second : ResetService} {capacity : Nat}
    {runtime otherRuntime : Bool} {sticky other : StickyCache State}
    (created : StickyCache.create capacity first.timeout runtime = .ok sticky)
    (createdToo : StickyCache.create capacity second.timeout otherRuntime = .ok other)
    {moves others : List (StickyMove State)} (same : usesIn moves = usesIn others) :
    let left := ((start sticky).run first moves).1
    let right := ((start other).run second others).1
    (start sticky).sights first moves = (start other).sights second others ∧
      left.sticky.standing = right.sticky.standing ∧
      ∀ move, move.Background →
        (left.move first move).after.sticky.standing = left.sticky.standing ∧
          disposalsIn (left.move first move).trace = [] := by
  intro left right
  obtain ⟨-, rfl⟩ := StickyCache.eq_of_create created
  obtain ⟨-, rfl⟩ := StickyCache.eq_of_create createdToo
  refine ⟨?_, ?_, fun move background => ⟨?_, ?_⟩⟩
  · rw [sights_eq, sights_eq, same]
  · rw [standing_run, standing_run, same]
  · exact standing_move_of_background first left background
  · exact disposalsIn_move_of_background first left background

/-- In one run the first call crashes and nobody takes the second notice, in the other one the
service never answers. -/
theorem users_see_nothing_of_resets_after_crash :
    let first : ExecutionKey := ⟨"first", "run", by decide, by decide⟩
    let second : ExecutionKey := ⟨"second", "run", by decide, by decide⟩
    let crashing : ResetService := ⟨.ofSeconds 10, fun _ => ⟨some .zero, .crash⟩⟩
    let silent : ResetService := ⟨.ofSeconds 1, fun _ => ⟨none, .success⟩⟩
    let sticky : StickyCache Nat := ⟨.live (.empty 1), .start⟩
    let fill : List (StickyMove Nat) :=
      [.operate (.put first 1 "tasks"), .operate (.put second 2 "tasks")]
    let again : List (StickyMove Nat) := [.operate (.put first 3 "tasks"), .operate (.get second)]
    let moves := fill ++ [.settle] ++ again
    let others := fill ++ again ++ [.advance (.ofSeconds 1), .dispatch]
    let seen : List (Sight Nat) :=
      [⟨.evicted none, []⟩, ⟨.evicted (some first), [(1, some 1)]⟩,
        ⟨.evicted (some second), [(2, some 1)]⟩, ⟨.state none, []⟩]
    StickyCache.create 1 crashing.timeout true = .ok sticky ∧
      StickyCache.create 1 silent.timeout true = .ok sticky ∧
      usesIn moves = usesIn others ∧
      ((start sticky).run crashing moves).1.sticky.dispatcher.phase = .crashed ∧
      (start sticky).sights crashing moves = seen ∧ (start sticky).sights silent others = seen := by
  intro first second crashing silent sticky fill again moves others seen
  have created : StickyCache.create 1 crashing.timeout true = .ok sticky := rfl
  have createdToo : StickyCache.create 1 silent.timeout true = .ok sticky := rfl
  have same : usesIn moves = usesIn others := rfl
  have sights : (start sticky).sights crashing moves = seen := by decide +kernel
  have general := users_see_nothing_of_resets created createdToo same
  exact ⟨created, createdToo, same, by decide +kernel, sights, general.1.symm.trans sights⟩

end StickyMoment

end DecisionWorker

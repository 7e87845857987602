import DecisionWorker.Proofs.Cache.Generations
import DecisionWorker.Proofs.Sticky.Notices
import Mathlib.Algebra.Ring.Nat
import Mathlib.Data.List.Induction

set_option autoImplicit false

/-!
A notice is stale exactly while its key is cached again.

Staleness compares generations, and for generations picked at random it would mean nothing.
In a run, however, whatever is cached under the key of a pending notice was stored after the
entry that the notice is about. `Chronological` says so, and every move keeps it, whatever
becomes of the calls.

So a notice is found fresh only while its key is not cached. The call comes after the check,
and its key may be cached again by then: `Overtaken` says how.
-/

namespace DecisionWorker

variable {State : Type}

def StickyMove.insertions : StickyMove State → Nat
  | .operate operation => operation.insertions
  | _ => 0

namespace StickyCache

theorem pending_notifyAll {dispatcher : Dispatcher} {evicted : Option (Entry State)}
    {eviction : Eviction} (waits : eviction ∈ (notifyAll dispatcher evicted).1.pending) :
    eviction ∈ dispatcher.pending ∨ ∃ entry, evicted = some entry ∧ entry.eviction = eviction := by
  cases evicted with
  | none => exact .inl waits
  | some entry =>
      by_cases running : dispatcher.running = true
      · rw [notifyAll_of_running running] at waits
        have listed : eviction ∈ dispatcher.pending ++ [entry.eviction] := by
          simpa [Dispatcher.pending] using waits
        rcases List.mem_append.mp listed with before | new
        · exact .inl before
        · exact .inr ⟨entry, rfl, (List.mem_singleton.mp new).symm⟩
      · left
        simpa [notifyAll, notify, Dispatcher.send?, running] using waits

/-- What is cached is numbered in the order of the insertions, and every pending notice is
about an earlier one than what is cached under its key. -/
structure Chronological (sticky : StickyCache State) : Prop where
  sound : ∀ {cache}, sticky.standing = .live cache → cache.Sound
  numbered : ∀ {cache}, sticky.standing = .live cache → cache.Numbered
  outlived : ∀ {cache}, sticky.standing = .live cache →
    ∀ eviction ∈ sticky.dispatcher.pending, cache.Outlived eviction

theorem chronological_of_create {capacity : Nat} {timeout : Duration} {runtime : Bool}
    {sticky : StickyCache State} (created : create capacity timeout runtime = .ok sticky) :
    sticky.Chronological := by
  obtain ⟨positive, rfl⟩ := eq_of_create created
  constructor
  · rintro cache ⟨⟩
    exact Cache.empty_sound positive
  · rintro cache ⟨⟩
    exact Cache.numbered_empty capacity
  · intro cache _ eviction waits
    cases waits

theorem chronological_of_gone {standing : Standing State} {dispatcher : Dispatcher}
    (gone : ∀ cache, standing ≠ .live cache) :
    (StickyCache.mk standing dispatcher).Chronological where
  sound live := absurd live (gone _)
  numbered live := absurd live (gone _)
  outlived live := absurd live (gone _)

theorem Chronological.dispatch {standing : Standing State} {now : Instant}
    {service : ResetService} {dispatcher next : Dispatcher} {happened : DispatchStep}
    (ordered : (StickyCache.mk standing dispatcher).Chronological)
    (moved : Dispatcher.Moves service standing.view now dispatcher next happened) :
    (StickyCache.mk standing next).Chronological where
  sound := ordered.sound
  numbered := ordered.numbered
  outlived live eviction waits := ordered.outlived live eviction (moved.pending waits)

theorem Chronological.stale_iff {sticky : StickyCache State} (ordered : sticky.Chronological)
    {cache : Cache State} (live : sticky.standing = .live cache) {eviction : Eviction}
    (waits : eviction ∈ sticky.dispatcher.pending) :
    sticky.stale eviction = true ↔ eviction.key ∈ cache.keys := by
  have outlived := ordered.outlived live eviction waits
  rw [← Cache.isSome_find?_iff]
  simp only [stale, live]
  cases found : cache.find? eviction.key with
  | none => simp
  | some entry => simpa using outlived.older found

theorem Chronological.cached?_of_fresh {sticky : StickyCache State}
    (ordered : sticky.Chronological) {eviction : Eviction}
    (waits : eviction ∈ sticky.dispatcher.pending) (fresh : sticky.stale eviction = false) :
    sticky.cached? eviction.key = none := by
  cases standing : sticky.standing with
  | live cache =>
      rw [cached?_of_live standing, ← Option.not_isSome_iff_eq_none, Cache.isSome_find?_iff,
        ← ordered.stale_iff standing waits, fresh]
      exact Bool.false_ne_true
  | poisoned | dropped => simp only [cached?, standing]

variable [DecidableEq State]

theorem Chronological.performLive {dispatcher : Dispatcher} {cache : Cache State}
    (ordered : (StickyCache.mk (.live cache) dispatcher).Chronological)
    (operation : CacheOperation State) :
    (performLive dispatcher cache operation).sticky.Chronological := by
  have sound := ordered.sound rfl
  have numbered := ordered.numbered rfl
  constructor
  · rintro next ⟨⟩
    exact Cache.perform_sound sound operation
  · rintro next ⟨⟩
    exact numbered.perform sound operation
  · rintro next ⟨⟩ eviction waits
    rcases pending_notifyAll waits with before | ⟨entry, evicted, rfl⟩
    · exact (ordered.outlived rfl eviction before).perform sound operation
    · exact Cache.outlived_of_evicted numbered sound evicted

theorem Chronological.perform {sticky : StickyCache State} (ordered : sticky.Chronological)
    (operation : CacheOperation State) : (sticky.perform operation).sticky.Chronological := by
  obtain ⟨standing, dispatcher⟩ := sticky
  cases standing with
  | live cache => exact ordered.performLive operation
  | poisoned => cases operation <;> exact ordered
  | dropped => exact ordered

end StickyCache

namespace StickyMoment

/-- A notice is skipped only while its key is cached, and found fresh only while it is not. -/
def RightlyChecked (cache : Cache State) : StickyEvent State → Prop
  | .dispatched (.skipped eviction) => eviction.key ∈ cache.keys
  | .dispatched (.checked eviction) => eviction.key ∉ cache.keys
  | _ => True

theorem keptInBackground_rightlyChecked (service : ResetService) (cache : Cache State) :
    KeptInBackground service fun (moment : StickyMoment State) trace =>
      moment.sticky.standing = .live cache ∧ moment.sticky.Chronological ∧
        ∀ event ∈ trace, RightlyChecked cache event.2 where
  dispatch {now standing dispatcher next happened trace} before moved := by
    obtain ⟨live, ordered, earlier⟩ := before
    refine ⟨live, ordered.dispatch moved, ?_⟩
    intro event member
    rcases List.mem_append.mp member with inTrace | last
    · exact earlier event inTrace
    · rw [List.mem_singleton.mp last]
      cases moved with
      | skip stale => exact (ordered.stale_iff live List.mem_cons_self).mp stale
      | check fresh =>
          intro cached
          have stale := (ordered.stale_iff live List.mem_cons_self).mpr cached
          exact Bool.false_ne_true (fresh.symm.trans stale)
      | call | finish | crash | stop => trivial
  pass before _ := before

/-- What a dispatcher does from a given phase on, while nobody uses the cache: it checks a
notice before it calls. -/
structure ChecksFirst (phase : DispatcherPhase) (sticky : StickyCache State)
    (steps : List DispatchStep) : Prop where
  ahead : ∀ {eviction}, sticky.dispatcher.phase = .checked eviction →
    steps = [] ∧ phase = .checked eviction ∨ sticky.cached? eviction.key = none
  begun : ∀ {eviction}, .called eviction ∈ steps →
    phase = .checked eviction ∨ sticky.cached? eviction.key = none

theorem keptInBackground_checksFirst (service : ResetService) (phase : DispatcherPhase) :
    KeptInBackground service fun (moment : StickyMoment State) trace =>
      moment.sticky.Chronological ∧ ChecksFirst phase moment.sticky (stepsIn trace) where
  dispatch {now standing dispatcher next happened trace} before moved := by
    obtain ⟨ordered, checks⟩ := before
    refine ⟨ordered.dispatch moved, ?_⟩
    rw [stepsIn_append, stepsIn_dispatched]
    -- Only a check leads to a notice that waits for its call.
    cases moved with
    | @check checked rest calls fresh =>
        constructor
        · rintro _ ⟨⟩
          exact .inr (ordered.cached?_of_fresh List.mem_cons_self fresh)
        · intro eviction called
          exact checks.begun (by simpa using called)
    | @call checked queue calls =>
        refine ⟨nofun, ?_⟩
        intro eviction called
        rcases List.mem_append.mp called with before | now
        · exact checks.begun before
        · cases List.mem_singleton.mp now
          exact (checks.ahead rfl).imp And.right id
    | skip | finish | crash | stop =>
        refine ⟨nofun, ?_⟩
        intro eviction called
        exact checks.begun (by simpa using called)
  pass before _ := before

variable [DecidableEq State]

theorem kept_chronological (service : ResetService) :
    Kept service fun (moment : StickyMoment State) _ => moment.sticky.Chronological where
  dispatch ordered moved := ordered.dispatch moved
  pass ordered _ := ordered
  operate operation ordered := ordered.perform operation
  crashInserting {moment} _ crash ordered := by
    obtain ⟨now, standing, dispatcher⟩ := moment
    cases standing with
    | live cache => exact StickyCache.chronological_of_gone nofun
    | poisoned => exact ordered
    | dropped => exact ordered
  drop _ := StickyCache.chronological_of_gone nofun

theorem chronological_run (service : ResetService) {moment : StickyMoment State}
    (ordered : moment.sticky.Chronological) (moves : List (StickyMove State)) :
    (moment.run service moves).1.sticky.Chronological :=
  (kept_chronological service).run ordered moves

theorem chronological_move (service : ResetService) {moment : StickyMoment State}
    (ordered : moment.sticky.Chronological) (move : StickyMove State) :
    (moment.move service move).after.sticky.Chronological :=
  chronological_run service ordered [move]

theorem rightlyChecked_move {service : ResetService} {moment : StickyMoment State}
    (ordered : moment.sticky.Chronological) {cache : Cache State}
    (live : moment.sticky.standing = .live cache) (move : StickyMove State) :
    ∀ event ∈ (moment.move service move).trace, RightlyChecked cache event.2 := by
  by_cases background : move.Background
  · have before : moment.sticky.standing = .live cache ∧ moment.sticky.Chronological ∧
        ∀ event ∈ ([] : StickyTrace State), RightlyChecked cache event.2 :=
      ⟨live, ordered, nofun⟩
    exact ((keptInBackground_rightlyChecked service cache).move before background).2.2
  · intro event member
    obtain ⟨effect, happened⟩ := effects_of_use service moment background event member
    rw [happened]
    trivial

theorem checksFirst_move (service : ResetService) {moment : StickyMoment State}
    (ordered : moment.sticky.Chronological) {move : StickyMove State}
    (background : move.Background) :
    let moved := moment.move service move
    ChecksFirst moment.sticky.dispatcher.phase moved.after.sticky (stepsIn moved.trace) := by
  have before : moment.sticky.Chronological ∧
      ChecksFirst moment.sticky.dispatcher.phase moment.sticky
        (stepsIn ([] : StickyTrace State)) :=
    ⟨ordered, fun phase => .inl ⟨rfl, phase⟩, nofun⟩
  exact ((keptInBackground_checksFirst service _).move before background).2

theorem put_of_cached {service : ResetService} {moment : StickyMoment State}
    (ordered : moment.sticky.Chronological) {moves : List (StickyMove State)}
    {key : ExecutionKey} (absent : moment.sticky.cached? key = none) {entry : Entry State}
    (cached : (moment.run service moves).1.sticky.cached? key = some entry) :
    ∃ state taskList, .operate (.put key state taskList) ∈ moves := by
  induction moves generalizing moment with
  | nil =>
      rw [run, absent] at cached
      cases cached
  | cons first rest inductionHypothesis =>
      have orderedNext := chronological_move service ordered first
      cases next : (moment.move service first).after.sticky.cached? key with
      | none =>
          obtain ⟨state, taskList, member⟩ := inductionHypothesis orderedNext next cached
          exact ⟨state, taskList, List.mem_cons_of_mem _ member⟩
      | some stored =>
          obtain ⟨cache, live⟩ := StickyCache.live_of_cached next
          obtain ⟨before, was, ⟨operation, rfl, rfl⟩ | ⟨-, rfl⟩⟩ := live_cases live
          · rw [StickyCache.cached?_of_live live] at next
            rw [StickyCache.cached?_of_live was] at absent
            rcases Cache.find?_perform (ordered.sound was) next with earlier | rfl
            · rw [absent] at earlier
              cases earlier
            · exact ⟨stored.state, stored.taskList, List.mem_cons_self⟩
          · rw [StickyCache.cached?_of_live live, ← StickyCache.cached?_of_live was, absent] at next
            cases next

/-- The run to a moment at which a call is about to begin, from the check on. -/
structure CheckedAt (service : ResetService) (origin : StickyMoment State)
    (earlier later : List (StickyMove State)) (eviction : Eviction) : Prop where
  phase : (origin.run service earlier).1.sticky.dispatcher.phase = .checked eviction
  absent : (origin.run service earlier).1.sticky.cached? eviction.key = none
  idle : stepsIn ((origin.run service earlier).1.run service later).2 = []

theorem CheckedAt.concat {service : ResetService} {origin : StickyMoment State}
    {earlier later : List (StickyMove State)} {eviction : Eviction}
    (checked : CheckedAt service origin earlier later eviction) {move : StickyMove State}
    (idle : stepsIn ((origin.run service (earlier ++ later)).1.move service move).trace = []) :
    CheckedAt service origin earlier (later ++ [move]) eviction where
  phase := checked.phase
  absent := checked.absent
  idle := by
    rw [run_append] at idle
    rw [run_append, stepsIn_append, checked.idle]
    simpa [run] using idle

theorem exists_checkedAt {service : ResetService} {origin : StickyMoment State}
    (ordered : origin.sticky.Chronological)
    (waits : origin.sticky.dispatcher.phase = .waiting) {moves : List (StickyMove State)}
    {eviction : Eviction}
    (phase : (origin.run service moves).1.sticky.dispatcher.phase = .checked eviction) :
    ∃ earlier later, moves = earlier ++ later ∧
      CheckedAt service origin earlier later eviction := by
  induction moves using List.reverseRecOn with
  | nil =>
      rw [run, waits] at phase
      cases phase
  | append_singleton before last inductionHypothesis =>
      -- Either the notice was waiting for its call before the last move, or that move is the
      -- check.
      have continued : stepsIn ((origin.run service before).1.move service last).trace = [] →
          (origin.run service before).1.sticky.dispatcher.phase = .checked eviction →
          ∃ earlier later, before ++ [last] = earlier ++ later ∧
            CheckedAt service origin earlier later eviction := by
        intro idle waiting
        obtain ⟨earlier, later, rfl, checked⟩ := inductionHypothesis waiting
        exact ⟨earlier, later ++ [last], List.append_assoc _ _ _, checked.concat idle⟩
      have reached : (origin.run service (before ++ [last])).1 =
          ((origin.run service before).1.move service last).after := by
        rw [run_append]
        rfl
      by_cases background : last.Background
      · have checks :=
          checksFirst_move service (chronological_run service ordered before) background
        rcases checks.ahead (by rw [← reached]; exact phase) with ⟨idle, waiting⟩ | absent
        · exact continued idle waiting
        · refine ⟨before ++ [last], [], (List.append_nil _).symm, phase, ?_, rfl⟩
          rw [reached]
          exact absent
      · apply continued (stepsIn_of_use service _ background)
        rw [reached, phase_of_use service _ background] at phase
        exact phase

/-- A notice was found fresh while its key was not cached, and its key has been cached again
before the dispatcher could move on. -/
def Overtaken (service : ResetService) (origin : StickyMoment State)
    (moves : List (StickyMove State)) (eviction : Eviction) : Prop :=
  ∃ earlier later, moves = earlier ++ later ∧ CheckedAt service origin earlier later eviction ∧
    ∃ state taskList, .operate (.put eviction.key state taskList) ∈ later

theorem overtaken_of_called {service : ResetService} {origin : StickyMoment State}
    (ordered : origin.sticky.Chronological)
    (waits : origin.sticky.dispatcher.phase = .waiting) {moves : List (StickyMove State)}
    {move : StickyMove State} {eviction : Eviction} {entry : Entry State}
    (called : .called eviction ∈
      stepsIn ((origin.run service moves).1.move service move).trace)
    (cached : (origin.run service moves).1.sticky.cached? eviction.key = some entry) :
    Overtaken service origin moves eviction := by
  by_cases background : move.Background
  · have checks :=
      checksFirst_move service (chronological_run service ordered moves) background
    rcases checks.begun called with phase | absent
    · obtain ⟨earlier, later, rfl, checked⟩ := exists_checkedAt ordered waits phase
      rw [run_append] at cached
      exact ⟨earlier, later, rfl, checked,
        put_of_cached (chronological_run service ordered earlier) checked.absent cached⟩
    · rw [StickyCache.cached?_congr (standing_move_of_background service _ background),
        cached] at absent
      cases absent
  · rw [stepsIn_of_use service _ background] at called
    cases called

/-- A cache that is in use was in use before, and its counter has grown by the insertions. -/
theorem generation_move {service : ResetService} {moment : StickyMoment State}
    {move : StickyMove State} {cache : Cache State}
    (live : (moment.move service move).after.sticky.standing = .live cache) :
    ∃ before, moment.sticky.standing = .live before ∧
      cache.generation = before.generation + move.insertions := by
  obtain ⟨before, was, ⟨operation, rfl, rfl⟩ | ⟨background, rfl⟩⟩ := live_cases live
  · exact ⟨before, was, Cache.generation_perform before operation⟩
  · refine ⟨cache, was, ?_⟩
    cases move with
    | operate | crashInserting | drop => cases background
    | dispatch | pass | settle | advance => rfl

theorem generation_run {service : ResetService} {moment : StickyMoment State}
    {moves : List (StickyMove State)} {cache : Cache State}
    (live : (moment.run service moves).1.sticky.standing = .live cache) :
    ∃ before, moment.sticky.standing = .live before ∧
      cache.generation = before.generation + (moves.map StickyMove.insertions).sum := by
  induction moves generalizing moment with
  | nil => exact ⟨cache, live, rfl⟩
  | cons first rest inductionHypothesis =>
      obtain ⟨next, liveNext, later⟩ := inductionHypothesis live
      obtain ⟨before, liveBefore, now⟩ := generation_move liveNext
      refine ⟨before, liveBefore, ?_⟩
      rw [later, now, List.map_cons, List.sum_cons, Nat.add_assoc]

/-- The counter of a cache in use counts the insertions, generations never repeat, and a
notice is stale exactly while its key is cached again. It takes an insertion after the check
to make a call about a key that is cached. -/
theorem stale_exactly_while_cached_again {service : ResetService} {capacity : Nat}
    {runtime : Bool} {sticky : StickyCache State}
    (created : StickyCache.create capacity service.timeout runtime = .ok sticky)
    {moves : List (StickyMove State)} {cache : Cache State}
    (live : ((start sticky).run service moves).1.sticky.standing = .live cache) :
    let reached := ((start sticky).run service moves).1
    let dispatcher := reached.sticky.dispatcher
    cache.generation = (moves.map StickyMove.insertions).sum ∧
    (cache.entries.map Entry.generation).Nodup ∧
    (∀ entry ∈ cache.entries, entry.generation ≤ cache.generation) ∧
    (∀ eviction ∈ dispatcher.inFlight ++ dispatcher.queue, ∀ entry ∈ cache.entries,
      entry.key = eviction.key → eviction.generation < entry.generation) ∧
    (∀ eviction ∈ dispatcher.queue,
      reached.sticky.stale eviction = true ↔ eviction.key ∈ cache.keys) ∧
    (∀ move, ∀ event ∈ (reached.move service move).trace, RightlyChecked cache event.2) ∧
    (∀ move eviction, .called eviction ∈ stepsIn (reached.move service move).trace →
      eviction.key ∈ cache.keys → Overtaken service (start sticky) moves eviction) := by
  intro reached dispatcher
  have origin := StickyCache.chronological_of_create created
  have ordered : reached.sticky.Chronological := chronological_run service origin moves
  have sound := ordered.sound live
  have numbered := ordered.numbered live
  have cached : ∀ entry ∈ cache.entries, cache.find? entry.key = some entry :=
    fun entry member => sound.find?_eq_some_iff.mpr ⟨member, rfl⟩
  refine ⟨?_, numbered.nodup_generations sound, ?_, ?_, ?_, rightlyChecked_move ordered live, ?_⟩
  · obtain ⟨-, rfl⟩ := StickyCache.eq_of_create created
    obtain ⟨_, ⟨⟩, counted⟩ := generation_run live
    rw [counted]
    exact Nat.zero_add _
  · intro entry member
    exact numbered.bounded (cached entry member)
  · intro eviction waits entry member same
    apply (ordered.outlived live eviction waits).older
    rw [← same]
    exact cached entry member
  · intro eviction queued
    exact ordered.stale_iff live (List.mem_append_right _ queued)
  · intro move eviction called again
    obtain ⟨entry, found⟩ := Option.isSome_iff_exists.mp (Cache.isSome_find?_iff.mpr again)
    have waits : sticky.dispatcher.phase = .waiting := by
      obtain ⟨-, rfl⟩ := StickyCache.eq_of_create created
      rfl
    apply overtaken_of_called origin waits called
    rw [StickyCache.cached?_of_live live]
    exact found

/-- Two notices wait, and the key of the first one is cached again. -/
theorem stale_exactly_while_cached_again_for_one_of_two :
    let first : ExecutionKey := ⟨"first", "run", by decide, by decide⟩
    let second : ExecutionKey := ⟨"second", "run", by decide, by decide⟩
    let silent : ResetService := ⟨.ofSeconds 10, fun _ => ⟨none, .success⟩⟩
    let sticky : StickyCache Nat := ⟨.live (.empty 1), .start⟩
    let moves : List (StickyMove Nat) :=
      [.operate (.put first 1 "tasks"), .operate (.put second 2 "tasks"),
        .operate (.put first 3 "tasks")]
    let reached := ((start sticky).run silent moves).1
    let cache : Cache Nat := ⟨1, [⟨first, 3, "tasks", 3⟩], 3⟩
    StickyCache.create 1 silent.timeout true = .ok sticky ∧
      reached.sticky.standing = .live cache ∧
      reached.sticky.dispatcher.queue = [⟨first, "tasks", 1⟩, ⟨second, "tasks", 2⟩] ∧
      reached.sticky.stale ⟨first, "tasks", 1⟩ = true ∧
      ¬ reached.sticky.stale ⟨second, "tasks", 2⟩ = true := by
  intro first second silent sticky moves reached cache
  have created : StickyCache.create 1 silent.timeout true = .ok sticky := rfl
  have live : reached.sticky.standing = .live cache := by decide +kernel
  have queue : reached.sticky.dispatcher.queue =
      [⟨first, "tasks", 1⟩, ⟨second, "tasks", 2⟩] := by decide +kernel
  have general := (stale_exactly_while_cached_again created live).2.2.2.2.1
  refine ⟨created, live, queue, ?_, ?_⟩
  · apply (general ⟨first, "tasks", 1⟩ (by rw [queue]; decide)).mpr
    decide
  · intro stale
    exact absurd ((general ⟨second, "tasks", 2⟩ (by rw [queue]; decide)).mp stale) (by decide)

/-- The first key is cached again between the check of its notice and the call, and in a second
run before the check, of which nothing can be seen in a poisoned cache. -/
theorem called_about_cached_key :
    let first : ExecutionKey := ⟨"first", "run", by decide, by decide⟩
    let second : ExecutionKey := ⟨"second", "run", by decide, by decide⟩
    let silent : ResetService := ⟨.ofSeconds 10, fun _ => ⟨none, .success⟩⟩
    let sticky : StickyCache Nat := ⟨.live (.empty 1), .start⟩
    let put (key : ExecutionKey) (state : Nat) : StickyMove Nat :=
      .operate (.put key state "tasks")
    let cache : Cache Nat := ⟨1, [⟨first, 3, "tasks", 3⟩], 3⟩
    let overtaken :=
      ((start sticky).run silent [put first 1, put second 2, .dispatch, put first 3]).1
    let stored := ((start sticky).run silent [put first 1, put second 2, put first 3]).1
    let poisoned := (stored.move silent (.crashInserting ⟨"task list conversion"⟩)).after
    StickyCache.create 1 silent.timeout true = .ok sticky ∧ first ∈ cache.keys ∧
      overtaken.sticky.standing = .live cache ∧
      stepsIn (overtaken.move silent .dispatch).trace = [.called ⟨first, "tasks", 1⟩] ∧
      stored.sticky.standing = .live cache ∧
      stepsIn (poisoned.move silent .settle).trace =
        [.checked ⟨first, "tasks", 1⟩, .called ⟨first, "tasks", 1⟩] := by
  intro first second silent sticky put cache overtaken stored poisoned
  refine ⟨rfl, ?_, ?_, ?_, ?_, ?_⟩ <;> decide +kernel

end StickyMoment

end DecisionWorker

import DecisionWorker.Proofs.Sticky.Pipeline
import DecisionWorker.Proofs.Sticky.Staleness
import Mathlib.Data.List.Induction

set_option autoImplicit false

/-!
The generation of a notice is the number of a put.

`storedBy` reads off some moves what their puts store, counting from one, and `lastStored?` what a
key was given last; neither looks at the cache. An entry that makes room is what its key was given
last, so its notice bears the number of that put. The notices of different keys may come in any
order, because every get changes who has to make room next, but those of one key come in the order
of its puts: whatever is cached under a key is newer than all notices of the key so far.
-/

namespace DecisionWorker

variable {State : Type}

section Puts

def StickyMove.stored? : StickyMove State → Option (ExecutionKey × State × String)
  | .operate (.put key state taskList) => some (key, state, taskList)
  | _ => none

theorem stored?_of_background {move : StickyMove State} (background : move.Background) :
    move.stored? = none := by
  cases move with
  | operate => exact background.elim
  | crashInserting | drop | dispatch | pass | settle | advance => rfl

/-- What the puts among some moves store, each with its number, counted from one. -/
def storedBy (moves : List (StickyMove State)) : List (Entry State) :=
  ((moves.filterMap StickyMove.stored?).zipIdx 1).map fun put =>
    ⟨put.1.1, put.1.2.1, put.1.2.2, put.2⟩

def lastStored? (moves : List (StickyMove State)) (key : ExecutionKey) : Option (Entry State) :=
  (storedBy moves).reverse.find? fun entry => decide (entry.key = key)

theorem generations_storedBy (moves : List (StickyMove State)) :
    (storedBy moves).map Entry.generation = List.range' 1 (storedBy moves).length := by
  simp only [storedBy, List.map_map, List.length_map, List.length_zipIdx]
  exact List.zipIdx_map_snd 1 _

theorem storedBy_concat_put (moves : List (StickyMove State)) (key : ExecutionKey) (state : State)
    (taskList : String) :
    storedBy (moves ++ [.operate (.put key state taskList)]) =
      storedBy moves ++ [⟨key, state, taskList, (storedBy moves).length + 1⟩] := by
  simp [storedBy, StickyMove.stored?, List.zipIdx_append, Nat.add_comm]

theorem storedBy_concat_other (moves : List (StickyMove State)) {move : StickyMove State}
    (other : move.stored? = none) : storedBy (moves ++ [move]) = storedBy moves := by
  simp [storedBy, other]

theorem storedBy_subset_append (moves later : List (StickyMove State)) :
    storedBy moves ⊆ storedBy (moves ++ later) := by
  simp [storedBy, List.zipIdx_append]

theorem mem_of_lastStored? {moves : List (StickyMove State)} {key : ExecutionKey}
    {entry : Entry State} (last : lastStored? moves key = some entry) :
    entry ∈ storedBy moves ∧ entry.key = key := by
  refine ⟨?_, by simpa using List.find?_some last⟩
  exact List.mem_reverse.mp (List.mem_of_find?_eq_some last)

theorem lastStored?_concat_put (moves : List (StickyMove State)) (key : ExecutionKey)
    (state : State) (taskList : String) (other : ExecutionKey) :
    lastStored? (moves ++ [.operate (.put key state taskList)]) other =
      if key = other then some ⟨key, state, taskList, (storedBy moves).length + 1⟩
      else lastStored? moves other := by
  rw [lastStored?, storedBy_concat_put, List.reverse_append, List.reverse_singleton,
    List.singleton_append, List.find?_cons]
  by_cases same : key = other <;> simp [same, lastStored?]

theorem lastStored?_concat_other (moves : List (StickyMove State)) {move : StickyMove State}
    (other : move.stored? = none) : lastStored? (moves ++ [move]) = lastStored? moves := by
  funext key
  rw [lastStored?, storedBy_concat_other moves other, lastStored?]

/-- No number is given twice. -/
theorem eq_of_generation {moves : List (StickyMove State)} {entry twin : Entry State}
    (stored : entry ∈ storedBy moves) (storedToo : twin ∈ storedBy moves)
    (same : entry.generation = twin.generation) : entry = twin := by
  have distinct : ((storedBy moves).map Entry.generation).Nodup := by
    rw [generations_storedBy]
    exact List.nodup_range'
  exact List.inj_on_of_nodup_map distinct stored storedToo same

end Puts

/-- The notice that an effect makes out, whether or not anybody takes it. -/
def CacheEffect.evicted? : CacheEffect State → Option Eviction
  | .evicted eviction => some eviction
  | _ => none

def StickyEvent.evicted? : StickyEvent State → Option Eviction
  | .effect happened => happened.evicted?
  | .dispatched _ => none

def evictionsIn (trace : StickyTrace State) : List Eviction :=
  trace.filterMap fun event => event.2.evicted?

@[simp]
theorem evictionsIn_append (earlier later : StickyTrace State) :
    evictionsIn (earlier ++ later) = evictionsIn earlier ++ evictionsIn later :=
  List.filterMap_append

@[simp]
theorem evictionsIn_dispatched (now : Instant) (step : DispatchStep) :
    evictionsIn [((now, .dispatched step) : Instant × StickyEvent State)] = [] := rfl

@[simp]
theorem evictionsIn_effects (now : Instant) (effects : List (CacheEffect State)) :
    evictionsIn (effects.map fun effect => (now, .effect effect)) =
      effects.filterMap CacheEffect.evicted? := by
  simp only [evictionsIn, List.filterMap_map]
  rfl

/-- The notices of each key come in the order of its puts. -/
def ByGeneration (evictions : List Eviction) : Prop :=
  evictions.Pairwise fun earlier later =>
    earlier.key = later.key → earlier.generation < later.generation

theorem ByGeneration.concat {evictions : List Eviction} {last : Eviction}
    (ordered : ByGeneration evictions)
    (newest : ∀ earlier ∈ evictions, earlier.key = last.key →
      earlier.generation < last.generation) : ByGeneration (evictions ++ [last]) := by
  refine List.pairwise_append.mpr ⟨ordered, List.pairwise_singleton _ _, ?_⟩
  intro earlier member _ isLast
  rw [List.mem_singleton.mp isLast]
  exact newest earlier member

namespace StickyCache

theorem evicted_notifyAll (dispatcher : Dispatcher) (evicted : Option (Entry State)) :
    (notifyAll dispatcher evicted).2.filterMap CacheEffect.evicted? =
      (evicted.map Entry.eviction).toList := by
  cases evicted with
  | none => rfl
  | some entry =>
      simp only [notifyAll, notify]
      split <;> rfl

theorem queue_notifyAll (dispatcher : Dispatcher) (evicted : Option (Entry State)) :
    (notifyAll dispatcher evicted).1.queue =
      dispatcher.queue ++ (notifyAll dispatcher evicted).2.filterMap CacheEffect.queued? := by
  cases evicted with
  | none => simp [notifyAll]
  | some entry =>
      by_cases running : dispatcher.running = true <;>
        simp [notifyAll, notify, Dispatcher.send?, running, CacheEffect.queued?,
          List.filterMap_cons]

theorem evicted_drop (sticky : StickyCache State) :
    sticky.drop.effects.filterMap CacheEffect.evicted? = [] := by
  unfold drop
  split <;> simp [CacheEffect.evicted?]

variable [DecidableEq State]

theorem queued_performLive (dispatcher : Dispatcher) (cache : Cache State)
    (operation : CacheOperation State) :
    (performLive dispatcher cache operation).effects.filterMap CacheEffect.queued? =
      (notifyAll dispatcher (cache.perform operation).evicted).2.filterMap CacheEffect.queued? := by
  have effects : (performLive dispatcher cache operation).effects =
      (notifyAll dispatcher (cache.perform operation).evicted).2 ++
        releaseEffects cache operation := List.append_assoc _ _ _
  rw [effects, List.filterMap_append, queued_releaseEffects, List.append_nil]

theorem evicted_performLive (dispatcher : Dispatcher) (cache : Cache State)
    (operation : CacheOperation State) :
    (performLive dispatcher cache operation).effects.filterMap CacheEffect.evicted? =
      ((cache.perform operation).evicted.map Entry.eviction).toList := by
  have effects : (performLive dispatcher cache operation).effects =
      (notifyAll dispatcher (cache.perform operation).evicted).2 ++
        releaseEffects cache operation := List.append_assoc _ _ _
  have released : (releaseEffects cache operation).filterMap CacheEffect.evicted? = [] := by
    cases operation <;> simp [releaseEffects, CacheEffect.evicted?, List.filterMap_cons]
  rw [effects, List.filterMap_append, evicted_notifyAll, released, List.append_nil]

/-- Whatever becomes of a notice, it is made out before it is queued. -/
theorem queued_sublist_evicted (sticky : StickyCache State) (operation : CacheOperation State) :
    ((sticky.perform operation).effects.filterMap CacheEffect.queued?).Sublist
      ((sticky.perform operation).effects.filterMap CacheEffect.evicted?) := by
  obtain ⟨standing, dispatcher⟩ := sticky
  cases standing with
  | live cache =>
      simp only [perform, queued_performLive, evicted_performLive]
      cases (cache.perform operation).evicted with
      | none => exact List.Sublist.refl _
      | some entry =>
          simp only [notifyAll, notify]
          split
          · exact List.Sublist.refl _
          · exact List.nil_sublist _
  | poisoned => cases operation <;> exact List.Sublist.refl _
  | dropped => exact List.Sublist.refl _

theorem queue_perform (sticky : StickyCache State) (operation : CacheOperation State) :
    (sticky.perform operation).sticky.dispatcher.queue =
      sticky.dispatcher.queue ++
        (sticky.perform operation).effects.filterMap CacheEffect.queued? := by
  obtain ⟨standing, dispatcher⟩ := sticky
  cases standing with
  | live cache =>
      simp only [perform, queued_performLive]
      exact queue_notifyAll _ _
  | poisoned => cases operation <;> simp [perform]
  | dropped => simp [perform]

theorem uncalled_perform (sticky : StickyCache State) (operation : CacheOperation State) :
    (sticky.perform operation).sticky.dispatcher.uncalled =
      sticky.dispatcher.uncalled ++
        (sticky.perform operation).effects.filterMap CacheEffect.queued? := by
  have phase := sticky.phase_perform operation
  simp only [Dispatcher.uncalled, Dispatcher.checked, phase, queue_perform, List.append_assoc]

end StickyCache

namespace StickyMoment

/-- What the dispatcher calls about is what it was handed, in the same order, and it was handed what
has made room. -/
structure Handed (moment : StickyMoment State) (trace : StickyTrace State) : Prop where
  queued : (queuedIn trace).Sublist (evictionsIn trace)
  called : ((stepsIn trace).filterMap DispatchStep.called? ++
    moment.sticky.dispatcher.uncalled).Sublist (queuedIn trace)

theorem Handed.use {moment next : StickyMoment State} {trace : StickyTrace State}
    (handed : Handed moment trace) {effects : List (CacheEffect State)} (now : Instant)
    (uncalled : next.sticky.dispatcher.uncalled =
      moment.sticky.dispatcher.uncalled ++ effects.filterMap CacheEffect.queued?)
    (madeOut : (effects.filterMap CacheEffect.queued?).Sublist
      (effects.filterMap CacheEffect.evicted?)) :
    Handed next (trace ++ effects.map fun effect => (now, .effect effect)) where
  queued := by
    rw [queuedIn_append, queuedIn_effects, evictionsIn_append, evictionsIn_effects]
    exact handed.queued.append madeOut
  called := by
    rw [queuedIn_append, queuedIn_effects, stepsIn_append, stepsIn_effects, List.append_nil,
      uncalled, ← List.append_assoc]
    exact handed.called.append (List.Sublist.refl _)

end StickyMoment

/-- A cache agrees with the puts so far: it counts them, and it holds what its keys were given
last. -/
structure Cache.Numbers (moves : List (StickyMove State)) (cache : Cache State) : Prop where
  counter : cache.generation = (storedBy moves).length
  cached : ∀ {key entry}, cache.find? key = some entry → lastStored? moves key = some entry

theorem Cache.numbers_empty (capacity : Nat) : (Cache.empty capacity : Cache State).Numbers [] :=
  ⟨rfl, nofun⟩

theorem Cache.Numbers.concat_other {moves : List (StickyMove State)} {cache next : Cache State}
    (numbers : cache.Numbers moves) {move : StickyMove State} (other : move.stored? = none)
    (counter : next.generation = cache.generation)
    (cached : ∀ {key entry}, next.find? key = some entry → cache.find? key = some entry) :
    next.Numbers (moves ++ [move]) where
  counter := by rw [counter, numbers.counter, storedBy_concat_other moves other]
  cached found := by
    rw [lastStored?_concat_other moves other]
    exact numbers.cached (cached found)

variable [DecidableEq State]

theorem Cache.Numbers.perform {moves : List (StickyMove State)} {cache : Cache State}
    (numbers : cache.Numbers moves) (sound : cache.Sound) (operation : CacheOperation State) :
    (cache.perform operation).cache.Numbers (moves ++ [.operate operation]) := by
  have counted := cache.generation_perform operation
  cases operation with
  | put key state taskList =>
      constructor
      · rw [counted, numbers.counter, storedBy_concat_put, List.length_append]
        rfl
      · intro other entry found
        rw [lastStored?_concat_put]
        simp only [Cache.perform, Cache.put, Cache.find?_insert sound] at found
        split at found
        next same =>
          rw [if_pos same, ← numbers.counter]
          exact found
        next unlike =>
          rw [if_neg unlike]
          split at found
          · cases found
          · exact numbers.cached found
  | get | remove | clear | contains | length | isEmpty | capacity | describe =>
      apply numbers.concat_other rfl counted
      intro key entry found
      rcases Cache.find?_perform sound found with before | stored
      · exact before
      · cases stored

namespace StickyMoment

theorem numbers_run {service : ResetService} {capacity : Nat} {runtime : Bool}
    {sticky : StickyCache State}
    (created : StickyCache.create capacity service.timeout runtime = .ok sticky)
    {moves : List (StickyMove State)} {cache : Cache State}
    (live : ((start sticky).run service moves).1.sticky.standing = .live cache) :
    cache.Numbers moves := by
  induction moves using List.reverseRecOn generalizing cache with
  | nil =>
      obtain ⟨-, rfl⟩ := StickyCache.eq_of_create created
      cases live
      exact Cache.numbers_empty capacity
  | append_singleton moves move inductionHypothesis =>
      have ordered : ((start sticky).run service moves).1.sticky.Chronological :=
        chronological_run service (StickyCache.chronological_of_create created) moves
      rw [run_append] at live
      obtain ⟨before, was, happened⟩ := live_cases live
      have numbers := inductionHypothesis was
      rcases happened with ⟨operation, rfl, rfl⟩ | ⟨background, rfl⟩
      · exact numbers.perform (ordered.sound was) operation
      · exact numbers.concat_other (stored?_of_background background) rfl id

theorem kept_handed (service : ResetService) :
    Kept service (Handed : StickyMoment State → StickyTrace State → Prop) where
  dispatch {_ _ dispatcher next happened trace} handed moved := by
    refine ⟨by simpa using handed.queued, ?_⟩
    have taken : (happened.called?.toList ++ next.uncalled).Sublist dispatcher.uncalled := by
      cases moved with
      | skip => exact List.sublist_cons_self _ _
      | check | call | finish | stop => exact List.Sublist.refl _
      | crash => exact List.nil_sublist _
    simp only [queuedIn_append, queuedIn_dispatched, stepsIn_append, stepsIn_dispatched,
      filterMap_concat, List.append_nil, List.append_assoc]
    exact ((List.Sublist.refl _).append taken).trans handed.called
  pass handed _ := ⟨handed.queued, handed.called⟩
  operate {moment _} operation handed :=
    handed.use _ (moment.sticky.uncalled_perform operation)
      (moment.sticky.queued_sublist_evicted operation)
  crashInserting {moment _} crash handed := by
    obtain ⟨silent, same⟩ := moment.sticky.effects_crashInserting crash
    apply handed.use
    · simp [move, operated, silent, same]
    · rw [silent]
      exact List.Sublist.refl _
  drop {moment _} handed := by
    apply handed.use
    · rw [StickyCache.queued_drop, List.append_nil]
      rfl
    · rw [StickyCache.queued_drop]
      exact List.nil_sublist _

/-- Whatever is cached under the key of a notice is newer than the notice. -/
structure Departed (moment : StickyMoment State) (trace : StickyTrace State) : Prop where
  chronological : moment.sticky.Chronological
  outlived : ∀ {cache}, moment.sticky.standing = .live cache →
    ∀ eviction ∈ evictionsIn trace, cache.Outlived eviction
  byGeneration : ByGeneration (evictionsIn trace)

theorem Departed.performLive {now : Instant} {cache : Cache State} {dispatcher : Dispatcher}
    {trace : StickyTrace State} (departed : Departed ⟨now, .live cache, dispatcher⟩ trace)
    (operation : CacheOperation State) :
    let outcome := StickyCache.performLive dispatcher cache operation
    Departed ⟨now, outcome.sticky⟩
      (trace ++ outcome.effects.map fun effect => (now, .effect effect)) := by
  intro outcome
  have ordered : (StickyCache.mk (.live cache) dispatcher).Chronological := departed.chronological
  have sound := ordered.sound rfl
  have before : ∀ eviction ∈ evictionsIn trace, cache.Outlived eviction := departed.outlived rfl
  have evictions : evictionsIn (trace ++ outcome.effects.map fun effect => (now, .effect effect)) =
      evictionsIn trace ++ ((cache.perform operation).evicted.map Entry.eviction).toList := by
    rw [evictionsIn_append, evictionsIn_effects, StickyCache.evicted_performLive]
  refine ⟨ordered.performLive operation, ?_, ?_⟩
  · rintro _ ⟨⟩ eviction member
    rw [evictions] at member
    rcases List.mem_append.mp member with earlier | latest
    · exact (before eviction earlier).perform sound operation
    · obtain ⟨entry, evicted, rfl⟩ := Option.map_eq_some_iff.mp (Option.mem_toList.mp latest)
      exact Cache.outlived_of_evicted (ordered.numbered rfl) sound evicted
  · rw [evictions]
    cases evicted : (cache.perform operation).evicted with
    | none =>
        rw [Option.map_none, Option.toList_none, List.append_nil]
        exact departed.byGeneration
    | some entry =>
        apply departed.byGeneration.concat
        intro earlier member same
        apply (before earlier member).older
        rw [same]
        exact (Cache.lost_of_evicted sound evicted).1

omit [DecidableEq State] in
/-- A move that makes out no notice changes nothing, unless it takes the cache out of use. -/
theorem Departed.quiet {moment next : StickyMoment State} {trace more : StickyTrace State}
    (departed : Departed moment trace) (chronological : next.sticky.Chronological)
    (standing : ∀ cache, next.sticky.standing = .live cache →
      moment.sticky.standing = .live cache)
    (silent : evictionsIn more = []) : Departed next (trace ++ more) := by
  have same : evictionsIn (trace ++ more) = evictionsIn trace := by
    rw [evictionsIn_append, silent, List.append_nil]
  refine ⟨chronological, ?_, ?_⟩
  · intro cache live
    rw [same]
    exact departed.outlived (standing cache live)
  · rw [same]
    exact departed.byGeneration

theorem kept_departed (service : ResetService) :
    Kept service (Departed : StickyMoment State → StickyTrace State → Prop) where
  dispatch departed moved :=
    departed.quiet (departed.chronological.dispatch moved) (fun _ => id) rfl
  pass departed _ := ⟨departed.chronological, departed.outlived, departed.byGeneration⟩
  operate {moment _} operation departed := by
    obtain ⟨now, standing, dispatcher⟩ := moment
    cases standing with
    | live cache => exact departed.performLive operation
    | poisoned =>
        apply departed.quiet (departed.chronological.perform operation)
        · intro cache live
          cases operation <;> cases live
        · cases operation <;> rfl
    | dropped =>
        apply departed.quiet departed.chronological
        · intro cache live
          cases live
        · rfl
  crashInserting {moment _} crash departed := by
    have silent := (moment.sticky.effects_crashInserting crash).1
    have ordered := chronological_move service departed.chronological (.crashInserting crash)
    apply departed.quiet ordered
    · intro cache live
      obtain ⟨before, -, ⟨_, other, -⟩ | ⟨background, -⟩⟩ := live_cases live
      · cases other
      · cases background
    · simp [move, operated, silent, evictionsIn]
  drop {moment _} departed := by
    apply departed.quiet (chronological_move service departed.chronological .drop)
    · intro cache live
      cases live
    · simp only [move, operated, evictionsIn_effects, StickyCache.evicted_drop]

theorem leaves_of_evictionsIn {service : ResetService} {moment : StickyMoment State}
    (ordered : moment.sticky.Chronological) {move : StickyMove State} {eviction : Eviction}
    (madeOut : eviction ∈ evictionsIn (moment.move service move).trace) :
    ∃ entry, Leaves moment (moment.move service move) entry ∧ entry.eviction = eviction := by
  have used : ¬ move.Background := by
    intro background
    have none : evictionsIn (moment.move service move).trace = [] :=
      filterMap_of_background (fun _ _ => rfl) service moment background
    rw [none] at madeOut
    cases madeOut
  obtain ⟨now, standing, dispatcher⟩ := moment
  cases move with
  | operate operation =>
      simp only [StickyMoment.move, operated, evictionsIn_effects] at madeOut
      cases standing with
      | live cache =>
          simp only [StickyCache.perform, StickyCache.evicted_performLive, Option.mem_toList]
            at madeOut
          obtain ⟨entry, evicted, rfl⟩ := Option.map_eq_some_iff.mp madeOut
          exact ⟨entry, Cache.lost_of_evicted (ordered.sound rfl) evicted, rfl⟩
      | poisoned => cases operation <;> cases madeOut
      | dropped => cases madeOut
  | crashInserting crash =>
      cases standing <;> cases madeOut
  | drop =>
      simp only [StickyMoment.move, operated, evictionsIn_effects, StickyCache.evicted_drop]
        at madeOut
      cases madeOut
  | dispatch | pass | settle | advance => exact absurd trivial used

theorem lastStored?_of_cached {service : ResetService} {capacity : Nat} {runtime : Bool}
    {sticky : StickyCache State}
    (created : StickyCache.create capacity service.timeout runtime = .ok sticky)
    {moves : List (StickyMove State)} {key : ExecutionKey} {entry : Entry State}
    (cached : ((start sticky).run service moves).1.sticky.cached? key = some entry) :
    lastStored? moves key = some entry := by
  cases standing : ((start sticky).run service moves).1.sticky.standing with
  | live cache =>
      rw [StickyCache.cached?_of_live standing] at cached
      exact (numbers_run created standing).cached cached
  | poisoned | dropped => simp [StickyCache.cached?, standing] at cached

theorem stored_of_evictionsIn {service : ResetService} {capacity : Nat} {runtime : Bool}
    {sticky : StickyCache State}
    (created : StickyCache.create capacity service.timeout runtime = .ok sticky)
    {moves : List (StickyMove State)} {move : StickyMove State} {eviction : Eviction} :
    let moment := ((start sticky).run service moves).1
    let moved := moment.move service move
    eviction ∈ evictionsIn moved.trace → ∃ entry, Leaves moment moved entry ∧
      entry.eviction = eviction ∧ lastStored? moves eviction.key = some entry := by
  intro moment moved madeOut
  have ordered : moment.sticky.Chronological :=
    chronological_run service (StickyCache.chronological_of_create created) moves
  obtain ⟨entry, leaves, rfl⟩ := leaves_of_evictionsIn ordered madeOut
  exact ⟨entry, leaves, rfl, lastStored?_of_cached created leaves.1⟩

theorem mem_storedBy_of_evictionsIn {service : ResetService} {capacity : Nat} {runtime : Bool}
    {sticky : StickyCache State}
    (created : StickyCache.create capacity service.timeout runtime = .ok sticky)
    {moves : List (StickyMove State)} {eviction : Eviction}
    (madeOut : eviction ∈ evictionsIn ((start sticky).run service moves).2) :
    ∃ entry ∈ storedBy moves, entry.eviction = eviction := by
  induction moves using List.reverseRecOn with
  | nil => cases madeOut
  | append_singleton moves move inductionHypothesis =>
      have stays := storedBy_subset_append moves [move]
      rw [run_append, evictionsIn_append] at madeOut
      rcases List.mem_append.mp madeOut with earlier | latest
      · obtain ⟨entry, stored, same⟩ := inductionHypothesis earlier
        exact ⟨entry, stays stored, same⟩
      · simp only [run, List.append_nil] at latest
        obtain ⟨entry, -, same, last⟩ := stored_of_evictionsIn created latest
        exact ⟨entry, stays (mem_of_lastStored? last).1, same⟩

/-- Every notice bears the number and the task list of the last put of its key, no number comes
twice, and the notices of a key are made out, queued and called about in the order of its puts. -/
theorem notices_follow_puts {service : ResetService} {capacity : Nat} {runtime : Bool}
    {sticky : StickyCache State}
    (created : StickyCache.create capacity service.timeout runtime = .ok sticky)
    (moves : List (StickyMove State)) :
    let reached := (start sticky).run service moves
    let evictions := evictionsIn reached.2
    let queued := queuedIn reached.2
    let called := (stepsIn reached.2).filterMap DispatchStep.called?
    (∀ before move after, moves = before ++ move :: after →
      let moment := ((start sticky).run service before).1
      let moved := moment.move service move
      ∀ eviction ∈ evictionsIn moved.trace, ∃ entry, Leaves moment moved entry ∧
        entry.eviction = eviction ∧ lastStored? before eviction.key = some entry) ∧
    (evictions.map Eviction.generation).Nodup ∧
    called.Sublist queued ∧ queued.Sublist evictions ∧
    ByGeneration evictions ∧ ByGeneration queued ∧ ByGeneration called := by
  intro reached evictions queued called
  have chronological : (start sticky).sticky.Chronological :=
    StickyCache.chronological_of_create created
  obtain ⟨inOrder, calledFirst⟩ : Handed reached.1 reached.2 := by
    obtain ⟨-, rfl⟩ := StickyCache.eq_of_create created
    have begun :
        Handed (start (StickyCache.mk (.live (.empty capacity : Cache State)) .start)) [] :=
      ⟨List.Sublist.refl _, List.Sublist.refl _⟩
    exact (kept_handed service).run begun moves
  have byGeneration : ByGeneration evictions :=
    ((kept_departed service).run ⟨chronological, fun _ => nofun, List.Pairwise.nil⟩
      moves).byGeneration
  have calledInOrder : called.Sublist queued := (List.sublist_append_left _ _).trans calledFirst
  refine ⟨?_, ?_, calledInOrder, inOrder, byGeneration, ?_, ?_⟩
  · intro before move _ _ moment moved eviction
    exact stored_of_evictionsIn created
  · rw [List.nodup_iff_pairwise_ne, List.pairwise_map]
    apply byGeneration.imp_of_mem
    intro earlier later inEarlier inLater older same
    -- Two notices with one number are about one put, hence about one key.
    obtain ⟨entry, stored, rfl⟩ := mem_storedBy_of_evictionsIn created inEarlier
    obtain ⟨twin, storedToo, rfl⟩ := mem_storedBy_of_evictionsIn created inLater
    obtain rfl := eq_of_generation stored storedToo same
    exact Nat.lt_irrefl _ (older rfl)
  · exact byGeneration.sublist inOrder
  · exact byGeneration.sublist (calledInOrder.trans inOrder)

/-- The second notice has a smaller number than the first, because of the get. The second key is
given another task list later, and its second notice bears that one. -/
theorem notices_follow_puts_across_keys :
    let first : ExecutionKey := ⟨"first", "run", by decide, by decide⟩
    let second : ExecutionKey := ⟨"second", "run", by decide, by decide⟩
    let third : ExecutionKey := ⟨"third", "run", by decide, by decide⟩
    let silent : ResetService := ⟨.ofSeconds 10, fun _ => ⟨none, .success⟩⟩
    let sticky : StickyCache Nat := ⟨.live (.empty 2), .start⟩
    let moves : List (StickyMove Nat) :=
      [.operate (.put first 1 "tasks"), .operate (.put second 2 "tasks"), .operate (.get first),
        .operate (.put third 3 "tasks"), .settle, .operate (.put second 4 "others"),
        .operate (.put first 5 "tasks"), .advance (.ofSeconds 60),
        .operate (.put third 6 "tasks")]
    let evictions := evictionsIn ((start sticky).run silent moves).2
    StickyCache.create 2 silent.timeout true = .ok sticky ∧
      evictions = [⟨second, "tasks", 2⟩, ⟨first, "tasks", 1⟩, ⟨third, "tasks", 3⟩,
        ⟨second, "others", 4⟩] ∧
      lastStored? moves second = some ⟨second, 4, "others", 4⟩ ∧
      (evictions.map Eviction.generation).Nodup ∧ ByGeneration evictions := by
  intro first second third silent sticky moves evictions
  have created : StickyCache.create 2 silent.timeout true = .ok sticky := rfl
  obtain ⟨-, distinct, -, -, byGeneration, -⟩ := notices_follow_puts created moves
  exact ⟨created, by decide +kernel, by decide +kernel, distinct, byGeneration⟩

end StickyMoment

end DecisionWorker

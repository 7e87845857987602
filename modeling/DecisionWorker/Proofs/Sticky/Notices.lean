import DecisionWorker.Proofs.Sticky.Health

set_option autoImplicit false

/-!
The notices in a trace: which ones were queued, and what the dispatcher did with them.

An operation queues at most one notice, that of the entry whose key its reply names.
-/

namespace DecisionWorker

variable {State : Type}

def CacheEffect.queued? : CacheEffect State → Option Eviction
  | .queued eviction => some eviction
  | _ => none

namespace StickyEvent

def queued? : StickyEvent State → Option Eviction
  | .effect happened => happened.queued?
  | .dispatched _ => none

def step? : StickyEvent State → Option DispatchStep
  | .effect _ => none
  | .dispatched step => some step

end StickyEvent

def queuedIn (trace : StickyTrace State) : List Eviction :=
  trace.filterMap fun event => event.2.queued?

def stepsIn (trace : StickyTrace State) : List DispatchStep :=
  trace.filterMap fun event => event.2.step?

@[simp]
theorem queuedIn_append (earlier later : StickyTrace State) :
    queuedIn (earlier ++ later) = queuedIn earlier ++ queuedIn later :=
  List.filterMap_append

@[simp]
theorem stepsIn_append (earlier later : StickyTrace State) :
    stepsIn (earlier ++ later) = stepsIn earlier ++ stepsIn later :=
  List.filterMap_append

@[simp]
theorem queuedIn_dispatched (now : Instant) (step : DispatchStep) :
    queuedIn [((now, .dispatched step) : Instant × StickyEvent State)] = [] := rfl

@[simp]
theorem stepsIn_dispatched (now : Instant) (step : DispatchStep) :
    stepsIn [((now, .dispatched step) : Instant × StickyEvent State)] = [step] := rfl

@[simp]
theorem queuedIn_effects (now : Instant) (effects : List (CacheEffect State)) :
    queuedIn (effects.map fun effect => (now, .effect effect)) =
      effects.filterMap CacheEffect.queued? := by
  simp only [queuedIn, List.filterMap_map]
  rfl

@[simp]
theorem stepsIn_effects (now : Instant) (effects : List (CacheEffect State)) :
    stepsIn (effects.map fun effect => (now, .effect effect)) = [] := by
  simp [stepsIn, StickyEvent.step?]

def CacheReply.evictedKey? : CacheReply State → Option ExecutionKey
  | .evicted key => key
  | _ => none

namespace Cache

variable [DecidableEq State]

theorem evicted_eq_find? {cache : Cache State} (sound : cache.Sound)
    (operation : CacheOperation State) :
    (cache.perform operation).evicted =
      (cache.perform operation).reply.evictedKey?.bind cache.find? := by
  cases operation with
  | put key state taskList =>
      simp only [perform, put, insert_eq, CacheReply.evictedKey?]
      cases chosen : cache.victim? key with
      | none => rfl
      | some victim =>
          have oldest := ((victim?_eq_some_iff sound).mp chosen).2.2
          have member : victim ∈ cache.entries := List.mem_of_mem_head? (by rw [oldest]; rfl)
          exact (sound.find?_eq_some_iff.mpr ⟨member, rfl⟩).symm
  | get | remove | clear | contains | length | isEmpty | capacity | describe => rfl

end Cache

namespace StickyCache

def cached? (sticky : StickyCache State) (key : ExecutionKey) : Option (Entry State) :=
  match sticky.standing with
  | .live cache => cache.find? key
  | _ => none

theorem cached?_of_live {sticky : StickyCache State} {cache : Cache State}
    (live : sticky.standing = .live cache) : sticky.cached? = cache.find? := by
  funext key
  simp only [cached?, live]

theorem live_of_cached {sticky : StickyCache State} {key : ExecutionKey} {entry : Entry State}
    (cached : sticky.cached? key = some entry) : ∃ cache, sticky.standing = .live cache := by
  cases standing : sticky.standing with
  | live cache => exact ⟨cache, rfl⟩
  | poisoned | dropped =>
      simp only [cached?, standing] at cached
      cases cached

theorem cached?_congr {sticky other : StickyCache State}
    (standing : sticky.standing = other.standing) : sticky.cached? = other.cached? := by
  funext key
  simp only [cached?, standing]

theorem queued_handoverEffects (evicted : Option (Entry State)) :
    (handoverEffects evicted).filterMap CacheEffect.queued? =
      (evicted.map Entry.eviction).toList := by
  cases evicted <;> rfl

theorem effects_crashInserting (sticky : StickyCache State) (crash : Crash) :
    (sticky.crashInserting crash).effects = [] ∧
      (sticky.crashInserting crash).sticky.dispatcher = sticky.dispatcher := by
  unfold crashInserting
  split <;> exact ⟨rfl, rfl⟩

theorem queued_drop (sticky : StickyCache State) :
    sticky.drop.effects.filterMap CacheEffect.queued? = [] := by
  unfold drop
  split <;> simp [CacheEffect.queued?]

theorem phase_notifyAll (dispatcher : Dispatcher) (evicted : Option (Entry State)) :
    (notifyAll dispatcher evicted).1.phase = dispatcher.phase := by
  cases evicted with
  | none => rfl
  | some entry =>
      by_cases running : dispatcher.running = true <;>
        simp [notifyAll, notify, Dispatcher.send?, running]

variable [DecidableEq State]

theorem queued_releaseEffects (cache : Cache State) (operation : CacheOperation State) :
    (releaseEffects cache operation).filterMap CacheEffect.queued? = [] := by
  unfold releaseEffects
  rw [List.filterMap_append, List.append_eq_nil_iff]
  constructor
  · cases operation <;> rfl
  · simp [CacheEffect.queued?]

theorem queued_perform {sticky : StickyCache State} (healthy : sticky.Healthy)
    (operation : CacheOperation State) :
    (sticky.perform operation).effects.filterMap CacheEffect.queued? =
      (((sticky.perform operation).reply.evictedKey?.bind sticky.cached?).map
        Entry.eviction).toList := by
  rcases healthy.perform_cases operation with ⟨cache, live, performed⟩ | ⟨-, silent, replies⟩
  · rw [performed, List.filterMap_append, queued_handoverEffects, queued_releaseEffects,
      List.append_nil, Cache.evicted_eq_find? (healthy.sound cache live) operation,
      cached?_of_live live]
  · rw [silent]
    cases reply : (sticky.perform operation).reply with
    | evicted key => exact absurd reply (replies key)
    | _ => rfl

theorem evictedKey?_perform (sticky : StickyCache State) (operation : CacheOperation State)
    (noPut : ∀ key state taskList, operation ≠ .put key state taskList) :
    (sticky.perform operation).reply.evictedKey? = none := by
  obtain ⟨standing, dispatcher⟩ := sticky
  cases operation with
  | put key state taskList => exact absurd rfl (noPut key state taskList)
  | get | remove | clear | contains | length | isEmpty | capacity | describe =>
      cases standing <;> rfl

theorem evictedKey?_perform_put {sticky : StickyCache State} {key : ExecutionKey}
    (cached : (sticky.cached? key).isSome = true) (state : State) (taskList : String) :
    (sticky.perform (.put key state taskList)).reply.evictedKey? = none := by
  obtain ⟨standing, dispatcher⟩ := sticky
  cases standing with
  | live cache =>
      have found : (cache.find? key).isSome = true := cached
      simp [perform, performLive, Cache.perform, Cache.put, Cache.insert_eq, Cache.victim?,
        found, CacheReply.evictedKey?]
  | poisoned => rfl
  | dropped => rfl

theorem dispatcher_perform {sticky : StickyCache State} (healthy : sticky.Healthy)
    (operation : CacheOperation State) :
    (sticky.perform operation).sticky.dispatcher =
      queued sticky.dispatcher
        ((sticky.perform operation).effects.filterMap CacheEffect.queued?) := by
  rcases healthy.perform_cases operation with ⟨cache, live, performed⟩ | ⟨same, silent, -⟩
  · rw [performed, List.filterMap_append, queued_handoverEffects, queued_releaseEffects,
      List.append_nil]
  · simp [same, silent, queued]

/-- Operations hand notices over, but they do not make the dispatcher move. -/
theorem phase_perform (sticky : StickyCache State) (operation : CacheOperation State) :
    (sticky.perform operation).sticky.dispatcher.phase = sticky.dispatcher.phase := by
  obtain ⟨standing, dispatcher⟩ := sticky
  cases standing with
  | live cache => exact phase_notifyAll _ _
  | poisoned => cases operation <;> rfl
  | dropped => rfl

end StickyCache

namespace StickyMoment

/-- An entry leaves with a move: it is cached before, and its key is not cached afterwards. -/
def Leaves (moment : StickyMoment State) (result : StickyResult State) (entry : Entry State) :
    Prop :=
  moment.sticky.cached? entry.key = some entry ∧ result.after.sticky.cached? entry.key = none

variable [DecidableEq State]

theorem stepsIn_of_use (service : ResetService) (moment : StickyMoment State)
    {move : StickyMove State} (used : ¬ move.Background) :
    stepsIn (moment.move service move).trace = [] := by
  apply List.filterMap_eq_nil_iff.mpr
  intro event member
  obtain ⟨effect, happened⟩ := effects_of_use service moment used event member
  rw [happened]
  rfl

theorem now_of_use (service : ResetService) (moment : StickyMoment State)
    {move : StickyMove State} (used : ¬ move.Background) :
    (moment.move service move).after.now = moment.now := by
  cases move with
  | operate | crashInserting | drop => rfl
  | dispatch | pass | settle | advance => exact absurd trivial used

theorem phase_of_use (service : ResetService) (moment : StickyMoment State)
    {move : StickyMove State} (used : ¬ move.Background) :
    (moment.move service move).after.sticky.dispatcher.phase = moment.sticky.dispatcher.phase := by
  cases move with
  | operate operation => exact moment.sticky.phase_perform operation
  | crashInserting crash =>
      exact congrArg Dispatcher.phase (moment.sticky.effects_crashInserting crash).2
  | drop => rfl
  | dispatch | pass | settle | advance => exact absurd trivial used

end StickyMoment

end DecisionWorker

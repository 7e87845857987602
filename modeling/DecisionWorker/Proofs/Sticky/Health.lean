import DecisionWorker.Proofs.Cache.Entries
import DecisionWorker.Proofs.Sticky.Runs

set_option autoImplicit false

/-!
Caches whose dispatcher is in good health.

As long as no call crashes, a dispatcher takes notices until the cache has been dropped. So
every entry that makes room is queued, and `Healthy.perform_cases` says all that an
operation on a healthy cache does.
-/

namespace DecisionWorker

variable {State : Type}

/-- No call to the service crashes within the time it is given. -/
def ResetService.NeverCrashes (service : ResetService) : Prop :=
  ∀ number, (service.call number).2 ≠ .answered .crash

namespace StickyCache

structure Healthy (sticky : StickyCache State) : Prop where
  sound : ∀ cache, sticky.standing = .live cache → cache.Sound
  alive : sticky.dispatcher.phase ≠ .crashed
  answers : ∀ eviction ends ending,
    sticky.dispatcher.phase = .calling eviction ends ending → ending ≠ .answered .crash
  stops : sticky.dispatcher.phase = .stopped → sticky.standing = .dropped

theorem eq_of_create {capacity : Nat} {timeout : Duration} {runtime : Bool}
    {sticky : StickyCache State} (created : create capacity timeout runtime = .ok sticky) :
    0 < capacity ∧ sticky = ⟨.live (.empty capacity), .start⟩ := by
  unfold create at created
  split at created
  next => cases created
  next positive =>
    split at created
    next => cases created
    next =>
      split at created
      next => cases created
      next =>
        split at created
        next => cases created
        next =>
          cases created
          exact ⟨Nat.pos_of_ne_zero positive, rfl⟩

theorem healthy_of_create {capacity : Nat} {timeout : Duration} {runtime : Bool}
    {sticky : StickyCache State} (created : create capacity timeout runtime = .ok sticky) :
    sticky.Healthy := by
  obtain ⟨positive, rfl⟩ := eq_of_create created
  refine ⟨?_, ?_, ?_, ?_⟩
  · rintro cache ⟨⟩
    exact Cache.empty_sound positive
  · exact nofun
  · exact nofun
  · exact nofun

theorem Healthy.running {sticky : StickyCache State} (healthy : sticky.Healthy)
    (present : sticky.standing ≠ .dropped) : sticky.dispatcher.running = true := by
  unfold Dispatcher.running
  cases phase : sticky.dispatcher.phase with
  | waiting | checked | calling => rfl
  | stopped => exact absurd (healthy.stops phase) present
  | crashed => exact absurd phase healthy.alive

def queued (dispatcher : Dispatcher) (evictions : List Eviction) : Dispatcher :=
  { dispatcher with queue := dispatcher.queue ++ evictions }

@[simp]
theorem queue_queued (dispatcher : Dispatcher) (evictions : List Eviction) :
    (queued dispatcher evictions).queue = dispatcher.queue ++ evictions := rfl

@[simp]
theorem checked_queued (dispatcher : Dispatcher) (evictions : List Eviction) :
    (queued dispatcher evictions).checked = dispatcher.checked := rfl

@[simp]
theorem calling_queued (dispatcher : Dispatcher) (evictions : List Eviction) :
    (queued dispatcher evictions).calling = dispatcher.calling := rfl

@[simp]
theorem inFlight_queued (dispatcher : Dispatcher) (evictions : List Eviction) :
    (queued dispatcher evictions).inFlight = dispatcher.inFlight := rfl

def handoverEffects (evicted : Option (Entry State)) : List (CacheEffect State) :=
  match evicted with
  | none => []
  | some entry => [.evicted entry.eviction, .queued entry.eviction]

theorem notifyAll_of_running {dispatcher : Dispatcher} (running : dispatcher.running = true)
    (evicted : Option (Entry State)) :
    notifyAll dispatcher evicted =
      (queued dispatcher (evicted.map Entry.eviction).toList, handoverEffects evicted) := by
  cases evicted with
  | none => simp [notifyAll, handoverEffects, queued]
  | some entry => simp [notifyAll, notify, Dispatcher.send?, running, handoverEffects, queued]

theorem Healthy.leave {standing next : Standing State} {dispatcher : Dispatcher}
    (healthy : (StickyCache.mk standing dispatcher).Healthy)
    (gone : ∀ cache, next ≠ .live cache) (dropped : standing = .dropped → next = .dropped) :
    (StickyCache.mk next dispatcher).Healthy where
  sound cache live := absurd live (gone cache)
  alive := healthy.alive
  answers := healthy.answers
  stops stopped := dropped (healthy.stops stopped)

theorem Healthy.dispatch {service : ResetService} (calm : service.NeverCrashes)
    {standing : Standing State} {now : Instant} {dispatcher next : Dispatcher}
    {happened : DispatchStep} (healthy : (StickyCache.mk standing dispatcher).Healthy)
    (moved : Dispatcher.Moves service standing.view now dispatcher next happened) :
    (StickyCache.mk standing next).Healthy := by
  cases moved with
  | skip stale => exact ⟨healthy.sound, healthy.alive, healthy.answers, healthy.stops⟩
  | check fresh => exact ⟨healthy.sound, nofun, nofun, nofun⟩
  | @call eviction queue calls =>
      refine ⟨healthy.sound, nofun, ?_, nofun⟩
      rintro _ _ _ ⟨⟩
      exact calm calls
  | finish due answered =>
      exact ⟨healthy.sound, nofun, nofun, nofun⟩
  | crash due => exact absurd rfl (healthy.answers _ _ _ rfl)
  | stop closed =>
      refine ⟨healthy.sound, nofun, nofun, ?_⟩
      intro _
      cases standing with
      | dropped => rfl
      | live cache => simp [Standing.view, StickyCache.view] at closed
      | poisoned => simp [Standing.view, StickyCache.view] at closed

variable [DecidableEq State]

def releaseEffects (cache : Cache State) (operation : CacheOperation State) :
    List (CacheEffect State) :=
  (match operation with
    | .clear => [CacheEffect.cleared (cache.perform operation).disposed.length]
    | _ => []) ++
  (cache.perform operation).disposed.map fun state => .disposed state.1 (some state.2)

/-- On a healthy cache an operation does its work and hands over what had to leave, or it
does nothing at all. -/
theorem Healthy.perform_cases {sticky : StickyCache State} (healthy : sticky.Healthy)
    (operation : CacheOperation State) :
    (∃ cache, sticky.standing = .live cache ∧ sticky.perform operation =
      { sticky :=
          ⟨.live (cache.perform operation).cache,
            queued sticky.dispatcher
              ((cache.perform operation).evicted.map Entry.eviction).toList⟩
        reply := (cache.perform operation).reply
        effects :=
          handoverEffects (cache.perform operation).evicted ++
            releaseEffects cache operation }) ∨
    ((sticky.perform operation).sticky = sticky ∧ (sticky.perform operation).effects = [] ∧
      ∀ key, (sticky.perform operation).reply ≠ .evicted key) := by
  obtain ⟨standing, dispatcher⟩ := sticky
  cases standing with
  | live cache =>
      left
      have running : dispatcher.running = true := healthy.running nofun
      refine ⟨cache, rfl, ?_⟩
      simp only [StickyCache.perform, performLive, notifyAll_of_running running]
      exact congrArg (StickyOutcome.mk _ _) (List.append_assoc _ _ _)
  | poisoned =>
      right
      cases operation <;> simp [StickyCache.perform]
  | dropped =>
      right
      simp [StickyCache.perform]

theorem Healthy.perform {sticky : StickyCache State} (healthy : sticky.Healthy)
    (operation : CacheOperation State) : (sticky.perform operation).sticky.Healthy := by
  rcases healthy.perform_cases operation with ⟨cache, live, performed⟩ | ⟨same, -, -⟩
  · rw [performed]
    refine ⟨?_, healthy.alive, healthy.answers, ?_⟩
    · rintro next ⟨⟩
      exact Cache.perform_sound (healthy.sound cache live) operation
    · intro stopped
      have dropped := healthy.stops stopped
      rw [live] at dropped
      cases dropped
  · rw [same]
    exact healthy

end StickyCache

namespace StickyMoment

variable [DecidableEq State]

theorem kept_healthy {service : ResetService} (calm : service.NeverCrashes) :
    Kept service fun (moment : StickyMoment State) _ => moment.sticky.Healthy where
  dispatch healthy moved := healthy.dispatch calm moved
  pass healthy _ := healthy
  operate operation healthy := healthy.perform operation
  crashInserting {moment} _ crash healthy := by
    obtain ⟨now, standing, dispatcher⟩ := moment
    cases standing with
    | live cache =>
        exact healthy.leave nofun nofun
    | poisoned => exact healthy
    | dropped => exact healthy
  drop healthy := healthy.leave nofun fun _ => rfl

theorem run_healthy {service : ResetService} (calm : service.NeverCrashes)
    {moment : StickyMoment State} (healthy : moment.sticky.Healthy)
    (moves : List (StickyMove State)) : (moment.run service moves).1.sticky.Healthy :=
  (kept_healthy calm).run healthy moves

theorem move_healthy {service : ResetService} (calm : service.NeverCrashes)
    {moment : StickyMoment State} (healthy : moment.sticky.Healthy)
    (move : StickyMove State) : (moment.move service move).after.sticky.Healthy :=
  run_healthy calm healthy [move]

end StickyMoment

end DecisionWorker

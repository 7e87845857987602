import DecisionWorker.Proofs.Cache.Recency
import DecisionWorker.Proofs.Sticky.DisposalOrder

set_option autoImplicit false

/-!
What is left of a dispatcher once a call has crashed.

The crash takes the dispatcher with it, and all notices that wait. The trace has no step of the
dispatcher from then on, and whoever evicts an entry is told that nobody takes the notice. The
cache goes on as before: it replies, makes room and disposes.
-/

namespace DecisionWorker

variable {State : Type}

def StickyEvent.Crashes (event : StickyEvent State) : Prop :=
  ∃ eviction, event = .dispatched (.ended eviction (.answered .crash))

def CrashedIn (trace : StickyTrace State) : Prop := ∃ event ∈ trace, event.2.Crashes

theorem crashedIn_append {earlier later : StickyTrace State} :
    CrashedIn (earlier ++ later) ↔ CrashedIn earlier ∨ CrashedIn later := by
  simp [CrashedIn, or_and_right, exists_or]

namespace Dispatcher

variable {service : ResetService} {view : CacheView} {now : Instant}
  {dispatcher next : Dispatcher} {happened : DispatchStep}

theorem Moves.crashed_iff (moved : Moves service view now dispatcher next happened) :
    next.phase = .crashed ↔ ∃ eviction, happened = .ended eviction (.answered .crash) := by
  cases moved with
  | skip | check | call | stop => simp
  | finish due answered => simpa using answered
  | crash => simp

theorem Moves.closed (moved : Moves service view now dispatcher next happened)
    (stopped : next.phase = .stopped) : view.closed = true := by
  cases moved with
  | skip | check | call | finish | crash => cases stopped
  | stop closed => exact closed

end Dispatcher

namespace StickyCache

theorem notifyAll_of_not_running {dispatcher : Dispatcher} (gone : dispatcher.running = false)
    (entry : Entry State) :
    notifyAll dispatcher (some entry) =
      (dispatcher, [.evicted entry.eviction, .undeliverable entry.eviction]) := by
  simp [notifyAll, notify, Dispatcher.send?, gone]

end StickyCache

namespace Cache

variable [DecidableEq State]

/-- All about a put that makes another entry leave. -/
theorem perform_put_of_victim {cache : Cache State} (sound : cache.Sound) {key : ExecutionKey}
    {victim : Entry State} (chosen : cache.victim? key = some victim) (state : State)
    (taskList : String) :
    let outcome := cache.perform (.put key state taskList)
    outcome.reply = .evicted (some victim.key) ∧ outcome.evicted = some victim ∧
      outcome.disposed =
        (if victim.state = state then [] else [(victim.state, cache.capacity)]) ∧
      outcome.cache.length = cache.capacity := by
  intro outcome
  obtain ⟨absent, full, oldest⟩ := (victim?_eq_some_iff sound).mp chosen
  have displaced : cache.displaced? key = some victim := by
    simp [displaced?, find?_eq_none_iff.mpr absent, chosen]
  have length : outcome.cache.length = cache.capacity := by
    have perm := (kept_perm sound key).length_eq
    rw [displaced, List.length_append, Option.toList_some, List.length_singleton] at perm
    simp only [outcome, perform, put, insert_eq, Cache.length, List.length_append,
      List.length_singleton]
    simp only [Cache.length] at full
    omega
  refine ⟨?_, ?_, ?_, length⟩
  · simp [outcome, perform, put, insert_eq, chosen]
  · simp [outcome, perform, put, insert_eq, chosen]
  · have seen : (cache.insert key state taskList).cache.length = cache.capacity := length
    simp only [outcome, perform, put, seen, Insertion.released, displaced_insert, displaced]
    split <;> rfl

/-- An entry that a put makes leave is the one that has to make room. -/
theorem victim?_of_lost {cache : Cache State} (sound : cache.Sound) {key : ExecutionKey}
    {state : State} {taskList : String} {entry : Entry State}
    (cached : cache.find? entry.key = some entry)
    (lost : (cache.perform (.put key state taskList)).cache.find? entry.key = none) :
    cache.victim? key = some entry := by
  have member : entry.key ∈ cache.keys := isSome_find?_iff.mp (by rw [cached]; rfl)
  have left := (not_mem_keys_perform_iff sound member).mp (find?_eq_none_iff.mp lost)
  simp only [reduceCtorEq, false_or] at left
  obtain ⟨victim, chosen, same⟩ := evicted_of_put_reply left
  obtain ⟨-, -, oldest⟩ := (victim?_eq_some_iff sound).mp chosen
  have listed : victim ∈ cache.entries := List.mem_of_mem_head? (by rw [oldest]; rfl)
  rw [chosen, sound.eq_of_key listed (mem_of_find? cached).1 same]

theorem evicted_put (cache : Cache State) (key : ExecutionKey) (state : State)
    (taskList : String) :
    (cache.perform (.put key state taskList)).evicted = cache.victim? key := by
  simp [perform, put, insert_eq]

end Cache

namespace StickyMoment

/-- The dispatcher of a moment after a trace: it has crashed if a call has, it takes no step any
more then, and it does not stop before the cache is dropped. -/
structure Watched (moment : StickyMoment State) (trace : StickyTrace State) : Prop where
  crashed : moment.sticky.dispatcher.phase = .crashed ↔ CrashedIn trace
  silent : trace.Pairwise fun earlier later => earlier.2.Crashes → later.2.step? = none
  stops : moment.sticky.dispatcher.phase = .stopped → moment.sticky.standing = .dropped

theorem Watched.dispatch {service : ResetService} {now : Instant} {standing : Standing State}
    {dispatcher next : Dispatcher} {happened : DispatchStep} {trace : StickyTrace State}
    (watched : Watched ⟨now, standing, dispatcher⟩ trace)
    (moved : Dispatcher.Moves service standing.view now dispatcher next happened) :
    Watched ⟨now, standing, next⟩ (trace ++ [(now, .dispatched happened)]) := by
  -- The dispatcher could not move if a call had crashed before.
  have calm : ¬ CrashedIn trace := fun crashed => moved.goesOn.2 (watched.crashed.mpr crashed)
  refine ⟨?_, ?_, ?_⟩
  · rw [crashedIn_append, or_iff_right calm]
    simp [CrashedIn, StickyEvent.Crashes, moved.crashed_iff]
  · refine List.pairwise_append.mpr ⟨watched.silent, List.pairwise_singleton _ _, ?_⟩
    intro earlier member _ _ crashes
    exact absurd ⟨earlier, member, crashes⟩ calm
  · intro stopped
    have closed := moved.closed stopped
    cases standing with
    | dropped => rfl
    | live | poisoned => cases closed

variable [DecidableEq State]

theorem Watched.use {service : ResetService} {moment : StickyMoment State}
    {trace : StickyTrace State} (watched : Watched moment trace) {move : StickyMove State}
    (used : ¬ move.Background) :
    let moved := moment.move service move
    Watched moved.after (trace ++ moved.trace) := by
  intro moved
  have phase := phase_of_use service moment used
  have idle : ∀ event ∈ moved.trace, event.2.step? = none := by
    intro event member
    obtain ⟨effect, happened⟩ := effects_of_use service moment used event member
    rw [happened]
    rfl
  refine ⟨?_, ?_, ?_⟩
  · rw [phase, watched.crashed, crashedIn_append]
    refine ⟨.inl, fun crashed => crashed.resolve_right ?_⟩
    rintro ⟨event, member, eviction, crashes⟩
    have silent := idle event member
    rw [crashes] at silent
    cases silent
  · refine List.pairwise_append.mpr ⟨watched.silent, ?_, ?_⟩
    · exact List.pairwise_of_forall_mem_list fun _ _ later member _ => idle later member
    · exact fun _ _ later member _ => idle later member
  · intro stopped
    have dropped := watched.stops (phase.symm.trans stopped)
    rw [(move_of_dropped service dropped used).1]
    exact dropped

theorem kept_watched (service : ResetService) :
    Kept service (Watched : StickyMoment State → StickyTrace State → Prop) := by
  refine Kept.of_uses ⟨fun watched moved => watched.dispatch moved, ?_⟩
    fun used watched => watched.use used
  exact fun watched _ => ⟨watched.crashed, watched.silent, watched.stops⟩

theorem watched_of_create {service : ResetService} {capacity : Nat} {runtime : Bool}
    {sticky : StickyCache State}
    (created : StickyCache.create capacity service.timeout runtime = .ok sticky)
    (moves : List (StickyMove State)) :
    Watched ((start sticky).run service moves).1 ((start sticky).run service moves).2 := by
  obtain ⟨-, rfl⟩ := StickyCache.eq_of_create created
  refine (kept_watched service).run ⟨?_, List.Pairwise.nil, ?_⟩ moves
  · simp [start, Dispatcher.start, CrashedIn]
  · simp [start, Dispatcher.start]

theorem kept_capacity (service : ResetService) (capacity : Nat) :
    Kept service fun (moment : StickyMoment State) _ =>
      ∀ cache, moment.sticky.standing = .live cache → cache.capacity = capacity where
  dispatch same _ := same
  pass same _ := same
  operate {moment _} operation same := by
    obtain ⟨now, standing, dispatcher⟩ := moment
    cases standing with
    | live cache =>
        intro moved next live
        cases live
        exact (cache.perform_capacity operation).trans (same cache rfl)
    | poisoned => cases operation <;> exact same
    | dropped => exact same
  crashInserting {moment _} crash same := by
    obtain ⟨now, standing, dispatcher⟩ := moment
    cases standing <;> exact nofun
  drop _ := nofun

theorem capacity_of_create {service : ResetService} {capacity : Nat} {runtime : Bool}
    {sticky : StickyCache State}
    (created : StickyCache.create capacity service.timeout runtime = .ok sticky)
    {moves : List (StickyMove State)} {cache : Cache State}
    (live : ((start sticky).run service moves).1.sticky.standing = .live cache) :
    cache.capacity = capacity := by
  obtain ⟨-, rfl⟩ := StickyCache.eq_of_create created
  refine (kept_capacity service capacity).run ?_ moves cache live
  rintro _ ⟨⟩
  rfl

/-- What is left to say of a put that made an entry leave when nobody takes notices any more: it
is the put that it would have been, and there is one warning. -/
structure EvictsUnheard (service : ResetService) (moment : StickyMoment State) (capacity : Nat)
    (state : State) (victim : Entry State) (put : StickyResult State) : Prop where
  replied : put.reply = .evicted (some victim.key)
  logged : put.trace.filterMap (fun event => event.2.event? service.timeout) =
    [.say .debug "evicted workflow execution"
        [("execution", .text victim.key.text), ("generation", .integer victim.generation)],
      .say .warn "eviction dispatcher is not running" [("execution", .text victim.key.text)]]
  disposed : put.sight.disposed =
    if victim.state = state then [] else [(victim.state, some capacity)]
  length : put.after.sticky.length = some (.ok capacity)
  dispatcher : put.after.sticky.dispatcher = moment.sticky.dispatcher

theorem evictsUnheard {service : ResetService} {moment : StickyMoment State} {cache : Cache State}
    (live : moment.sticky.standing = .live cache) (sound : cache.Sound)
    (gone : moment.sticky.dispatcher.running = false) {key : ExecutionKey} {victim : Entry State}
    (chosen : cache.victim? key = some victim) (state : State) (taskList : String) :
    EvictsUnheard service moment cache.capacity state victim
      (moment.move service (.operate (.put key state taskList))) := by
  obtain ⟨replied, evicted, disposed, length⟩ :=
    Cache.perform_put_of_victim sound chosen state taskList
  have notified := StickyCache.notifyAll_of_not_running gone victim
  have sight := StickyCache.disposed_of_live live (.put key state taskList)
  constructor
  · simp only [move, operated, StickyCache.perform, live, StickyCache.performLive, replied]
  · simp only [move, operated, StickyCache.perform, live, StickyCache.performLive, evicted,
      notified, List.filterMap_map]
    simp [Function.comp_def, StickyEvent.event?, CacheEffect.event?, executionField, Entry.eviction]
  · rw [move, sight_operated, sight, disposed]
    split <;> rfl
  · simp only [move, operated, StickyCache.perform, live, StickyCache.performLive,
      StickyCache.length, length]
  · simp only [move, operated, StickyCache.perform, live, StickyCache.performLive, evicted,
      notified]

omit [DecidableEq State] in
theorem logged_operated (now : Instant) (outcome : StickyOutcome State) (timeout : Duration) :
    (operated now outcome).trace.filterMap (fun event => event.2.event? timeout) =
      outcome.effects.filterMap CacheEffect.event? := by
  rw [operated, List.filterMap_map]
  rfl

/-- What a put of a cache in use logs depends on who has to make room. -/
theorem logged_put_of_live {service : ResetService} {moment : StickyMoment State}
    {cache : Cache State} (live : moment.sticky.standing = .live cache) (key : ExecutionKey)
    (state : State) (taskList : String) :
    (moment.move service (.operate (.put key state taskList))).trace.filterMap
        (fun event => event.2.event? service.timeout) =
      (StickyCache.notifyAll moment.sticky.dispatcher (cache.victim? key)).2.filterMap
        CacheEffect.event? := by
  rw [move, logged_operated]
  have unlogged : ∀ states : List (State × Nat),
      (states.map fun state => CacheEffect.disposed state.1 (some state.2)).filterMap
        CacheEffect.event? = [] := by
    intro states
    simp [CacheEffect.event?]
  simp only [StickyCache.perform, live, StickyCache.performLive, Cache.evicted_put,
    List.filterMap_append, unlogged, List.append_nil]

theorem logged_put_of_gone {service : ResetService} {moment : StickyMoment State}
    (gone : ∀ cache, moment.sticky.standing ≠ .live cache) (key : ExecutionKey) (state : State)
    (taskList : String) :
    (moment.move service (.operate (.put key state taskList))).trace.filterMap
      (fun event => event.2.event? service.timeout) = [] := by
  obtain ⟨now, standing, dispatcher⟩ := moment
  cases standing with
  | live cache => exact absurd rfl (gone cache)
  | poisoned | dropped => rfl

/-- Nobody is warned as long as the dispatcher of a cache in use is running. -/
theorem not_running_of_warning {service : ResetService} {moment : StickyMoment State}
    {key : ExecutionKey} {state : State} {taskList : String} {event : Event}
    (logged : event ∈ (moment.move service (.operate (.put key state taskList))).trace.filterMap
      fun event => event.2.event? service.timeout)
    (warns : event.message = "eviction dispatcher is not running") :
    moment.sticky.standing ≠ .dropped ∧ moment.sticky.dispatcher.running = false := by
  cases standing : moment.sticky.standing with
  | live cache =>
      refine ⟨nofun, ?_⟩
      by_contra running
      rw [Bool.not_eq_false] at running
      rw [logged_put_of_live standing, StickyCache.notifyAll_of_running running] at logged
      cases chosen : cache.victim? key with
      | none =>
          rw [chosen] at logged
          cases logged
      | some victim =>
          rw [chosen] at logged
          obtain rfl := List.mem_singleton.mp logged
          simp [Event.say] at warns
  | poisoned | dropped =>
      have gone : ∀ cache, moment.sticky.standing ≠ .live cache := by
        intro cache live
        rw [standing] at live
        cases live
      rw [logged_put_of_gone gone] at logged
      cases logged

omit [DecidableEq State] in
theorem Watched.crashed_of_not_running {moment : StickyMoment State} {trace : StickyTrace State}
    (watched : Watched moment trace) (present : moment.sticky.standing ≠ .dropped)
    (gone : moment.sticky.dispatcher.running = false) : CrashedIn trace := by
  apply watched.crashed.mp
  cases phase : moment.sticky.dispatcher.phase with
  | waiting | checked | calling => simp [Dispatcher.running, phase] at gone
  | stopped => exact absurd (watched.stops phase) present
  | crashed => rfl

theorem leaves_put_iff {service : ResetService} {moment : StickyMoment State} {cache : Cache State}
    (live : moment.sticky.standing = .live cache) (sound : cache.Sound) (key : ExecutionKey)
    (state : State) (taskList : String) (entry : Entry State) :
    Leaves moment (moment.move service (.operate (.put key state taskList))) entry ↔
      cache.victim? key = some entry := by
  have after : (moment.move service (.operate (.put key state taskList))).after.sticky.standing =
      .live (cache.perform (.put key state taskList)).cache := by
    simp only [move, operated, StickyCache.perform, live, StickyCache.performLive]
  rw [Leaves, StickyCache.cached?_of_live live, StickyCache.cached?_of_live after]
  constructor
  · rintro ⟨cached, lost⟩
    exact Cache.victim?_of_lost sound cached lost
  · intro chosen
    exact Cache.lost_of_evicted sound ((cache.evicted_put key state taskList).trans chosen)

theorem quiet_put {service : ResetService} {moment : StickyMoment State}
    (ordered : moment.sticky.Chronological) {key : ExecutionKey} {state : State}
    {taskList : String}
    (stays : ∀ entry,
      ¬ Leaves moment (moment.move service (.operate (.put key state taskList))) entry) :
    (moment.move service (.operate (.put key state taskList))).reply.evictedKey? = none ∧
      (moment.move service (.operate (.put key state taskList))).trace.filterMap
        (fun event => event.2.event? service.timeout) = [] := by
  cases standing : moment.sticky.standing with
  | live cache =>
      have full : cache.victim? key = none := by
        apply Option.eq_none_iff_forall_ne_some.mpr
        intro entry chosen
        exact stays entry
          ((leaves_put_iff standing (ordered.sound standing) key state taskList entry).mpr chosen)
      refine ⟨?_, ?_⟩
      · simp [move, operated, StickyCache.perform, standing, StickyCache.performLive,
          Cache.perform, Cache.put, Cache.insert_eq, full, CacheReply.evictedKey?]
      · rw [logged_put_of_live standing, full]
        rfl
  | poisoned | dropped =>
      have gone : ∀ cache, moment.sticky.standing ≠ .live cache := by
        intro cache live
        rw [standing] at live
        cases live
      refine ⟨?_, logged_put_of_gone gone key state taskList⟩
      simp only [move, operated, StickyCache.perform, standing]
      rfl

theorem length_le_of_create {service : ResetService} {capacity : Nat} {runtime : Bool}
    {sticky : StickyCache State}
    (created : StickyCache.create capacity service.timeout runtime = .ok sticky)
    {moves : List (StickyMove State)} {number : Nat}
    (counted : ((start sticky).run service moves).1.sticky.length = some (.ok number)) :
    number ≤ capacity := by
  obtain ⟨cache, live, rfl⟩ := StickyCache.live_of_length counted
  have ordered : ((start sticky).run service moves).1.sticky.Chronological :=
    chronological_run service (StickyCache.chronological_of_create created) moves
  rw [← capacity_of_create created live]
  exact (ordered.sound live).bounded

/-- Once a call has crashed the dispatcher does nothing any more, and each put that makes an
entry leave warns once, but does all else that it did before. Until then nobody is warned. -/
theorem crash_silences_dispatcher {service : ResetService} {capacity : Nat} {runtime : Bool}
    {sticky : StickyCache State}
    (created : StickyCache.create capacity service.timeout runtime = .ok sticky)
    (moves : List (StickyMove State)) :
    let reached := (start sticky).run service moves
    (reached.2.Pairwise fun earlier later => earlier.2.Crashes → later.2.step? = none) ∧
    ∀ key state taskList,
      let put := reached.1.move service (.operate (.put key state taskList))
      let logged := put.trace.filterMap fun event => event.2.event? service.timeout
      (∀ victim, Leaves reached.1 put victim → CrashedIn reached.2 →
        EvictsUnheard service reached.1 capacity state victim put) ∧
      ((∀ entry, ¬ Leaves reached.1 put entry) → put.reply.evictedKey? = none ∧ logged = []) ∧
      (∀ number, put.after.sticky.length = some (.ok number) → number ≤ capacity) ∧
      (¬ CrashedIn reached.2 →
        ∀ event ∈ logged, event.message ≠ "eviction dispatcher is not running") := by
  intro reached
  have ordered : reached.1.sticky.Chronological :=
    chronological_run service (StickyCache.chronological_of_create created) moves
  have watched : Watched reached.1 reached.2 := watched_of_create created moves
  refine ⟨watched.silent, ?_⟩
  intro key state taskList put logged
  refine ⟨?_, ?_, ?_, ?_⟩
  · intro victim leaves crashed
    have gone : reached.1.sticky.dispatcher.running = false := by
      simp [Dispatcher.running, watched.crashed.mpr crashed]
    cases standing : reached.1.sticky.standing with
    | live cache =>
        have sound := ordered.sound standing
        have chosen := (leaves_put_iff standing sound key state taskList victim).mp leaves
        rw [← capacity_of_create created standing]
        exact evictsUnheard standing sound gone chosen state taskList
    | poisoned | dropped =>
        have cached := leaves.1
        simp [StickyCache.cached?, standing] at cached
  · exact quiet_put ordered
  · intro number counted
    have all := run_append service (start sticky) moves [.operate (.put key state taskList)]
    apply length_le_of_create created
    rw [all]
    exact counted
  · intro calm event member warns
    obtain ⟨present, gone⟩ := not_running_of_warning member warns
    exact calm (watched.crashed_of_not_running present gone)

/-- The first call crashes while the second notice waits. Neither this one nor the next one is ever
handled. -/
theorem crash_silences_dispatcher_with_one_in_queue :
    let first : ExecutionKey := ⟨"first", "run", by decide, by decide⟩
    let second : ExecutionKey := ⟨"second", "run", by decide, by decide⟩
    let third : ExecutionKey := ⟨"third", "run", by decide, by decide⟩
    let fourth : ExecutionKey := ⟨"fourth", "run", by decide, by decide⟩
    let crashing : ResetService := ⟨.ofSeconds 10, fun _ => ⟨some .zero, .crash⟩⟩
    let sticky : StickyCache Nat := ⟨.live (.empty 1), .start⟩
    let moves : List (StickyMove Nat) :=
      [.operate (.put first 1 "tasks"), .operate (.put second 2 "tasks"),
        .operate (.put third 3 "tasks"), .settle]
    let reached := (start sticky).run crashing moves
    let put := reached.1.move crashing (.operate (.put fourth 4 "tasks"))
    StickyCache.create 1 crashing.timeout true = .ok sticky ∧
      stepsIn reached.2 = [.checked ⟨first, "tasks", 1⟩, .called ⟨first, "tasks", 1⟩,
        .ended ⟨first, "tasks", 1⟩ (.answered .crash)] ∧
      CrashedIn reached.2 ∧ EvictsUnheard crashing reached.1 1 4 ⟨third, 3, "tasks", 3⟩ put := by
  intro first second third fourth crashing sticky moves reached put
  have created : StickyCache.create 1 crashing.timeout true = .ok sticky := rfl
  have crashes : (.zero, .dispatched (.ended ⟨first, "tasks", 1⟩ (.answered .crash))) ∈
      reached.2 := by decide +kernel
  have crashed : CrashedIn reached.2 := ⟨_, crashes, _, rfl⟩
  have leaves : Leaves reached.1 put ⟨third, 3, "tasks", 3⟩ :=
    ⟨by decide +kernel, by decide +kernel⟩
  have general := (crash_silences_dispatcher created moves).2 fourth 4 "tasks"
  exact ⟨created, by decide +kernel, crashed, general.1 _ leaves crashed⟩

end StickyMoment

end DecisionWorker

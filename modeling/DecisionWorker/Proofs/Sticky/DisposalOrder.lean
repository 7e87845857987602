import DecisionWorker.Proofs.Cache.Holdings
import DecisionWorker.Proofs.Sticky.Isolation
import DecisionWorker.Proofs.Sticky.Recollection
import DecisionWorker.Sticky.Log

set_option autoImplicit false

/-!
States are disposed after the change that lets them go.

Whoever is disposed sees the cache as the operation leaves it: it has the length that it keeps,
a new entry is in its place, and the entry that had to go is gone. Clearing a cache disposes the
entries in the order of their last touches, and each of them sees an empty cache.
-/

namespace DecisionWorker

variable {State : Type} [DecidableEq State]

namespace Cache

theorem length_disposed_put_le (cache : Cache State) (key : ExecutionKey) (state : State)
    (taskList : String) : (cache.perform (.put key state taskList)).disposed.length ≤ 1 := by
  simp only [perform, put, List.length_map]
  cases (cache.insert key state taskList).released state with
  | none => exact Nat.zero_le _
  | some old => exact Nat.le_refl _

theorem length_disposed_remove_le (cache : Cache State) (key : ExecutionKey) :
    (cache.perform (.remove key)).disposed.length ≤ 1 := by
  simp only [perform, remove, List.length_map]
  cases cache.find? key with
  | none => exact Nat.zero_le _
  | some entry => exact Nat.le_refl _

/-- Whichever operation disposes a state, the state sees the length that the cache keeps. -/
theorem seen_of_disposed {cache : Cache State} {operation : CacheOperation State} {old : State}
    {seen : Nat} (disposed : (old, seen) ∈ (cache.perform operation).disposed) :
    seen = (cache.perform operation).cache.length := by
  cases operation with
  | put key state taskList =>
      simp only [perform, put, List.mem_map, Prod.mk.injEq] at disposed
      obtain ⟨-, -, -, rfl⟩ := disposed
      rfl
  | remove key =>
      simp only [perform, remove, List.mem_map, Prod.mk.injEq] at disposed
      obtain ⟨-, -, -, rfl⟩ := disposed
      rfl
  | clear =>
      simp only [perform, clear, List.mem_map, Prod.mk.injEq] at disposed
      obtain ⟨-, -, -, rfl⟩ := disposed
      rfl
  | get | contains | length | isEmpty | capacity | describe => cases disposed

end Cache

namespace StickyCache

/-- Of an operation that leads from one cache to another: no more than one state is disposed.
It sees the length that the cache has in the end, and it is not cached any more under the key
that it was cached under. -/
structure DisposesOneAtMost (before after : StickyCache State)
    (disposed : List (State × Option Nat)) : Prop where
  single : disposed.length ≤ 1
  seen : ∀ old seen, (old, seen) ∈ disposed →
    ∃ length, seen = some length ∧ after.length = some (.ok length)
  lost : ∀ old seen, (old, seen) ∈ disposed →
    ∃ key entry, before.cached? key = some entry ∧ entry.state = old ∧
      ∀ next, after.cached? key = some next → next.state ≠ old

theorem disposed_of_live {sticky : StickyCache State} {cache : Cache State}
    (live : sticky.standing = .live cache) (operation : CacheOperation State) :
    (sticky.perform operation).sight.disposed =
      (cache.perform operation).disposed.map fun state => (state.1, some state.2) := by
  have released : ∀ states : List (State × Nat),
      (states.map fun state => CacheEffect.disposed state.1 (some state.2)).filterMap
        CacheEffect.disposal? = states.map fun state => (state.1, some state.2) := by
    intro states
    simp [List.filterMap_map, Function.comp_def, CacheEffect.disposal?]
  simp only [perform, live, performLive, StickyOutcome.sight, List.filterMap_append,
    disposals_notifyAll, released, List.nil_append]
  cases operation <;> simp [CacheEffect.disposal?]

theorem Chronological.disposesOneAtMost {sticky : StickyCache State}
    (ordered : sticky.Chronological) {operation : CacheOperation State}
    (single : ∀ cache : Cache State, (cache.perform operation).disposed.length ≤ 1) :
    sticky.DisposesOneAtMost (sticky.perform operation).sticky
      (sticky.perform operation).sight.disposed := by
  obtain ⟨standing, dispatcher⟩ := sticky
  cases standing with
  | live cache =>
      have live : (StickyCache.mk (.live cache) dispatcher).standing = .live cache := rfl
      rw [disposed_of_live live operation]
      refine ⟨?_, ?_, ?_⟩
      · rw [List.length_map]
        exact single cache
      · intro old seen member
        obtain ⟨⟨_, length⟩, inDisposed, ⟨⟩⟩ := List.mem_map.mp member
        refine ⟨length, rfl, ?_⟩
        rw [Cache.seen_of_disposed inDisposed]
        rfl
      · intro old seen member
        obtain ⟨⟨_, length⟩, inDisposed, ⟨⟩⟩ := List.mem_map.mp member
        exact Cache.lost_of_disposed (ordered.sound rfl) inDisposed
  | poisoned | dropped => cases operation <;> exact ⟨Nat.zero_le _, nofun, nofun⟩

theorem live_of_disposed {sticky : StickyCache State} {operation : CacheOperation State}
    (disposes : (sticky.perform operation).sight.disposed ≠ []) :
    ∃ cache, sticky.standing = .live cache := by
  obtain ⟨standing, dispatcher⟩ := sticky
  cases standing with
  | live cache => exact ⟨cache, rfl⟩
  | poisoned => cases operation <;> exact absurd rfl disposes
  | dropped => exact absurd rfl disposes

omit [DecidableEq State] in
theorem live_of_length {sticky : StickyCache State} {number : Nat}
    (counted : sticky.length = some (.ok number)) :
    ∃ cache, sticky.standing = .live cache ∧ cache.length = number := by
  obtain ⟨standing, dispatcher⟩ := sticky
  cases standing with
  | live cache => exact ⟨cache, rfl, by simpa [length] using counted⟩
  | poisoned | dropped => cases counted

theorem perform_clear_of_live {sticky : StickyCache State} {cache : Cache State}
    (live : sticky.standing = .live cache) :
    sticky.perform .clear =
      { sticky := ⟨.live cache.cleared, sticky.dispatcher⟩
        reply := .done
        effects :=
          .cleared cache.length ::
            cache.entries.map fun entry => .disposed entry.state (some 0) } := by
  simp [perform, live, performLive, Cache.perform, Cache.clear, notifyAll, Cache.length,
    Function.comp_def]

theorem cached?_of_put {sticky : StickyCache State} (ordered : sticky.Chronological)
    {cache : Cache State} (live : sticky.standing = .live cache) (key : ExecutionKey)
    (state : State) (taskList : String) :
    (sticky.perform (.put key state taskList)).sticky.cached? key =
      some ⟨key, state, taskList, cache.generation + 1⟩ := by
  have sound := ordered.sound live
  simp only [perform, live]
  show (cache.insert key state taskList).cache.find? key = _
  rw [Cache.find?_insert sound, if_pos rfl]

theorem cached?_of_remove (sticky : StickyCache State) (key : ExecutionKey) :
    (sticky.perform (.remove key)).sticky.cached? key = none := by
  obtain ⟨standing, dispatcher⟩ := sticky
  cases standing with
  | live cache =>
      show (cache.erase key).find? key = none
      rw [Cache.find?_erase, if_pos rfl]
  | poisoned | dropped => rfl

end StickyCache

namespace StickyMoment

/-- To clear a cache empties it and disposes all that it held, in the order of the entries, each in
sight of the empty cache. The service does not hear of it. -/
structure ClearsAll (service : ResetService) (moment : StickyMoment State) (number : Nat)
    (cleared : StickyResult State) : Prop where
  empty : cleared.after.sticky.length = some (.ok 0)
  counted : moment.sticky.entries.length = number
  disposed : cleared.sight.disposed = moment.sticky.entries.map fun entry => (entry.state, some 0)
  logged : cleared.trace.filterMap (fun event => event.2.event? service.timeout) =
    [.say .debug "cleared workflow execution cache" [("count", .integer number)]]
  queued : queuedIn cleared.trace = []
  dispatcher : cleared.after.sticky.dispatcher = moment.sticky.dispatcher
  /-- There is nothing left for the next time. -/
  again : (cleared.after.move service (.operate .clear)).sight.disposed = []

theorem clearsAll (service : ResetService) {moment : StickyMoment State} {cache : Cache State}
    (live : moment.sticky.standing = .live cache) :
    ClearsAll service moment cache.length (moment.move service (.operate .clear)) := by
  have entries := StickyCache.entries_of_live live
  have outcome := StickyCache.perform_clear_of_live live
  have after : (moment.move service (.operate .clear)).after.sticky.standing =
      .live cache.cleared := by
    simp only [move, operated, outcome]
  constructor
  · rw [StickyCache.length, after]
    rfl
  · rw [entries]
    rfl
  · rw [move, sight_operated, StickyCache.disposed_of_live live, entries]
    simp [Cache.perform, Cache.clear, Function.comp_def]
  · simp [move, operated, outcome, StickyEvent.event?, CacheEffect.event?]
  · simp only [move, operated, queuedIn_effects, outcome]
    simp [CacheEffect.queued?, List.filterMap_cons]
  · simp only [move, operated, outcome]
  · rw [move, sight_operated, StickyCache.disposed_of_live after]
    rfl

/-- Every state that an operation disposes sees the cache as the operation leaves it. A put or a
removal disposes no more than one. To clear a cache disposes all that it holds, in the order of
the last touches. -/
theorem disposals_come_last {service : ResetService} {capacity : Nat} {runtime : Bool}
    {sticky : StickyCache State}
    (created : StickyCache.create capacity service.timeout runtime = .ok sticky)
    (moves : List (StickyMove State)) :
    let reached := ((start sticky).run service moves).1
    let performed := fun operation => reached.move service (.operate operation)
    (∀ key state taskList,
      let put := performed (.put key state taskList)
      reached.sticky.DisposesOneAtMost put.after.sticky put.sight.disposed ∧
        (put.sight.disposed ≠ [] → ∃ generation,
          put.after.sticky.cached? key = some ⟨key, state, taskList, generation⟩)) ∧
    (∀ key,
      let removed := performed (.remove key)
      reached.sticky.DisposesOneAtMost removed.after.sticky removed.sight.disposed ∧
        removed.after.sticky.cached? key = none) ∧
    reached.sticky.ByRecency ((start sticky).history service moves) ∧
    ∀ number, reached.sticky.length = some (.ok number) →
      ClearsAll service reached number (performed .clear) := by
  intro reached performed
  have ordered : reached.sticky.Chronological :=
    chronological_run service (StickyCache.chronological_of_create created) moves
  refine ⟨?_, ?_, byRecency_run created moves, ?_⟩
  · intro key state taskList put
    have sight : put.sight = (reached.sticky.perform (.put key state taskList)).sight :=
      sight_operated _ _
    rw [sight]
    refine ⟨ordered.disposesOneAtMost fun cache => cache.length_disposed_put_le key state taskList,
      ?_⟩
    intro disposes
    obtain ⟨cache, live⟩ := StickyCache.live_of_disposed disposes
    exact ⟨cache.generation + 1, StickyCache.cached?_of_put ordered live key state taskList⟩
  · intro key removed
    have sight : removed.sight = (reached.sticky.perform (.remove key)).sight :=
      sight_operated _ _
    rw [sight]
    exact ⟨ordered.disposesOneAtMost fun cache => cache.length_disposed_remove_le key,
      reached.sticky.cached?_of_remove key⟩
  · intro number counted
    obtain ⟨cache, live, rfl⟩ := StickyCache.live_of_length counted
    exact clearsAll service live

/-- The first entry was put first and touched last, so it is the last one to be disposed. -/
theorem disposals_come_last_after_get :
    let first : ExecutionKey := ⟨"first", "run", by decide, by decide⟩
    let second : ExecutionKey := ⟨"second", "run", by decide, by decide⟩
    let silent : ResetService := ⟨.ofSeconds 10, fun _ => ⟨none, .success⟩⟩
    let sticky : StickyCache Nat := ⟨.live (.empty 2), .start⟩
    let moves : List (StickyMove Nat) :=
      [.operate (.put first 1 "tasks"), .operate (.put second 2 "tasks"), .operate (.get first)]
    let reached := ((start sticky).run silent moves).1
    StickyCache.create 2 silent.timeout true = .ok sticky ∧
      reached.sticky.length = some (.ok 2) ∧
      (reached.move silent (.operate .clear)).sight.disposed = [(2, some 0), (1, some 0)] := by
  intro first second silent sticky moves reached
  have created : StickyCache.create 2 silent.timeout true = .ok sticky := rfl
  have counted : reached.sticky.length = some (.ok 2) := by decide +kernel
  have clears := (disposals_come_last created moves).2.2.2 2 counted
  refine ⟨created, counted, clears.disposed.trans ?_⟩
  decide +kernel

end StickyMoment

end DecisionWorker

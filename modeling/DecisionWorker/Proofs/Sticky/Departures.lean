import DecisionWorker.Proofs.Sticky.Pipeline

set_option autoImplicit false

/-!
A key that was evicted and has not come back is reported to the service.

`lastDeparture?` reads off a run how a key left the cache last, and what has happened since.
While a key is away its last notice cannot become stale, so the dispatcher may skip older
notices of the key but not this one.
-/

namespace DecisionWorker

variable {State : Type}

/-- How a key leaves a cache: it makes room, or it is taken out. -/
inductive Departure (State : Type) where
  | evicted (entry : Entry State)
  | withdrawn
  deriving DecidableEq

namespace StickyCache

theorem key_of_entry? {sticky : StickyCache State} {key : ExecutionKey} {entry : Entry State}
    (found : sticky.cached? key = some entry) : entry.key = key := by
  obtain ⟨standing, dispatcher⟩ := sticky
  cases standing with
  | live cache => exact (Cache.mem_of_find? found).2
  | poisoned => cases found
  | dropped => cases found

theorem stale_of_absent {sticky : StickyCache State} {eviction : Eviction}
    (absent : sticky.cached? eviction.key = none) : sticky.stale eviction = false := by
  obtain ⟨standing, dispatcher⟩ := sticky
  cases standing with
  | live cache =>
      have missing : cache.find? eviction.key = none := absent
      simp [stale, missing]
  | poisoned => rfl
  | dropped => rfl

end StickyCache

namespace StickyMoment

/-- A notice waits for its call or was called about. -/
def Pending (eviction : Eviction) (moment : StickyMoment State) (trace : StickyTrace State) :
    Prop :=
  eviction ∈ moment.sticky.dispatcher.uncalled ∨ .called eviction ∈ stepsIn trace

theorem keptInBackground_pending {service : ResetService} (calm : service.NeverCrashes)
    {standing : Standing State} {eviction : Eviction}
    (fresh : standing.view.stale eviction = false) :
    KeptInBackground service fun moment trace =>
      moment.sticky.standing = standing ∧ moment.sticky.Healthy ∧
        Pending eviction moment trace where
  dispatch {now other dispatcher next happened trace} before moved := by
    obtain ⟨rfl, healthy, pending⟩ := before
    refine ⟨rfl, healthy.dispatch calm moved, ?_⟩
    unfold Pending at pending ⊢
    rw [stepsIn_append, stepsIn_dispatched, List.mem_append, List.mem_singleton]
    rcases pending with waits | called
    · cases moved with
      | skip stale =>
          rcases List.mem_cons.mp waits with rfl | inRest
          · exact absurd stale (by simp [fresh])
          · exact .inl inRest
      | check _ => exact .inl waits
      | call =>
          rcases List.mem_cons.mp waits with rfl | inRest
          · exact .inr (.inr rfl)
          · exact .inl inRest
      | finish due answered => exact .inl waits
      | crash due => exact absurd rfl (healthy.answers _ _ _ rfl)
      | stop closed => exact .inl waits
    · exact .inr (.inl called)
  pass before _ := before

variable [DecidableEq State]

theorem pending_move {service : ResetService} (calm : service.NeverCrashes)
    {moment : StickyMoment State} {eviction : Eviction} (healthy : moment.sticky.Healthy)
    (waits : eviction ∈ moment.sticky.dispatcher.uncalled)
    (absent : moment.sticky.cached? eviction.key = none) (move : StickyMove State) :
    Pending eviction (moment.move service move).after (moment.move service move).trace := by
  have background : move.Background →
      Pending eviction (moment.move service move).after (moment.move service move).trace := by
    intro background
    have fresh : moment.sticky.standing.view.stale eviction = false :=
      StickyCache.stale_of_absent absent
    have before : moment.sticky.standing = moment.sticky.standing ∧ moment.sticky.Healthy ∧
        Pending eviction moment [] := ⟨rfl, healthy, .inl waits⟩
    exact ((keptInBackground_pending calm fresh).move before background).2.2
  cases move with
  | operate operation =>
      left
      simp only [StickyMoment.move, operated, StickyCache.dispatcher_perform healthy,
        Dispatcher.uncalled, StickyCache.checked_queued, StickyCache.queue_queued]
      rw [← List.append_assoc]
      exact List.mem_append_left _ waits
  | crashInserting crash =>
      left
      simp only [StickyMoment.move, operated, moment.sticky.effects_crashInserting crash]
      exact waits
  | drop => exact .inl waits
  | dispatch | pass | settle | advance => exact background trivial

/-- How a key leaves with a move, if it does. -/
def departure? (service : ResetService) (key : ExecutionKey) (moment : StickyMoment State)
    (move : StickyMove State) : Option (Departure State) :=
  let moved := moment.move service move
  match moment.sticky.cached? key, moved.after.sticky.cached? key with
  | some entry, none =>
      some (if moved.reply = .evicted (some key) then .evicted entry else .withdrawn)
  | _, _ => none

/-- How a key left last in the course of a run, if it did, and all that happened since. -/
def lastDeparture? (service : ResetService) (key : ExecutionKey) (moment : StickyMoment State) :
    List (StickyMove State) → Option (Departure State × StickyTrace State)
  | [] => none
  | first :: rest =>
      let next := (moment.move service first).after
      match lastDeparture? service key next rest with
      | some found => some found
      | none => (departure? service key moment first).map fun found =>
          (found, (next.run service rest).2)

theorem lastDeparture?_cons_eq_none {service : ResetService} {key : ExecutionKey}
    {moment : StickyMoment State} {first : StickyMove State} {rest : List (StickyMove State)}
    (none : lastDeparture? service key moment (first :: rest) = none) :
    lastDeparture? service key (moment.move service first).after rest = Option.none ∧
      departure? service key moment first = Option.none := by
  rw [lastDeparture?] at none
  split at none
  next => cases none
  next stayed => exact ⟨stayed, by simpa using none⟩

/-- Without a departure, a key that is away in the end was away all the time. -/
theorem absent_of_lastDeparture? {service : ResetService} {key : ExecutionKey}
    {moment : StickyMoment State} {moves : List (StickyMove State)}
    (stayed : lastDeparture? service key moment moves = none)
    (absent : (moment.run service moves).1.sticky.cached? key = none) :
    moment.sticky.cached? key = none := by
  induction moves generalizing moment with
  | nil => exact absent
  | cons first rest inductionHypothesis =>
      obtain ⟨later, now⟩ := lastDeparture?_cons_eq_none stayed
      have next := inductionHypothesis later absent
      cases present : moment.sticky.cached? key with
      | none => rfl
      | some entry => simp [departure?, present, next] at now

theorem pending_run {service : ResetService} (calm : service.NeverCrashes)
    {moment : StickyMoment State} {eviction : Eviction} {moves : List (StickyMove State)}
    (healthy : moment.sticky.Healthy) (waits : eviction ∈ moment.sticky.dispatcher.uncalled)
    (stayed : lastDeparture? service eviction.key moment moves = none)
    (absent : (moment.run service moves).1.sticky.cached? eviction.key = none) :
    Pending eviction (moment.run service moves).1 (moment.run service moves).2 := by
  induction moves generalizing moment with
  | nil => exact .inl waits
  | cons first rest inductionHypothesis =>
      have away := absent_of_lastDeparture? stayed absent
      have later := (lastDeparture?_cons_eq_none stayed).1
      unfold Pending
      simp only [run, stepsIn_append, List.mem_append]
      rcases pending_move calm healthy waits away first with remains | called
      · have rest := inductionHypothesis (move_healthy calm healthy first) remains later absent
        exact rest.imp_right .inr
      · exact .inr (.inl called)

theorem operate_of_evicted {service : ResetService} {moment : StickyMoment State}
    {move : StickyMove State} {key : Option ExecutionKey}
    (evicted : (moment.move service move).reply = .evicted key) :
    ∃ operation, move = .operate operation ∧
      (moment.sticky.perform operation).reply = .evicted key := by
  cases move with
  | operate operation => exact ⟨operation, rfl, evicted⟩
  | crashInserting crash =>
      obtain ⟨now, standing, dispatcher⟩ := moment
      cases standing <;> cases evicted
  | dispatch =>
      simp only [StickyMoment.move] at evicted
      split at evicted <;> cases evicted
  | drop | pass | settle | advance => cases evicted

theorem eq_of_departure? {service : ResetService} {key : ExecutionKey}
    {moment : StickyMoment State} {move : StickyMove State} {entry : Entry State}
    (left : departure? service key moment move = some (.evicted entry)) :
    moment.sticky.cached? key = some entry ∧
      (moment.move service move).reply = .evicted (some key) := by
  simp only [departure?] at left
  split at left
  next present _ =>
    split at left
    next replied =>
      cases left
      exact ⟨present, replied⟩
    next => cases left
  next => cases left

theorem queued_of_departure? {service : ResetService} {key : ExecutionKey}
    {moment : StickyMoment State} {move : StickyMove State} {entry : Entry State}
    (healthy : moment.sticky.Healthy)
    (left : departure? service key moment move = some (.evicted entry)) :
    entry.eviction ∈ (moment.move service move).after.sticky.dispatcher.queue := by
  obtain ⟨present, replied⟩ := eq_of_departure? left
  obtain ⟨operation, rfl, reply⟩ := operate_of_evicted replied
  have victim : (moment.sticky.perform operation).reply.evictedKey?.bind moment.sticky.cached? =
      some entry := by
    rw [reply]
    exact present
  simp only [StickyMoment.move, operated, StickyCache.dispatcher_perform healthy,
    StickyCache.queued_perform healthy, victim, StickyCache.queue_queued]
  exact List.mem_append_right _ List.mem_cons_self

/-- The induction behind the main statement: a run splits at the last departure. -/
theorem pending_since {service : ResetService} (calm : service.NeverCrashes)
    {key : ExecutionKey} {entry : Entry State} {since : StickyTrace State}
    {moment : StickyMoment State} {moves : List (StickyMove State)}
    (healthy : moment.sticky.Healthy)
    (absent : (moment.run service moves).1.sticky.cached? key = none)
    (last : lastDeparture? service key moment moves = some (.evicted entry, since)) :
    entry.key = key ∧ Pending entry.eviction (moment.run service moves).1 since := by
  induction moves generalizing moment with
  | nil => cases last
  | cons first rest inductionHypothesis =>
      have next := move_healthy calm healthy first
      rw [lastDeparture?] at last
      split at last
      next found later =>
        cases last
        exact inductionHypothesis next absent later
      next stayed =>
        obtain ⟨_, now, same⟩ := Option.map_eq_some_iff.mp last
        cases same
        have queued := queued_of_departure? healthy now
        obtain rfl := StickyCache.key_of_entry? (eq_of_departure? now).1
        exact ⟨rfl, pending_run calm next (List.mem_append_right _ queued) stayed absent⟩

/-- Once the dispatcher has run out of notices, a key that was evicted last has been called
about since then. -/
theorem evicted_key_is_reported {service : ResetService} (calm : service.NeverCrashes)
    {capacity : Nat} {runtime : Bool} {sticky : StickyCache State}
    (created : StickyCache.create capacity service.timeout runtime = .ok sticky)
    {moves : List (StickyMove State)} {key : ExecutionKey} {entry : Entry State}
    {since : StickyTrace State}
    (absent : ((start sticky).run service moves).1.sticky.cached? key = none)
    (last : lastDeparture? service key (start sticky) moves = some (.evicted entry, since))
    (done : ((start sticky).run service moves).1.sticky.dispatcher.uncalled = []) :
    entry.key = key ∧ .called entry.eviction ∈ stepsIn since := by
  have healthy := StickyCache.healthy_of_create created
  obtain ⟨same, waits | called⟩ := pending_since calm healthy absent last
  · rw [done] at waits
    cases waits
  · exact ⟨same, called⟩

/-- The first notice of the key is skipped, since the key is cached again by then. -/
theorem evicted_key_is_reported_after_skip :
    let first : ExecutionKey := ⟨"first", "run", by decide, by decide⟩
    let second : ExecutionKey := ⟨"second", "run", by decide, by decide⟩
    let silent : ResetService := ⟨.ofSeconds 10, fun _ => ⟨none, .success⟩⟩
    let sticky : StickyCache Nat := ⟨.live (.empty 1), .start⟩
    let moves : List (StickyMove Nat) :=
      [.operate (.put first 1 "tasks"), .operate (.put second 2 "tasks"),
        .operate (.put first 3 "tasks"), .settle, .operate (.put second 4 "tasks"),
        .advance (.ofSeconds 60)]
    let reached := (start sticky).run silent moves
    silent.NeverCrashes ∧ StickyCache.create 1 silent.timeout true = .ok sticky ∧
      reached.1.sticky.cached? first = none ∧ reached.1.sticky.dispatcher.uncalled = [] ∧
      .skipped ⟨first, "tasks", 1⟩ ∈ stepsIn reached.2 ∧
      ∃ since, lastDeparture? silent first (start sticky) moves =
          some (.evicted ⟨first, 3, "tasks", 3⟩, since) ∧
        .called ⟨first, "tasks", 3⟩ ∈ stepsIn since := by
  intro first second silent sticky moves reached
  have calm : silent.NeverCrashes := fun _ => nofun
  have created : StickyCache.create 1 silent.timeout true = .ok sticky := rfl
  have absent : reached.1.sticky.cached? first = none := by decide +kernel
  have done : reached.1.sticky.dispatcher.uncalled = [] := by decide +kernel
  have skipped : .skipped ⟨first, "tasks", 1⟩ ∈ stepsIn reached.2 := by decide +kernel
  have left : (lastDeparture? silent first (start sticky) moves).map Prod.fst =
      some (.evicted ⟨first, 3, "tasks", 3⟩) := by decide +kernel
  obtain ⟨⟨_, since⟩, last, rfl⟩ := Option.map_eq_some_iff.mp left
  exact ⟨calm, created, absent, done, skipped, since, last,
    (evicted_key_is_reported calm created absent last done).2⟩

end StickyMoment

end DecisionWorker

import DecisionWorker.Proofs.Cache.Disposal
import DecisionWorker.Proofs.Poller.Handovers

set_option autoImplicit false

/-!
The states that a poller has in use, and how the cache and the handlers pass them on.

`Tracked` is what holds of a poller at every moment: a state is in use for one key only, a
cached state that was disposed has been put back, and the trace shows which handlers are at
work. Each change of the cache or of a loop keeps it.
-/

namespace DecisionWorker.PollerState

/-- A state is cached under a key, or a handler is at work on it for a task of that key. -/
def InUse (current : PollerState) (state : StateName) (key : ExecutionKey) : Prop :=
  (∃ entry, current.sticky.cached? key = some entry ∧ entry.state = state) ∨
    ∃ loop task, current.held? loop = some (task, state) ∧ task.execution = key

theorem InUse.of_same {current next : PollerState} {state : StateName} {key : ExecutionKey}
    (inUse : next.InUse state key)
    (standing : next.sticky.standing = current.sticky.standing)
    (held : ∀ {loop found}, next.held? loop = some found → current.held? loop = some found) :
    current.InUse state key := by
  rcases inUse with ⟨entry, cached, rfl⟩ | ⟨loop, task, working, rfl⟩
  · rw [StickyCache.cached?_congr standing] at cached
    exact .inl ⟨entry, cached, rfl⟩
  · exact .inr ⟨loop, task, held working, rfl⟩

structure Tracked (current : PollerState) (past : List Occurrence) (ever : List StateName) :
    Prop where
  live : ∃ cache, current.sticky.standing = .live cache ∧ cache.Sound
  oneKey : ∀ {state key other},
    current.InUse state key → current.InUse state other → key = other
  inUse : ∀ {state key}, current.InUse state key → state ∈ ever
  disposed : ∀ {state}, state ∈ disposedIn past → state ∈ ever
  returned : ∀ {key entry}, current.sticky.cached? key = some entry →
    entry.state ∈ disposedIn past → PutBack entry.state past
  underway : ∀ {loop task state}, current.held? loop = some (task, state) →
    Underway loop task state past
  explained : Explained past

def Quiet (next : PollerState) : Occurrence → Prop
  | .sticky (.effect (.disposed _ _)) => False
  | .handled _ _ (some _) => False
  | .decided loop _ _ => next.held? loop = none
  | _ => True

theorem quiet_of_aside (next : PollerState) {occurrence : Occurrence} (aside : occurrence.Aside) :
    next.Quiet occurrence := by
  cases occurrence <;> trivial

section Quiet

variable {next : PollerState} {happened : List Occurrence}

theorem disposedIn_of_quiet (quiet : ∀ occurrence ∈ happened, next.Quiet occurrence) :
    disposedIn happened = [] := by
  apply List.filterMap_eq_nil_iff.mpr
  intro occurrence member
  have silent := quiet occurrence member
  cases occurrence with
  | sticky event =>
      cases event with
      | effect effect =>
          cases effect with
          | disposed state length => exact silent.elim
          | _ => rfl
      | dispatched step => rfl
  | _ => rfl

theorem Tracked.quiet {current : PollerState} {past : List Occurrence} {ever : List StateName}
    (tracked : Tracked current past ever)
    (standing : next.sticky.standing = current.sticky.standing)
    (held : ∀ {loop found}, next.held? loop = some found → current.held? loop = some found)
    (quiet : ∀ occurrence ∈ happened, next.Quiet occurrence) :
    Tracked next (past ++ happened) ever := by
  have same : disposedIn (past ++ happened) = disposedIn past := by
    rw [disposedIn_append, disposedIn_of_quiet quiet, List.append_nil]
  refine ⟨?_, ?_, ?_, ?_, ?_, ?_, ?_⟩
  · rw [standing]
    exact tracked.live
  · intro state key other left right
    exact tracked.oneKey (left.of_same standing held) (right.of_same standing held)
  · intro state key inUse
    exact tracked.inUse (inUse.of_same standing held)
  · intro state disposed
    rw [same] at disposed
    exact tracked.disposed disposed
  · intro key entry cached disposed
    rw [StickyCache.cached?_congr standing] at cached
    rw [same] at disposed
    exact (tracked.returned cached disposed).append happened
  · intro loop task state working
    apply (tracked.underway (held working)).append
    intro other answer decided
    have idle : next.held? loop = none := quiet _ decided
    rw [idle] at working
    cases working
  · exact tracked.explained.append fun loop task state handled => quiet _ handled

end Quiet

section Operations

variable {current : PollerState} {past : List Occurrence} {ever : List StateName}

theorem perform_of_live {cache : Cache StateName}
    (live : current.sticky.standing = .live cache) (operation : CacheOperation StateName) :
    let performed := current.perform operation
    performed.1.sticky.standing = .live (cache.perform operation).cache ∧
      performed.2.1 = (cache.perform operation).reply ∧
      disposedIn performed.2.2 = (cache.perform operation).disposed.map Prod.fst := by
  have outcome : current.sticky.perform operation =
      StickyCache.performLive current.sticky.dispatcher cache operation := by
    simp only [StickyCache.perform, live]
  simp only [PollerState.perform, outcome]
  refine ⟨rfl, rfl, ?_⟩
  rw [disposedIn_effects]
  exact StickyCache.disposed_performLive _ cache operation

theorem cached?_perform {cache : Cache StateName} (live : current.sticky.standing = .live cache)
    (sound : cache.Sound) {operation : CacheOperation StateName} {key : ExecutionKey}
    {entry : Entry StateName}
    (found : (current.perform operation).1.sticky.cached? key = some entry) :
    current.sticky.cached? key = some entry ∨
      operation = .put key entry.state entry.taskList := by
  rw [StickyCache.cached?_of_live (perform_of_live live operation).1] at found
  rw [StickyCache.cached?_of_live live]
  exact Cache.find?_perform sound found

theorem inUse_perform {cache : Cache StateName} (live : current.sticky.standing = .live cache)
    (sound : cache.Sound) {operation : CacheOperation StateName} {state : StateName}
    {key : ExecutionKey} (inUse : (current.perform operation).1.InUse state key) :
    current.InUse state key ∨ ∃ taskList, operation = .put key state taskList := by
  rcases inUse with ⟨entry, found, rfl⟩ | working
  · rcases cached?_perform live sound found with same | put
    · exact .inl (.inl ⟨entry, same, rfl⟩)
    · exact .inr ⟨entry.taskList, put⟩
  · exact .inl (.inr working)

/-- A state that is disposed was in use for a key that has lost it. -/
theorem lost_of_perform {cache : Cache StateName} (live : current.sticky.standing = .live cache)
    (sound : cache.Sound) {operation : CacheOperation StateName} {state : StateName}
    (disposed : state ∈ disposedIn (current.perform operation).2.2) :
    ∃ key, current.InUse state key ∧
      ∀ next, (current.perform operation).1.sticky.cached? key = some next →
        next.state ≠ state := by
  rw [(perform_of_live live operation).2.2] at disposed
  obtain ⟨⟨_, length⟩, member, rfl⟩ := List.mem_map.mp disposed
  obtain ⟨key, entry, found, same, unlike⟩ := Cache.lost_of_disposed sound member
  rw [← StickyCache.cached?_of_live live] at found
  refine ⟨key, .inl ⟨entry, found, same⟩, ?_⟩
  intro next cached
  rw [StickyCache.cached?_of_live (perform_of_live live operation).1] at cached
  exact unlike next cached

theorem not_disposed_of_put {cache : Cache StateName}
    (live : current.sticky.standing = .live cache) (key : ExecutionKey) (state : StateName)
    (taskList : String) :
    state ∉ disposedIn (current.perform (.put key state taskList)).2.2 := by
  rw [(perform_of_live live _).2.2]
  intro disposed
  obtain ⟨⟨_, length⟩, member, rfl⟩ := List.mem_map.mp disposed
  exact Cache.not_disposed_of_put _ _ _ _ _ member

/-- What a poller may store: a state that is known, in use for no other key, and put back if
it was disposed. -/
def MayStore (current : PollerState) (past : List Occurrence) (ever : List StateName)
    (operation : CacheOperation StateName) : Prop :=
  ∀ key state taskList, operation = .put key state taskList →
    state ∈ ever ∧ (∀ other, current.InUse state other → other = key) ∧
      (state ∈ disposedIn past → PutBack state past)

theorem Tracked.perform (tracked : Tracked current past ever)
    (operation : CacheOperation StateName) (may : MayStore current past ever operation) :
    Tracked (current.perform operation).1 (past ++ (current.perform operation).2.2) ever := by
  obtain ⟨cache, live, sound⟩ := tracked.live
  refine ⟨⟨_, (perform_of_live live operation).1, Cache.perform_sound sound operation⟩,
    ?_, ?_, ?_, ?_, ?_, ?_⟩
  · intro state key other left right
    rcases inUse_perform live sound left with oldLeft | ⟨_, putLeft⟩
    · rcases inUse_perform live sound right with oldRight | ⟨_, putRight⟩
      · exact tracked.oneKey oldLeft oldRight
      · exact (may _ _ _ putRight).2.1 _ oldLeft
    · rcases inUse_perform live sound right with oldRight | ⟨_, putRight⟩
      · exact ((may _ _ _ putLeft).2.1 _ oldRight).symm
      · cases putLeft.symm.trans putRight
        rfl
  · intro state key inUse
    rcases inUse_perform live sound inUse with old | ⟨_, put⟩
    · exact tracked.inUse old
    · exact (may _ _ _ put).1
  · intro state disposed
    rw [disposedIn_append] at disposed
    rcases List.mem_append.mp disposed with before | now
    · exact tracked.disposed before
    · obtain ⟨_, inUse, -⟩ := lost_of_perform live sound now
      exact tracked.inUse inUse
  · intro key entry found disposed
    rw [disposedIn_append] at disposed
    rcases cached?_perform live sound found with same | rfl
    · rcases List.mem_append.mp disposed with before | now
      · exact (tracked.returned same before).append _
      · -- The key that lost the state would be the one under which it is still cached.
        obtain ⟨other, inUse, unlike⟩ := lost_of_perform live sound now
        obtain rfl := tracked.oneKey (.inl ⟨entry, same, rfl⟩) inUse
        exact absurd rfl (unlike entry found)
    · have before := (List.mem_append.mp disposed).resolve_right
        (not_disposed_of_put live _ _ _)
      exact ((may _ _ _ rfl).2.2 before).append _
  · intro loop task state working
    apply (tracked.underway working).append
    intro other answer decided
    obtain ⟨_, _, nothing⟩ := List.mem_map.mp decided
    cases nothing
  · apply tracked.explained.append
    intro loop task state handled
    obtain ⟨_, _, nothing⟩ := List.mem_map.mp handled
    cases nothing

theorem Tracked.hand (tracked : Tracked current past ever) {next : PollerState} {loop : Nat}
    {task : DecisionTask} {entry : Entry StateName} {phase : LoopPhase}
    (cached : current.sticky.cached? task.execution = some entry)
    (standing : next.sticky.standing = current.sticky.standing)
    (loops : next.loops = current.loops.set loop phase)
    (held : phase.held? = some (task, entry.state)) :
    Tracked next (past ++ [.handled loop task (some entry.state)]) ever := by
  have works : ∀ {other found}, next.held? other = some found →
      (other = loop ∧ found = (task, entry.state)) ∨ current.held? other = some found := by
    intro other found working
    unfold held? at working
    rw [loops] at working
    rcases held?_of_set working with ⟨same, given⟩ | ⟨-, given⟩
    · cases held.symm.trans given
      exact .inl ⟨same, rfl⟩
    · exact .inr given
  have uses : ∀ {state key}, next.InUse state key → current.InUse state key := by
    rintro state key (⟨other, found, rfl⟩ | ⟨other, otherTask, working, rfl⟩)
    · rw [StickyCache.cached?_congr standing] at found
      exact .inl ⟨other, found, rfl⟩
    · rcases works working with ⟨-, same⟩ | already
      · cases same
        exact .inl ⟨entry, cached, rfl⟩
      · exact .inr ⟨other, otherTask, already, rfl⟩
  have same : disposedIn (past ++ [.handled loop task (some entry.state)]) = disposedIn past := by
    rw [disposedIn_append]
    exact List.append_nil _
  refine ⟨?_, fun left right => tracked.oneKey (uses left) (uses right),
    fun inUse => tracked.inUse (uses inUse), ?_, ?_, ?_, ?_⟩
  · rw [standing]
    exact tracked.live
  · intro state disposed
    rw [same] at disposed
    exact tracked.disposed disposed
  · intro key other found disposed
    rw [StickyCache.cached?_congr standing] at found
    rw [same] at disposed
    exact (tracked.returned found disposed).append _
  · intro other otherTask state working
    rcases works working with ⟨rfl, given⟩ | already
    · cases given
      exact ⟨past, [], rfl, nofun⟩
    · exact (tracked.underway already).append (by simp)
  · exact tracked.explained.hand (tracked.returned cached) loop task

theorem held?_setLoop {loop : Nat} {phase : LoopPhase} (idle : phase.held? = none) {other : Nat}
    {found : DecisionTask × StateName}
    (held : (current.setLoop loop phase).held? other = some found) :
    current.held? other = some found := by
  rcases held?_of_set held with ⟨-, same⟩ | ⟨-, same⟩
  · rw [idle] at same
    cases same
  · exact same

theorem held?_setLoop_self {loop : Nat} {phase : LoopPhase} (idle : phase.held? = none) :
    (current.setLoop loop phase).held? loop = none := by
  cases held : (current.setLoop loop phase).held? loop with
  | none => rfl
  | some found =>
      rcases held?_of_set held with ⟨-, same⟩ | ⟨unlike, -⟩
      · rw [idle] at same
        cases same
      · exact absurd rfl unlike

theorem Tracked.aside (tracked : Tracked current past ever) {loop : Nat} {outcome : Outcome}
    (moves : MovesAside current loop outcome) :
    Tracked outcome.1 (past ++ outcome.2) ever := by
  obtain ⟨phase, loops, idle⟩ := moves.loops
  refine tracked.quiet (by rw [moves.sticky]) ?_ ?_
  · intro other found held
    unfold held? at held
    rw [loops] at held
    exact held?_setLoop idle held
  · intro occurrence member
    exact quiet_of_aside _ (moves.happened occurrence member)

theorem Tracked.decide (tracked : Tracked current past ever) {next : PollerState} {loop : Nat}
    {task : DecisionTask} {answer : HandlerAnswer}
    (standing : next.sticky.standing = current.sticky.standing)
    (loops : next.loops = current.loops.set loop .throttle) :
    Tracked next (past ++ [.decided loop task answer]) ever := by
  have same : next.held? = (current.setLoop loop .throttle).held? := by
    funext other
    simp only [held?, loops, setLoop]
  refine tracked.quiet standing ?_ ?_
  · intro other found working
    rw [same] at working
    exact held?_setLoop rfl working
  · intro occurrence member
    rw [List.mem_singleton.mp member]
    simp only [Quiet, same]
    exact held?_setLoop_self rfl

theorem Tracked.widen (tracked : Tracked current past ever) {more : List StateName} :
    Tracked current past (ever ++ more) where
  live := tracked.live
  oneKey := tracked.oneKey
  inUse inUse := List.mem_append_left _ (tracked.inUse inUse)
  disposed gone := List.mem_append_left _ (tracked.disposed gone)
  returned := tracked.returned
  underway := tracked.underway
  explained := tracked.explained

theorem Tracked.handNothing (tracked : Tracked current past ever) {next : PollerState}
    {loop : Nat} {task : DecisionTask} {phase : LoopPhase}
    (standing : next.sticky.standing = current.sticky.standing)
    (loops : next.loops = current.loops.set loop phase) (idle : phase.held? = none) :
    Tracked next (past ++ [.handled loop task none]) ever := by
  refine tracked.quiet standing ?_ (by simp [Quiet])
  intro other found working
  unfold held? at working
  rw [loops] at working
  exact held?_setLoop idle working

end Operations

end DecisionWorker.PollerState

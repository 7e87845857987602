import DecisionWorker.Proofs.Cache.History
import DecisionWorker.Proofs.Sticky.Staleness

set_option autoImplicit false

/-!
What the users of a cache can remember of a run.

Only operations leave a record; what the dispatcher and the clock do, nobody remembers. As long
as the cache is in use it agrees with the records, so its entries stand in the order of their
last touches (`ByRecency`). Once it is poisoned or dropped there are no entries that anybody
could reach.
-/

namespace DecisionWorker

variable {State : Type}

namespace StickyCache

/-- The entries that are within reach. -/
def entries (sticky : StickyCache State) : List (Entry State) :=
  match sticky.standing with
  | .live cache => cache.entries
  | _ => []

theorem entries_of_live {sticky : StickyCache State} {cache : Cache State}
    (live : sticky.standing = .live cache) : sticky.entries = cache.entries := by
  simp only [entries, live]

/-- The entries are those that are cached, from the one that was touched longest ago to the one
that was touched last. -/
structure ByRecency (sticky : StickyCache State) (history : CacheHistory State) : Prop where
  mem_iff : ∀ entry, entry ∈ sticky.entries ↔ sticky.cached? entry.key = some entry
  ordered : Cache.OrderedBy history sticky.entries

theorem Chronological.mem_entries_iff {sticky : StickyCache State}
    (ordered : sticky.Chronological) (entry : Entry State) :
    entry ∈ sticky.entries ↔ sticky.cached? entry.key = some entry := by
  obtain ⟨standing, dispatcher⟩ := sticky
  cases standing with
  | live cache =>
      have sound : cache.Sound := ordered.sound rfl
      simp [entries, cached?, sound.find?_eq_some_iff]
  | poisoned | dropped => simp [entries, cached?]

end StickyCache

namespace StickyMoment

variable [DecidableEq State]

def record (moment : StickyMoment State) : StickyMove State → CacheHistory State
  | .operate operation => [⟨operation, (moment.sticky.perform operation).reply⟩]
  | _ => []

def history (service : ResetService) (moment : StickyMoment State) :
    List (StickyMove State) → CacheHistory State
  | [] => []
  | first :: rest =>
      moment.record first ++ history service (moment.move service first).after rest

theorem record_of_background (moment : StickyMoment State) {move : StickyMove State}
    (background : move.Background) : moment.record move = [] := by
  cases move with
  | operate => exact background.elim
  | crashInserting | drop | dispatch | pass | settle | advance => rfl

theorem remembers_move {service : ResetService} {moment : StickyMoment State}
    {past : CacheHistory State} {before cache : Cache State} (sound : before.Sound)
    (was : moment.sticky.standing = .live before) (remembers : Cache.Remembers past before)
    {move : StickyMove State}
    (live : (moment.move service move).after.sticky.standing = .live cache) :
    Cache.Remembers (past ++ moment.record move) cache := by
  obtain ⟨_, same, happened⟩ := live_cases live
  rw [was] at same
  cases same
  rcases happened with ⟨operation, rfl, rfl⟩ | ⟨background, rfl⟩
  · have replied : (moment.sticky.perform operation).reply = (before.perform operation).reply := by
      simp only [StickyCache.perform, was, StickyCache.performLive]
    rw [record, replied]
    exact remembers.perform sound operation
  · rw [record_of_background moment background, List.append_nil]
    exact remembers

/-- A cache that is still in use agrees with the records from its beginning. -/
theorem remembers_run {service : ResetService} {moment : StickyMoment State}
    (ordered : moment.sticky.Chronological) {past : CacheHistory State} {before cache : Cache State}
    (was : moment.sticky.standing = .live before) (remembers : Cache.Remembers past before)
    {moves : List (StickyMove State)}
    (live : (moment.run service moves).1.sticky.standing = .live cache) :
    Cache.Remembers (past ++ moment.history service moves) cache := by
  induction moves generalizing moment past before with
  | nil =>
      simp only [run, was, Standing.live.injEq] at live
      subst live
      simpa [history] using remembers
  | cons first rest inductionHypothesis =>
      have liveRest : ((moment.move service first).after.run service rest).1.sticky.standing =
          .live cache := live
      obtain ⟨next, liveNext, -⟩ := generation_run liveRest
      have later := inductionHypothesis (chronological_move service ordered first) liveNext
        (remembers_move (ordered.sound was) was remembers liveNext) live
      rw [List.append_assoc] at later
      exact later

theorem remembers_of_create {service : ResetService} {capacity : Nat} {runtime : Bool}
    {sticky : StickyCache State}
    (created : StickyCache.create capacity service.timeout runtime = .ok sticky)
    {moves : List (StickyMove State)} {cache : Cache State}
    (live : ((start sticky).run service moves).1.sticky.standing = .live cache) :
    Cache.Remembers ((start sticky).history service moves) cache := by
  have ordered : (start sticky).sticky.Chronological :=
    StickyCache.chronological_of_create created
  obtain ⟨-, rfl⟩ := StickyCache.eq_of_create created
  exact remembers_run ordered rfl (Cache.remembers_empty capacity) live

theorem byRecency_run {service : ResetService} {capacity : Nat} {runtime : Bool}
    {sticky : StickyCache State}
    (created : StickyCache.create capacity service.timeout runtime = .ok sticky)
    (moves : List (StickyMove State)) :
    ((start sticky).run service moves).1.sticky.ByRecency
      ((start sticky).history service moves) where
  mem_iff := by
    apply StickyCache.Chronological.mem_entries_iff
    exact chronological_run service (StickyCache.chronological_of_create created) moves
  ordered := by
    cases standing : ((start sticky).run service moves).1.sticky.standing with
    | live cache =>
        rw [StickyCache.entries_of_live standing]
        exact (remembers_of_create created standing).ordered
    | poisoned | dropped =>
        simp only [StickyCache.entries, standing]
        exact List.Pairwise.nil

end StickyMoment

end DecisionWorker

import DecisionWorker.Proofs.Sticky.Notices

set_option autoImplicit false

/-!
The states that are disposed in the course of a run.

Only operations and the drop of a cache dispose states; the dispatcher does not.
-/

namespace DecisionWorker

def CacheEffect.disposed? {State : Type} : CacheEffect State → Option State
  | .disposed state _ => some state
  | _ => none

/-- The states that are disposed in a trace, in order. -/
def disposalsIn {State : Type} (trace : StickyTrace State) : List State :=
  trace.filterMap fun event =>
    match event.2 with
    | .effect happened => happened.disposed?
    | .dispatched _ => none

section Traces

variable {State : Type}

end Traces

namespace StickyCache

variable {State : Type} [DecidableEq State]

theorem disposed_releaseEffects (cache : Cache State) (operation : CacheOperation State) :
    (releaseEffects cache operation).filterMap CacheEffect.disposed? =
      (cache.perform operation).disposed.map Prod.fst := by
  cases operation <;>
    simp [releaseEffects, CacheEffect.disposed?, Function.comp_def, List.filterMap_cons]

theorem disposed_performLive (dispatcher : Dispatcher) (cache : Cache State)
    (operation : CacheOperation State) :
    (performLive dispatcher cache operation).effects.filterMap CacheEffect.disposed? =
      (cache.perform operation).disposed.map Prod.fst := by
  have effects : (performLive dispatcher cache operation).effects =
      (notifyAll dispatcher (cache.perform operation).evicted).2 ++
        releaseEffects cache operation := List.append_assoc _ _ _
  have notified : (notifyAll dispatcher (cache.perform operation).evicted).2.filterMap
      CacheEffect.disposed? = [] := by
    cases (cache.perform operation).evicted with
    | none => rfl
    | some entry =>
        simp only [notifyAll, notify]
        split <;> rfl
  rw [effects, List.filterMap_append, notified, disposed_releaseEffects, List.nil_append]

end StickyCache

namespace StickyMoment

variable {State : Type}

theorem disposalsIn_move_of_background [DecidableEq State] (service : ResetService)
    (moment : StickyMoment State) {move : StickyMove State} (background : move.Background) :
    disposalsIn (moment.move service move).trace = [] :=
  filterMap_of_background (fun _ _ => rfl) service moment background

end StickyMoment

end DecisionWorker

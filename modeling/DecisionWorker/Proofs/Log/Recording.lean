import DecisionWorker.Proofs.Log.Guards
import Mathlib.Data.List.Forall2
import Mathlib.Data.List.Nodup

set_option autoImplicit false

/-!
What captures record.

An emission is recorded as an event with its level, its message, and its other fields, each name
with the text that it was given last (`RecordedAs`). Of all emissions a capture records those that
come while its guard is the top one, in their order, and what it has recorded stays readable. So
nothing is recorded twice, and what comes while the console is on top, or nobody, is not recorded
at all.
-/

namespace DecisionWorker

section Fields

variable {fields : List (String × String)} {name other : String}

theorem lookup_cons_eq_ite {Content : Type} (first : String × Content)
    (rest : List (String × Content)) (name : String) :
    (first :: rest).lookup name = if name = first.1 then some first.2 else rest.lookup name := by
  obtain ⟨key, content⟩ := first
  by_cases same : name = key
  · rw [if_pos same, same, List.lookup_cons_self]
  · rw [if_neg same, List.lookup_cons, beq_false_of_ne same]

theorem lookup_filter_ne (fields : List (String × String)) (name other : String) :
    (fields.filter fun field => field.1 != name).lookup other =
      if other = name then none else fields.lookup other := by
  induction fields with
  | nil => simp
  | cons first rest inductionHypothesis =>
      by_cases same : first.1 = name
      · rw [List.filter_cons_of_neg (by simp [same]), inductionHypothesis, lookup_cons_eq_ite, same]
        split <;> rfl
      · rw [List.filter_cons_of_pos (by simp [same]), lookup_cons_eq_ite, lookup_cons_eq_ite,
          inductionHypothesis]
        split
        next found => rw [if_neg (found ▸ same)]
        next => rfl

theorem lookup_setField (fields : List (String × String)) (name content other : String) :
    (setField fields name content).lookup other =
      if other = name then some content else fields.lookup other := by
  rw [setField, List.lookup_append, lookup_filter_ne, lookup_cons_eq_ite]
  by_cases same : other = name
  · simp [same]
  · simp [same]

theorem nodup_filter_names (distinct : (fields.map Prod.fst).Nodup)
    (keep : String × String → Bool) : ((fields.filter keep).map Prod.fst).Nodup :=
  distinct.sublist (List.filter_sublist.map Prod.fst)

theorem nodup_setField (distinct : (fields.map Prod.fst).Nodup) (name content : String) :
    ((setField fields name content).map Prod.fst).Nodup := by
  rw [setField, List.map_append, List.nodup_append]
  refine ⟨nodup_filter_names distinct _, List.nodup_singleton _, ?_⟩
  intro kept member new newMember same
  obtain ⟨field, filtered, rfl⟩ := List.mem_map.mp member
  rw [List.map_singleton, List.mem_singleton] at newMember
  have different := (List.mem_filter.mp filtered).2
  simp [same, newMember] at different

end Fields

namespace Emission

variable {emission : Emission}

def last? (emission : Emission) (name : String) : Option String :=
  (emission.values.reverse.lookup name).map FieldValue.asText

structure RecordedAs (emission : Emission) (event : Event) : Prop where
  level : event.level = emission.level
  message : event.message = (emission.last? messageField).getD ""
  fields : ∀ name, event.fields.lookup name =
    if name = messageField then none else emission.last? name
  distinct : (event.fields.map Prod.fst).Nodup

theorem lookup_fields (emission : Emission) (name : String) :
    emission.fields.lookup name = emission.last? name := by
  obtain ⟨level, values⟩ := emission
  simp only [Emission.fields, last?]
  induction values using List.reverseRecOn with
  | nil => rfl
  | append_singleton earlier value inductionHypothesis =>
      rw [List.foldl_append, List.foldl_cons, List.foldl_nil, lookup_setField, inductionHypothesis,
        List.reverse_append, List.reverse_singleton, List.singleton_append, lookup_cons_eq_ite]
      by_cases same : name = value.1
      · simp [same]
      · simp [same]

theorem nodup_fields (emission : Emission) : (emission.fields.map Prod.fst).Nodup := by
  obtain ⟨level, values⟩ := emission
  simp only [Emission.fields]
  induction values using List.reverseRecOn with
  | nil => exact List.nodup_nil
  | append_singleton earlier value inductionHypothesis =>
      rw [List.foldl_append]
      exact nodup_setField inductionHypothesis _ _

theorem recordedAs_event (emission : Emission) : emission.RecordedAs emission.event where
  level := rfl
  message := by rw [event, lookup_fields]
  fields name := by rw [event, lookup_filter_ne, lookup_fields]
  distinct := nodup_filter_names emission.nodup_fields _

end Emission

namespace Log

structure Emitted where
  earlier : List Action
  emission : Emission

def emittedAfter (earlier : List Action) : List Action → List Emitted
  | [] => []
  | .emit emission :: rest =>
      ⟨earlier, emission⟩ :: emittedAfter (earlier ++ [.emit emission]) rest
  | action :: rest => emittedAfter (earlier ++ [action]) rest

def emitted (actions : List Action) : List Emitted := emittedAfter [] actions

/-- What comes while the guard of a capture is the top one. -/
def heard (capture : Nat) (emitted : List Emitted) : List Emitted :=
  emitted.filter fun moment => decide (OnTop capture moment.earlier)

variable {actions : List Action} {capture : Nat}

theorem events_install (log : Log) (capture : Nat) :
    log.install.events capture = log.events capture := by
  simp only [events, install, List.getD_eq_getElem?_getD, List.getElem?_append]
  split
  next => rfl
  next outside =>
    rw [List.getElem?_eq_none (Nat.le_of_not_lt outside)]
    cases capture - log.captured.length <;> rfl

theorem events_emit {log : Log} (known : log.top? = some (.capture capture) →
    capture < log.captured.length) (emission : Emission) :
    (log.emit emission).events capture =
      log.events capture ++
        if log.top? = some (.capture capture) then [emission.event] else [] := by
  obtain ⟨subscribers, captured⟩ := log
  cases subscribers with
  | nil => simp [emit, top?, events]
  | cons top below =>
      cases top with
      | console => simp [emit, top?, events]
      | capture index =>
          by_cases same : index = capture
          · subst same
            have within := known rfl
            simp only at within
            simp [emit, top?, events, within]
          · simp [emit, top?, events, same]

theorem OnTop.lt_installed (onTop : OnTop capture actions) : capture < installed actions := by
  obtain ⟨earlier, since, rfl, rfl, -⟩ := onTop
  rw [installed, installed, List.countP_append, List.countP_cons_of_pos rfl]
  omega

/-- One more action records what it emits, if the guard is the top one. -/
theorem events_concat (earlier : List Action) (action : Action) (capture : Nat) :
    (empty.run (earlier ++ [action])).events capture =
      (empty.run earlier).events capture ++
        (heard capture (emittedAfter earlier [action])).map fun moment =>
          moment.emission.event := by
  rw [run_concat]
  cases action with
  | install =>
      show (install _).events capture = _ ++ []
      rw [events_install, List.append_nil]
  | installConsole | uninstall => exact (List.append_nil _).symm
  | emit emission =>
      have known : (empty.run earlier).top? = some (.capture capture) →
          capture < (empty.run earlier).captured.length := by
        intro top
        rw [length_captured_run]
        exact (top_eq_capture_iff.mp top).lt_installed
      show (Log.emit _ emission).events capture = _
      rw [events_emit known]
      by_cases onTop : OnTop capture earlier
      · simp [top_eq_capture_iff, onTop, heard, emittedAfter]
      · simp [top_eq_capture_iff, onTop, heard, emittedAfter]

theorem events_run_append (earlier actions : List Action) (capture : Nat) :
    (empty.run (earlier ++ actions)).events capture =
      (empty.run earlier).events capture ++
        (heard capture (emittedAfter earlier actions)).map fun moment =>
          moment.emission.event := by
  induction actions generalizing earlier with
  | nil => simp [heard, emittedAfter]
  | cons action rest inductionHypothesis =>
      rw [List.append_cons, inductionHypothesis, events_concat, List.append_assoc,
        ← List.map_append, heard, heard, heard, ← List.filter_append]
      cases action <;> rfl

theorem events_run (actions : List Action) (capture : Nat) :
    (empty.run actions).events capture =
      (heard capture (emitted actions)).map fun moment => moment.emission.event :=
  events_run_append [] actions capture

theorem atLevel_run (actions : List Action) (capture : Nat) (level : Level) :
    (empty.run actions).atLevel capture level =
      ((heard capture (emitted actions)).filter fun moment =>
        decide (moment.emission.level = level)).map fun moment => moment.emission.event := by
  rw [atLevel, events_run, List.filter_map]
  rfl

theorem forall₂_recordedAs (moments : List Emitted) :
    List.Forall₂ (fun moment event => moment.emission.RecordedAs event) moments
      (moments.map fun moment => moment.emission.event) := by
  rw [List.forall₂_map_right_iff, List.forall₂_same]
  exact fun moment _ => moment.emission.recordedAs_event

structure Recorded (actions : List Action) : Prop where
  /-- A capture has recorded what came while its guard was the top one, in order. -/
  events : ∀ capture,
    List.Forall₂ (fun moment event => moment.emission.RecordedAs event)
      (heard capture (emitted actions)) ((empty.run actions).events capture)
  /-- Of these, what has a certain level can be had apart. -/
  atLevel : ∀ capture level,
    ((empty.run actions).atLevel capture level).Sublist ((empty.run actions).events capture) ∧
      List.Forall₂ (fun moment event => moment.emission.RecordedAs event)
        ((heard capture (emitted actions)).filter fun moment =>
          decide (moment.emission.level = level))
        ((empty.run actions).atLevel capture level)
  /-- No two captures record one emission. -/
  once : ∀ moment first second, moment ∈ heard first (emitted actions) →
    moment ∈ heard second (emitted actions) → first = second
  /-- None is missed but those that come while the console is on top, or nobody. -/
  missed : ∀ moment ∈ emitted actions,
    (∃ capture, moment ∈ heard capture (emitted actions)) ↔
      ¬ (UnderConsole moment.earlier ∨ Bare moment.earlier)

theorem mem_heard_iff {moment : Emitted} {moments : List Emitted} :
    moment ∈ heard capture moments ↔ moment ∈ moments ∧ OnTop capture moment.earlier := by
  simp [heard]

/-- Whatever captures and consoles are put up and taken down, an event goes to the one on top. -/
theorem captures_record_while_on_top (actions : List Action) : Recorded actions where
  events capture := by
    rw [events_run]
    exact forall₂_recordedAs _
  atLevel capture level := by
    refine ⟨List.filter_sublist, ?_⟩
    rw [atLevel_run]
    exact forall₂_recordedAs _
  once moment first second heardFirst heardSecond :=
    (mem_heard_iff.mp heardFirst).2.unique (mem_heard_iff.mp heardSecond).2
  missed moment member := by
    rw [← exists_onTop_iff]
    constructor
    · rintro ⟨capture, hears⟩
      exact ⟨capture, (mem_heard_iff.mp hears).2⟩
    · rintro ⟨capture, onTop⟩
      exact ⟨capture, mem_heard_iff.mpr ⟨member, onTop⟩⟩

/-- What a capture has recorded can be read when it is long gone. -/
example :
    let note (message : String) : Action := .emit ⟨.info, [(messageField, .text message)]⟩
    let log := empty.run
      [.install, note "outer", .install, note "inner", .uninstall, .installConsole, note "shown",
        .uninstall, note "outer again", .uninstall, .uninstall, note "lost"]
    (log.events 0).map Event.message = ["outer", "outer again"] ∧
      (log.events 1).map Event.message = ["inner"] := by
  decide

end Log

end DecisionWorker

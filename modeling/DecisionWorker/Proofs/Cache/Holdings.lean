import DecisionWorker.Proofs.Cache.Entries
import Mathlib.Data.List.Perm.Basic

set_option autoImplicit false

/-!
How many entries hold a state, before and after an operation.

A state may be cached under several keys. Every operation balances: what it stores and what
was held before is held afterwards, or disposed, or was pushed out by the same state.
-/

namespace DecisionWorker

namespace Cache

variable {State : Type}

theorem others_perm {cache : Cache State} (sound : cache.Sound) (key : ExecutionKey) :
    ((cache.find? key).toList ++ cache.others key).Perm cache.entries := by
  cases found : cache.find? key with
  | none =>
      rw [others_eq_entries (find?_eq_none_iff.mp found)]
      exact List.Perm.refl _
  | some entry =>
      obtain ⟨member, rfl⟩ := mem_of_find? found
      have unique : (entry :: cache.others entry.key).Nodup := by
        apply List.nodup_cons.mpr
        refine ⟨?_, sound.nodup_entries.sublist (cache.others_sublist _)⟩
        intro inOthers
        exact (mem_others.mp inOthers).2 rfl
      apply (List.perm_ext_iff_of_nodup unique sound.nodup_entries).mpr
      intro other
      rw [List.mem_cons, mem_others]
      constructor
      · rintro (rfl | ⟨inEntries, -⟩)
        · exact member
        · exact inEntries
      · intro inEntries
        by_cases same : other.key = entry.key
        · exact .inl (sound.eq_of_key inEntries member same)
        · exact .inr ⟨inEntries, same⟩

theorem touch_perm {cache : Cache State} (sound : cache.Sound) (key : ExecutionKey) :
    (cache.touch key).entries.Perm cache.entries := by
  have split := others_perm sound key
  cases found : cache.find? key with
  | none => simp [touch, found]
  | some entry =>
      rw [found] at split
      rw [touch_eq found]
      exact List.perm_append_comm.trans split

/-- The entry that has to leave when a key is stored, because it has the same key or because
it has to make room. -/
def displaced? (cache : Cache State) (key : ExecutionKey) : Option (Entry State) :=
  (cache.find? key).orElse fun _ => cache.victim? key

theorem displaced_insert (cache : Cache State) (key : ExecutionKey) (state : State)
    (taskList : String) : (cache.insert key state taskList).displaced = cache.displaced? key := by
  rw [insert_eq]
  rfl

theorem kept_perm {cache : Cache State} (sound : cache.Sound) (key : ExecutionKey) :
    ((cache.displaced? key).toList ++ cache.kept key).Perm cache.entries := by
  cases found : cache.find? key with
  | some entry =>
      have split := others_perm sound key
      rw [found] at split
      simpa [displaced?, kept, found] using split
  | none =>
      by_cases room : cache.length < cache.capacity
      · simp [displaced?, kept, victim?, found, room]
      · cases listed : cache.entries <;> simp [displaced?, kept, victim?, found, room, listed]

variable [DecidableEq State]

def stores (state : State) : CacheOperation State → Nat
  | .put _ stored _ => if stored = state then 1 else 0
  | _ => 0

end Cache

end DecisionWorker

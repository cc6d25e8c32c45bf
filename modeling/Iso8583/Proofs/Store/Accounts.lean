import Iso8583.Proofs.Store.Eviction

/-!
# Where every reply goes

Over any history of a store each reply that was put is still held, or was removed, replaced or evicted, just
once. A claim answers the last reply put under its key, as long as that was not removed or evicted since.
-/

namespace Iso8583.PendingReplies

open List

/-! ## One reply comes or goes -/

/-- The reply under a key, if there is one, with its key. -/
def under (store : PendingReplies) (key : String) : List (String × Bytes) :=
  (store.get? key).toList.map fun bytes => (key, bytes)

theorem perm_erase {store : PendingReplies} (nodup : (store.replies.map (·.1)).Nodup) (key : String) :
    store.replies ~ store.under key ++ (store.erase key).replies := by
  unfold under
  cases found : store.get? key with
  | none =>
    have absent := get?_eq_none_iff.1 found
    unfold erase
    rw [filter_eq_self.2]
    · rfl
    · intro held mem
      rw [bne_iff_ne]
      rintro rfl
      rw [contains_iff.2 ⟨held.2, mem⟩] at absent
      cases absent
  | some bytes => exact perm_filter_ne nodup (mem_of_get? found)

theorem perm_insert {store : PendingReplies} (nodup : (store.replies.map (·.1)).Nodup) (key : String)
    (reply : Bytes) : (store.insert key reply).replies ~ (key, reply) :: (store.erase key).replies := by
  have split := perm_erase nodup key
  unfold under at split
  unfold insert
  cases found : store.get? key with
  | none =>
    rw [found] at split
    rw [if_neg (by simp [get?_eq_none_iff.1 found])]
    exact perm_append_comm.trans (split.cons _)
  | some old =>
    rw [found] at split
    rw [if_pos (contains_of_get? found)]
    have others : (store.erase key).replies.map (fun held => if held.1 == key then (key, reply) else held) =
        (store.erase key).replies := by
      refine (map_congr_left fun held mem => ?_).trans (map_id _)
      exact if_neg (by simpa using (mem_erase.1 mem).2)
    refine (split.map _).trans ?_
    rw [map_append, others]
    simp

/-! ## What a call moves -/

/-- The replies that a call stores, and those that leave the store in it. -/
structure Turnover where
  stored : List (String × Bytes) := []
  removed : List (String × Bytes) := []
  replaced : List (String × Bytes) := []
  evicted : List (String × Bytes) := []

def turnover (store : PendingReplies) : StoreCall → Turnover
  | .put key reply =>
    { stored := [(key, reply)], replaced := store.under key, evicted := store.evictions key reply }
  | .remove key => { removed := (store.remove key).1.toList.map fun bytes => (key, bytes) }
  | .begin _ => {}
  | .finish _ => {}

def turnovers : PendingReplies → List StoreCall → List Turnover
  | _, [] => []
  | store, call :: calls => store.turnover call :: turnovers (store.perform call).2 calls

/-- The call changes what is held under the key. -/
def Turnover.Touches (turnover : Turnover) (key : String) : Prop :=
  key ∈ (turnover.stored ++ turnover.removed ++ turnover.evicted).map (·.1)

/-- These bytes were put under the key last, and since then the key was not removed or evicted. -/
def LatestPut (past : List Turnover) (key : String) (bytes : Bytes) : Prop :=
  ∃ before now after, past = before ++ now :: after ∧ (key, bytes) ∈ now.stored ∧
    key ∉ now.evicted.map (·.1) ∧ ∀ later ∈ after, ¬later.Touches key

theorem latestPut_cons {now : Turnover} {after : List Turnover} {key : String} {bytes : Bytes} :
    LatestPut (now :: after) key bytes ↔ LatestPut after key bytes ∨
      ((key, bytes) ∈ now.stored ∧ key ∉ now.evicted.map (·.1)) ∧ ∀ later ∈ after, ¬later.Touches key := by
  constructor
  · rintro ⟨before, last, rest, split, stored, kept, quiet⟩
    cases before with
    | nil =>
      obtain ⟨rfl, rfl⟩ := cons_eq_cons.1 split
      exact .inr ⟨⟨stored, kept⟩, quiet⟩
    | cons first before =>
      obtain ⟨rfl, rfl⟩ := cons_eq_cons.1 split
      exact .inl ⟨before, last, rest, rfl, stored, kept, quiet⟩
  · rintro (⟨before, last, rest, rfl, found⟩ | ⟨⟨stored, kept⟩, quiet⟩)
    · exact ⟨now :: before, last, rest, rfl, found⟩
    · exact ⟨[], now, after, rfl, stored, kept, quiet⟩

theorem get?_perform_iff (store : PendingReplies) (call : StoreCall) (key : String) (bytes : Bytes) :
    (store.perform call).2.get? key = some bytes ↔
      ((key, bytes) ∈ (store.turnover call).stored ∧ key ∉ (store.turnover call).evicted.map (·.1)) ∨
        ¬(store.turnover call).Touches key ∧ store.get? key = some bytes := by
  cases call with
  | put other reply =>
    have after := get?_put store other reply key
    change (store.put other reply).2.get? key = some bytes ↔ _
    rw [after]
    unfold turnover Turnover.Touches
    by_cases gone : key ∈ (store.evictions other reply).map (·.1)
    · simp [gone]
    · by_cases same : key = other
      · subst same
        simp [gone, eq_comm]
      · simp [gone, same]
  | remove other =>
    change (store.erase other).get? key = some bytes ↔ _
    unfold turnover Turnover.Touches remove
    by_cases same : key = other
    · subst same
      rw [get?_erase_self]
      cases found : store.get? key with
      | none => simp
      | some held => simp [found]
    · rw [get?_erase_of_ne same]
      cases found : store.get? other with
      | none => simp [found]
      | some held => simp [found, same]
  | begin other =>
    obtain ⟨inFlight, begun⟩ := store.perform_begin other
    rw [begun]
    change store.get? key = some bytes ↔ _
    simp [turnover, Turnover.Touches]
  | finish other =>
    change store.get? key = some bytes ↔ _
    simp [turnover, Turnover.Touches]

theorem get?_performAll_iff (store : PendingReplies) (calls : List StoreCall) (key : String)
    (bytes : Bytes) : (performAll perform store calls).2.get? key = some bytes ↔
      LatestPut (store.turnovers calls) key bytes ∨
        (∀ turnover ∈ store.turnovers calls, ¬turnover.Touches key) ∧ store.get? key = some bytes := by
  induction calls generalizing store with
  | nil => simp [performAll, turnovers, LatestPut]
  | cons call calls ih =>
    have now := get?_perform_iff store call key bytes
    change (performAll perform (store.perform call).2 calls).2.get? key = some bytes ↔ _
    rw [ih, now, turnovers, latestPut_cons, forall_mem_cons]
    tauto

theorem perm_perform {store : PendingReplies} (listed : store.Listed) (call : StoreCall) :
    (store.turnover call).stored ++ store.replies ~ (store.perform call).2.replies ++
      ((store.turnover call).removed ++ (store.turnover call).replaced ++ (store.turnover call).evicted) := by
  cases call with
  | put key reply =>
    rw [perm_iff_count]
    intro held
    have before := (perm_erase listed.nodup key).count_eq held
    have inserted := (perm_insert listed.nodup key reply).count_eq held
    have after := (perm_put store key reply).count_eq held
    change count held ([(key, reply)] ++ store.replies) =
      count held ((store.put key reply).2.replies ++ ([] ++ store.under key ++ store.evictions key reply))
    simp only [count_append, count_cons, count_nil] at *
    omega
  | remove key =>
    have before := perm_erase listed.nodup key
    refine before.trans (perm_append_comm.trans ?_)
    change (store.erase key).replies ++ store.under key ~
      (store.erase key).replies ++ (store.under key ++ [] ++ [])
    simp
  | begin key =>
    obtain ⟨inFlight, begun⟩ := store.perform_begin key
    rw [begun]
    simp [turnover]
  | finish key => simp [perform, finish, turnover]

theorem perm_performAll {store : PendingReplies} (listed : store.Listed) (calls : List StoreCall) :
    (store.turnovers calls).flatMap (·.stored) ++ store.replies ~
      (performAll perform store calls).2.replies ++ (store.turnovers calls).flatMap (·.removed) ++
        (store.turnovers calls).flatMap (·.replaced) ++ (store.turnovers calls).flatMap (·.evicted) := by
  induction calls generalizing store with
  | nil => simp [performAll, turnovers]
  | cons call calls ih =>
    rw [perm_iff_count]
    intro held
    have now := (perm_perform listed call).count_eq held
    have later := (ih (listed.perform call)).count_eq held
    simp only [performAll, turnovers, flatMap_cons, count_append] at *
    omega

theorem limit_performAll (store : PendingReplies) (calls : List StoreCall) :
    (performAll perform store calls).2.limit = store.limit := by
  induction calls generalizing store with
  | nil => rfl
  | cons call calls ih =>
    refine (ih _).trans ?_
    change (store.perform call).2.limit = store.limit
    cases call with
    | put key reply => exact limit_put store key reply
    | remove key => rfl
    | begin key =>
      obtain ⟨inFlight, begun⟩ := store.perform_begin key
      rw [begun]
    | finish key => rfl

/-! ## Which keys are awaited -/

/-- The key was registered, and nobody has let go of it since. -/
def StillAwaited (calls : List StoreCall) (key : String) : Prop :=
  ∃ before after, calls = before ++ .begin key :: after ∧ .finish key ∉ after

theorem stillAwaited_cons {call : StoreCall} {calls : List StoreCall} {key : String} :
    StillAwaited (call :: calls) key ↔
      StillAwaited calls key ∨ call = .begin key ∧ .finish key ∉ calls := by
  constructor
  · rintro ⟨before, after, split, kept⟩
    cases before with
    | nil =>
      obtain ⟨rfl, rfl⟩ := cons_eq_cons.1 split
      exact .inr ⟨rfl, kept⟩
    | cons first before =>
      obtain ⟨rfl, rfl⟩ := cons_eq_cons.1 split
      exact .inl ⟨before, after, rfl, kept⟩
  · rintro (⟨before, after, rfl, kept⟩ | ⟨rfl, kept⟩)
    · exact ⟨call :: before, after, rfl, kept⟩
    · exact ⟨[], calls, rfl, kept⟩

theorem mem_inFlight_perform {store : PendingReplies} {call : StoreCall} {key : String} :
    key ∈ (store.perform call).2.inFlight ↔
      call = .begin key ∨ call ≠ .finish key ∧ key ∈ store.inFlight := by
  cases call with
  | put other reply =>
    change key ∈ (store.put other reply).2.inFlight ↔ _
    rw [inFlight_put]
    simp
  | remove other =>
    change key ∈ store.inFlight ↔ _
    simp
  | begin other =>
    rw [StoreCall.begin.injEq]
    cases begun : store.begin? other with
    | none =>
      have awaited := isInFlight_iff.1 (begin?_eq_none_iff.1 begun)
      simp only [perform, begun]
      constructor
      · exact fun mem => .inr ⟨StoreCall.noConfusion, mem⟩
      · rintro (rfl | ⟨-, mem⟩)
        · exact awaited
        · exact mem
    | some next =>
      obtain ⟨-, rfl⟩ := begin?_eq_some_iff.1 begun
      simp [perform, begun, eq_comm]
  | finish other =>
    change key ∈ (store.finish other).inFlight ↔ _
    rw [mem_inFlight_finish]
    simp [and_comm, eq_comm]

theorem mem_inFlight_performAll (store : PendingReplies) (calls : List StoreCall) (key : String) :
    key ∈ (performAll perform store calls).2.inFlight ↔
      StillAwaited calls key ∨ .finish key ∉ calls ∧ key ∈ store.inFlight := by
  induction calls generalizing store with
  | nil => simp [performAll, StillAwaited]
  | cons call calls ih =>
    change key ∈ (performAll perform (store.perform call).2 calls).2.inFlight ↔ _
    rw [ih, mem_inFlight_perform, stillAwaited_cons, mem_cons, ne_comm]
    tauto

/-- After any history each key has one reply at most, a key is awaited if it was registered and nobody has
let go of it since, a put evicts as little as it can, a claim answers the last reply put under its key since
the key was removed or evicted, and all replies that were ever put are those held, removed, replaced and
evicted. -/
theorem every_reply_accounted (limit : UInt64) (calls : List StoreCall) :
    let store := (performAll perform (ofLimit limit) calls).2
    let past := (ofLimit limit).turnovers calls
    store.limit = max limit 1 ∧ (store.replies.map (·.1)).Nodup ∧
      (∀ key, key ∈ store.inFlight ↔ StillAwaited calls key) ∧
      (∀ key reply, store.EvictsLeast key reply) ∧
      (∀ key bytes, (store.remove key).1 = some bytes ↔ LatestPut past key bytes) ∧
      past.flatMap (·.stored) ~ store.replies ++ past.flatMap (·.removed) ++ past.flatMap (·.replaced) ++
        past.flatMap (·.evicted) := by
  intro store past
  have listed := Listed.ofLimit limit
  have still := listed.performAll calls
  refine ⟨limit_performAll _ calls, still.nodup, ?_, still.evictsLeast, ?_, ?_⟩
  · intro key
    have awaited := mem_inFlight_performAll (ofLimit limit) calls key
    have empty : (ofLimit limit).inFlight = [] := rfl
    rw [empty] at awaited
    simpa using awaited
  · intro key bytes
    have found := get?_performAll_iff (ofLimit limit) calls key bytes
    have empty : (ofLimit limit).get? key = none := rfl
    rw [empty] at found
    change store.get? key = some bytes ↔ _
    simpa using found
  · have all := perm_performAll listed calls
    have empty : (ofLimit limit).replies = [] := rfl
    rwa [empty, append_nil] at all

end Iso8583.PendingReplies

import Iso8583.Proofs.Store.Order
import Mathlib.Data.List.Count

/-!
# How much is evicted

Each held key stands in the arrival queue, however stale the rest of the queue is. So a put that finds too
many replies evicts as many as are too many, or all that nobody awaits if there are fewer of these, and
leaves the others as they are.
-/

namespace Iso8583.PendingReplies

open List

theorem perform_begin (store : PendingReplies) (key : String) :
    ∃ inFlight, (store.perform (.begin key)).2 = { store with inFlight := inFlight } := by
  cases begun : store.begin? key with
  | none => exact ⟨store.inFlight, by simp only [perform, begun]⟩
  | some next =>
    obtain ⟨-, rfl⟩ := begin?_eq_some_iff.1 begun
    exact ⟨key :: store.inFlight, by simp only [perform, begun]⟩

/-! ## Every held key is listed -/

/-- Each key has one reply, and evicting finds it in the arrival queue. -/
structure Listed (store : PendingReplies) : Prop where
  nodup : (store.replies.map (·.1)).Nodup
  listed : ∀ key, store.contains key = true → key ∈ store.arrivals

theorem contains_insert (store : PendingReplies) (key other : String) (reply : Bytes) :
    (store.insert key reply).contains other = (store.contains other || other == key) := by
  rw [Bool.eq_iff_iff, Bool.or_eq_true, beq_iff_eq]
  by_cases same : other = key
  · subst same
    simp [contains_of_get? (get?_insert_self store other reply)]
  · simp only [same, or_false]
    rw [← not_iff_not, Bool.not_eq_true, Bool.not_eq_true, ← get?_eq_none_iff, ← get?_eq_none_iff,
      get?_insert_of_ne same]

namespace Listed

variable {store : PendingReplies}

theorem ofLimit (limit : UInt64) : (PendingReplies.ofLimit limit).Listed :=
  ⟨.nil, by simp [PendingReplies.ofLimit, contains]⟩

theorem erase (listed : store.Listed) (key : String) : (store.erase key).Listed := by
  constructor
  · unfold PendingReplies.erase
    exact (filter_sublist.map _).nodup listed.nodup
  · intro other held
    rw [contains_erase, Bool.and_eq_true] at held
    exact listed.listed other held.1

theorem insert (listed : store.Listed) (key : String) (reply : Bytes) : (store.insert key reply).Listed := by
  constructor
  · unfold PendingReplies.insert
    split
    · have same : (store.replies.map fun held => if held.1 == key then (key, reply) else held).map (·.1) =
          store.replies.map (·.1) := by
        rw [map_map]
        refine map_congr_left fun held _ => ?_
        by_cases here : held.1 = key <;> simp [here]
      rw [same]
      exact listed.nodup
    · rename_i absent
      rw [contains_iff_mem] at absent
      simp only [map_append, map_cons, map_nil]
      exact nodup_append.2 ⟨listed.nodup, by simp, by
        intro other mem last single
        rw [mem_singleton] at single
        rintro rfl
        exact absent (single ▸ mem)⟩
  · intro other held
    rw [contains_insert, Bool.or_eq_true, beq_iff_eq] at held
    unfold PendingReplies.insert
    split
    · rename_i present
      rcases held with held | rfl
      · exact listed.listed other held
      · exact listed.listed other present
    · rw [mem_append, mem_singleton]
      exact held.imp (listed.listed other) id

theorem compact (listed : store.Listed) : store.compact.Listed := by
  unfold PendingReplies.compact
  split
  · exact ⟨listed.nodup, fun key held => mem_filter.2 ⟨listed.listed key held, held⟩⟩
  · exact listed

/-- Only the entry of the victim leaves the queue, and any older entry of the same key would have been found
first. -/
theorem evictOne (listed : store.Listed) {victim : String}
    (found : store.arrivals.find? store.isEvictable = some victim) :
    Listed { store.erase victim with arrivals := store.arrivals.eraseP store.isEvictable } := by
  obtain ⟨evictable, before, behind, arrivals, none⟩ := find?_eq_some_iff_append.1 found
  refine ⟨(listed.erase victim).nodup, ?_⟩
  intro other held
  have kept := held
  change (store.erase victim).contains other = true at kept
  rw [contains_erase, Bool.and_eq_true, bne_iff_ne] at kept
  have mem := listed.listed other kept.1
  have passes : ∀ key ∈ before, ¬store.isEvictable key = true := fun key mem => by simpa using none key mem
  change other ∈ store.arrivals.eraseP store.isEvictable
  rw [arrivals] at mem ⊢
  rw [eraseP_append_right _ passes, eraseP_cons_of_pos evictable]
  simpa [kept.2] using mem

theorem evict (listed : store.Listed) : store.evict.Listed := by
  fun_induction PendingReplies.evict store with
  | case1 store full found => exact listed
  | case2 store full key found ih => exact ih (listed.evictOne found)
  | case3 store within => exact listed

theorem perform (listed : store.Listed) (call : StoreCall) : (store.perform call).2.Listed := by
  cases call with
  | put key reply => exact ((listed.insert key reply).compact).evict
  | remove key => exact listed.erase key
  | begin key =>
    obtain ⟨inFlight, begun⟩ := store.perform_begin key
    rw [begun]
    exact ⟨listed.nodup, listed.listed⟩
  | finish key => exact ⟨listed.nodup, listed.listed⟩

theorem performAll (listed : store.Listed) (calls : List StoreCall) :
    (Iso8583.performAll PendingReplies.perform store calls).2.Listed := by
  induction calls generalizing store with
  | nil => exact listed
  | cons call calls ih => exact ih (listed.perform call)

end Listed

/-! ## What evicting leaves -/

theorem perm_filter_ne {replies : List (String × Bytes)} (nodup : (replies.map (·.1)).Nodup)
    {reply : String × Bytes} (mem : reply ∈ replies) :
    replies ~ reply :: replies.filter fun other => other.1 != reply.1 := by
  induction replies with
  | nil => cases mem
  | cons first rest ih =>
    rw [map_cons, nodup_cons] at nodup
    by_cases same : first.1 = reply.1
    · have others : ∀ other ∈ rest, (other.1 != reply.1) = true := by
        intro other held
        rw [bne_iff_ne, ← same]
        rintro alike
        exact nodup.1 (alike ▸ mem_map_of_mem held)
      have here : first = reply := by
        rcases mem_cons.1 mem with rfl | later
        · rfl
        · exact absurd (others reply later) (by simp)
      rw [filter_cons_of_neg (by simp [same]), filter_eq_self.2 others, here]
    · have later : reply ∈ rest := (mem_cons.1 mem).resolve_left fun here => same (here ▸ rfl)
      rw [filter_cons_of_pos (by simpa using same)]
      exact ((ih nodup.2 later).cons first).trans (.swap reply first _)

theorem Listed.size_erase_of_find? {store : PendingReplies} (listed : store.Listed) {victim : String}
    (found : store.arrivals.find? store.isEvictable = some victim) :
    store.size = (store.erase victim).size + 1 := by
  have evictable : store.isEvictable victim = true := find?_some found
  simp only [isEvictable, Bool.and_eq_true] at evictable
  obtain ⟨bytes, mem⟩ := contains_iff.1 evictable.1
  exact (perm_filter_ne listed.nodup mem).length_eq

/-- How many replies are held that nobody awaits. -/
def unawaited (store : PendingReplies) : Nat := store.replies.countP fun held => held.1 ∉ store.inFlight

theorem replies_evict (store : PendingReplies) :
    store.evict.replies = store.replies.filter fun held => store.evict.contains held.1 := by
  fun_induction evict store with
  | case1 store full found =>
    exact (filter_eq_self.2 fun held mem => contains_iff.2 ⟨held.2, mem⟩).symm
  | case2 store full victim found ih =>
    refine ih.trans ?_
    change (store.replies.filter _).filter _ = _
    rw [filter_filter]
    refine filter_congr fun held mem => ?_
    cases stays : contains _ held.1 with
    | false => rfl
    | true =>
      obtain ⟨bytes, kept⟩ := contains_iff.1 stays
      have before := mem_of_mem_evict kept
      change (held.1, bytes) ∈ (store.erase victim).replies at before
      simpa using (mem_erase.1 before).2
  | case3 store within =>
    exact (filter_eq_self.2 fun held mem => contains_iff.2 ⟨held.2, mem⟩).symm

/-- Evicting stops when nothing is too much, or when nothing is left that nobody awaits. -/
theorem size_evict {store : PendingReplies} (listed : store.Listed) :
    store.evict.size + min (store.size - store.limit.toNat) store.unawaited = store.size := by
  fun_induction evict store with
  | case1 store full found =>
    have none : store.unawaited = 0 := by
      unfold unawaited
      rw [countP_eq_zero]
      intro held mem
      have here := contains_iff.2 ⟨held.2, mem⟩
      have passed := find?_eq_none.1 found held.1 (listed.listed held.1 here)
      simpa [isEvictable, here, isInFlight] using passed
    omega
  | case2 store full victim found ih =>
    have evictable : store.isEvictable victim = true := find?_some found
    simp only [isEvictable, Bool.and_eq_true, Bool.not_eq_true', isInFlight] at evictable
    obtain ⟨bytes, mem⟩ := contains_iff.1 evictable.1
    have gone := perm_filter_ne listed.nodup mem
    have fewer : store.size = (store.erase victim).size + 1 := gone.length_eq
    have free : store.unawaited = (store.erase victim).unawaited + 1 := by
      unfold unawaited
      rw [gone.countP_eq, countP_cons_of_pos (by simpa using evictable.2)]
      rfl
    have next := ih (listed.evictOne found)
    change (evict _).size + min ((store.erase victim).size - store.limit.toNat)
      (store.erase victim).unawaited = (store.erase victim).size at next
    omega
  | case3 store within => omega

/-! ## What a put evicts -/

/-- The replies that a put evicts. -/
def evictions (store : PendingReplies) (key : String) (reply : Bytes) : List (String × Bytes) :=
  (store.insert key reply).replies.filter fun held => !(store.put key reply).2.contains held.1

section

variable (store : PendingReplies) (key : String) (reply : Bytes)

theorem replies_put : (store.put key reply).2.replies =
    (store.insert key reply).replies.filter fun held => (store.put key reply).2.contains held.1 := by
  have kept := replies_evict (store.insert key reply).compact
  rw [replies_compact] at kept
  exact kept

theorem perm_put : (store.put key reply).2.replies ++ store.evictions key reply ~
    (store.insert key reply).replies := by
  rw [replies_put]
  exact filter_append_perm _ _

theorem mem_evictions_iff (other : String) : other ∈ (store.evictions key reply).map (·.1) ↔
    (store.insert key reply).contains other = true ∧ (store.put key reply).2.contains other = false := by
  unfold evictions
  rw [contains_iff_mem, mem_map, mem_map]
  constructor
  · rintro ⟨held, mem, rfl⟩
    rw [mem_filter, Bool.not_eq_true'] at mem
    exact ⟨⟨held, mem.1, rfl⟩, mem.2⟩
  · rintro ⟨⟨held, mem, rfl⟩, gone⟩
    exact ⟨held, mem_filter.2 ⟨mem, by simp [gone]⟩, rfl⟩

theorem get?_put (other : String) : (store.put key reply).2.get? other =
    if other ∈ (store.evictions key reply).map (·.1) then none
    else if other = key then some reply else store.get? other := by
  have inserted : (store.insert key reply).get? other = if other = key then some reply else store.get? other := by
    split
    · rename_i same
      rw [same, get?_insert_self]
    · rename_i different
      exact get?_insert_of_ne different reply
  simp only [mem_evictions_iff, ← inserted]
  cases stays : (store.put key reply).2.contains other with
  | false =>
    rw [get?_eq_none_iff.2 stays]
    cases held : (store.insert key reply).contains other with
    | true => simp
    | false => simp [get?_eq_none_iff.2 held]
  | true =>
    rw [if_neg (by simp)]
    unfold get?
    rw [replies_put, find?_filter]
    congr 2
    funext held
    by_cases same : held.1 = other
    · simp [same, stays]
    · simp [same]

end

/-- What a put does about too many replies. -/
structure EvictsLeast (store : PendingReplies) (key : String) (reply : Bytes) : Prop where
  /-- As many are evicted as are too many, or all that nobody awaits. -/
  count : (store.evictions key reply).length =
    min ((if store.contains key then store.size else store.size + 1) - store.limit.toNat)
      (store.insert key reply).unawaited
  unawaited : ∀ held ∈ store.evictions key reply, held.1 ∉ store.inFlight
  /-- All others are held as before. -/
  kept : ∀ other, (store.put key reply).2.get? other =
    if other ∈ (store.evictions key reply).map (·.1) then none
    else if other = key then some reply else store.get? other
  bounded : (store.put key reply).2.size ≤ store.limit.toNat ∨
    ∀ held ∈ (store.put key reply).2.replies, held.1 ∈ store.inFlight

theorem size_insert (store : PendingReplies) (key : String) (reply : Bytes) :
    (store.insert key reply).size = if store.contains key then store.size else store.size + 1 := by
  unfold insert size
  split <;> simp

theorem not_mem_inFlight_of_mem_evictions {store : PendingReplies} {key : String} {reply : Bytes}
    {held : String × Bytes} (mem : held ∈ store.evictions key reply) : held.1 ∉ store.inFlight := by
  intro awaited
  have gone := ((mem_evictions_iff store key reply held.1).1 (mem_map_of_mem mem)).2
  have here : (store.insert key reply).compact.contains held.1 = true := by
    rw [contains_iff, replies_compact]
    exact ⟨held.2, (mem_filter.1 mem).1⟩
  have flight : (store.insert key reply).compact.isInFlight held.1 = true := by
    rw [isInFlight_iff, inFlight_compact, inFlight_insert]
    exact awaited
  have stays := get?_evict_of_isInFlight flight
  change (store.put key reply).2.get? held.1 = _ at stays
  rw [get?_eq_none_iff.2 gone] at stays
  rw [get?_eq_none_iff.1 stays.symm] at here
  cases here

theorem Listed.length_evictions {store : PendingReplies} (listed : store.Listed) (key : String)
    (reply : Bytes) : (store.evictions key reply).length =
      min ((store.insert key reply).size - store.limit.toNat) (store.insert key reply).unawaited := by
  have size := size_evict (listed.insert key reply).compact
  have limit : (store.insert key reply).compact.limit = store.limit := by
    rw [limit_compact, limit_insert]
  have free : (store.insert key reply).compact.unawaited = (store.insert key reply).unawaited := by
    unfold PendingReplies.unawaited
    rw [replies_compact, inFlight_compact]
  have whole : (store.insert key reply).compact.size = (store.insert key reply).size := by
    unfold PendingReplies.size
    rw [replies_compact]
  change (store.put key reply).2.size + min _ _ = _ at size
  rw [limit, free, whole] at size
  have split := (perm_put store key reply).length_eq
  rw [length_append] at split
  change (store.put key reply).2.size + _ = (store.insert key reply).size at split
  omega

theorem Listed.mem_inFlight_of_full {store : PendingReplies} (listed : store.Listed) {key : String}
    {reply : Bytes} (full : store.limit.toNat < (store.put key reply).2.size) {held : String × Bytes}
    (mem : held ∈ (store.put key reply).2.replies) : held.1 ∈ store.inFlight := by
  have count := listed.length_evictions key reply
  have parts := perm_put store key reply
  have size := parts.length_eq
  have unawaited := parts.countP_eq fun held => held.1 ∉ store.inFlight
  have evicted : (store.evictions key reply).countP (fun held => held.1 ∉ store.inFlight) =
      (store.evictions key reply).length := by
    rw [countP_eq_length]
    intro held mem
    simpa using not_mem_inFlight_of_mem_evictions mem
  have all : (store.insert key reply).replies.countP (fun held => held.1 ∉ store.inFlight) =
      (store.insert key reply).unawaited := by
    unfold PendingReplies.unawaited
    rw [inFlight_insert]
  rw [length_append] at size
  rw [countP_append, evicted, all] at unawaited
  have none : (store.put key reply).2.replies.countP (fun held => held.1 ∉ store.inFlight) = 0 := by
    unfold PendingReplies.size at *
    omega
  by_contra free
  exact countP_eq_zero.1 none held mem (by simpa using free)

theorem Listed.evictsLeast {store : PendingReplies} (listed : store.Listed) (key : String) (reply : Bytes) :
    store.EvictsLeast key reply := by
  refine ⟨?_, ?_, get?_put store key reply, ?_⟩
  · rw [listed.length_evictions, size_insert]
  · intro held mem
    exact not_mem_inFlight_of_mem_evictions mem
  · by_cases within : (store.put key reply).2.size ≤ store.limit.toNat
    · exact .inl within
    · refine .inr ?_
      intro held mem
      exact listed.mem_inFlight_of_full (Nat.not_le.1 within) mem

end Iso8583.PendingReplies

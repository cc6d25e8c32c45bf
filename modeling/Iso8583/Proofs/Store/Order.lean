import Iso8583.Proofs.Store.Lookup

/-!
# Which replies are evicted

A shelf is a plain list of replies, the oldest first. The store answers like a shelf as long as no reply
is stored under a key that was claimed and is still listed in the arrival queue: such a reply takes the
age of the claimed one, and is evicted before replies that are older.
-/

namespace Iso8583

/-! ## Calls -/

/-- A call of the store. Dropping the guard of a key ends the waiting for it. -/
inductive StoreCall where
  | put (key : String) (reply : Bytes)
  | remove (key : String)
  | begin (key : String)
  | finish (key : String)
  deriving DecidableEq

inductive StoreAnswer where
  | stored (replaced : Bool)
  | removed (reply : Option Bytes)
  | begun (registered : Bool)
  | finished
  deriving DecidableEq

/-- Calls one after the other: what they answer, and the state after the last one. -/
def performAll {σ : Type} (perform : σ → StoreCall → StoreAnswer × σ) :
    σ → List StoreCall → List StoreAnswer × σ
  | state, [] => ([], state)
  | state, call :: calls =>
    let (answer, next) := perform state call
    let (answers, last) := performAll perform next calls
    (answer :: answers, last)

/-! ## A plain list -/

theorem eraseP_eq_filter {α β : Type} [DecidableEq β] {f : α → β} {list : List α} {p : α → Bool}
    {found : α} (nodup : (list.map f).Nodup) (h : list.find? p = some found) :
    list.eraseP p = list.filter (f · != f found) := by
  obtain ⟨holds, before, behind, rfl, none⟩ := List.find?_eq_some_iff_append.1 h
  have passes : ∀ other ∈ before, ¬p other = true := fun other mem => by simpa using none other mem
  rw [List.eraseP_append_right _ passes, List.eraseP_cons_of_pos holds]
  rw [List.map_append, List.map_cons, List.nodup_append, List.nodup_cons] at nodup
  obtain ⟨-, ⟨notBehind, -⟩, apart⟩ := nodup
  rw [List.filter_append, List.filter_cons_of_neg (by simp), List.filter_eq_self.2, List.filter_eq_self.2]
  · intro other mem
    have different : f other ≠ f found := fun same => notBehind (same ▸ List.mem_map_of_mem mem)
    simpa using different
  · intro other mem
    have different := apart _ (List.mem_map_of_mem mem) _ List.mem_cons_self
    simpa using different

/-- The replies held, the oldest first, the keys awaited, and how many replies are kept. -/
structure Shelf where
  held : List (String × Bytes)
  awaited : List String
  limit : Nat
  deriving DecidableEq

namespace Shelf

/-- Puts a reply in place of the one under its key, or behind all others. -/
def place (key : String) (reply : Bytes) : List (String × Bytes) → List (String × Bytes)
  | [] => [(key, reply)]
  | (other, old) :: rest =>
    if other = key then (key, reply) :: rest else (other, old) :: place key reply rest

/-- Deletes the first `excess` replies that nobody awaits. -/
def deleteUnawaited (awaited : List String) : (excess : Nat) → List (String × Bytes) →
    List (String × Bytes)
  | 0, held => held
  | _ + 1, [] => []
  | excess + 1, reply :: rest =>
    if reply.1 ∈ awaited then reply :: deleteUnawaited awaited (excess + 1) rest
    else deleteUnawaited awaited excess rest

def trim (shelf : Shelf) : Shelf :=
  { shelf with held := deleteUnawaited shelf.awaited (shelf.held.length - shelf.limit) shelf.held }

def perform (shelf : Shelf) : StoreCall → StoreAnswer × Shelf
  | .put key reply =>
    (.stored (shelf.held.any (·.1 = key)), trim { shelf with held := place key reply shelf.held })
  | .remove key =>
    (.removed (shelf.held.lookup key), { shelf with held := shelf.held.filter (·.1 != key) })
  | .begin key =>
    if key ∈ shelf.awaited then (.begun false, shelf)
    else (.begun true, { shelf with awaited := key :: shelf.awaited })
  | .finish key => (.finished, { shelf with awaited := shelf.awaited.filter (· != key) })

theorem place_of_notMem {key : String} {held : List (String × Bytes)}
    (absent : key ∉ held.map (·.1)) (reply : Bytes) : place key reply held = held ++ [(key, reply)] := by
  induction held with
  | nil => rfl
  | cons first rest ih =>
    rw [List.map_cons, List.mem_cons, not_or] at absent
    rw [place, if_neg (Ne.symm absent.1), ih absent.2, List.cons_append]

theorem place_of_mem {key : String} {held : List (String × Bytes)} (nodup : (held.map (·.1)).Nodup)
    (present : key ∈ held.map (·.1)) (reply : Bytes) :
    place key reply held = held.map fun other => if other.1 == key then (key, reply) else other := by
  induction held with
  | nil => cases present
  | cons first rest ih =>
    rw [List.map_cons, List.nodup_cons] at nodup
    rw [place, List.map_cons]
    by_cases same : first.1 = key
    · -- No other reply has the key, so the rest stays.
      have rest_eq : rest.map (fun other => if other.1 == key then (key, reply) else other) = rest := by
        refine (List.map_congr_left fun other mem => ?_).trans rest.map_id
        refine if_neg fun alike => nodup.1 ?_
        rw [same, ← eq_of_beq alike]
        exact List.mem_map_of_mem mem
      rw [if_pos same, if_pos (beq_iff_eq.2 same), rest_eq]
    · have later : key ∈ rest.map (·.1) := by
        rw [List.map_cons, List.mem_cons] at present
        exact present.resolve_left (Ne.symm same)
      rw [if_neg same, if_neg (by simpa using same), ih nodup.2 later]

theorem map_fst_place (key : String) (reply : Bytes) (held : List (String × Bytes)) :
    (place key reply held).map (·.1) =
      if key ∈ held.map (·.1) then held.map (·.1) else held.map (·.1) ++ [key] := by
  induction held with
  | nil => rfl
  | cons first rest ih =>
    by_cases same : first.1 = key
    · rw [place, if_pos same, List.map_cons, List.map_cons, same, if_pos List.mem_cons_self]
    · rw [place, if_neg same, List.map_cons, List.map_cons, ih]
      by_cases later : key ∈ rest.map (·.1)
      · rw [if_pos later, if_pos (List.mem_cons_of_mem _ later)]
      · rw [if_neg later, if_neg (by simp [later, Ne.symm same]), List.cons_append]

theorem deleteUnawaited_succ {awaited : List String} {held : List (String × Bytes)}
    (some : ∃ reply ∈ held, reply.1 ∉ awaited) (excess : Nat) :
    deleteUnawaited awaited (excess + 1) held =
      deleteUnawaited awaited excess (held.eraseP (·.1 ∉ awaited)) := by
  induction held with
  | nil => simp at some
  | cons reply rest ih =>
    by_cases waited : reply.1 ∈ awaited
    · have later : ∃ reply ∈ rest, reply.1 ∉ awaited := by
        obtain ⟨other, mem, free⟩ := some
        rcases List.mem_cons.1 mem with rfl | mem
        · exact absurd waited free
        · exact ⟨other, mem, free⟩
      rw [List.eraseP_cons_of_neg (by simpa using waited), deleteUnawaited, if_pos waited, ih later]
      cases excess with
      | zero => rw [deleteUnawaited, deleteUnawaited]
      | succ excess => rw [deleteUnawaited, if_pos waited]
    · rw [List.eraseP_cons_of_pos (by simpa using waited), deleteUnawaited, if_neg waited]

theorem deleteUnawaited_of_forall {awaited : List String} {held : List (String × Bytes)}
    (all : ∀ reply ∈ held, reply.1 ∈ awaited) (excess : Nat) :
    deleteUnawaited awaited excess held = held := by
  induction held with
  | nil => cases excess <;> rfl
  | cons reply rest ih =>
    cases excess with
    | zero => rfl
    | succ excess =>
      have behind := ih fun other mem => all other (List.mem_cons_of_mem _ mem)
      rw [deleteUnawaited, if_pos (all reply List.mem_cons_self), behind]

end Shelf

namespace PendingReplies

def perform (store : PendingReplies) : StoreCall → StoreAnswer × PendingReplies
  | .put key reply =>
    let (replaced, store) := store.put key reply
    (.stored replaced, store)
  | .remove key =>
    let (reply, store) := store.remove key
    (.removed reply, store)
  | .begin key =>
    match store.begin? key with
    | some store => (.begun true, store)
    | none => (.begun false, store)
  | .finish key => (.finished, store.finish key)

/-- The store as a plain list. -/
def shelf (store : PendingReplies) : Shelf := ⟨store.replies, store.inFlight, store.limit.toNat⟩

/-- Whether a call stores a reply under a key that was claimed and is still listed. -/
def returns (store : PendingReplies) : StoreCall → Bool
  | .put key _ => !store.contains key && store.arrivals.contains key
  | _ => false

def NoneReturns : PendingReplies → List StoreCall → Prop
  | _, [] => True
  | store, call :: calls => store.returns call = false ∧ NoneReturns (store.perform call).2 calls

instance decidableNoneReturns : (store : PendingReplies) → (calls : List StoreCall) →
    Decidable (store.NoneReturns calls)
  | _, [] => .isTrue trivial
  | store, call :: calls =>
    have := decidableNoneReturns (store.perform call).2 calls
    inferInstanceAs (Decidable (_ ∧ _))

/-! ## The arrival queue tells the age -/

/-- Each key is listed once, and those that are held stand in the order in which they came. -/
structure Ordered (store : PendingReplies) : Prop where
  nodup : store.arrivals.Nodup
  held : store.arrivals.filter store.contains = store.replies.map (·.1)

theorem contains_iff_mem {store : PendingReplies} {key : String} :
    store.contains key = true ↔ key ∈ store.replies.map (·.1) := by
  rw [contains_iff, List.mem_map]
  exact ⟨fun ⟨bytes, mem⟩ => ⟨(key, bytes), mem, rfl⟩, fun ⟨reply, mem, same⟩ => ⟨reply.2, same ▸ mem⟩⟩

theorem contains_erase (store : PendingReplies) (key other : String) :
    (store.erase key).contains other = (store.contains other && other != key) := by
  rw [Bool.eq_iff_iff, contains_iff, Bool.and_eq_true, contains_iff, bne_iff_ne]
  simp only [mem_erase]
  exact exists_and_right

theorem ordered_ofLimit (limit : UInt64) : (ofLimit limit).Ordered := ⟨.nil, rfl⟩

namespace Ordered

variable {store : PendingReplies}

theorem nodup_keys (ordered : store.Ordered) : (store.replies.map (·.1)).Nodup := by
  rw [← ordered.held]
  exact ordered.nodup.filter _

theorem erase (ordered : store.Ordered) (key : String) : (store.erase key).Ordered := by
  refine ⟨ordered.nodup, ?_⟩
  have both : store.arrivals.filter (store.erase key).contains =
      (store.arrivals.filter store.contains).filter (· != key) := by
    rw [List.filter_filter]
    congr 1
    funext other
    rw [contains_erase, Bool.and_comm]
  exact both.trans (by rw [ordered.held, List.filter_map]; rfl)

theorem replies_insert (ordered : store.Ordered) (key : String) (reply : Bytes) :
    (store.insert key reply).replies = Shelf.place key reply store.replies := by
  unfold PendingReplies.insert
  split
  · rename_i present
    exact (Shelf.place_of_mem ordered.nodup_keys (contains_iff_mem.1 present) reply).symm
  · rename_i absent
    exact (Shelf.place_of_notMem (fun mem => absent (contains_iff_mem.2 mem)) reply).symm

theorem insert (ordered : store.Ordered) {key : String}
    (fresh : store.contains key = false → key ∉ store.arrivals) (reply : Bytes) :
    (store.insert key reply).Ordered := by
  have replies := ordered.replies_insert key reply
  have keys := Shelf.map_fst_place key reply store.replies
  rw [← replies] at keys
  have now (other : String) : (store.insert key reply).contains other =
      (store.contains other || other == key) := by
    rw [Bool.eq_iff_iff, contains_iff_mem, keys, Bool.or_eq_true, contains_iff_mem, beq_iff_eq]
    split
    · rename_i present
      exact ⟨.inl, fun h => h.elim id fun same => same ▸ present⟩
    · rw [List.mem_append, List.mem_singleton]
  cases present : store.contains key with
  | true =>
    have arrivals : (store.insert key reply).arrivals = store.arrivals := by
      unfold PendingReplies.insert
      rw [if_pos present]
    rw [if_pos (contains_iff_mem.1 present)] at keys
    refine ⟨arrivals ▸ ordered.nodup, ?_⟩
    rw [arrivals, keys, ← ordered.held]
    congr 1
    funext other
    rw [now]
    by_cases same : other = key
    · simp [same, present]
    · simp [same]
  | false =>
    have arrivals : (store.insert key reply).arrivals = store.arrivals ++ [key] := by
      unfold PendingReplies.insert
      rw [present]
      rfl
    have absent : key ∉ store.replies.map (·.1) := fun mem => by
      rw [contains_iff_mem.2 mem] at present
      cases present
    have unlisted := fresh present
    rw [if_neg absent] at keys
    refine ⟨?_, ?_⟩
    · rw [arrivals]
      exact List.nodup_append.2 ⟨ordered.nodup, List.nodup_cons.2 ⟨List.not_mem_nil, .nil⟩,
        fun other mem last single => by
        rw [List.mem_singleton.1 single]
        exact fun same => unlisted (same ▸ mem)⟩
    · rw [arrivals, keys, List.filter_append, ← ordered.held]
      congr 1
      · refine List.filter_congr fun other mem => ?_
        have different : other ≠ key := fun same => unlisted (same ▸ mem)
        rw [now]
        simp [different]
      · simp [now]

theorem compact (ordered : store.Ordered) : store.compact.Ordered := by
  unfold PendingReplies.compact
  split
  · refine ⟨ordered.nodup.filter _, ?_⟩
    change (store.arrivals.filter store.contains).filter store.contains = _
    rw [List.filter_filter]
    simpa using ordered.held
  · exact ordered

/-- The first key that is listed and can be evicted is that of the first reply that nobody awaits. -/
theorem find?_isEvictable (ordered : store.Ordered) :
    store.arrivals.find? store.isEvictable =
      (store.replies.find? (·.1 ∉ store.inFlight)).map (·.1) := by
  have first : (store.arrivals.filter store.contains).find? (fun key => !store.isInFlight key) =
      store.arrivals.find? store.isEvictable := by
    rw [List.find?_filter]
    congr 1
    funext key
    simp [isEvictable]
  rw [← first, ordered.held, List.find?_map]
  congr 2
  funext reply
  simp [isInFlight]

theorem evict (ordered : store.Ordered) :
    store.evict.Ordered ∧ store.evict.replies = Shelf.deleteUnawaited store.inFlight
      (store.size - store.limit.toNat) store.replies := by
  fun_induction PendingReplies.evict store with
  | case1 store full found =>
    rw [ordered.find?_isEvictable, Option.map_eq_none_iff, List.find?_eq_none] at found
    refine ⟨ordered, (Shelf.deleteUnawaited_of_forall (fun reply mem => ?_) _).symm⟩
    simpa using found reply mem
  | case2 store full key found ih =>
    have erased := eraseP_eq_filter (f := id) (by simpa using ordered.nodup) found
    rw [ordered.find?_isEvictable] at found
    obtain ⟨reply, first, rfl⟩ := Option.map_eq_some_iff.1 found
    have victim := eraseP_eq_filter ordered.nodup_keys first
    have next : Ordered { store.erase reply.1 with arrivals := store.arrivals.eraseP store.isEvictable } := by
      refine ⟨by rw [erased]; exact ordered.nodup.filter _, ?_⟩
      change (store.arrivals.eraseP store.isEvictable).filter (store.erase reply.1).contains = _
      rw [erased, List.filter_filter, ← (ordered.erase reply.1).held]
      congr 1
      funext key
      rw [contains_erase]
      cases store.contains key <;> simp
    have size := List.length_eraseP_of_mem (List.mem_of_find?_eq_some first) (List.find?_some first)
    obtain ⟨still, kept⟩ := ih next
    refine ⟨still, kept.trans ?_⟩
    have excess : store.size - store.limit.toNat =
        (store.erase reply.1).size - store.limit.toNat + 1 := by
      have some := List.length_pos_of_mem (List.mem_of_find?_eq_some first)
      rw [victim] at size
      unfold PendingReplies.size PendingReplies.erase at *
      simp only at *
      omega
    have unawaited : ∃ reply ∈ store.replies, reply.1 ∉ store.inFlight :=
      ⟨reply, List.mem_of_find?_eq_some first, by simpa using List.find?_some first⟩
    rw [excess, Shelf.deleteUnawaited_succ unawaited, victim]
    rfl
  | case3 store within =>
    have enough : store.size - store.limit.toNat = 0 := by omega
    rw [enough, Shelf.deleteUnawaited]
    exact ⟨ordered, rfl⟩

end Ordered

/-! ## Every call -/

theorem limit_insert (store : PendingReplies) (key : String) (reply : Bytes) :
    (store.insert key reply).limit = store.limit := by
  unfold PendingReplies.insert
  split <;> rfl

theorem limit_compact (store : PendingReplies) : store.compact.limit = store.limit := by
  unfold PendingReplies.compact
  split <;> rfl

theorem limit_evict (store : PendingReplies) : store.evict.limit = store.limit := by
  fun_induction PendingReplies.evict store with
  | case1 store full found => rfl
  | case2 store full key found ih => exact ih
  | case3 store within => rfl

theorem limit_put (store : PendingReplies) (key : String) (reply : Bytes) :
    (store.put key reply).2.limit = store.limit := by
  unfold PendingReplies.put
  rw [limit_evict, limit_compact, limit_insert]

theorem get?_eq_lookup (store : PendingReplies) (key : String) :
    store.get? key = store.replies.lookup key := by
  unfold get?
  induction store.replies with
  | nil => rfl
  | cons reply rest ih =>
    rw [List.find?_cons, List.lookup_cons]
    by_cases same : key = reply.1
    · simp [same]
    · rw [beq_eq_false_iff_ne.2 same, beq_eq_false_iff_ne.2 (Ne.symm same)]
      exact ih

theorem Ordered.put {store : PendingReplies} (ordered : store.Ordered) {key : String}
    (fresh : store.contains key = false → key ∉ store.arrivals) (reply : Bytes) :
    (store.put key reply).2.Ordered ∧ (store.put key reply).2.shelf =
      Shelf.trim { store.shelf with held := Shelf.place key reply store.replies } := by
  obtain ⟨last, evicted⟩ := (ordered.insert fresh reply).compact.evict
  rw [PendingReplies.size, replies_compact, ordered.replies_insert, inFlight_compact, inFlight_insert,
    limit_compact, limit_insert] at evicted
  refine ⟨last, ?_⟩
  have replies : (store.put key reply).2.replies = _ := evicted
  unfold shelf
  rw [replies, inFlight_put, limit_put]
  rfl

/-- A call that stores nothing under a key which is still listed is answered as by the shelf. -/
theorem Ordered.perform {store : PendingReplies} (ordered : store.Ordered) {call : StoreCall}
    (fresh : store.returns call = false) :
    (store.perform call).2.Ordered ∧ (store.perform call).1 = (store.shelf.perform call).1 ∧
      (store.perform call).2.shelf = (store.shelf.perform call).2 := by
  cases call with
  | put key reply =>
    have unlisted : store.contains key = false → key ∉ store.arrivals := fun absent => by
      simpa [returns, absent] using fresh
    obtain ⟨still, shelf⟩ := ordered.put unlisted reply
    exact ⟨still, rfl, shelf⟩
  | remove key =>
    exact ⟨ordered.erase key, congrArg StoreAnswer.removed (store.get?_eq_lookup key), rfl⟩
  | begin key =>
    by_cases inFlight : store.isInFlight key = true
    · have refused : store.begin? key = none := if_pos inFlight
      have now : store.perform (.begin key) = (.begun false, store) := by
        simp only [PendingReplies.perform, refused]
      have same : store.shelf.perform (.begin key) = (.begun false, store.shelf) :=
        if_pos (isInFlight_iff.1 inFlight)
      rw [now, same]
      exact ⟨ordered, rfl, rfl⟩
    · have begun : store.begin? key = some { store with inFlight := key :: store.inFlight } :=
        if_neg inFlight
      have now : store.perform (.begin key) =
          (.begun true, { store with inFlight := key :: store.inFlight }) := by
        simp only [PendingReplies.perform, begun]
      have same : store.shelf.perform (.begin key) =
          (.begun true, { store.shelf with awaited := key :: store.inFlight }) :=
        if_neg fun mem => inFlight (isInFlight_iff.2 mem)
      rw [now, same]
      exact ⟨⟨ordered.nodup, ordered.held⟩, rfl, rfl⟩
  | finish key => exact ⟨⟨ordered.nodup, ordered.held⟩, rfl, rfl⟩

theorem Ordered.performAll {store : PendingReplies} (ordered : store.Ordered) {calls : List StoreCall}
    (fresh : store.NoneReturns calls) :
    (Iso8583.performAll PendingReplies.perform store calls).1 =
        (Iso8583.performAll Shelf.perform store.shelf calls).1 ∧
      (Iso8583.performAll PendingReplies.perform store calls).2.shelf =
        (Iso8583.performAll Shelf.perform store.shelf calls).2 := by
  induction calls generalizing store with
  | nil => exact ⟨rfl, rfl⟩
  | cons call calls ih =>
    obtain ⟨still, answer, shelf⟩ := ordered.perform fresh.1
    obtain ⟨answers, last⟩ := ih still fresh.2
    rw [shelf] at answers last
    exact ⟨congr (congrArg List.cons answer) answers, last⟩

theorem toNat_limit_ofLimit (limit : UInt64) : (ofLimit limit).limit.toNat = max limit.toNat 1 := by
  change (if limit ≤ 1 then 1 else limit).toNat = _
  split
  · rename_i low
    exact (Nat.max_eq_right (UInt64.le_iff_toNat_le.1 low)).symm
  · rename_i high
    rw [UInt64.le_iff_toNat_le] at high
    exact (Nat.max_eq_left (Nat.le_of_lt (Nat.not_le.1 high))).symm

/-- The store answers like a shelf and holds the same replies in the same order, so that each reply that
is evicted is the oldest that nobody awaits. -/
theorem performAll_eq_shelf (limit : UInt64) {calls : List StoreCall}
    (fresh : (ofLimit limit).NoneReturns calls) :
    (performAll PendingReplies.perform (ofLimit limit) calls).1 =
        (performAll Shelf.perform ⟨[], [], max limit.toNat 1⟩ calls).1 ∧
      (performAll PendingReplies.perform (ofLimit limit) calls).2.shelf =
        (performAll Shelf.perform ⟨[], [], max limit.toNat 1⟩ calls).2 := by
  have start : (ofLimit limit).shelf = ⟨[], [], max limit.toNat 1⟩ :=
    congrArg (Shelf.mk [] []) (toNat_limit_ofLimit limit)
  rw [← start]
  exact (ordered_ofLimit limit).performAll fresh

/-- An awaited reply is passed over, a claimed one is forgotten, and an overwritten one keeps its age. -/
theorem performAll_eq_shelf_with_awaited :
    let calls : List StoreCall := [.begin "a", .put "a" [1], .put "b" [2], .put "c" [3], .remove "c",
      .put "d" [4], .put "a" [5], .finish "a", .put "e" [6]]
    (ofLimit 2).NoneReturns calls ∧
      (performAll PendingReplies.perform (ofLimit 2) calls).2.shelf =
        (performAll Shelf.perform ⟨[], [], 2⟩ calls).2 ∧
      (performAll Shelf.perform ⟨[], [], 2⟩ calls).2 = ⟨[("d", [4]), ("e", [6])], [], 2⟩ := by
  intro calls
  have fresh : (ofLimit 2).NoneReturns calls := by decide +kernel
  exact ⟨fresh, (performAll_eq_shelf 2 fresh).2, by decide +kernel⟩

/-- A reply stored under a claimed key that is still listed is evicted before an older one. -/
theorem evict_newer_of_returned_key :
    let calls : List StoreCall := [.put "a" [1], .remove "a", .put "b" [2], .put "a" [3]]
    (performAll PendingReplies.perform (ofLimit 1) calls).2.replies = [("b", [2])] ∧
      (performAll Shelf.perform ⟨[], [], 1⟩ calls).2.held = [("a", [3])] := by
  decide +kernel

end PendingReplies

end Iso8583

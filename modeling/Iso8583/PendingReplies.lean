import Iso8583.Bytes

/-!
# Pending replies

Replies wait under their keys until someone claims them. A key is in flight while someone awaits its
reply. When there are more replies than the limit, those that nobody awaits go, in the order of the
arrival queue.
-/

namespace Iso8583

/-- The replies that wait to be claimed. -/
structure PendingReplies where
  /-- The replies held, one for each key. -/
  replies : List (String × Bytes) := []
  /-- The keys in the order in which replies came for them; claimed ones may still be listed. -/
  arrivals : List String := []
  inFlight : List String := []
  /-- How many replies are kept. The word has 64 bits. -/
  limit : UInt64
  deriving DecidableEq

namespace PendingReplies

def defaultLimit : UInt64 := 1024

/-- An empty store that keeps at least one reply. -/
def ofLimit (limit : UInt64) : PendingReplies := { limit := max limit 1 }

/-! ## Observation -/

def get? (store : PendingReplies) (key : String) : Option Bytes :=
  (store.replies.find? fun reply => reply.1 == key).map (·.2)

def contains (store : PendingReplies) (key : String) : Bool :=
  store.replies.any fun reply => reply.1 == key

def size (store : PendingReplies) : Nat := store.replies.length

def isInFlight (store : PendingReplies) (key : String) : Bool := store.inFlight.contains key

/-- Whether a reply is held under a key that nobody awaits. -/
def isEvictable (store : PendingReplies) (key : String) : Bool :=
  store.contains key && !store.isInFlight key

/-! ## Claiming -/

def erase (store : PendingReplies) (key : String) : PendingReplies :=
  { store with replies := store.replies.filter fun reply => reply.1 != key }

def remove (store : PendingReplies) (key : String) : Option Bytes × PendingReplies :=
  (store.get? key, store.erase key)

theorem length_erase_lt {store : PendingReplies} {key : String} (h : store.contains key = true) :
    (store.erase key).replies.length < store.replies.length := by
  unfold contains at h
  obtain ⟨reply, held, same⟩ := List.any_eq_true.1 h
  unfold erase
  refine List.length_filter_lt_length_iff_exists.2 ⟨reply, held, ?_⟩
  simpa using same

/-! ## Storing -/

/-- Drops claimed keys from the arrival queue once it is longer than twice the limit. -/
def compact (store : PendingReplies) : PendingReplies :=
  if (2 * store.limit).toNat < store.arrivals.length then
    { store with arrivals := store.arrivals.filter store.contains }
  else store

/-- Evicts the first reply of the arrival queue that nobody awaits, again and again, until no more
replies than the limit are left or all of them are awaited. -/
def evict (store : PendingReplies) : PendingReplies :=
  if store.limit.toNat < store.size then
    match _found : store.arrivals.find? store.isEvictable with
    | none => store
    | some key =>
      evict { store.erase key with arrivals := store.arrivals.eraseP store.isEvictable }
  else store
  termination_by store.replies.length
  decreasing_by
    have held := List.find?_some _found
    simp only [isEvictable, Bool.and_eq_true] at held
    exact length_erase_lt held.1

/-- Stores a reply, over any reply under its key. -/
def insert (store : PendingReplies) (key : String) (reply : Bytes) : PendingReplies :=
  if store.contains key then
    { store with
      replies := store.replies.map fun held => if held.1 == key then (key, reply) else held }
  else
    { store with
      replies := store.replies ++ [(key, reply)]
      arrivals := store.arrivals ++ [key] }

/-- Stores a reply and evicts what is too much. Also answers whether it replaced another one. -/
def put (store : PendingReplies) (key : String) (reply : Bytes) : Bool × PendingReplies :=
  (store.contains key, (store.insert key reply).compact.evict)

/-- Stores replies one after the other. Also answers how many replaced another one. -/
def putAll (store : PendingReplies) : List (String × Bytes) → Nat × PendingReplies
  | [] => (0, store)
  | (key, reply) :: rest =>
    let (replaced, store) := store.put key reply
    let (count, store) := store.putAll rest
    (count + replaced.toNat, store)

/-! ## Awaiting -/

/-- Registers a key as awaited; nothing if it is already. -/
def begin? (store : PendingReplies) (key : String) : Option PendingReplies :=
  if store.isInFlight key then none else some { store with inFlight := key :: store.inFlight }

def finish (store : PendingReplies) (key : String) : PendingReplies :=
  { store with inFlight := store.inFlight.filter (· != key) }

/-- The text that refuses a key which is awaited already. -/
def duplicateMessage (key : String) : String := "key " ++ key ++ " is already in flight"

end PendingReplies

end Iso8583

import Iso8583.Bytes

/-!
# Numbered fields

A field holds text or bytes. `Fields` maps field numbers to values, one value per number, in the
order of the numbers.
-/

namespace Iso8583

/-- What a field holds. -/
inductive FieldValue where
  | text (chars : String)
  | binary (bytes : Bytes)
  deriving DecidableEq, Repr

/-- What a field adds to a correlation key: its text, or its bytes in hexadecimal. -/
def FieldValue.keyPart : FieldValue → String
  | .text chars => chars
  | .binary bytes => bytes.hex

def FieldValue.text? : FieldValue → Option String
  | .text chars => some chars
  | .binary _ => none

/-- Entries with each number below the one before it. -/
def Descending (entries : List (UInt32 × FieldValue)) : Prop :=
  entries.Pairwise fun a b => b.1 < a.1

/-- Numbered fields. The highest number stands first, so that adding fields in ascending order,
which is how they are read and built, takes constant time for each. -/
structure Fields where
  entries : List (UInt32 × FieldValue)
  descending : Descending entries

namespace Fields

/-! ## Construction -/

def empty : Fields := ⟨[], .nil⟩

/-- Puts an entry in its place, over any entry with its number. -/
def insertEntry (id : UInt32) (value : FieldValue) :
    List (UInt32 × FieldValue) → List (UInt32 × FieldValue)
  | [] => [(id, value)]
  | (k, v) :: rest =>
    if k < id then (id, value) :: (k, v) :: rest
    else if k = id then (id, value) :: rest
    else (k, v) :: insertEntry id value rest

theorem mem_insertEntry {id : UInt32} {value : FieldValue} {entries : List (UInt32 × FieldValue)}
    {entry : UInt32 × FieldValue} (h : entry ∈ insertEntry id value entries) :
    entry = (id, value) ∨ entry ∈ entries := by
  induction entries with
  | nil => simpa [insertEntry] using h
  | cons first rest ih =>
    simp only [insertEntry] at h
    split at h
    · simpa using h
    · split at h
      · simp only [List.mem_cons] at h ⊢
        rcases h with h | h
        · exact .inl h
        · exact .inr (.inr h)
      · simp only [List.mem_cons] at h ⊢
        rcases h with h | h
        · exact .inr (.inl h)
        · rcases ih h with h | h
          · exact .inl h
          · exact .inr (.inr h)

theorem descending_insertEntry (id : UInt32) (value : FieldValue)
    {entries : List (UInt32 × FieldValue)} (h : Descending entries) :
    Descending (insertEntry id value entries) := by
  induction entries with
  | nil => simp [insertEntry, Descending]
  | cons first rest ih =>
    obtain ⟨k, v⟩ := first
    rw [Descending, List.pairwise_cons] at h
    simp only [insertEntry]
    split
    · rename_i below
      rw [Descending, List.pairwise_cons, List.pairwise_cons]
      refine ⟨fun e he => ?_, h⟩
      rcases List.mem_cons.1 he with rfl | he
      · exact below
      · exact UInt32.lt_trans (h.1 e he) below
    · rename_i notBelow
      split
      · rename_i same
        subst same
        exact List.pairwise_cons.2 h
      · rename_i different
        refine List.pairwise_cons.2 ⟨fun e he => ?_, ih h.2⟩
        rcases mem_insertEntry he with rfl | he
        · exact UInt32.lt_of_le_of_ne (UInt32.not_lt.1 notBelow) (Ne.symm different)
        · exact h.1 e he

def insert (fields : Fields) (id : UInt32) (value : FieldValue) : Fields :=
  ⟨insertEntry id value fields.entries, descending_insertEntry id value fields.descending⟩

def erase (fields : Fields) (id : UInt32) : Fields :=
  ⟨fields.entries.filter fun entry => entry.1 != id, fields.descending.filter _⟩

/-- The fields set by a list of assignments in order, so that a later one wins. -/
def ofList (entries : List (UInt32 × FieldValue)) : Fields :=
  entries.foldl (fun fields entry => fields.insert entry.1 entry.2) empty

/-! ## Observation -/

def get? (fields : Fields) (id : UInt32) : Option FieldValue :=
  (fields.entries.find? fun entry => entry.1 == id).map (·.2)

def contains (fields : Fields) (id : UInt32) : Bool :=
  (fields.get? id).isSome

def size (fields : Fields) : Nat :=
  fields.entries.length

def toList (fields : Fields) : List (UInt32 × FieldValue) :=
  fields.entries.reverse

/-! ## Facts -/

theorem ext_entries {a b : Fields} (h : a.entries = b.entries) : a = b := by
  cases a; cases b; simp_all

instance : DecidableEq Fields := fun a b =>
  if h : a.entries = b.entries then .isTrue (ext_entries h)
  else .isFalse fun same => h (same ▸ rfl)

instance : Inhabited Fields := ⟨empty⟩

theorem entries_insert_above {fields : Fields} {id : UInt32} (value : FieldValue)
    (above : ∀ entry ∈ fields.entries, entry.1 < id) :
    (fields.insert id value).entries = (id, value) :: fields.entries := by
  obtain ⟨entries, descending⟩ := fields
  cases entries with
  | nil => rfl
  | cons first rest => exact if_pos (above first (by simp))

theorem ofList_toList (fields : Fields) : ofList fields.toList = fields := by
  obtain ⟨entries, descending⟩ := fields
  apply ext_entries
  induction entries with
  | nil => rfl
  | cons first rest ih =>
    rw [Descending, List.pairwise_cons] at descending
    have before := ih descending.2
    simp only [ofList, toList, List.reverse_cons, List.foldl_append] at before ⊢
    have above := entries_insert_above first.2 (before.symm ▸ descending.1)
    exact above.trans (by rw [before])

end Fields

end Iso8583

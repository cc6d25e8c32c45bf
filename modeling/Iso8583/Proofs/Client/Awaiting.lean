import Iso8583.Proofs.Client.InFlight
import Iso8583.Proofs.Codec.Received

/-!
# No awaited reply is missed

From the moment a call registers its key until it looks for its reply, the store holds the last message
recorded under that key in between: nobody else takes it, and eviction passes over it.
-/

namespace Iso8583

variable {ι : Type} [DecidableEq ι]

/-! ## Reading the journal -/

theorem append_eq_append_cons {α : Type} {front back left right : List α} {item : α}
    (same : front ++ back = left ++ item :: right) :
    (∃ mid, front = left ++ item :: mid ∧ right = mid ++ back) ∨
      ∃ mid, left = front ++ mid ∧ back = mid ++ item :: right := by
  obtain ⟨mid, first, second⟩ | ⟨mid, first, second⟩ := List.append_eq_append_iff.1 same
  · exact .inr ⟨mid, first, second⟩
  · cases mid with
    | nil => exact .inr ⟨[], by rw [first, List.append_nil, List.append_nil], second.symm⟩
    | cons head rest =>
      obtain ⟨rfl, rfl⟩ := List.cons.inj second
      exact .inl ⟨rest, first, rfl⟩

/-- The message that an entry records under a key. -/
def Entry.recordedUnder? {ι : Type} (fields : KeyFields) (key : String) : Entry ι → Option Message
  | .recorded msg => if (fields.keyFor msg).toOption = some key then some msg else none
  | _ => none

def lastRecorded {ι : Type} (fields : KeyFields) (key : String) (entries : List (Entry ι)) :
    Option Message :=
  entries.reverse.findSome? (·.recordedUnder? fields key)

def Entry.Leaves {ι : Type} (id : ι) : Entry ι → Prop
  | .dropped caller => caller = id
  | .ended caller _ => caller = id
  | _ => False

/-- Whether a call goes on through some entries. -/
def Stays {ι : Type} (id : ι) (entries : List (Entry ι)) : Prop :=
  ∀ entry ∈ entries, ¬ entry.Leaves id

omit [DecidableEq ι] in
theorem lastRecorded_append (fields : KeyFields) (key : String) (entries later : List (Entry ι)) :
    lastRecorded fields key (entries ++ later) =
      (lastRecorded fields key later).or (lastRecorded fields key entries) := by
  unfold lastRecorded
  rw [List.reverse_append, List.findSome?_append]

omit [DecidableEq ι] in
theorem stays_append {id : ι} {entries later : List (Entry ι)} :
    Stays id (entries ++ later) ↔ Stays id entries ∧ Stays id later :=
  List.forall_mem_append

omit [DecidableEq ι] in
theorem Stays.ne {id other : ι} {entries : List (Entry ι)} (stays : Stays id entries) (entry : Entry ι)
    (mem : entry ∈ entries) (leaves : entry.Leaves other) : id ≠ other := by
  rintro rfl
  exact stays entry mem leaves

/-! ## What the store holds for a call that waits -/

/-- Whether a store holds the bytes of a message under a key, or nothing if there is no message. -/
def PendingReplies.Holds (codec : Codec) (store : PendingReplies) (key : String) : Option Message → Prop
  | some msg => ∃ bytes, codec.encode msg = .ok bytes ∧ store.get? key = some bytes
  | none => store.get? key = none

section

variable {fields : KeyFields} {codec : Codec} {desk last : Desk ι} {entries : List (Entry ι)} {id : ι}
  {key : String}

theorem PendingReplies.holds_congr {store next : PendingReplies} (same : next.get? key = store.get? key)
    {msg : Option Message} (held : store.Holds codec key msg) : next.Holds codec key msg := by
  cases msg with
  | none => exact same.trans held
  | some msg =>
    obtain ⟨bytes, written, found⟩ := held
    exact ⟨bytes, written, same.trans found⟩

/-- A call waits for a key, and the store holds what was recorded under it. -/
structure Desk.Waits (codec : Codec) (desk : Desk ι) (id : ι) (key : String) (msg : Option Message) :
    Prop where
  awaits : desk.awaited (some id) = some key
  held : desk.store.Holds codec key msg

namespace Desk.Waits

variable {msg : Option Message}

theorem drop (waits : desk.Waits codec id key msg) {other : ι} (away : id ≠ other) :
    (desk.drop other).Waits codec id key msg := by
  refine ⟨?_, waits.held⟩
  rw [awaited_drop, if_neg (by simpa using away)]
  exact waits.awaits

theorem place (waits : desk.Waits codec id key msg) {other : ι} (away : id ≠ other) (call : Call) :
    (desk.place other call).Waits codec id key msg := by
  refine ⟨?_, waits.held⟩
  rw [awaited_place, if_neg (by simpa using away)]
  exact waits.awaits

theorem withStore (waits : desk.Waits codec id key msg) {store : PendingReplies}
    (same : store.get? key = desk.store.get? key) : (desk.withStore store).Waits codec id key msg :=
  ⟨waits.awaits, PendingReplies.holds_congr same waits.held⟩

theorem withStore_drop (waits : desk.Waits codec id key msg) {other : ι} (away : id ≠ other)
    {store : PendingReplies} (same : store.get? key = desk.store.get? key) :
    ((desk.withStore store).drop other).Waits codec id key msg :=
  (waits.withStore same).drop away

theorem ne_of_idle (waits : desk.Waits codec id key msg) {other : ι}
    (idle : desk.awaited (some other) = none) : id ≠ other := by
  rintro rfl
  have holds := waits.awaits
  rw [idle] at holds
  simp at holds

theorem key_ne (waits : desk.Waits codec id key msg) (sound : desk.Sound) {other : Option ι}
    {taken : String} (holds : desk.awaited other = some taken) (away : some id ≠ other) : key ≠ taken := by
  rintro rfl
  exact away (sound.once _ _ key waits.awaits holds)

theorem isInFlight (waits : desk.Waits codec id key msg) (sound : desk.Sound) :
    desk.store.isInFlight key = true :=
  PendingReplies.isInFlight_iff.2 ((sound.inFlight key).2 ⟨_, waits.awaits⟩)

theorem record (waits : desk.Waits codec id key msg) (sound : desk.Sound) {arrived : Message}
    {under : String} {bytes : Bytes} (keyed : fields.keyFor arrived = .ok under)
    (written : codec.encode arrived = .ok bytes) :
    (desk.withStore (desk.store.put under bytes).2).Waits codec id key
      ((lastRecorded fields key [(.recorded arrived : Entry ι)]).or msg) := by
  have now := PendingReplies.get?_put_of_isInFlight (waits.isInFlight sound) under bytes
  refine ⟨waits.awaits, ?_⟩
  unfold lastRecorded
  simp only [List.reverse_singleton, List.findSome?_singleton, Entry.recordedUnder?, keyed,
    Except.toOption]
  by_cases same : under = key
  · rw [if_pos same] at now
    rw [if_pos (congrArg some same), Option.some_or]
    exact ⟨bytes, written, now⟩
  · rw [if_neg same] at now
    rw [if_neg (by simpa using same), Option.none_or]
    exact PendingReplies.holds_congr now waits.held

end Desk.Waits

theorem Act.keeps_waits (act : Act fields codec desk entries last) (sound : desk.Sound)
    (stays : Stays id entries) {msg : Option Message} (waits : desk.Waits codec id key msg) :
    last.Waits codec id key ((lastRecorded fields key entries).or msg) := by
  cases act with
  | record received keyed written => exact waits.record sound keyed written
  | ask timeout poll free =>
    rename_i other next
    have silent : lastRecorded fields key (askedBy other next) = none := by cases next <;> rfl
    rw [silent]
    exact waits.place (waits.ne_of_idle (Desk.awaited_of_free free)) _
  | rest standing => exact waits.place (waits.ne_of_idle (Desk.awaited_of_call? standing)) _
  | settle standing early => exact waits.drop (waits.ne_of_idle (Desk.awaited_of_call? standing))
  | leave standing => exact waits.drop (waits.ne_of_idle (Desk.awaited_of_call? standing))
  | claim standing keyed free found =>
    refine waits.withStore_drop (waits.ne_of_idle (Desk.awaited_of_call? standing)) ?_
    apply PendingReplies.get?_erase_of_ne
    rintro rfl
    rw [waits.isInFlight sound] at free
    simp at free
  | register standing keyed absent begun =>
    have away := waits.ne_of_idle (Desk.awaited_of_call? standing)
    obtain ⟨-, rfl⟩ := PendingReplies.begin?_eq_some_iff.1 begun
    refine Desk.Waits.place ?_ away _
    exact waits.withStore (PendingReplies.get?_congr rfl key)
  | wait standing absent =>
    rename_i other under timeout limit poll later
    have same : desk.awaited (some other) = some under := Desk.awaited_of_call? standing
    refine ⟨?_, waits.held⟩
    rw [Desk.awaited_place_of_same same]
    exact waits.awaits
  | take standing found =>
    rename_i other taken timeout poll bytes
    have away : id ≠ other := stays.ne (.ended other (replyOf codec bytes)) (by simp) rfl
    have different := waits.key_ne sound (Desk.awaited_of_call? standing) (by simpa using away)
    have same : (desk.store.erase taken).get? key = desk.store.get? key :=
      PendingReplies.get?_erase_of_ne different
    refine waits.withStore_drop away ?_
    exact (PendingReplies.get?_congr rfl key).trans same
  | expire standing absent reason =>
    rename_i other under timeout poll error
    have away : id ≠ other := stays.ne (.ended other (.failed error)) (by simp) rfl
    refine waits.withStore_drop away ?_
    exact PendingReplies.get?_congr rfl key
  | wake standing waited =>
    rename_i other under timeout poll
    have away : id ≠ other := stays.ne (.ended other (.failed (.responseTimeout under waited))) (by simp) rfl
    refine waits.withStore_drop away ?_
    exact PendingReplies.get?_congr rfl key
  | abandon standing =>
    rename_i other under timeout poll
    have away : id ≠ other := stays.ne (.dropped other) (by simp) rfl
    refine waits.withStore_drop away ?_
    exact PendingReplies.get?_congr rfl key
  | greet conn idle begun =>
    obtain ⟨-, rfl⟩ := PendingReplies.begin?_eq_some_iff.1 begun
    exact ⟨waits.awaits, PendingReplies.holds_congr (PendingReplies.get?_congr rfl key) waits.held⟩
  | acknowledge awaited found =>
    rename_i conn taken bytes
    have greeting : desk.awaited none = some taken := by
      simp [Desk.awaited, awaited]
    have different := waits.key_ne sound greeting (by simp)
    have same : (desk.store.erase taken).get? key = desk.store.get? key :=
      PendingReplies.get?_erase_of_ne different
    exact ⟨waits.awaits,
      PendingReplies.holds_congr ((PendingReplies.get?_congr rfl key).trans same) waits.held⟩
  | part awaited =>
    exact ⟨waits.awaits, PendingReplies.holds_congr (PendingReplies.get?_congr rfl key) waits.held⟩

/-! ## Where an entry of the journal comes from -/

theorem Act.of_began (act : Act fields codec desk entries last) {earlier since : List (Entry ι)}
    (split : entries = earlier ++ .began id key :: since) :
    since = [] ∧ last.awaited (some id) = some key ∧ last.store.get? key = none := by
  have written : .began id key ∈ entries := by
    rw [split]
    exact List.mem_append_right _ List.mem_cons_self
  cases act with
  | ask timeout poll free =>
    rename_i other next
    cases next <;> simp [askedBy] at written
  | register standing keyed absent begun =>
    obtain ⟨rfl, rfl⟩ : id = _ ∧ key = _ := by simpa using written
    obtain ⟨-, rfl⟩ := PendingReplies.begin?_eq_some_iff.1 begun
    refine ⟨?_, ?_, absent⟩
    · cases earlier with
      | nil => exact (List.cons.inj split).2.symm
      | cons first rest => cases rest <;> cases (List.cons.inj split).2
    · rw [Desk.awaited_place, if_pos rfl]
      rfl
  | _ => simp at written

theorem Act.of_checked (act : Act fields codec desk entries last) {earlier later : List (Entry ι)}
    (split : entries = earlier ++ .checked id :: later) :
    earlier = [] ∧ ∃ under, desk.awaited (some id) = some under ∧
      (desk.store.get? under = none ∨
        ∃ bytes, desk.store.get? under = some bytes ∧ later = [.ended id (replyOf codec bytes)]) := by
  have written : .checked id ∈ entries := by
    rw [split]
    exact List.mem_append_right _ List.mem_cons_self
  have first {tail : List (Entry ι)} (shape : entries = .checked id :: tail)
      (once : .checked id ∉ tail) : earlier = [] ∧ later = tail := by
    rw [shape] at split
    cases earlier with
    | nil => exact ⟨rfl, (List.cons.inj split).2.symm⟩
    | cons head rest =>
      rw [(List.cons.inj split).2] at once
      simp at once
  cases act with
  | ask timeout poll free =>
    rename_i other next
    cases next <;> simp [askedBy] at written
  | wait standing absent =>
    obtain rfl : id = _ := by simpa using written
    exact ⟨(first rfl (by simp)).1, _, Desk.awaited_of_call? standing, .inl absent⟩
  | take standing found =>
    obtain rfl : id = _ := by simpa using written
    obtain ⟨nothing, rest⟩ := first rfl (by simp)
    exact ⟨nothing, _, Desk.awaited_of_call? standing, .inr ⟨_, found, rest⟩⟩
  | expire standing absent reason =>
    obtain rfl : id = _ := by simpa using written
    exact ⟨(first rfl (by simp)).1, _, Desk.awaited_of_call? standing, .inl absent⟩
  | _ => simp at written

theorem Act.awaited_cases (act : Act fields codec desk entries last)
    (awaits : last.awaited (some id) = some key) :
    desk.awaited (some id) = some key ∧ Stays id entries ∨ entries = [.began id key] := by
  have gone {other : ι} {store : PendingReplies} {entries : List (Entry ι)}
      (awaits : ((desk.withStore store).drop other).awaited (some id) = some key)
      (only : ∀ entry ∈ entries, entry.Leaves id → other = id) :
      desk.awaited (some id) = some key ∧ Stays id entries := by
    rw [Desk.awaited_drop, Desk.awaited_withStore] at awaits
    split at awaits
    · cases awaits
    · rename_i different
      refine ⟨awaits, fun entry mem leaves => different ?_⟩
      rw [only entry mem leaves]
  cases act with
  | record received keyed written => exact .inl ⟨awaits, by simp [Stays, Entry.Leaves]⟩
  | ask timeout poll free =>
    rename_i other next
    rw [Desk.awaited_place] at awaits
    split at awaits
    · cases awaits
    · refine .inl ⟨awaits, ?_⟩
      cases next <;> simp [Stays, Entry.Leaves, askedBy]
  | rest standing =>
    rw [Desk.awaited_place] at awaits
    split at awaits
    · cases awaits
    · exact .inl ⟨awaits, by simp [Stays]⟩
  | settle standing early => exact .inl (gone awaits (by simp [Entry.Leaves]))
  | leave standing => exact .inl (gone awaits (by simp [Entry.Leaves]))
  | claim standing keyed free found => exact .inl (gone awaits (by simp [Entry.Leaves]))
  | register standing keyed absent begun =>
    rw [Desk.awaited_place] at awaits
    split at awaits
    · rename_i same
      cases same
      cases awaits
      exact .inr rfl
    · exact .inl ⟨awaits, by simp [Stays, Entry.Leaves]⟩
  | wait standing absent =>
    have same : desk.awaited (some _) = some _ := Desk.awaited_of_call? standing
    rw [Desk.awaited_place_of_same same] at awaits
    exact .inl ⟨awaits, by simp [Stays, Entry.Leaves]⟩
  | take standing found => exact .inl (gone awaits (by simp [Entry.Leaves]))
  | expire standing absent reason => exact .inl (gone awaits (by simp [Entry.Leaves]))
  | wake standing waited => exact .inl (gone awaits (by simp [Entry.Leaves]))
  | abandon standing => exact .inl (gone awaits (by simp [Entry.Leaves]))
  | greet conn idle begun => exact .inl ⟨awaits, by simp [Stays]⟩
  | acknowledge awaited found => exact .inl ⟨awaits, by simp [Stays, Entry.Leaves]⟩
  | part awaited => exact .inl ⟨awaits, by simp [Stays]⟩

theorem Act.of_timeout (act : Act fields codec desk entries last) {earlier later : List (Entry ι)}
    {waited : Duration}
    (split : entries = earlier ++ .ended id (.failed (.responseTimeout key waited)) :: later) :
    desk.awaited (some id) = some key ∧
      (earlier = [.interrupted id] ∨ earlier = [.checked id] ∧ desk.store.get? key = none) := by
  have written : .ended id (.failed (.responseTimeout key waited)) ∈ entries := by
    rw [split]
    exact List.mem_append_right _ List.mem_cons_self
  have reads (bytes : Bytes) : replyOf codec bytes ≠ .failed (.responseTimeout key waited) := by
    unfold replyOf
    split <;> simp
  cases act with
  | ask timeout poll free =>
    rename_i other next
    cases next <;> simp [askedBy] at written
  | settle standing early =>
    obtain ⟨rfl, rfl⟩ : id = _ ∧ _ = _ := by simpa using written
    exact early.elim
  | claim standing keyed free found =>
    obtain ⟨-, same⟩ : id = _ ∧ _ = _ := by simpa using written
    exact absurd same.symm (reads _)
  | take standing found =>
    obtain ⟨-, same⟩ : id = _ ∧ _ = _ := by simpa using written
    exact absurd same.symm (reads _)
  | expire standing absent reason =>
    obtain _ | ⟨first, _ | ⟨second, rest⟩⟩ := earlier
    · cases (List.cons.inj split).1
    · obtain ⟨rfl, last⟩ := List.cons.inj split
      obtain ⟨same, -⟩ := List.cons.inj last
      cases same
      obtain named | ⟨time, named⟩ := reason
      · cases named
      · cases named
        exact ⟨Desk.awaited_of_call? standing, .inr ⟨rfl, absent⟩⟩
    · simp at split
  | wake standing time =>
    obtain _ | ⟨first, _ | ⟨second, rest⟩⟩ := earlier
    · cases (List.cons.inj split).1
    · obtain ⟨rfl, last⟩ := List.cons.inj split
      obtain ⟨same, -⟩ := List.cons.inj last
      cases same
      exact ⟨Desk.awaited_of_call? standing, .inl rfl⟩
    · simp at split
  | _ => simp at written

/-! ## What holds of every sequence of acts -/

/-- While a call waits, the store holds the last message recorded under its key since it began. -/
theorem Acts.waits_since (acts : Acts fields codec desk entries last) (sound : desk.Sound)
    {earlier since : List (Entry ι)} (split : entries = earlier ++ .began id key :: since)
    (stays : Stays id since) :
    last.Waits codec id key (lastRecorded fields key since) := by
  induction acts generalizing earlier since with
  | nil => simp at split
  | snoc acts act ih =>
    obtain ⟨mid, inside, rfl⟩ | ⟨mid, -, inside⟩ := append_eq_append_cons split
    · obtain ⟨before, after⟩ := stays_append.1 stays
      rw [lastRecorded_append]
      exact act.keeps_waits (acts.sound sound) after (ih inside before)
    · obtain ⟨rfl, awaits, absent⟩ := act.of_began inside
      exact ⟨awaits, absent⟩

theorem Acts.check_takes (acts : Acts fields codec desk entries last) (sound : desk.Sound)
    {earlier since later : List (Entry ι)} {msg : Message}
    (split : entries = (earlier ++ .began id key :: since) ++ .checked id :: later)
    (stays : Stays id since) (recorded : lastRecorded fields key since = some msg) :
    ∃ bytes rest, codec.encode msg = .ok bytes ∧ later = .ended id (replyOf codec bytes) :: rest := by
  induction acts generalizing later with
  | nil => simp at split
  | snoc acts act ih =>
    obtain ⟨mid, inside, rfl⟩ | ⟨mid, before, inside⟩ := append_eq_append_cons split
    · obtain ⟨bytes, rest, written, rfl⟩ := ih inside
      exact ⟨bytes, rest ++ _, written, rfl⟩
    · obtain ⟨rfl, under, awaited, result⟩ := act.of_checked inside
      rw [List.append_nil] at before
      obtain ⟨awaits, held⟩ := acts.waits_since sound before.symm stays
      obtain rfl : under = key := Option.some.inj (awaited.symm.trans awaits)
      rw [recorded] at held
      obtain ⟨bytes, written, found⟩ := held
      obtain absent | ⟨other, present, rest⟩ := result
      · rw [absent] at found
        cases found
      · cases present.symm.trans found
        exact ⟨bytes, [], written, rest⟩

theorem Acts.began_of_awaited (acts : Acts fields codec desk entries last)
    (fresh : desk.awaited (some id) = none) (awaits : last.awaited (some id) = some key) :
    ∃ earlier since, entries = earlier ++ .began id key :: since ∧ Stays id since := by
  induction acts with
  | nil =>
    rw [fresh] at awaits
    cases awaits
  | snoc acts act ih =>
    rename_i mid last entries later
    obtain ⟨before, stays⟩ | begins := act.awaited_cases awaits
    · obtain ⟨earlier, since, rfl, stayed⟩ := ih before
      refine ⟨earlier, since ++ later, ?_, stays_append.2 ⟨stayed, stays⟩⟩
      rw [List.append_assoc, List.cons_append]
    · rw [begins]
      exact ⟨entries, [], rfl, by simp [Stays]⟩

theorem Acts.timeout_misses_nothing (acts : Acts fields codec desk entries last) (sound : desk.Sound)
    (fresh : desk.awaited (some id) = none) {before later : List (Entry ι)} {waited : Duration}
    (split : entries = before ++ .ended id (.failed (.responseTimeout key waited)) :: later) :
    ∃ earlier since, before = earlier ++ .began id key :: since ∧ Stays id since ∧
      (since.getLast? = some (.checked id) ∨ since.getLast? = some (.interrupted id)) ∧
      ∀ heard rest, since = heard ++ .checked id :: rest → lastRecorded fields key heard = none := by
  induction acts generalizing later with
  | nil => simp at split
  | snoc acts act ih =>
    rename_i mid last entries tail
    obtain ⟨part, inside, -⟩ | ⟨part, rfl, inside⟩ := append_eq_append_cons split
    · exact ih inside
    obtain ⟨awaits, checks⟩ := act.of_timeout inside
    obtain ⟨earlier, since, rfl, stays⟩ := acts.began_of_awaited fresh awaits
    have quiet : Stays id part := by
      obtain rfl | ⟨rfl, -⟩ := checks <;> simp [Stays, Entry.Leaves]
    have ends : (since ++ part).getLast? = some (.checked id) ∨
        (since ++ part).getLast? = some (.interrupted id) := by
      obtain rfl | ⟨rfl, -⟩ := checks
      · exact .inr List.getLast?_concat
      · exact .inl List.getLast?_concat
    refine ⟨earlier, since ++ part, by simp, stays_append.2 ⟨stays, quiet⟩, ends, ?_⟩
    intro heard rest found
    obtain ⟨between, first, -⟩ | ⟨between, rfl, final⟩ := append_eq_append_cons found
    · -- An earlier check that found nothing, since the call went on.
      cases recorded : lastRecorded fields key heard with
      | none => rfl
      | some msg =>
        rw [first] at stays acts
        obtain ⟨bytes, more, -, rfl⟩ := acts.check_takes sound
          (by rw [List.append_assoc, List.cons_append] : _ = (earlier ++ .began id key :: heard) ++ _)
          (stays_append.1 stays).1 recorded
        exact absurd rfl ((stays_append.1 stays).2 (.ended id (replyOf codec bytes)) (by simp))
    · -- The check right before the end.
      obtain rfl | ⟨rfl, absent⟩ := checks
      · cases between <;> simp at final
      · obtain ⟨rfl, -⟩ : between = [] ∧ rest = [] := by
          cases between <;> simp_all
        rw [List.append_nil]
        have held := (acts.waits_since sound rfl stays).held
        cases recorded : lastRecorded fields key since with
        | none => rfl
        | some msg =>
          rw [recorded] at held
          obtain ⟨bytes, -, found⟩ := held
          rw [absent] at found
          cases found

end

omit [DecidableEq ι] in
theorem recorded_of_lastRecorded {fields : KeyFields} {key : String} {entries : List (Entry ι)}
    {msg : Message} (last : lastRecorded fields key entries = some msg) :
    .recorded msg ∈ entries ∧ fields.keyFor msg = .ok key := by
  obtain ⟨entry, mem, under⟩ := List.exists_of_findSome?_eq_some last
  unfold Entry.recordedUnder? at under
  split at under
  · rename_i other
    split at under
    · rename_i keyed
      cases under
      refine ⟨List.mem_reverse.1 mem, ?_⟩
      cases found : fields.keyFor msg with
      | ok key =>
        rw [found] at keyed
        cases keyed
        rfl
      | error error =>
        rw [found] at keyed
        cases keyed
    · cases under
  · cases under

/-! ## Every run -/

theorem Client.step_callSlept_of_get? {client : Client ι} {id : ι} {key : String} {bytes : Bytes}
    (awaits : client.desk.awaited (some id) = some key) (found : client.store.get? key = some bytes)
    (now : Duration) :
    ∃ after,
      client.step now (.callSlept id true) = some (after, [.finish id (replyOf client.codec bytes)]) ∧
      after.store.get? key = none := by
  obtain ⟨call, standing, under⟩ := Option.bind_eq_some_iff.1 awaits
  cases call with
  | awaitingActive timeout poll next => cases under
  | awaitingReply other timeout poll =>
    cases under
    have slept := step_callSlept_reply standing now
    obtain ⟨other, present, desk, effects⟩ | ⟨error, absent, -⟩ | ⟨absent, -⟩ :=
      client.checkReply_cases id key timeout poll.slept
    · cases present.symm.trans found
      refine ⟨_, slept.trans (congrArg some (Prod.ext rfl effects)), ?_⟩
      rw [show (client.checkReply id key timeout poll.slept).1.store = _ from congrArg Desk.store desk]
      exact PendingReplies.get?_erase_self client.store key
    · rw [absent] at found
      cases found
    · rw [absent] at found
      cases found

/-- A call that looks for its reply takes the last message recorded under its key since it registered
the key, if there is one. So it times out only if none of its checks came after such a message, and it
checks right before, unless its sleep fails. -/
theorem awaited_reply_taken {config : ClientConfig} {codec : Codec} {past : List (Moment ι)}
    {client : Client ι} (run : Client.Run (.new config codec) past client) :
    (∀ earlier id key since msg, journal past = earlier ++ .began id key :: since → Stays id since →
      lastRecorded config.keyFields key since = some msg →
      ∃ bytes, codec.encode msg = .ok bytes ∧
        (codec = .binary ∨ codec = .json → replyOf codec bytes = .replied msg) ∧
        ∀ now, ∃ after,
          client.step now (.callSlept id true) = some (after, [.finish id (replyOf codec bytes)]) ∧
          after.store.get? key = none) ∧
    (∀ before id key waited later,
      journal past = before ++ .ended id (.failed (.responseTimeout key waited)) :: later →
      ∃ earlier since, before = earlier ++ .began id key :: since ∧ Stays id since ∧
        (since.getLast? = some (.checked id) ∨ since.getLast? = some (.interrupted id)) ∧
        ∀ heard rest, since = heard ++ .checked id :: rest →
          lastRecorded config.keyFields key heard = none) := by
  have acts : Acts config.keyFields codec (Client.new config codec).desk (journal past) client.desk :=
    run.acts
  have same : client.codec = codec := acts.keeps.2
  constructor
  · intro earlier id key since msg split stays recorded
    obtain ⟨awaits, held⟩ := acts.waits_since (Client.sound_new config codec) split stays
    rw [recorded] at held
    obtain ⟨bytes, written, found⟩ := held
    refine ⟨bytes, written, fun known => ?_, fun now => ?_⟩
    · have mem : .recorded msg ∈ journal past := by
        rw [split]
        simp [(recorded_of_lastRecorded recorded).1]
      unfold replyOf
      rw [Codec.decode_of_receives known (acts.receives mem) written]
    · rw [← same]
      exact Client.step_callSlept_of_get? awaits found now
  · intro before id key waited later split
    exact acts.timeout_misses_nothing (Client.sound_new config codec) (Client.awaited_new ..) split

theorem awaited_reply_taken_in_exchange : ∃ past client,
    Client.Run (.new (.localNetwork "peer") .binary) past (client : Client Nat) ∧
      ∃ bytes after, replyOf .binary bytes = .replied (keyedMessage "0210" "a") ∧
        client.step ⟨6⟩ (.callSlept 7 true) = some (after, [.finish 7 (replyOf .binary bytes)]) := by
  obtain ⟨past, client, run, shape⟩ := exists_run_of_replay (.new (.localNetwork "peer") .binary) exchange
    (fun past _ => journal past) exchanged (by decide +kernel)
  obtain ⟨bytes, -, reads, takes⟩ := (awaited_reply_taken run).1
    [.recorded (keyedMessage "2810" "h"), .acknowledged 0 "h", .asked 7 (keyedMessage "0200" "a")] 7 "a"
    [.recorded (keyedMessage "0210" "a")] (keyedMessage "0210" "a") shape (by simp [Stays, Entry.Leaves])
    (by decide +kernel)
  obtain ⟨after, taken, -⟩ := takes ⟨6⟩
  exact ⟨past, client, run, bytes, after, reads (.inl rfl), taken⟩

end Iso8583

import Iso8583.Proofs.Client.Steps

/-!
# Who awaits which key

Calls and the handshake register the keys whose replies they await. A key is in flight exactly while
one of them awaits it, and no two await the same key.
-/

namespace Iso8583

variable {ι : Type} [DecidableEq ι]

namespace Desk

/-- The key that a call awaits, or the handshake if no call is named. -/
def awaited (desk : Desk ι) : Option ι → Option String
  | none => desk.handshake.map (·.2)
  | some id => (desk.call? id).bind Call.key?

/-- The keys in flight are those awaited, each by one alone. -/
structure Sound (desk : Desk ι) : Prop where
  inFlight : ∀ key, key ∈ desk.store.inFlight ↔ ∃ who, desk.awaited who = some key
  once : ∀ first second key, desk.awaited first = some key → desk.awaited second = some key →
    first = second

/-! ## What is awaited after an act -/

theorem awaited_drop (desk : Desk ι) (id : ι) (who : Option ι) :
    (desk.drop id).awaited who = if who = some id then none else desk.awaited who := by
  cases who with
  | none => rfl
  | some other =>
    unfold awaited
    dsimp only
    rw [call?_drop]
    by_cases same : other = id <;> simp [same]

theorem awaited_place (desk : Desk ι) (id : ι) (call : Call) (who : Option ι) :
    (desk.place id call).awaited who = if who = some id then call.key? else desk.awaited who := by
  cases who with
  | none => rfl
  | some other =>
    unfold awaited
    dsimp only
    rw [call?_place]
    by_cases same : other = id <;> simp [same]

theorem awaited_withStore (desk : Desk ι) (store : PendingReplies) (who : Option ι) :
    (desk.withStore store).awaited who = desk.awaited who := by
  cases who <;> rfl

theorem awaited_of_call? {desk : Desk ι} {id : ι} {call : Call} (held : desk.call? id = some call) :
    desk.awaited (some id) = call.key? := by
  change (desk.call? id).bind Call.key? = call.key?
  rw [held]
  rfl

theorem awaited_of_free {desk : Desk ι} {id : ι} (free : desk.call? id = none) :
    desk.awaited (some id) = none := by
  change (desk.call? id).bind Call.key? = none
  rw [free]
  rfl

theorem awaited_drop_of_idle {desk : Desk ι} {id : ι} (idle : desk.awaited (some id) = none)
    (who : Option ι) : (desk.drop id).awaited who = desk.awaited who := by
  rw [awaited_drop]
  split
  · rename_i same
    rw [same, idle]
  · rfl

theorem awaited_place_of_same {desk : Desk ι} {id : ι} {call : Call}
    (awaits : desk.awaited (some id) = call.key?) (who : Option ι) :
    (desk.place id call).awaited who = desk.awaited who := by
  rw [awaited_place]
  split
  · rename_i same
    rw [same, awaits]
  · rfl

/-! ## The three kinds of change -/

variable {desk last : Desk ι}

namespace Sound

theorem of_same (sound : desk.Sound) (inFlight : last.store.inFlight = desk.store.inFlight)
    (awaited : ∀ who, last.awaited who = desk.awaited who) : last.Sound := by
  constructor
  · intro key
    rw [inFlight, sound.inFlight]
    simp only [awaited]
  · intro first second key
    rw [awaited, awaited]
    exact sound.once first second key

theorem register (sound : desk.Sound) {who : Option ι} {key : String} {store : PendingReplies}
    (idle : desk.awaited who = none) (begun : desk.store.begin? key = some store)
    (inFlight : last.store.inFlight = store.inFlight)
    (awaited : ∀ other, last.awaited other = if other = who then some key else desk.awaited other) :
    last.Sound := by
  obtain ⟨free, rfl⟩ := PendingReplies.begin?_eq_some_iff.1 begun
  have alone : ∀ other, desk.awaited other ≠ some key := by
    intro other holds
    rw [PendingReplies.isInFlight_iff.2 ((sound.inFlight key).2 ⟨other, holds⟩)] at free
    cases free
  constructor
  · intro other
    rw [inFlight, List.mem_cons, sound.inFlight]
    constructor
    · rintro (rfl | ⟨holder, holds⟩)
      · exact ⟨who, by rw [awaited, if_pos rfl]⟩
      · refine ⟨holder, ?_⟩
        rw [awaited, if_neg, holds]
        rintro rfl
        rw [idle] at holds
        cases holds
    · rintro ⟨holder, holds⟩
      rw [awaited] at holds
      split at holds
      · cases holds
        exact .inl rfl
      · exact .inr ⟨holder, holds⟩
  · intro first second other
    rw [awaited, awaited]
    split <;> split
    · rename_i this that
      intro _ _
      rw [this, that]
    · rintro ⟨⟩ holds
      exact absurd holds (alone second)
    · rintro holds ⟨⟩
      exact absurd holds (alone first)
    · exact sound.once first second other

theorem release (sound : desk.Sound) {who : Option ι} {key : String}
    (holds : desk.awaited who = some key)
    (inFlight : ∀ other, other ∈ last.store.inFlight ↔ other ∈ desk.store.inFlight ∧ other ≠ key)
    (awaited : ∀ other, last.awaited other = if other = who then none else desk.awaited other) :
    last.Sound := by
  constructor
  · intro other
    rw [inFlight, sound.inFlight]
    constructor
    · rintro ⟨⟨holder, held⟩, different⟩
      refine ⟨holder, ?_⟩
      rw [awaited, if_neg, held]
      rintro rfl
      exact different (Option.some.inj (held.symm.trans holds))
    · rintro ⟨holder, held⟩
      rw [awaited] at held
      split at held
      · cases held
      · rename_i another
        refine ⟨⟨holder, held⟩, ?_⟩
        rintro rfl
        exact another (sound.once holder who other held holds)
  · intro first second other
    rw [awaited, awaited]
    split
    · simp
    · split
      · simp
      · exact sound.once first second other

theorem release_call (sound : desk.Sound) {id : ι} {key : String} {store : PendingReplies}
    (holds : desk.awaited (some id) = some key)
    (inFlight : store.inFlight = (desk.store.finish key).inFlight) :
    ((desk.withStore store).drop id).Sound := by
  refine sound.release holds ?_ fun who => ?_
  · intro other
    rw [show ((desk.withStore store).drop id).store.inFlight = _ from inFlight]
    exact PendingReplies.mem_inFlight_finish
  · rw [awaited_drop, awaited_withStore]

theorem release_handshake (sound : desk.Sound) {conn : Nat} {key : String} {store : PendingReplies}
    (awaited : desk.handshake = some (conn, key))
    (inFlight : store.inFlight = (desk.store.finish key).inFlight) :
    ({ desk with store := store, handshake := none } : Desk ι).Sound := by
  have holds : desk.awaited none = some key := by
    change desk.handshake.map (·.2) = some key
    rw [awaited]
    rfl
  refine sound.release holds ?_ fun who => ?_
  · intro other
    rw [inFlight]
    exact PendingReplies.mem_inFlight_finish
  · cases who <;> rfl

end Sound

end Desk

/-! ## Every run -/

theorem Act.sound {fields : KeyFields} {codec : Codec} {desk last : Desk ι} {entries : List (Entry ι)}
    (act : Act fields codec desk entries last) (sound : desk.Sound) : last.Sound := by
  cases act with
  | record received keyed written =>
    exact sound.of_same (PendingReplies.inFlight_put ..) (desk.awaited_withStore _)
  | ask timeout poll free =>
    exact sound.of_same rfl (Desk.awaited_place_of_same (Desk.awaited_of_free free))
  | rest held =>
    refine sound.of_same rfl (Desk.awaited_place_of_same ?_)
    rw [Desk.awaited_of_call? held]
    rfl
  | settle held early => exact sound.of_same rfl (Desk.awaited_drop_of_idle (Desk.awaited_of_call? held))
  | leave held => exact sound.of_same rfl (Desk.awaited_drop_of_idle (Desk.awaited_of_call? held))
  | claim held keyed free found =>
    refine sound.of_same rfl fun who => ?_
    rw [Desk.withStore_drop, Desk.awaited_withStore]
    exact Desk.awaited_drop_of_idle (Desk.awaited_of_call? held) who
  | register held keyed absent begun =>
    refine sound.register (Desk.awaited_of_call? held) begun rfl fun who => ?_
    rw [Desk.awaited_place, Desk.awaited_withStore]
    rfl
  | wait held absent =>
    refine sound.of_same rfl (Desk.awaited_place_of_same ?_)
    rw [Desk.awaited_of_call? held]
    rfl
  | take held found => exact sound.release_call (Desk.awaited_of_call? held) rfl
  | expire held absent reason => exact sound.release_call (Desk.awaited_of_call? held) rfl
  | wake held waited => exact sound.release_call (Desk.awaited_of_call? held) rfl
  | abandon held => exact sound.release_call (Desk.awaited_of_call? held) rfl
  | greet conn idle begun =>
    refine sound.register (by rw [Desk.awaited, idle]; rfl : desk.awaited none = none) begun rfl ?_
    rintro (_ | id) <;> rfl
  | acknowledge awaited found => exact sound.release_handshake awaited rfl
  | part awaited => exact sound.release_handshake awaited rfl

theorem Acts.sound {fields : KeyFields} {codec : Codec} {desk last : Desk ι} {entries : List (Entry ι)}
    (acts : Acts fields codec desk entries last) (sound : desk.Sound) : last.Sound := by
  induction acts with
  | nil => exact sound
  | snoc acts act ih => exact act.sound ih

theorem Client.awaited_new (config : ClientConfig) (codec : Codec) (who : Option ι) :
    (Client.new config codec : Client ι).desk.awaited who = none := by
  cases who <;> rfl

theorem Client.sound_new (config : ClientConfig) (codec : Codec) :
    (Client.new config codec : Client ι).desk.Sound := by
  constructor
  · intro key
    constructor
    · intro mem
      simp [desk, new, PendingReplies.ofLimit] at mem
    · rintro ⟨who, holds⟩
      rw [awaited_new] at holds
      cases holds
  · intro first second key holds
    rw [awaited_new] at holds
    cases holds

end Iso8583

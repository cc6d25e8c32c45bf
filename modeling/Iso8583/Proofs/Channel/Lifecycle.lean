import Iso8583.Proofs.Channel.Run

/-!
# The life of a channel

Whoever holds a channel may register callbacks, bind it, close it and write to it in any order, while its
pump takes steps. A channel is bound at most once and ends at most once, and each of its callbacks is called
at most once: the first by the bind that succeeds, the other when the pump stops.
-/

namespace Iso8583

inductive LifeEvent (κ : Type) where
  | onConnected (callback : κ)
  | onDisconnected (callback : κ)
  | channel (event : ChannelEvent)

namespace LifeEvent

variable {κ : Type}

def onConnected? : LifeEvent κ → Option κ
  | .onConnected callback => some callback
  | _ => none

def onDisconnected? : LifeEvent κ → Option κ
  | .onDisconnected callback => some callback
  | _ => none

end LifeEvent

/-- What comes of an event: the answer to the caller, and the callbacks called. -/
structure Outcome (η κ : Type) where
  result : Except ChannelError Unit := .ok ()
  connected : Option (Visit η κ) := none
  disconnected : Option (Visit η κ) := none

namespace Channel

variable {η κ : Type}

/-! ## Events -/

/-- What an event does to a channel and what comes of it; nothing if it cannot happen now. -/
def live (codec : Codec) (channel : Channel η κ) : LifeEvent κ → Option (Channel η κ × Outcome η κ)
  | .onConnected callback => some ({ channel with onConnected := some callback }, {})
  | .onDisconnected callback => some ({ channel with onDisconnected := some callback }, {})
  | .channel .bind => match channel.bind with
    | .ok (bound, callback) => some (bound, { connected := callback.map fun callback => ⟨callback, bound⟩ })
    | .error error => some (channel, { result := .error error })
  | .channel (.write msg) => match channel.write codec msg with
    | .ok after => some (after, {})
    | .error error => some (channel, { result := .error error })
  | .channel .close => some (channel.close, {})
  | .channel (.pump step) => (channel.step codec.decode step).map fun (after, output) =>
    (after, { disconnected := output.disconnected })

theorem map_fst_live (codec : Codec) (channel : Channel η κ) (event : ChannelEvent) :
    (channel.live codec (.channel event)).map Prod.fst = (channel.perform codec event).map Prod.fst := by
  cases event with
  | bind =>
    simp only [live, perform]
    cases channel.bind <;> rfl
  | write msg =>
    simp only [live, perform]
    cases channel.write codec msg <;> rfl
  | close => rfl
  | pump step =>
    simp only [live, perform]
    cases channel.step codec.decode step <;> rfl

end Channel

structure Beat (η κ : Type) where
  event : LifeEvent κ
  before : Channel η κ
  after : Channel η κ
  outcome : Outcome η κ

/-- The events that can lead from `start` to a channel. -/
inductive Life {η κ : Type} (codec : Codec) (start : Channel η κ) : List (Beat η κ) → Channel η κ → Prop where
  | start : Life codec start [] start
  | step {past : List (Beat η κ)} {channel after : Channel η κ} {event : LifeEvent κ}
      {outcome : Outcome η κ} (life : Life codec start past channel)
      (taken : channel.live codec event = some (after, outcome)) :
      Life codec start (past ++ [⟨event, channel, after, outcome⟩]) after

namespace Beat

variable {η κ : Type}

def binds (beat : Beat η κ) : Bool :=
  match beat.event, beat.outcome.result with
  | .channel .bind, .ok _ => true
  | _, _ => false

def Uses (beat : Beat η κ) : Prop :=
  beat.event = .channel .bind ∨ ∃ msg, beat.event = .channel (.write msg)

/-- Neither a bind that succeeds nor a callback that is called. -/
structure Quiet (beat : Beat η κ) : Prop where
  binds : beat.binds = false
  connected : beat.outcome.connected = none
  disconnected : beat.outcome.disconnected = none

end Beat

/-! ## Stages -/

/-- Where a channel stands in its life. -/
inductive Stage where
  | fresh
  | bound
  /-- It was closed before it was bound. -/
  | unused
  /-- Its pump has stopped. -/
  | stopped

namespace Stage

def status : Stage → ChannelStatus
  | .fresh => .idle
  | .bound => .live
  | .unused | .stopped => .ended

def outbox : Stage → OutboxStatus
  | .fresh => .unbound
  | .bound => .bound
  | .unused | .stopped => .shut

def final : Stage → Bool
  | .fresh | .bound => false
  | .unused | .stopped => true

def Has : Stage → Pump → Prop
  | .fresh, pump => pump = .absent
  | .bound, pump => pump.isAlive = true
  | .unused, pump => pump = .absent
  | .stopped, pump => pump = .stopped

/-- How often a channel has been bound. -/
def binds : Stage → Nat
  | .fresh | .unused => 0
  | .bound | .stopped => 1

/-- How often its pump has stopped. -/
def stops : Stage → Nat
  | .fresh | .bound | .unused => 0
  | .stopped => 1

theorem binds_le (stage : Stage) : stage.binds ≤ 1 := by
  cases stage <;> decide

theorem stops_le (stage : Stage) : stage.stops ≤ stage.binds := by
  cases stage <;> decide

end Stage

namespace Channel

variable {η κ : Type}

/-- All parts of a channel stand where its life stands. -/
structure Stands (channel : Channel η κ) (stage : Stage) : Prop where
  status : channel.status = stage.status
  outbox : channel.outbox.status = stage.outbox
  queue : stage.final = true → channel.outbox.queue = []
  released : channel.released = stage.final
  pump : stage.Has channel.pump

end Channel

/-- What an event makes of the stage. -/
inductive Beat.Turns {η κ : Type} (beat : Beat η κ) : Stage → Stage → Prop where
  | keep {stage : Stage} (quiet : beat.Quiet)
      (onConnected : stage = .fresh →
        beat.after.onConnected = beat.event.onConnected?.or beat.before.onConnected)
      (onDisconnected :
        beat.after.onDisconnected = beat.event.onDisconnected?.or beat.before.onDisconnected) :
      Turns beat stage stage
  | bind (binds : beat.binds = true) (event : beat.event = .channel .bind)
      (connected : beat.outcome.connected.map Visit.callback = beat.before.onConnected)
      (disconnected : beat.outcome.disconnected = none)
      (onDisconnected : beat.after.onDisconnected = beat.before.onDisconnected) :
      Turns beat .fresh .bound
  | abandon (quiet : beat.Quiet) (closes : beat.event = .channel .close) : Turns beat .fresh .unused
  | stop (binds : beat.binds = false) (connected : beat.outcome.connected = none)
      (disconnected : beat.outcome.disconnected.map Visit.callback = beat.before.onDisconnected)
      (found : ∀ visit, beat.outcome.disconnected = some visit →
        visit.found.outbox.status = .shut ∧ visit.found.outbox.queue = [] ∧ visit.found.released = false ∧
          beat.after = visit.found.release) :
      Turns beat .bound .stopped

namespace Beat.Turns

variable {η κ : Type} {beat : Beat η κ} {stage next : Stage}

theorem eq_of_final (turns : beat.Turns stage next) (final : stage.final = true) : next = stage := by
  cases turns with
  | keep => rfl
  | _ => cases final

theorem of_binds (turns : beat.Turns stage next) (succeeds : beat.binds = true) :
    stage = .fresh ∧ beat.outcome.connected.map Visit.callback = beat.before.onConnected := by
  cases turns with
  | bind succeeds event connected => exact ⟨rfl, connected⟩
  | keep quiet => cases quiet.binds.symm.trans succeeds
  | abandon quiet => cases quiet.binds.symm.trans succeeds
  | stop unbinding => cases unbinding.symm.trans succeeds

theorem of_disconnected (turns : beat.Turns stage next) {visit : Visit η κ}
    (called : beat.outcome.disconnected = some visit) :
    stage = .bound ∧ visit.found.outbox.status = .shut ∧ visit.found.outbox.queue = [] ∧
      visit.found.released = false ∧ beat.after = visit.found.release := by
  cases turns with
  | stop unbinding unconnected last found => exact ⟨rfl, found visit called⟩
  | keep quiet => cases quiet.disconnected.symm.trans called
  | abandon quiet => cases quiet.disconnected.symm.trans called
  | bind succeeds event connected disconnected => cases disconnected.symm.trans called

end Beat.Turns

namespace Channel

variable {η κ : Type} {codec : Codec} {channel after : Channel η κ} {stage : Stage}
  {outcome : Outcome η κ}

theorem stands_fresh (reader : FrameReader η) :
    ({ reader := reader } : Channel η κ).Stands .fresh := by
  constructor
  · rfl
  · rfl
  · intro final
    cases final
  · rfl
  · rfl

theorem Stands.final_iff (stands : channel.Stands stage) :
    channel.status = .ended ↔ stage.final = true := by
  rw [stands.status]
  cases stage <;> decide

theorem Stands.unique {other : Stage} (stands : channel.Stands stage) (also : channel.Stands other) :
    stage = other := by
  have status := stands.status.symm.trans also.status
  have first := stands.pump
  have second := also.pump
  cases stage <;> cases other <;>
    first
    | rfl
    | exact absurd status (by decide)
    | -- Only the pump tells how a channel has ended.
      cases first.symm.trans second

theorem Stands.of_same (stands : channel.Stands stage) (status : after.status = channel.status)
    (outbox : after.outbox = channel.outbox) (released : after.released = channel.released)
    (pump : after.pump = channel.pump) : after.Stands stage := by
  obtain ⟨standing, writes, queue, open_until, pumps⟩ := stands
  constructor
  · rw [status, standing]
  · rw [outbox, writes]
  · rwa [outbox]
  · rw [released, open_until]
  · rwa [pump]

/-! ### Calls -/

theorem Stands.bind (stands : channel.Stands stage)
    (taken : channel.live codec (.channel .bind) = some (after, outcome)) :
    ∃ next, after.Stands next ∧ Beat.Turns ⟨.channel .bind, channel, after, outcome⟩ stage next := by
  have status := stands.status
  simp only [live, Channel.bind] at taken
  cases stage with
  | fresh =>
    rw [show channel.status = .idle from status] at taken
    cases taken
    refine ⟨.bound, ⟨rfl, ?_, ?_, stands.released, rfl⟩, .bind rfl rfl ?_ rfl rfl⟩
    · have unbound : channel.outbox.status = .unbound := stands.outbox
      simp [Outbox.bind, unbound, Stage.outbox]
    · intro final
      cases final
    · cases channel.onConnected <;> rfl
  | bound =>
    rw [show channel.status = .live from status] at taken
    cases taken
    exact ⟨.bound, stands, .keep ⟨rfl, rfl, rfl⟩ (fun _ => rfl) rfl⟩
  | unused | stopped =>
    rw [show channel.status = .ended from status] at taken
    cases taken
    exact ⟨_, stands, .keep ⟨rfl, rfl, rfl⟩ (fun _ => rfl) rfl⟩

theorem Stands.write (stands : channel.Stands stage) {msg : Message}
    (taken : channel.live codec (.channel (.write msg)) = some (after, outcome)) :
    after.Stands stage ∧ Beat.Turns ⟨.channel (.write msg), channel, after, outcome⟩ stage stage := by
  simp only [live] at taken
  split at taken
  · rename_i queued
    cases taken
    obtain ⟨frame, bound, -, rfl⟩ := write_eq_ok queued
    refine ⟨⟨stands.status, stands.outbox, ?_, stands.released, stands.pump⟩,
      .keep ⟨rfl, rfl, rfl⟩ (fun _ => rfl) rfl⟩
    intro final
    -- Only an outbox that is bound accepts a frame.
    have outbox := stands.outbox
    rw [bound] at outbox
    cases stage <;> cases final <;> cases outbox
  · cases taken
    exact ⟨stands, .keep ⟨rfl, rfl, rfl⟩ (fun _ => rfl) rfl⟩

theorem Stands.close_unbound (stands : channel.Stands stage) (unbound : stage.binds = 0) :
    channel.close.Stands .unused := by
  have status := stands.status
  unfold Channel.close
  cases stage with
  | fresh =>
    have absent : channel.pump = .absent := stands.pump
    rw [show channel.status = .idle from status]
    exact ⟨rfl, rfl, fun _ => rfl, rfl, absent⟩
  | unused =>
    rw [show channel.status = .ended from status]
    exact stands
  | bound | stopped => cases unbound

theorem Stands.close (stands : channel.Stands stage)
    (taken : channel.live codec (.channel .close) = some (after, outcome)) :
    ∃ next, after.Stands next ∧ Beat.Turns ⟨.channel .close, channel, after, outcome⟩ stage next := by
  have status := stands.status
  cases taken
  cases stage with
  | fresh => exact ⟨.unused, stands.close_unbound rfl, .abandon ⟨rfl, rfl, rfl⟩ rfl⟩
  | bound =>
    unfold Channel.close
    rw [show channel.status = .live from status]
    exact ⟨.bound, stands.of_same status.symm rfl rfl rfl, .keep ⟨rfl, rfl, rfl⟩ (fun _ => rfl) rfl⟩
  | unused | stopped =>
    unfold Channel.close
    rw [show channel.status = .ended from status]
    exact ⟨_, stands, .keep ⟨rfl, rfl, rfl⟩ (fun _ => rfl) rfl⟩

/-! ### Pumps -/

theorem Stands.eq_bound (stands : channel.Stands stage) (alive : channel.pump.isAlive = true) :
    stage = .bound := by
  have pump := stands.pump
  cases stage with
  | bound => rfl
  | _ =>
    rw [show channel.pump = _ from pump] at alive
    cases alive

theorem Stands.pump_step (stands : channel.Stands stage) {step : PumpStep}
    (taken : channel.live codec (.channel (.pump step)) = some (after, outcome)) :
    ∃ next, after.Stands next ∧
      Beat.Turns ⟨.channel (.pump step), channel, after, outcome⟩ stage next := by
  obtain ⟨⟨last, output⟩, stepped, same⟩ := Option.map_eq_some_iff.1 taken
  cases same
  obtain ⟨alive, stops | goes, -⟩ := step_cases stepped
  · cases stands.eq_bound alive
    refine ⟨.stopped, ⟨stops.status, ?_, ?_, stops.released, stops.pump⟩,
      .stop rfl rfl stops.disconnected ?_⟩
    · rw [stops.outbox]
      rfl
    · intro _
      rw [stops.outbox]
      rfl
    · intro visit called
      obtain ⟨outbox, unreleased, rest⟩ := stops.found visit called
      refine ⟨?_, ?_, unreleased.trans stands.released, rest⟩
      · rw [outbox]
        rfl
      · rw [outbox]
        rfl
  · cases stands.eq_bound alive
    refine ⟨.bound, ⟨goes.status.trans stands.status, goes.outbox.trans stands.outbox, ?_,
      goes.released.trans stands.released, goes.pump⟩, .keep ⟨rfl, rfl, goes.disconnected⟩ ?_
      goes.onDisconnected⟩
    · intro final
      cases final
    · intro fresh
      cases fresh

theorem Stands.turns (stands : channel.Stands stage) {event : LifeEvent κ}
    (taken : channel.live codec event = some (after, outcome)) :
    ∃ next, after.Stands next ∧ Beat.Turns ⟨event, channel, after, outcome⟩ stage next := by
  match event with
  | .onConnected callback =>
    cases taken
    exact ⟨stage, stands.of_same rfl rfl rfl rfl, .keep ⟨rfl, rfl, rfl⟩ (fun _ => rfl) rfl⟩
  | .onDisconnected callback =>
    cases taken
    exact ⟨stage, stands.of_same rfl rfl rfl rfl, .keep ⟨rfl, rfl, rfl⟩ (fun _ => rfl) rfl⟩
  | .channel .bind => exact stands.bind taken
  | .channel (.write msg) => exact ⟨stage, stands.write taken⟩
  | .channel .close => exact stands.close taken
  | .channel (.pump step) => exact stands.pump_step taken

/-- A call from within the callback has the effect that it has after the release. -/
theorem live_release (codec : Codec) (ended : channel.status = .ended) (shut : channel.outbox.status = .shut)
    {event : LifeEvent κ} (call : ∀ step, event ≠ .channel (.pump step)) :
    channel.release.live codec event =
      (channel.live codec event).map fun (after, outcome) => (after.release, outcome) := by
  match event with
  | .onConnected callback => rfl
  | .onDisconnected callback => rfl
  | .channel .bind => simp [live, Channel.bind, release, ended]
  | .channel (.write msg) => simp [live, Channel.write, Outbox.write, release, shut, Except.map]
  | .channel .close => simp [live, Channel.close, release, ended]
  | .channel (.pump step) => exact absurd rfl (call step)

/-! ## Answers -/

theorem live_bind_of_live (opened : channel.isOpen = true)
    (taken : channel.live codec (.channel .bind) = some (after, outcome)) :
    outcome.result = .error .alreadyBound ∧ after = channel := by
  have status : channel.status = .live := of_decide_eq_true opened
  simp only [live, Channel.bind, status] at taken
  cases taken
  exact ⟨rfl, rfl⟩

theorem Stands.closed (stands : channel.Stands stage) (final : stage.final = true) {event : LifeEvent κ}
    (taken : channel.live codec event = some (after, outcome))
    (uses : event = .channel .bind ∨ ∃ msg, event = .channel (.write msg)) :
    outcome.result = .error .closed := by
  have ended : channel.status = .ended ∧ channel.outbox.status = .shut := by
    rw [stands.status, stands.outbox]
    cases stage <;> first | exact ⟨rfl, rfl⟩ | cases final
  obtain rfl | ⟨msg, rfl⟩ := uses
  · simp only [live, Channel.bind, ended.1] at taken
    cases taken
    rfl
  · simp only [live, Channel.write, Outbox.write, ended.2, Except.map] at taken
    cases taken
    rfl

end Channel

/-! ## Whole lives -/

variable {η κ : Type} {codec : Codec} {channel start : Channel η κ} {past : List (Beat η κ)}

/-- The callback registered last. -/
def lastOf (pick : LifeEvent κ → Option κ) (past : List (Beat η κ)) : Option κ :=
  (past.filterMap fun beat => pick beat.event).getLast?

theorem lastOf_concat (pick : LifeEvent κ → Option κ) (past : List (Beat η κ)) (beat : Beat η κ) :
    lastOf pick (past ++ [beat]) = (pick beat.event).or (lastOf pick past) := by
  unfold lastOf
  cases picked : pick beat.event with
  | none => simp [picked]
  | some callback => simp [picked]

/-- A channel at a stage, with what has happened to it. -/
structure Lived (past : List (Beat η κ)) (channel : Channel η κ) (stage : Stage) : Prop where
  stands : channel.Stands stage
  binds : past.countP Beat.binds = stage.binds
  connected : ∀ beat ∈ past, beat.outcome.connected.isSome = true → beat.binds = true
  stops : past.countP (·.outcome.disconnected.isSome) ≤ stage.stops
  onConnected : stage = .fresh → channel.onConnected = lastOf LifeEvent.onConnected? past
  onDisconnected : stage.final = false → channel.onDisconnected = lastOf LifeEvent.onDisconnected? past

namespace Lived

variable {stage next : Stage} {beat : Beat η κ}

theorem fresh (reader : FrameReader η) : Lived [] ({ reader := reader } : Channel η κ) .fresh := by
  constructor
  · exact Channel.stands_fresh reader
  · rfl
  · simp
  · exact Nat.le_refl 0
  · exact fun _ => rfl
  · exact fun _ => rfl

theorem turns (lived : Lived past beat.before stage) (stands : beat.after.Stands next)
    (turns : beat.Turns stage next) : Lived (past ++ [beat]) beat.after next := by
  have connected (only : beat.outcome.connected.isSome = true → beat.binds = true) :
      ∀ any ∈ past ++ [beat], any.outcome.connected.isSome = true → any.binds = true := by
    intro any mem
    obtain old | new := List.mem_append.1 mem
    · exact lived.connected any old
    · cases List.mem_singleton.1 new
      exact only
  have binds := lived.binds
  have stops := lived.stops
  -- The counts grow with the stage. A callback that is registered is the last one from then on.
  cases turns with
  | keep quiet onConnected onDisconnected =>
    refine ⟨stands, ?_, connected ?_, ?_, ?_, ?_⟩
    · simp [List.countP_append, binds, quiet.binds]
    · simp [quiet.connected]
    · simpa [List.countP_append, quiet.disconnected] using stops
    · intro first
      rw [onConnected first, lived.onConnected first, lastOf_concat]
    · intro unended
      rw [onDisconnected, lived.onDisconnected unended, lastOf_concat]
  | bind succeeds event first none_yet kept =>
    refine ⟨stands, ?_, connected fun _ => succeeds, ?_, ?_, ?_⟩
    · simp [List.countP_append, binds, succeeds, Stage.binds]
    · simpa [List.countP_append, none_yet, Stage.stops] using stops
    · intro fresh
      cases fresh
    · intro unended
      rw [kept, lived.onDisconnected rfl, lastOf_concat, event]
      rfl
  | abandon quiet closes =>
    refine ⟨stands, ?_, connected ?_, ?_, ?_, ?_⟩
    · simpa [List.countP_append, quiet.binds, Stage.binds] using binds
    · simp [quiet.connected]
    · simpa [List.countP_append, quiet.disconnected, Stage.stops] using stops
    · intro fresh
      cases fresh
    · intro unended
      cases unended
  | stop unbinding unconnected last found =>
    refine ⟨stands, ?_, connected ?_, ?_, ?_, ?_⟩
    · simpa [List.countP_append, unbinding, Stage.binds] using binds
    · simp [unconnected]
    · simp only [Stage.stops, Nat.le_zero] at stops
      simp only [List.countP_append, stops, Stage.stops, Nat.zero_add]
      exact List.countP_le_length
    · intro fresh
      cases fresh
    · intro unended
      cases unended

theorem exists_binds (lived : Lived past channel stage) (bound : stage.binds = 1) :
    ∃ beat ∈ past, beat.binds = true := by
  have count := lived.binds
  rw [bound] at count
  exact List.countP_pos_iff.1 (by omega)

theorem binds_eq_zero (lived : Lived past channel stage) (unbound : ∀ beat ∈ past, beat.binds = false) :
    stage.binds = 0 := by
  rw [← lived.binds, List.countP_eq_zero]
  intro beat mem
  rw [unbound beat mem]
  exact Bool.false_ne_true

end Lived

namespace Life

variable {reader : FrameReader η} {earlier later : List (Beat η κ)} {beat : Beat η κ}

theorem lived (life : Life codec { reader := reader } past channel) :
    ∃ stage, Lived past channel stage := by
  induction life with
  | start => exact ⟨.fresh, .fresh reader⟩
  | step life taken ih =>
    obtain ⟨stage, lived⟩ := ih
    obtain ⟨next, stands, turns⟩ := lived.stands.turns taken
    exact ⟨next, lived.turns stands turns⟩

theorem of_append_cons (life : Life codec start past channel) (split : past = earlier ++ beat :: later) :
    Life codec start earlier beat.before ∧
      beat.before.live codec beat.event = some (beat.after, beat.outcome) := by
  induction life generalizing later with
  | start => simp at split
  | step life taken ih =>
    obtain rfl | ⟨between, last, rfl⟩ := List.eq_nil_or_concat later
    · obtain ⟨rfl, same⟩ := List.append_inj' split rfl
      cases same
      exact ⟨life, taken⟩
    · rw [List.concat_eq_append, ← List.cons_append, ← List.append_assoc] at split
      exact ih (List.append_inj' split rfl).1

/-- A stage that is final is never left. -/
theorem stands_of_final {stage : Stage} (life : Life codec start past channel) (mem : beat ∈ past)
    (stands : beat.after.Stands stage) (final : stage.final = true) : channel.Stands stage := by
  induction life with
  | start => cases mem
  | step life taken ih =>
    obtain old | new := List.mem_append.1 mem
    · obtain ⟨next, after, turns⟩ := (ih old).turns taken
      rwa [turns.eq_of_final final] at after
    · cases List.mem_singleton.1 new
      exact stands

theorem stop_of_stopped (life : Life codec { reader := reader } past channel)
    (stands : channel.Stands .stopped) :
    ∃ earlier stop later, past = earlier ++ stop :: later ∧
      stop.outcome.disconnected.map Visit.callback = lastOf LifeEvent.onDisconnected? earlier ∧
      stop.before.released = false := by
  induction life with
  | start => cases stands.status
  | step life taken ih =>
    rename_i past channel after event outcome
    obtain ⟨stage, lived⟩ := life.lived
    obtain ⟨next, standing, turns⟩ := lived.stands.turns taken
    cases standing.unique stands
    cases turns with
    | keep =>
      obtain ⟨earlier, stop, later, rfl, called, unreleased⟩ := ih lived.stands
      exact ⟨earlier, stop, later ++ [⟨event, channel, after, outcome⟩], by simp, called, unreleased⟩
    | stop unbinding unconnected last found =>
      refine ⟨past, ⟨event, channel, after, outcome⟩, [], rfl, ?_, lived.stands.released⟩
      rw [last]
      exact lived.onDisconnected rfl

theorem stop_of_released (life : Life codec { reader := reader } past channel)
    (released : channel.released = true) (bound : ∃ bind ∈ past, bind.binds = true) :
    ∃ earlier stop later, past = earlier ++ stop :: later ∧
      stop.outcome.disconnected.map Visit.callback = lastOf LifeEvent.onDisconnected? earlier ∧
      stop.before.released = false := by
  obtain ⟨stage, lived⟩ := life.lived
  have some_bind : 0 < stage.binds := by
    rw [← lived.binds]
    exact List.countP_pos_iff.2 bound
  have final : stage.final = true := lived.stands.released.symm.trans released
  cases stage with
  | stopped => exact life.stop_of_stopped lived.stands
  | unused => cases some_bind
  | fresh | bound => cases final

theorem turns_at (life : Life codec { reader := reader } past channel)
    (split : past = earlier ++ beat :: later) :
    ∃ stage next, Lived earlier beat.before stage ∧ beat.after.Stands next ∧ beat.Turns stage next := by
  obtain ⟨reached, taken⟩ := life.of_append_cons split
  obtain ⟨stage, lived⟩ := reached.lived
  obtain ⟨next, stands, turns⟩ := lived.stands.turns taken
  exact ⟨stage, next, lived, stands, turns⟩

theorem callback_of_binds (life : Life codec { reader := reader } past channel)
    (split : past = earlier ++ beat :: later) (succeeds : beat.binds = true) :
    beat.outcome.connected.map Visit.callback = lastOf LifeEvent.onConnected? earlier := by
  obtain ⟨stage, next, lived, -, turns⟩ := life.turns_at split
  obtain ⟨fresh, called⟩ := turns.of_binds succeeds
  rw [called, lived.onConnected fresh]

theorem bound_of_disconnected (life : Life codec { reader := reader } past channel)
    (split : past = earlier ++ beat :: later) {visit : Visit η κ}
    (called : beat.outcome.disconnected = some visit) :
    (∃ bind ∈ earlier, bind.binds = true) ∧ visit.found.outbox.status = .shut ∧
      visit.found.outbox.queue = [] ∧ visit.found.released = false ∧
      beat.after = visit.found.release := by
  obtain ⟨stage, next, lived, -, turns⟩ := life.turns_at split
  obtain ⟨rfl, found⟩ := turns.of_disconnected called
  exact ⟨lived.exists_binds rfl, found⟩

theorem ended_since (life : Life codec { reader := reader } past channel)
    (split : past = earlier ++ beat :: later) (ended : beat.after.status = .ended) :
    channel.status = .ended ∧
      ∀ next ∈ later, next.after.status = .ended ∧ (next.Uses → next.outcome.result = .error .closed) := by
  obtain ⟨-, stage, -, stands, -⟩ := life.turns_at split
  have final : stage.final = true := stands.final_iff.1 ended
  refine ⟨(life.stands_of_final (by simp [split]) stands final).final_iff.2 final, ?_⟩
  intro next mem
  obtain ⟨between, rest, rfl⟩ := List.append_of_mem mem
  rw [← List.cons_append, ← List.append_assoc] at split
  obtain ⟨reached, taken⟩ := life.of_append_cons split
  have still : next.before.Stands stage := reached.stands_of_final (by simp) stands final
  obtain ⟨last, after, turns⟩ := still.turns taken
  rw [turns.eq_of_final final] at after
  exact ⟨after.final_iff.2 final, still.closed final taken⟩

theorem unused_of_close (life : Life codec { reader := reader } past channel)
    (split : past = earlier ++ beat :: later) (closes : beat.event = .channel .close)
    (unbound : ∀ bind ∈ earlier, bind.binds = false) :
    ∀ any ∈ past, any.outcome.connected = none ∧ any.outcome.disconnected = none := by
  obtain ⟨reached, taken⟩ := life.of_append_cons split
  obtain ⟨before, been⟩ := reached.lived
  have closed : beat.before.close = beat.after := by
    rw [closes] at taken
    exact congrArg Prod.fst (Option.some.inj taken)
  have unused := been.stands.close_unbound (been.binds_eq_zero unbound)
  rw [closed] at unused
  have stands : channel.Stands .unused := life.stands_of_final (by simp [split]) unused rfl
  obtain ⟨stage, lived⟩ := life.lived
  cases lived.stands.unique stands
  intro any mem
  have unbinding := List.countP_eq_zero.1 lived.binds any mem
  have unstopped := List.countP_eq_zero.1 (Nat.le_zero.1 lived.stops) any mem
  refine ⟨?_, Option.not_isSome_iff_eq_none.1 unstopped⟩
  rw [← Option.not_isSome_iff_eq_none]
  intro connected
  exact unbinding (lived.connected any mem connected)

end Life

/-- What the life of a channel can look like. -/
structure Lifecycle (past : List (Beat η κ)) (channel : Channel η κ) : Prop where
  binds : past.countP Beat.binds ≤ 1
  connected : past.countP (·.outcome.connected.isSome) ≤ 1
  disconnected : past.countP (·.outcome.disconnected.isSome) ≤ 1
  /-- The bind that succeeds calls the callback registered last, and nothing else does. -/
  connects : ∀ earlier beat later, past = earlier ++ beat :: later →
    (beat.outcome.connected.isSome = true → beat.binds = true) ∧
    (beat.binds = true →
      beat.outcome.connected.map Visit.callback = lastOf LifeEvent.onConnected? earlier)
  /-- The other callback is called after a bind. It finds the outbox shut and empty, and those who await the
  end are released only after it. -/
  disconnects : ∀ earlier beat later visit, past = earlier ++ beat :: later →
    beat.outcome.disconnected = some visit →
    (∃ bind ∈ earlier, bind.binds = true) ∧ visit.found.outbox.status = .shut ∧
      visit.found.outbox.queue = [] ∧ visit.found.released = false ∧ beat.after = visit.found.release
  /-- Who awaits the end of a channel that was bound is released after the callback registered last. -/
  released : channel.released = true → (∃ bind ∈ past, bind.binds = true) →
    ∃ earlier stop later, past = earlier ++ stop :: later ∧
      stop.outcome.disconnected.map Visit.callback = lastOf LifeEvent.onDisconnected? earlier ∧
      stop.before.released = false
  already_bound : ∀ beat ∈ past, beat.before.isOpen = true → beat.event = .channel .bind →
    beat.outcome.result = .error .alreadyBound ∧ beat.after = beat.before
  /-- What has ended stays so. -/
  ended : ∀ earlier beat later, past = earlier ++ beat :: later → beat.after.status = .ended →
    channel.status = .ended ∧
    ∀ next ∈ later, next.after.status = .ended ∧ (next.Uses → next.outcome.result = .error .closed)
  /-- A channel that is closed before it is bound calls neither callback. -/
  unused : ∀ earlier beat later, past = earlier ++ beat :: later → beat.event = .channel .close →
    (∀ bind ∈ earlier, bind.binds = false) →
    ∀ any ∈ past, any.outcome.connected = none ∧ any.outcome.disconnected = none

theorem channel_lifecycle {reader : FrameReader η} (life : Life codec { reader := reader } past channel) :
    Lifecycle past channel := by
  obtain ⟨stage, lived⟩ := life.lived
  have binds : past.countP Beat.binds ≤ 1 := by
    rw [lived.binds]
    exact stage.binds_le
  constructor
  case binds => exact binds
  case connected => exact Nat.le_trans (List.countP_mono_left lived.connected) binds
  case disconnected => exact Nat.le_trans lived.stops (Nat.le_trans stage.stops_le stage.binds_le)
  case connects =>
    intro earlier beat later split
    exact ⟨lived.connected beat (by simp [split]), life.callback_of_binds split⟩
  case disconnects =>
    intro earlier beat later visit split called
    exact life.bound_of_disconnected split called
  case released => exact life.stop_of_released
  case already_bound =>
    intro beat mem opened binding
    obtain ⟨earlier, later, split⟩ := List.append_of_mem mem
    obtain ⟨-, taken⟩ := life.of_append_cons split
    rw [binding] at taken
    exact Channel.live_bind_of_live opened taken
  case ended =>
    intro earlier beat later split ended
    exact life.ended_since split ended
  case unused =>
    intro earlier beat later split closes unbound
    exact life.unused_of_close split closes unbound

/-- The channel is bound twice, closed, and used again after its end. -/
theorem channel_lifecycle_of_bound : ∃ past channel,
    Life .binary ({ reader := {} } : Channel Unit Nat) past channel ∧
      past.map (·.outcome.result) =
        [.ok (), .ok (), .ok (), .ok (), .error .alreadyBound, .ok (), .ok (), .error .closed] ∧
      (past.filterMap (·.outcome.connected)).map Visit.callback = [1] ∧
      (past.filterMap (·.outcome.disconnected)).map Visit.callback = [3] ∧
      channel.released = true ∧ Lifecycle past channel := by
  have registered := ((Life.start.step rfl).step rfl : Life .binary ({ reader := {} } : Channel Unit Nat)
    [⟨.onConnected 1, _, _, _⟩, ⟨.onDisconnected 2, _, _, _⟩] _)
  have bound := (((registered.step rfl).step rfl).step rfl : Life .binary _
    (_ ++ [⟨.channel .bind, _, _, _⟩] ++ [⟨.onDisconnected 3, _, _, _⟩] ++ [⟨.channel .bind, _, _, _⟩]) _)
  have life := (((bound.step rfl).step rfl).step rfl : Life .binary _
    (_ ++ [⟨.channel .close, _, _, _⟩] ++ [⟨.channel (.pump .shutDown), _, _, _⟩] ++
      [⟨.channel (.write ⟨"0200", .empty⟩), _, _, _⟩]) _)
  exact ⟨_, _, life, rfl, rfl, rfl, rfl, channel_lifecycle life⟩

end Iso8583

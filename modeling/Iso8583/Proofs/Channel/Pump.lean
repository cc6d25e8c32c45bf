import Iso8583.Channel
import Iso8583.Proofs.Framing.Payloads

/-!
# What a pump can do

A step of a pump either stops the channel for good or leaves it as open as it was.
-/

namespace Iso8583

def Pump.isAlive : Pump → Bool
  | .absent => false
  | .stopped => false
  | _ => true

namespace Channel

variable {η κ : Type}

/-! ## One step -/

/-- Why a pump stops in a step, and the channel that it stops: a request to shut down is taken first. -/
inductive Ends (channel : Channel η κ) : PumpStep → Channel η κ → Prop where
  | shutDown (waiting : channel.pump = .waiting) (asked : channel.shutdown = true) :
      Ends channel .shutDown { channel with shutdown := false }
  | fatal {error : FrameError} (pump : channel.pump = .dispatching (some error)) :
      Ends channel .dispatched channel
  | endOfStream (waiting : channel.pump = .waiting) : Ends channel .endOfStream channel
  | readFailed (waiting : channel.pump = .waiting) : Ends channel .readFailed channel
  | writeFailed {rest : Bytes} (pump : channel.pump = .writing rest) : Ends channel .writeFailed channel
  | flushFailed (pump : channel.pump = .flushing) : Ends channel .writeFailed channel

/-- A step of a pump, taken apart. -/
inductive Takes (decode : Bytes → Except CodecError Message) (channel : Channel η κ) :
    PumpStep → Channel η κ → PumpOutput η κ → Prop where
  | wake (waiting : channel.pump = .waiting) (due : channel.outbox.wakeUp = true) :
      Takes decode channel .wake
        { channel with outbox := { channel.outbox with wakeUp := false } }.nextFrame {}
  | received {chunk : Bytes} (waiting : channel.pump = .waiting) (nonempty : chunk ≠ []) :
      Takes decode channel (.received chunk) (channel.receive decode chunk).1
        { calls := (channel.receive decode chunk).2 }
  | dispatched (pump : channel.pump = .dispatching none) :
      Takes decode channel .dispatched { channel with pump := .waiting } {}
  | wroteAll {rest : Bytes} (pump : channel.pump = .writing rest) (nonempty : 0 < rest.length) :
      Takes decode channel (.wrote rest.length) channel.nextFrame { written := rest }
  | wrotePart {rest : Bytes} {count : Nat} (pump : channel.pump = .writing rest) (nonempty : 0 < count)
      (part : count < rest.length) :
      Takes decode channel (.wrote count) { channel with pump := .writing (rest.drop count) }
        { written := rest.take count }
  | flushed (pump : channel.pump = .flushing) :
      Takes decode channel .flushed { channel with pump := .waiting } {}
  | stop {step : PumpStep} {last : Channel η κ} (ends : channel.Ends step last) :
      Takes decode channel step last.stop.1 last.stop.2

variable {decode : Bytes → Except CodecError Message} {channel after : Channel η κ} {step : PumpStep}
  {output : PumpOutput η κ}

theorem takes_of_step (taken : channel.step decode step = some (after, output)) :
    channel.Takes decode step after output := by
  cases step with
  | shutDown =>
    simp only [Channel.step, Option.ite_none_right_eq_some, Option.some.injEq] at taken
    obtain ⟨⟨waiting, asked⟩, same⟩ := taken
    cases same
    exact .stop (.shutDown waiting asked)
  | wake =>
    simp only [Channel.step, Option.ite_none_right_eq_some, Option.some.injEq] at taken
    obtain ⟨⟨waiting, due⟩, same⟩ := taken
    cases same
    exact .wake waiting due
  | received chunk =>
    simp only [Channel.step, Option.ite_none_right_eq_some, Option.some.injEq] at taken
    obtain ⟨⟨waiting, nonempty⟩, same⟩ := taken
    cases same
    exact .received waiting nonempty
  | dispatched =>
    simp only [Channel.step] at taken
    split at taken
    · cases taken
      exact .dispatched ‹_›
    · cases taken
      exact .stop (.fatal ‹_›)
    · cases taken
  | endOfStream =>
    simp only [Channel.step, Option.ite_none_right_eq_some, Option.some.injEq] at taken
    obtain ⟨waiting, same⟩ := taken
    cases same
    exact .stop (.endOfStream waiting)
  | readFailed =>
    simp only [Channel.step, Option.ite_none_right_eq_some, Option.some.injEq] at taken
    obtain ⟨waiting, same⟩ := taken
    cases same
    exact .stop (.readFailed waiting)
  | wrote count =>
    simp only [Channel.step] at taken
    split at taken
    · rename_i rest pump
      simp only [Option.ite_none_right_eq_some, Option.some.injEq] at taken
      obtain ⟨⟨nonempty, within⟩, same⟩ := taken
      cases same
      split
      · rename_i all
        subst all
        rw [List.take_length]
        exact .wroteAll pump nonempty
      · exact .wrotePart pump nonempty (by omega)
    · cases taken
  | writeFailed =>
    simp only [Channel.step] at taken
    split at taken
    · cases taken
      exact .stop (.writeFailed ‹_›)
    · cases taken
      exact .stop (.flushFailed ‹_›)
    · cases taken
  | flushed =>
    simp only [Channel.step, Option.ite_none_right_eq_some, Option.some.injEq] at taken
    obtain ⟨flushing, same⟩ := taken
    cases same
    exact .flushed flushing

/-! ## Stopping and going on -/

structure Stops (channel after : Channel η κ) (output : PumpOutput η κ) : Prop where
  status : after.status = .ended
  outbox : after.outbox = channel.outbox.shut
  onDisconnected : after.onDisconnected = none
  released : after.released = true
  pump : after.pump = .stopped
  calls : output.calls = []
  written : output.written = []
  hungUp : output.hungUp = true
  disconnected : output.disconnected.map Visit.callback = channel.onDisconnected
  /-- The callback finds the channel before those who await its end are released. -/
  found : ∀ visit, output.disconnected = some visit → visit.found.outbox = channel.outbox.shut ∧
    visit.found.released = channel.released ∧ after = visit.found.release

theorem Stops.isSome_disconnected {output : PumpOutput η κ} (stops : channel.Stops after output) :
    output.disconnected.isSome = channel.onDisconnected.isSome := by
  rw [← stops.disconnected, Option.isSome_map]

structure GoesOn (channel after : Channel η κ) (output : PumpOutput η κ) : Prop where
  status : after.status = channel.status
  outbox : after.outbox.status = channel.outbox.status
  onDisconnected : after.onDisconnected = channel.onDisconnected
  released : after.released = channel.released
  shutdown : after.shutdown = channel.shutdown
  pump : after.pump.isAlive = true
  disconnected : output.disconnected = none
  hungUp : output.hungUp = false

theorem Ends.alive {last : Channel η κ} (ends : channel.Ends step last) : channel.pump.isAlive = true := by
  cases ends with
  | shutDown waiting asked => rw [waiting]; rfl
  | fatal pump => rw [pump]; rfl
  | endOfStream waiting => rw [waiting]; rfl
  | readFailed waiting => rw [waiting]; rfl
  | writeFailed pump => rw [pump]; rfl
  | flushFailed pump => rw [pump]; rfl

theorem Ends.eq {last : Channel η κ} (ends : channel.Ends step last) :
    last = { channel with shutdown := last.shutdown } := by
  cases ends <;> rfl

theorem Ends.stops {last : Channel η κ} (ends : channel.Ends step last) :
    channel.Stops last.stop.1 last.stop.2 := by
  rw [ends.eq]
  refine ⟨rfl, rfl, rfl, rfl, rfl, rfl, rfl, rfl, ?_, ?_⟩
  · cases channel.onDisconnected <;> rfl
  · intro visit called
    obtain ⟨callback, -, rfl⟩ := Option.map_eq_some_iff.1 called
    exact ⟨rfl, rfl, rfl⟩

theorem goesOn_nextFrame (channel : Channel η κ) (written : Bytes) :
    channel.GoesOn channel.nextFrame { written := written } := by
  unfold nextFrame Outbox.pop?
  cases channel.outbox.queue with
  | nil => exact ⟨rfl, rfl, rfl, rfl, rfl, rfl, rfl, rfl⟩
  | cons frame queue => exact ⟨rfl, rfl, rfl, rfl, rfl, rfl, rfl, rfl⟩

/-- A pump that takes a step runs. It stops the channel or leaves it as it was, and only bytes that are
read lead to calls of the reader. -/
theorem step_cases (taken : channel.step decode step = some (after, output)) :
    channel.pump.isAlive = true ∧ (channel.Stops after output ∨ channel.GoesOn after output) ∧
      (output.calls = [] ∨
        ∃ chunk, step = .received chunk ∧ output.calls = (channel.reader.ingest decode chunk).2.1) := by
  cases takes_of_step taken with
  | wake waiting =>
    have next := goesOn_nextFrame { channel with outbox := { channel.outbox with wakeUp := false } } []
    exact ⟨by rw [waiting]; rfl, .inr ⟨next.1, next.2, next.3, next.4, next.5, next.6, rfl, rfl⟩, .inl rfl⟩
  | @received chunk waiting =>
    exact ⟨by rw [waiting]; rfl, .inr ⟨rfl, rfl, rfl, rfl, rfl, rfl, rfl, rfl⟩, .inr ⟨chunk, rfl, rfl⟩⟩
  | dispatched pump => exact ⟨by rw [pump]; rfl, .inr ⟨rfl, rfl, rfl, rfl, rfl, rfl, rfl, rfl⟩, .inl rfl⟩
  | wroteAll pump => exact ⟨by rw [pump]; rfl, .inr (channel.goesOn_nextFrame _), .inl rfl⟩
  | wrotePart pump => exact ⟨by rw [pump]; rfl, .inr ⟨rfl, rfl, rfl, rfl, rfl, rfl, rfl, rfl⟩, .inl rfl⟩
  | flushed pump => exact ⟨by rw [pump]; rfl, .inr ⟨rfl, rfl, rfl, rfl, rfl, rfl, rfl, rfl⟩, .inl rfl⟩
  | stop ends => exact ⟨ends.alive, .inl ends.stops, .inl rfl⟩

theorem pump_close (channel : Channel η κ) : channel.close.pump = channel.pump := by
  unfold Channel.close
  split <;> rfl

/-! ## Running and over -/

/-- The channel is bound, and its pump runs. -/
structure Running (channel : Channel η κ) : Prop where
  status : channel.status = .live
  outbox : channel.outbox.status = .bound
  onDisconnected : channel.onDisconnected.isSome = true
  released : channel.released = false
  pump : channel.pump.isAlive = true

/-- The pump of the channel has stopped. -/
structure Over (channel : Channel η κ) : Prop where
  status : channel.status = .ended
  released : channel.released = true
  pump : channel.pump = .stopped

theorem Running.goesOn (running : channel.Running) (goes : channel.GoesOn after output) :
    after.Running := by
  refine ⟨goes.status.trans running.status, goes.outbox.trans running.outbox, ?_,
    goes.released.trans running.released, goes.pump⟩
  rw [goes.onDisconnected]
  exact running.onDisconnected

theorem Stops.over (stops : channel.Stops after output) : after.Over :=
  ⟨stops.status, stops.released, stops.pump⟩

theorem Over.not_running (ended : channel.Over) : ¬ channel.Running := by
  intro running
  cases ended.status.symm.trans running.status

theorem Over.step_eq_none (ended : channel.Over) : channel.step decode step = none := by
  cases taken : channel.step decode step with
  | none => rfl
  | some result =>
    have alive := (step_cases taken).1
    rw [ended.pump] at alive
    cases alive

theorem Running.close (running : channel.Running) : channel.close.Running := by
  unfold Channel.close
  rw [running.status]
  exact ⟨rfl, running.outbox, running.onDisconnected, running.released, running.pump⟩

theorem Over.close (ended : channel.Over) : channel.close.Over := by
  unfold Channel.close
  rw [ended.status]
  exact ended

theorem Running.write_eq (running : channel.Running) (codec : Codec) (msg : Message) :
    channel.write codec msg =
      (Outbox.frameOf codec msg).map fun bytes => { channel with outbox := channel.outbox.push bytes } := by
  unfold Channel.write Outbox.write
  rw [running.outbox]
  cases Outbox.frameOf codec msg <;> rfl

theorem Running.write (running : channel.Running) {codec : Codec} {msg : Message}
    (written : channel.write codec msg = .ok after) : after.Running := by
  rw [running.write_eq] at written
  cases framed : Outbox.frameOf codec msg with
  | error error =>
    rw [framed] at written
    cases written
  | ok bytes =>
    rw [framed] at written
    cases written
    exact ⟨running.status, running.outbox, running.onDisconnected, running.released, running.pump⟩

theorem Over.write (ended : channel.Over) {codec : Codec} {msg : Message}
    (written : channel.write codec msg = .ok after) : after.Over := by
  unfold Channel.write at written
  cases queued : channel.outbox.write codec msg with
  | error error =>
    rw [queued] at written
    cases written
  | ok outbox =>
    rw [queued] at written
    cases written
    exact ⟨ended.status, ended.released, ended.pump⟩

theorem Running.write_error (running : channel.Running) {codec : Codec} {msg : Message}
    {error : ChannelError} (refused : channel.write codec msg = .error error) :
    Outbox.frameOf codec msg = .error error := by
  rw [running.write_eq] at refused
  cases framed : Outbox.frameOf codec msg with
  | error other =>
    rw [framed] at refused
    cases refused
    rfl
  | ok bytes =>
    rw [framed] at refused
    cases refused

theorem frameOf_error {codec : Codec} {msg : Message} {error : ChannelError}
    (refused : Outbox.frameOf codec msg = .error error) :
    (∃ cause, error = .codec cause) ∨ ∃ cause, error = .wire cause := by
  unfold Outbox.frameOf at refused
  split at refused
  · cases refused
    exact .inl ⟨_, rfl⟩
  · rename_i payload written
    cases framed : frame payload with
    | error cause =>
      rw [framed] at refused
      cases refused
      exact .inr ⟨cause, rfl⟩
    | ok bytes =>
      rw [framed] at refused
      cases refused

end Channel

end Iso8583

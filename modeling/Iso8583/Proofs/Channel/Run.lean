import Iso8583.Codec.Binary
import Iso8583.Proofs.Channel.Written
import Iso8583.Proofs.Framing.Splits

/-!
# What crosses a channel

A channel is bound, closed and written to by anyone who holds it, while its pump takes steps. Whatever
the order of all this, frames leave in the order in which they were accepted, each once, and none is left
behind while the pump waits. The reader makes the calls for the bytes read so far.
-/

namespace Iso8583

inductive ChannelEvent where
  | bind
  | write (msg : Message)
  | close
  | pump (step : PumpStep)

structure Crossing (η : Type) where
  /-- The bytes that were read. -/
  received : Bytes := []
  calls : List (ReaderCall η) := []
  /-- The frames of the messages whose write was accepted. -/
  accepted : List Bytes := []
  /-- The bytes that were written. -/
  written : Bytes := []

namespace Crossing

variable {η : Type}

instance : Append (Crossing η) where
  append first next :=
    ⟨first.received ++ next.received, first.calls ++ next.calls, first.accepted ++ next.accepted,
      first.written ++ next.written⟩

@[simp]
theorem received_append (first next : Crossing η) :
    (first ++ next).received = first.received ++ next.received := rfl

@[simp]
theorem calls_append (first next : Crossing η) : (first ++ next).calls = first.calls ++ next.calls := rfl

@[simp]
theorem accepted_append (first next : Crossing η) :
    (first ++ next).accepted = first.accepted ++ next.accepted := rfl

@[simp]
theorem written_append (first next : Crossing η) :
    (first ++ next).written = first.written ++ next.written := rfl

@[ext]
theorem ext {first next : Crossing η} (received : first.received = next.received)
    (calls : first.calls = next.calls) (accepted : first.accepted = next.accepted)
    (written : first.written = next.written) : first = next := by
  cases first
  cases next
  simp_all

@[simp]
theorem append_empty (crossing : Crossing η) : crossing ++ ({} : Crossing η) = crossing := by
  ext1 <;> simp

@[simp]
theorem empty_append (crossing : Crossing η) : ({} : Crossing η) ++ crossing = crossing := by
  ext1 <;> simp

theorem append_assoc (first second third : Crossing η) :
    first ++ second ++ third = first ++ (second ++ third) := by
  ext1 <;> simp

end Crossing

def PumpStep.chunk : PumpStep → Bytes
  | .received chunk => chunk
  | _ => []

namespace Channel

variable {η κ : Type}

/-! ## Runs -/

/-- What an event does to a channel and what crosses it then; nothing if it cannot happen now. A call
that is refused changes nothing. -/
def perform (codec : Codec) (channel : Channel η κ) :
    ChannelEvent → Option (Channel η κ × Crossing η)
  | .bind => match channel.bind with
    | .ok (bound, _) => some (bound, {})
    | .error _ => some (channel, {})
  | .write msg => match channel.write codec msg with
    | .ok after => some (after, { accepted := (Outbox.frameOf codec msg).toOption.toList })
    | .error _ => some (channel, {})
  | .close => some (channel.close, {})
  | .pump step => (channel.step codec.decode step).map fun (after, output) =>
    (after, { received := step.chunk, calls := output.calls, written := output.written })

/-- The events that can lead from `start` to a channel, with what crossed it on the way. -/
inductive Run (codec : Codec) (start : Channel η κ) : Crossing η → Channel η κ → Prop where
  | start : Run codec start {} start
  | step {crossing more : Crossing η} {channel after : Channel η κ} {event : ChannelEvent}
      (run : Run codec start crossing channel) (taken : channel.perform codec event = some (after, more)) :
      Run codec start (crossing ++ more) after

theorem Run.one {codec : Codec} {channel after : Channel η κ} {event : ChannelEvent} {more : Crossing η}
    (taken : channel.perform codec event = some (after, more)) : Run codec channel more after := by
  rw [← Crossing.empty_append more]
  exact .step .start taken

theorem Run.trans {codec : Codec} {start mid last : Channel η κ} {crossing more : Crossing η}
    (first : Run codec start crossing mid) (second : Run codec mid more last) :
    Run codec start (crossing ++ more) last := by
  induction second with
  | start =>
    rw [Crossing.append_empty]
    exact first
  | step run taken ih =>
    rw [← Crossing.append_assoc]
    exact .step ih taken

def performAll (codec : Codec) : Channel η κ → List ChannelEvent → Option (Channel η κ × Crossing η)
  | channel, [] => some (channel, {})
  | channel, event :: events => do
    let (after, more) ← channel.perform codec event
    let (last, rest) ← performAll codec after events
    return (last, more ++ rest)

theorem run_of_performAll {codec : Codec} {events : List ChannelEvent} {channel last : Channel η κ}
    {crossing : Crossing η} (performed : channel.performAll codec events = some (last, crossing)) :
    Run codec channel crossing last := by
  induction events generalizing channel crossing with
  | nil =>
    cases performed
    exact .start
  | cons event events ih =>
    obtain ⟨⟨after, more⟩, taken, performed⟩ := Option.bind_eq_some_iff.1 performed
    obtain ⟨⟨final, rest⟩, later, performed⟩ := Option.bind_eq_some_iff.1 performed
    cases performed
    exact (Run.one taken).trans (ih later)

theorem exists_run_of_performAll {α : Type} (codec : Codec) (start : Channel η κ)
    (events : List ChannelEvent) (seen : Crossing η → Channel η κ → α) (result : α)
    (performed : (start.performAll codec events).map (fun last => seen last.2 last.1) = some result) :
    ∃ crossing channel, Run codec start crossing channel ∧ seen crossing channel = result := by
  obtain ⟨⟨channel, crossing⟩, taken, same⟩ := Option.map_eq_some_iff.1 performed
  exact ⟨crossing, channel, run_of_performAll taken, same⟩

/-! ## Frames that wait -/

/-- Whether the pump will come to the frames that wait: it writes a frame already, or there is a wake-up
for it. -/
def Attends (channel : Channel η κ) : Prop :=
  channel.outbox.queue ≠ [] → channel.outbox.wakeUp = true ∨ ∃ rest, channel.pump = .writing rest

theorem attends_nextFrame (channel : Channel η κ) : channel.nextFrame.Attends := by
  unfold nextFrame Outbox.pop?
  cases queued : channel.outbox.queue with
  | nil => simp [Attends, queued]
  | cons frame queue => simp [Attends]

theorem Attends.wakeUp {channel : Channel η κ} (attends : channel.Attends)
    (idle : ∀ rest, channel.pump ≠ .writing rest) (queued : channel.outbox.queue ≠ []) :
    channel.outbox.wakeUp = true := by
  obtain woken | ⟨rest, writing⟩ := attends queued
  · exact woken
  · exact absurd writing (idle rest)

variable {decode : Bytes → Except CodecError Message} {channel after : Channel η κ} {step : PumpStep}
  {output : PumpOutput η κ}

/-- A pump comes to every frame before it waits again. -/
theorem Attends.stepped (attends : channel.Attends)
    (taken : channel.step decode step = some (after, output)) : after.Attends := by
  -- A pump that does not write can only rely on the wake-up, which it leaves in place.
  have keeps (last : Channel η κ) (idle : ∀ rest, channel.pump ≠ .writing rest)
      (same : last.outbox = channel.outbox) : last.Attends := by
    intro queued
    rw [same] at queued ⊢
    exact .inl (attends.wakeUp idle queued)
  cases takes_of_step taken with
  | wake | wroteAll => exact attends_nextFrame _
  | wrotePart => exact fun _ => .inr ⟨_, rfl⟩
  | received waiting => exact keeps _ (by simp [waiting]) rfl
  | dispatched pump | flushed pump => exact keeps _ (by simp [pump]) rfl
  | stop => simp [Attends, stop, ending, release, Outbox.shut]

theorem length_queue_step (taken : channel.step decode step = some (after, output)) :
    after.outbox.queue.length ≤ channel.outbox.queue.length := by
  obtain ⟨-, stops | goes, -⟩ := step_cases taken
  · simp [stops.outbox, Outbox.shut]
  · by_cases received : ∃ chunk, step = .received chunk
    · obtain ⟨chunk, rfl⟩ := received
      obtain ⟨rfl, -⟩ := Prod.ext_iff.1 (step_received taken).2.1
      exact Nat.le_refl _
    · obtain ⟨-, popped, queue, -⟩ := step_conserves taken goes fun chunk read => received ⟨chunk, read⟩
      simp [queue]

/-! ## The writing half -/

theorem write_eq_ok {codec : Codec} {msg : Message} (queued : channel.write codec msg = .ok after) :
    ∃ frame, channel.outbox.status = .bound ∧ Outbox.frameOf codec msg = .ok frame ∧
      after = { channel with outbox := channel.outbox.push frame } := by
  unfold Channel.write Outbox.write at queued
  cases status : channel.outbox.status with
  | unbound => simp [status, Except.map] at queued
  | shut => simp [status, Except.map] at queued
  | bound =>
    cases framed : Outbox.frameOf codec msg with
    | error error => simp [status, framed, Except.map] at queued
    | ok frame => exact ⟨frame, rfl, rfl, by simpa [status, framed, Except.map] using queued.symm⟩

/-- A channel that has not ended, with the frames accepted and the bytes written so far. -/
structure Conveys (channel : Channel η κ) (crossing : Crossing η) : Prop where
  attends : channel.Attends
  taken : ∃ frames : List Bytes, crossing.accepted = frames ++ channel.outbox.queue ∧
    frames.flatten = crossing.written ++ channel.pump.unwritten

/-- Whether the outbox and the pump of a channel go with its status. -/
def Proper (channel : Channel η κ) : Prop :=
  match channel.status with
  | .idle => channel.outbox.status = .unbound ∧ channel.pump = .absent
  | .live => channel.outbox.status = .bound ∧ channel.pump.isAlive = true
  | .ended => channel.outbox.status = .shut ∧ channel.pump.isAlive = false

structure Carries (channel : Channel η κ) (crossing : Crossing η) : Prop where
  proper : channel.Proper
  conveys : channel.status ≠ .ended → channel.Conveys crossing
  written : crossing.written <+: crossing.accepted.flatten

theorem Conveys.accepted {crossing : Crossing η} (conveys : channel.Conveys crossing) :
    crossing.accepted.flatten =
      crossing.written ++ channel.pump.unwritten ++ channel.outbox.queue.flatten := by
  obtain ⟨frames, accepted, written⟩ := conveys.taken
  rw [accepted, List.flatten_append, written]

theorem Conveys.written {crossing : Crossing η} (conveys : channel.Conveys crossing) :
    crossing.written <+: crossing.accepted.flatten := by
  rw [conveys.accepted, List.append_assoc]
  exact List.prefix_append _ _

namespace Carries

variable {crossing : Crossing η}

theorem of_same (carries : channel.Carries crossing) (status : after.status = channel.status)
    (outbox : after.outbox = channel.outbox) (pump : after.pump = channel.pump) :
    after.Carries crossing := by
  obtain ⟨proper, conveys, written⟩ := carries
  refine ⟨?_, ?_, written⟩
  · unfold Proper at proper ⊢
    rwa [status, outbox, pump]
  · intro unended
    rw [status] at unended
    obtain ⟨attends, taken⟩ := conveys unended
    unfold Attends at attends
    refine ⟨?_, ?_⟩
    · unfold Attends
      rwa [outbox, pump]
    · rwa [outbox, pump]

theorem bind (carries : channel.Carries crossing) {callback : Option κ}
    (bound : channel.bind = .ok (after, callback)) : after.Carries crossing := by
  obtain ⟨proper, conveys, written⟩ := carries
  unfold Channel.bind at bound
  split at bound
  · cases bound
  · cases bound
  · rename_i idle
    simp only [Proper, idle] at proper
    cases bound
    have before := conveys (by simp [idle])
    refine ⟨?_, ?_, written⟩
    · simp [Proper, Outbox.bind, proper.1, Pump.isAlive]
    · intro _
      obtain ⟨attends, taken⟩ := before
      simp only [Attends, proper.2] at attends
      simp only [proper.2] at taken
      refine ⟨?_, ?_⟩
      · simpa [Attends, Outbox.bind, proper.1] using attends
      · simpa [Outbox.bind, proper.1, Pump.unwritten] using taken

theorem write (carries : channel.Carries crossing) {codec : Codec} {msg : Message}
    (queued : channel.write codec msg = .ok after) :
    after.Carries (crossing ++ { accepted := (Outbox.frameOf codec msg).toOption.toList }) := by
  obtain ⟨frame, bound, framed, rfl⟩ := write_eq_ok queued
  have proper := carries.proper
  have live : channel.status = .live := by
    cases status : channel.status <;> simp_all [Proper]
  obtain ⟨attends, frames, accepted, bytes⟩ := carries.conveys (by simp [live])
  simp only [Proper, live] at proper
  rw [framed]
  have now : Conveys { channel with outbox := channel.outbox.push frame }
      (crossing ++ { accepted := [frame] }) := by
    refine ⟨?_, frames, ?_, ?_⟩
    · intro _
      by_cases empty : channel.outbox.queue = []
      · simp [Outbox.push, empty]
      · simpa [Outbox.push, empty] using attends empty
    · simp [Outbox.push, accepted]
    · simpa using bytes
  exact ⟨by simp [Proper, live, Outbox.push, bound, proper.2], fun _ => now, now.written⟩

theorem close (carries : channel.Carries crossing) : channel.close.Carries crossing := by
  unfold Channel.close
  split
  · exact carries.of_same rfl rfl rfl
  · rename_i idle
    have proper := carries.proper
    simp only [Proper, idle] at proper
    refine ⟨?_, by simp, carries.written⟩
    simp [Proper, Outbox.shut, proper.2, Pump.isAlive]
  · exact carries

theorem stepped (carries : channel.Carries crossing) {more : Crossing η}
    (taken : channel.step decode step = some (after, output)) (nothing : more.accepted = [])
    (same : more.written = output.written) : after.Carries (crossing ++ more) := by
  obtain ⟨alive, goal, -⟩ := step_cases taken
  have live : channel.status = .live ∧ channel.outbox.status = .bound := by
    have proper := carries.proper
    cases status : channel.status <;> simp_all [Proper, Pump.isAlive]
  have before := carries.conveys (by simp [live.1])
  obtain stops | goes := goal
  · refine ⟨?_, fun unended => absurd stops.status unended, ?_⟩
    · simp [Proper, stops.status, stops.outbox, stops.pump, Outbox.shut, Pump.isAlive]
    · simp only [Crossing.written_append, Crossing.accepted_append, nothing, same, stops.written,
        List.append_nil]
      exact before.written
  · have now : after.Conveys (crossing ++ more) := by
      refine ⟨before.attends.stepped taken, ?_⟩
      obtain ⟨frames, accepted, written⟩ := before.taken
      by_cases received : ∃ chunk, step = .received chunk
      · obtain ⟨chunk, rfl⟩ := received
        obtain ⟨waiting, result, silent⟩ := step_received taken
        obtain ⟨rfl, -⟩ := Prod.ext_iff.1 result
        have idle : (channel.receive decode chunk).1.pump.unwritten = [] := rfl
        rw [silent] at same
        refine ⟨frames, ?_, ?_⟩
        · rw [Crossing.accepted_append, nothing, List.append_nil]
          exact accepted
        · rw [Crossing.written_append, same, List.append_nil, written, idle, waiting]
          rfl
      · obtain ⟨-, popped, queue, bytes⟩ :=
          step_conserves taken goes fun chunk read => received ⟨chunk, read⟩
        refine ⟨frames ++ popped, by simp [nothing, accepted, queue], ?_⟩
        simp only [List.flatten_append, written, List.append_assoc, bytes, Crossing.written_append, same]
    refine ⟨?_, fun _ => now, now.written⟩
    simp [Proper, goes.status, live.1, goes.outbox, live.2, goes.pump]

end Carries

theorem carries_fresh (reader : FrameReader η) (onConnected onDisconnected : Option κ) :
    Carries { reader := reader, onConnected := onConnected, onDisconnected := onDisconnected } {} :=
  ⟨⟨rfl, rfl⟩, fun _ => ⟨by simp [Attends], [], rfl, rfl⟩, List.nil_prefix⟩

theorem Carries.perform {codec : Codec} {event : ChannelEvent} {crossing more : Crossing η}
    (carries : channel.Carries crossing) (taken : channel.perform codec event = some (after, more)) :
    after.Carries (crossing ++ more) := by
  cases event with
  | bind =>
    simp only [Channel.perform] at taken
    split at taken <;> cases taken
    · rw [Crossing.append_empty]
      exact carries.bind ‹_›
    · rw [Crossing.append_empty]
      exact carries
  | write msg =>
    simp only [Channel.perform] at taken
    split at taken <;> cases taken
    · exact carries.write ‹_›
    · rw [Crossing.append_empty]
      exact carries
  | close =>
    cases taken
    rw [Crossing.append_empty]
    exact carries.close
  | pump step =>
    obtain ⟨⟨last, output⟩, stepped, same⟩ := Option.map_eq_some_iff.1 taken
    cases same
    exact carries.stepped stepped rfl rfl

theorem Run.carries {codec : Codec} {start : Channel η κ} {crossing : Crossing η}
    (run : Run codec start crossing channel) (fresh : start.Carries {}) : channel.Carries crossing := by
  induction run with
  | start => exact fresh
  | step run taken ih => exact ih.perform taken

/-- The bytes written are always a prefix of the frames accepted, in the order of their writes. As long
as the channel is open, the rest of them is still at hand: first the rest of the frame that the pump
writes, then the frames that wait. While the pump waits without a wake-up no frame waits, and every
frame accepted has been written. -/
theorem frames_leave_in_order {codec : Codec} {reader : FrameReader η}
    {onConnected onDisconnected : Option κ} {crossing : Crossing η}
    (run : Run codec { reader := reader, onConnected := onConnected, onDisconnected := onDisconnected }
      crossing channel) :
    crossing.written <+: crossing.accepted.flatten ∧
      (channel.isOpen = true → crossing.accepted.flatten =
        crossing.written ++ channel.pump.unwritten ++ channel.outbox.queue.flatten) ∧
      (channel.isOpen = true → channel.pump = .waiting → channel.outbox.wakeUp = false →
        channel.outbox.queue = [] ∧ crossing.written = crossing.accepted.flatten) := by
  have carries := run.carries (carries_fresh reader onConnected onDisconnected)
  have conveys (opened : channel.isOpen = true) : channel.Conveys crossing := by
    apply carries.conveys
    rw [of_decide_eq_true opened]
    simp
  refine ⟨carries.written, fun opened => (conveys opened).accepted, ?_⟩
  intro opened waiting asleep
  have empty : channel.outbox.queue = [] := by
    refine Decidable.byContradiction fun queued => ?_
    rw [(conveys opened).attends.wakeUp (by simp [waiting]) queued] at asleep
    cases asleep
  refine ⟨empty, ?_⟩
  rw [(conveys opened).accepted, waiting, empty]
  simp [Pump.unwritten]

/-- The second frame is accepted while the first one is being written, and is taken without a wake-up of
its own. -/
theorem frames_leave_in_order_without_wake_up : ∃ crossing channel,
    Run .binary ({ reader := {} } : Channel Unit Unit) crossing channel ∧ channel.isOpen = true ∧
      channel.pump = .waiting ∧ channel.outbox.wakeUp = false ∧ crossing.accepted.length = 2 ∧
      channel.outbox.queue = [] ∧ crossing.written = crossing.accepted.flatten := by
  obtain ⟨crossing, channel, run, seen⟩ := exists_run_of_performAll .binary
    ({ reader := {} } : Channel Unit Unit)
    [.bind, .write ⟨"0200", .empty⟩, .pump .wake, .pump (.wrote 5), .write ⟨"0800", .empty⟩,
      .pump (.wrote 10), .pump (.wrote 15), .pump .flushed, .pump .wake, .pump .flushed]
    (fun crossing channel =>
      (channel.isOpen, channel.pump, channel.outbox.wakeUp, crossing.accepted.length))
    (true, .waiting, false, 2) (by decide +kernel)
  simp only [Prod.mk.injEq] at seen
  obtain ⟨opened, waiting, asleep, count⟩ := seen
  obtain ⟨empty, whole⟩ := (frames_leave_in_order run).2.2 opened waiting asleep
  exact ⟨crossing, channel, run, opened, waiting, asleep, count, empty, whole⟩

/-! ## The reading half -/

theorem receive_eq (decode : Bytes → Except CodecError Message) (channel : Channel η κ) (chunk : Bytes) :
    channel.receive decode chunk =
      let cut := cutFrames decode (channel.reader.buffered ++ chunk)
      ({ channel with
        reader := { channel.reader with buffer := cut.rest.toArray }
        pump := .dispatching cut.error }, cut.arrivals.filterMap channel.reader.callFor) := by
  unfold receive
  rw [FrameReader.ingest_eq]
  dsimp only
  cases (cutFrames decode (channel.reader.buffered ++ chunk)).error <;> rfl

theorem status_of_fatal {error : FrameError} (fatal : channel.pump = .dispatching (some error))
    (taken : channel.step decode step = some (after, output)) : after.status = .ended := by
  have only {other : Pump} (stands : channel.pump = other) : other = .dispatching (some error) :=
    stands.symm.trans fatal
  cases takes_of_step taken with
  | wake waiting | received waiting => cases only waiting
  | dispatched pump | wroteAll pump | wrotePart pump | flushed pump => cases only pump
  | stop => rfl

structure Hears (codec : Codec) (fresh : FrameReader η) (channel : Channel η κ) (crossing : Crossing η) :
    Prop where
  calls : crossing.calls = (cutFrames codec.decode crossing.received).arrivals.filterMap fresh.callFor
  handlers : channel.status ≠ .ended → channel.reader.callFor = fresh.callFor
  rest : channel.status ≠ .ended → (cutFrames codec.decode crossing.received).error = none →
    (cutFrames codec.decode crossing.received).rest = channel.reader.buffered
  fatal : channel.status ≠ .ended → (cutFrames codec.decode crossing.received).error ≠ none →
    ∃ error, channel.pump = .dispatching (some error)

theorem hears_fresh (codec : Codec) {start : Channel η κ} (empty : start.reader.buffered = []) :
    start.Hears codec start.reader {} := by
  have nothing : cutFrames codec.decode [] = ⟨[], [], none⟩ := cutFrames_of_none rfl
  constructor <;> simp [nothing, empty]

namespace Hears

variable {codec : Codec} {fresh : FrameReader η} {crossing more : Crossing η}

theorem of_same (hears : channel.Hears codec fresh crossing) (received : more.received = [])
    (calls : more.calls = [])
    (same : after.status ≠ .ended → channel.status ≠ .ended ∧ after.reader = channel.reader ∧
      ∀ error, channel.pump = .dispatching (some error) → after.pump = .dispatching (some error)) :
    after.Hears codec fresh (crossing ++ more) := by
  have still : (crossing ++ more).received = crossing.received := by simp [received]
  constructor
  · rw [still]
    simpa [calls] using hears.calls
  · intro unended
    obtain ⟨before, reader, -⟩ := same unended
    rw [reader]
    exact hears.handlers before
  · intro unended
    obtain ⟨before, reader, -⟩ := same unended
    rw [still, reader]
    exact hears.rest before
  · intro unended broken
    obtain ⟨before, -, pump⟩ := same unended
    rw [still] at broken
    obtain ⟨error, dispatching⟩ := hears.fatal before broken
    exact ⟨error, pump error dispatching⟩

theorem received (hears : channel.Hears codec fresh crossing) {chunk : Bytes}
    (unended : channel.status ≠ .ended)
    (taken : channel.step codec.decode (.received chunk) = some (after, output)) :
    after.Hears codec fresh (crossing ++ { received := chunk, calls := output.calls }) := by
  obtain ⟨waiting, result, -⟩ := step_received taken
  have sound : (cutFrames codec.decode crossing.received).error = none := by
    refine Decidable.byContradiction fun broken => ?_
    simpa [waiting] using hears.fatal unended broken
  -- The chunk is cut together with the bytes kept, as if all had come in one piece.
  have whole := cutFrames_append codec.decode crossing.received chunk
  rw [Cut.resume, sound, hears.rest unended sound] at whole
  rw [receive_eq] at result
  dsimp only at whole result
  generalize cutFrames codec.decode (channel.reader.buffered ++ chunk) = next at whole result
  obtain ⟨rfl, calls⟩ := Prod.mk.inj result
  constructor
  · simp [whole, hears.calls, calls, hears.handlers unended]
  · exact hears.handlers
  · intro _ _
    simp [whole, FrameReader.buffered]
  · intro _ broken
    simp only [Crossing.received_append, whole] at broken
    obtain ⟨error, found⟩ := Option.ne_none_iff_exists'.1 broken
    exact ⟨error, by simp [found]⟩

theorem stepped (hears : channel.Hears codec fresh crossing) (alive : channel.status ≠ .ended)
    (notRead : ∀ chunk, step ≠ .received chunk)
    (taken : channel.step codec.decode step = some (after, output)) (received : more.received = [])
    (calls : more.calls = output.calls) : after.Hears codec fresh (crossing ++ more) := by
  obtain ⟨-, goal, quiet | ⟨chunk, read, -⟩⟩ := step_cases taken
  · refine hears.of_same received (calls.trans quiet) fun unended => ?_
    obtain stops | goes := goal
    · exact absurd stops.status unended
    · refine ⟨alive, (step_conserves taken goes notRead).1, fun error fatal => ?_⟩
      exact absurd (status_of_fatal fatal taken) unended
  · exact absurd read (notRead chunk)

theorem perform (hears : channel.Hears codec fresh crossing) (proper : channel.Proper)
    {event : ChannelEvent} (taken : channel.perform codec event = some (after, more)) :
    after.Hears codec fresh (crossing ++ more) := by
  cases event with
  | bind =>
    simp only [Channel.perform] at taken
    split at taken <;> cases taken
    · rename_i bound
      unfold Channel.bind at bound
      split at bound <;> cases bound
      rename_i idle
      simp only [Proper, idle] at proper
      exact hears.of_same rfl rfl fun _ => ⟨by simp [idle], rfl, by simp [proper.2]⟩
    · exact hears.of_same rfl rfl fun unended => ⟨unended, rfl, fun _ => id⟩
  | write msg =>
    simp only [Channel.perform] at taken
    split at taken <;> cases taken
    · rename_i queued
      obtain ⟨frame, -, -, rfl⟩ := write_eq_ok queued
      exact hears.of_same rfl rfl fun unended => ⟨unended, rfl, fun _ => id⟩
    · exact hears.of_same rfl rfl fun unended => ⟨unended, rfl, fun _ => id⟩
  | close =>
    cases taken
    unfold Channel.close
    split
    · exact hears.of_same rfl rfl fun unended => ⟨unended, rfl, fun _ => id⟩
    · exact hears.of_same rfl rfl fun unended => absurd rfl unended
    · exact hears.of_same rfl rfl fun unended => ⟨unended, rfl, fun _ => id⟩
  | pump step =>
    obtain ⟨⟨last, output⟩, moved, same⟩ := Option.map_eq_some_iff.1 taken
    cases same
    have unended : channel.status ≠ .ended := by
      intro ended
      simp [Proper, ended, (step_cases moved).1] at proper
    by_cases received : ∃ chunk, step = .received chunk
    · obtain ⟨chunk, rfl⟩ := received
      have heard := hears.received unended moved
      rw [(step_received moved).2.2]
      exact heard
    · have notRead : ∀ chunk, step ≠ .received chunk := fun chunk read => received ⟨chunk, read⟩
      refine hears.stepped unended notRead moved ?_ rfl
      cases step <;> first | rfl | exact absurd rfl (notRead _)

end Hears

theorem Run.hears {codec : Codec} {start : Channel η κ} {crossing : Crossing η}
    (run : Run codec start crossing channel) (fresh : start.Carries {})
    (empty : start.reader.buffered = []) : channel.Hears codec start.reader crossing := by
  induction run with
  | start => exact hears_fresh codec empty
  | step run taken ih => exact ih.perform (run.carries fresh).proper taken

end Channel

end Iso8583

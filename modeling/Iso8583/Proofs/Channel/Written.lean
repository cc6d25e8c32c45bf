import Iso8583.Proofs.Channel.Pump

/-!
# Where the bytes of an outbox go

As long as a channel goes on, its pump takes the frames of the outbox in order and writes them whole.
Reading changes the bytes kept and nothing else.
-/

namespace Iso8583

/-- What is still to be written of the frame that a pump writes. -/
def Pump.unwritten : Pump → Bytes
  | .writing rest => rest
  | _ => []

namespace Channel

variable {η κ : Type} {decode : Bytes → Except CodecError Message} {channel after : Channel η κ}
  {step : PumpStep} {output : PumpOutput η κ}

theorem nextFrame_conserves (channel : Channel η κ) :
    ∃ taken : List Bytes, channel.outbox.queue = taken ++ channel.nextFrame.outbox.queue ∧
      taken.flatten = channel.nextFrame.pump.unwritten ∧ channel.nextFrame.reader = channel.reader := by
  unfold nextFrame Outbox.pop?
  cases queued : channel.outbox.queue with
  | nil => exact ⟨[], by simp [queued], rfl, rfl⟩
  | cons frame queue => exact ⟨[frame], rfl, by simp [Pump.unwritten], rfl⟩

/-- The bytes that a step writes were still to be written before, or belong to frames that it takes from
the outbox. A step that reads nothing leaves the reader as it was. -/
theorem step_conserves (taken : channel.step decode step = some (after, output))
    (goes : channel.GoesOn after output) (notRead : ∀ chunk, step ≠ .received chunk) :
    after.reader = channel.reader ∧
      ∃ frames : List Bytes, channel.outbox.queue = frames ++ after.outbox.queue ∧
        channel.pump.unwritten ++ frames.flatten = output.written ++ after.pump.unwritten := by
  cases takes_of_step taken with
  | received => exact absurd rfl (notRead _)
  | wake waiting =>
    obtain ⟨frames, queue, unwritten, reader⟩ :=
      nextFrame_conserves { channel with outbox := { channel.outbox with wakeUp := false } }
    refine ⟨reader, frames, queue, ?_⟩
    rw [waiting, unwritten]
    rfl
  | @wroteAll rest pump =>
    obtain ⟨frames, queue, unwritten, reader⟩ := nextFrame_conserves channel
    refine ⟨reader, frames, queue, ?_⟩
    rw [pump, unwritten]
    rfl
  | @wrotePart rest count pump =>
    refine ⟨rfl, [], rfl, ?_⟩
    rw [pump]
    change rest ++ [] = rest.take count ++ rest.drop count
    rw [List.append_nil, List.take_append_drop]
  | dispatched pump | flushed pump => exact ⟨rfl, [], rfl, by rw [pump]; rfl⟩
  | stop => cases goes.hungUp

theorem step_received {chunk : Bytes}
    (taken : channel.step decode (.received chunk) = some (after, output)) :
    channel.pump = .waiting ∧ (after, output.calls) = channel.receive decode chunk ∧
      output = { calls := output.calls } := by
  cases takes_of_step taken with
  | received waiting => exact ⟨waiting, rfl, rfl⟩
  | stop ends => cases ends

end Channel

end Iso8583

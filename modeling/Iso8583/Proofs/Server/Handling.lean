import Iso8583.Proofs.Channel.Written
import Iso8583.Proofs.Server.Run

/-!
# Pumps with their handler

A step of a connection's pump, what the handler does with the messages that were read, and what the pump
does after that are one step of a server. It depends on the channel alone: here it is taken apart from
the server.
-/

namespace Iso8583

/-! ## Steps -/

/-- What a step of a pump comes to when the handler has had what was read. -/
structure PumpResult where
  channel : Channel String Nat
  /-- The frames that have entered the outbox. -/
  accepted : List Bytes
  effects : List ServerEffect
  output : PumpOutput String Nat

def PumpResult.report (result : PumpResult) (conn : Nat) : List ServerEffect :=
  result.effects ++
    ((if result.output.written.isEmpty then [] else [.write conn result.output.written]) ++
      if result.output.hungUp then [.hangUp conn] else [])

/-- What a pump does once the handler is done: if it has read, it goes on or stops. -/
def Channel.settle (decode : Bytes → Except CodecError Message) (channel : Channel String Nat)
    (output : PumpOutput String Nat) : PumpStep → Option (Channel String Nat × PumpOutput String Nat)
  | .received _ => channel.step decode .dispatched
  | _ => some (channel, output)

/-- A step of a pump. The handler is given what is read, and its answers enter the outbox. -/
def Channel.stepWith (codec : Codec) (handler : Handler) (conn : Nat) (channel : Channel String Nat)
    (step : PumpStep) : Option PumpResult := do
  let (read, output) ← channel.step codec.decode step
  let (outbox, effects) := Server.handle codec handler conn read.outbox output.calls
  let (last, output) ← { read with outbox := outbox }.settle codec.decode output step
  return ⟨last, outbox.queue.drop channel.outbox.queue.length, effects, output⟩

def Server.answers (server : Server) : Handler := server.handler.getD fun _ => []

theorem Server.stepPump_cases {server after : Server} {conn : Nat} {step : PumpStep}
    {effects : List ServerEffect} (taken : server.stepPump conn step = some (after, effects)) :
    ∃ channel result, server.channels[conn]? = some channel ∧
      channel.stepWith server.codec server.answers conn step = some result ∧
      after = ((server.setChannel conn result.channel).takeOutput conn result.output).1 ∧
      effects = result.report conn := by
  unfold stepPump at taken
  obtain ⟨channel, found, taken⟩ := Option.bind_eq_some_iff.1 taken
  obtain ⟨⟨read, output⟩, stepped, taken⟩ := Option.bind_eq_some_iff.1 taken
  refine ⟨channel, ?_⟩
  by_cases received : ∃ chunk, step = .received chunk
  · obtain ⟨chunk, rfl⟩ := received
    obtain ⟨⟨last, output'⟩, settled, taken⟩ := Option.bind_eq_some_iff.1 taken
    cases taken
    let answered := handle server.codec server.answers conn read.outbox output.calls
    refine ⟨⟨last, answered.1.queue.drop channel.outbox.queue.length, answered.2, output'⟩, found, ?_,
      rfl, rfl⟩
    exact Option.bind_eq_some_iff.2 ⟨(read, output), stepped,
      Option.bind_eq_some_iff.2 ⟨(last, output'), settled, rfl⟩⟩
  · -- Nothing is read, so the handler is given nothing.
    have calls : output.calls = [] := by
      obtain ⟨-, -, none | ⟨chunk, read, -⟩⟩ := Channel.step_cases stepped
      · exact none
      · exact absurd ⟨chunk, read⟩ received
    refine ⟨⟨read, read.outbox.queue.drop channel.outbox.queue.length, [], output⟩, found, ?_, ?_⟩
    · unfold Channel.stepWith
      rw [stepped]
      simp only [bind, Option.bind, calls]
      cases step <;> first | rfl | exact absurd ⟨_, rfl⟩ received
    · cases step <;> first | (cases taken; exact ⟨rfl, rfl⟩) | exact absurd ⟨_, rfl⟩ received

/-- The channel of a connection that reads a chunk: the handler has had its messages, and the pump waits
again or has stopped at a header it cannot pass over. -/
theorem Channel.stepWith_received {codec : Codec} {handler : Handler} {conn : Nat}
    {channel : Channel String Nat} {chunk : Bytes} {result : PumpResult}
    (taken : channel.stepWith codec handler conn (.received chunk) = some result) :
    let (reader, calls, count) := channel.reader.ingest codec.decode chunk
    let (outbox, effects) := Server.handle codec handler conn channel.outbox calls
    let read : Channel String Nat := { channel with reader := reader, outbox := outbox }
    channel.pump = .waiting ∧ result.accepted = outbox.queue.drop channel.outbox.queue.length ∧
      result.effects = effects ∧
      match count with
      | .ok _ => result.channel = read ∧ result.output = {}
      | .error error =>
        result.channel = { read with pump := .dispatching (some error) }.stop.1 ∧
          result.output = { read with pump := .dispatching (some error) }.stop.2 := by
  unfold stepWith at taken
  obtain ⟨⟨read, output⟩, stepped, taken⟩ := Option.bind_eq_some_iff.1 taken
  obtain ⟨⟨last, output'⟩, settled, taken⟩ := Option.bind_eq_some_iff.1 taken
  cases taken
  obtain ⟨waiting, same, -⟩ := step_received stepped
  unfold receive at same
  unfold settle at settled
  generalize channel.reader.ingest codec.decode chunk = ingested at same ⊢
  obtain ⟨reader, calls, count⟩ := ingested
  obtain ⟨rfl, rfl⟩ := Prod.mk.inj same
  refine ⟨waiting, rfl, rfl, ?_⟩
  cases count with
  | ok count =>
    cases settled
    exact ⟨by rw [← waiting], rfl⟩
  | error error =>
    cases settled
    exact ⟨rfl, rfl⟩

theorem Channel.stepWith_of_not_received {codec : Codec} {handler : Handler} {conn : Nat}
    {channel : Channel String Nat} {step : PumpStep} {result : PumpResult}
    (notRead : ∀ chunk, step ≠ .received chunk)
    (taken : channel.stepWith codec handler conn step = some result) :
    channel.step codec.decode step = some (result.channel, result.output) ∧ result.effects = [] ∧
      result.accepted = result.channel.outbox.queue.drop channel.outbox.queue.length := by
  unfold stepWith at taken
  obtain ⟨⟨read, output⟩, stepped, taken⟩ := Option.bind_eq_some_iff.1 taken
  obtain ⟨⟨last, output'⟩, settled, taken⟩ := Option.bind_eq_some_iff.1 taken
  have calls : output.calls = [] := by
    obtain ⟨-, -, none | ⟨chunk, read, -⟩⟩ := step_cases stepped
    · exact none
    · exact absurd read (notRead chunk)
  have kept : settle codec.decode read output step = some (last, output') := by
    simp only [calls] at settled
    exact settled
  have same : settle codec.decode read output step = some (read, output) := by
    cases step <;> first | rfl | exact absurd rfl (notRead _)
  cases kept.symm.trans same
  cases taken
  refine ⟨stepped, ?_, ?_⟩
  · rw [calls]
    rfl
  · rw [calls]
    rfl

/-! ## Answers and the outbox -/

namespace Server

variable {codec : Codec} {handler : Handler} {conn : Nat}

theorem status_writeAnswer (codec : Codec) (outbox : Outbox) (request : Message) (answer : Answer) :
    (writeAnswer codec outbox request answer).1.status = outbox.status := by
  unfold writeAnswer
  split
  · rfl
  · rename_i msg made
    split
    · rename_i next written
      unfold Outbox.write at written
      split at written
      · cases written
      · cases written
      · cases framed : Outbox.frameOf codec msg with
        | error error =>
          rw [framed] at written
          cases written
        | ok bytes =>
          rw [framed] at written
          cases written
          rfl
    · rfl

theorem status_writeAnswers (codec : Codec) (request : Message) (outbox : Outbox)
    (answers : List Answer) : (writeAnswers codec request outbox answers).1.status = outbox.status := by
  induction answers generalizing outbox with
  | nil => rfl
  | cons answer answers ih => exact (ih _).trans (status_writeAnswer codec outbox request answer)

theorem status_handle (codec : Codec) (handler : Handler) (conn : Nat) (outbox : Outbox)
    (calls : List (ReaderCall String)) :
    (handle codec handler conn outbox calls).1.status = outbox.status := by
  induction calls generalizing outbox with
  | nil => rfl
  | cons call calls ih =>
    cases call with
    | message peer msg => exact (ih _).trans (status_writeAnswers codec msg outbox (handler msg))
    | dropped peer error => exact ih outbox

theorem conn_of_mem_handle {outbox : Outbox} {calls : List (ReaderCall String)} {effect : ServerEffect}
    (mem : effect ∈ (handle codec handler conn outbox calls).2) :
    ∃ request results, effect = .handled request results ∧ request.conn = conn := by
  induction calls generalizing outbox with
  | nil => cases mem
  | cons call calls ih =>
    cases call with
    | message peer msg =>
      rcases List.mem_cons.1 mem with rfl | mem
      · exact ⟨_, _, rfl, rfl⟩
      · exact ih mem
    | dropped peer error => exact ih mem

end Server

theorem Channel.conn_of_mem_stepWith {codec : Codec} {handler : Handler} {conn : Nat}
    {channel : Channel String Nat} {step : PumpStep} {result : PumpResult} {effect : ServerEffect}
    (taken : channel.stepWith codec handler conn step = some result) (mem : effect ∈ result.effects) :
    ∃ request results, effect = .handled request results ∧ request.conn = conn := by
  unfold stepWith at taken
  obtain ⟨⟨read, output⟩, -, taken⟩ := Option.bind_eq_some_iff.1 taken
  obtain ⟨⟨last, output'⟩, -, taken⟩ := Option.bind_eq_some_iff.1 taken
  cases taken
  exact Server.conn_of_mem_handle mem

/-! ## How a connection goes on -/

/-- A step after which the channel has stopped. -/
structure Channel.Closes (channel : Channel String Nat) (result : PumpResult) : Prop where
  ended : result.channel.Over
  queue : result.channel.outbox.queue = []
  onDisconnected : result.channel.onDisconnected = none
  disconnected : result.output.disconnected.map (·.callback) = channel.onDisconnected
  written : result.output.written = []

theorem Channel.closes_stop {channel : Channel String Nat} {result : PumpResult}
    (stops : channel.Stops result.channel result.output) : channel.Closes result where
  ended := stops.over
  queue := by
    rw [stops.outbox]
    rfl
  onDisconnected := stops.onDisconnected
  disconnected := stops.disconnected
  written := stops.written

theorem Channel.stepWith_cases {codec : Codec} {handler : Handler} {conn : Nat}
    {channel : Channel String Nat} {step : PumpStep} {result : PumpResult}
    (taken : channel.stepWith codec handler conn step = some result) :
    channel.pump.isAlive = true ∧
      (channel.Closes result ∨ channel.GoesOn result.channel result.output) := by
  by_cases received : ∃ chunk, step = .received chunk
  · obtain ⟨chunk, rfl⟩ := received
    have spec := stepWith_received taken
    generalize channel.reader.ingest codec.decode chunk = ingested at spec
    obtain ⟨reader, calls, count⟩ := ingested
    obtain ⟨waiting, -, -, rest⟩ := spec
    refine ⟨by rw [waiting]; rfl, ?_⟩
    cases count with
    | ok count =>
      obtain ⟨same, output⟩ := rest
      refine .inr ⟨?_, ?_, ?_, ?_, ?_, ?_, ?_, ?_⟩
      · rw [same]
      · rw [same]
        exact Server.status_handle codec handler conn channel.outbox calls
      · rw [same]
      · rw [same]
      · rw [same]
      · rw [same, waiting]
        rfl
      · rw [output]
      · rw [output]
    | error error =>
      obtain ⟨same, output⟩ := rest
      refine .inl ⟨?_, ?_, ?_, ?_, ?_⟩
      · rw [same]
        exact ⟨rfl, rfl, rfl⟩
      · rw [same]
        rfl
      · rw [same]
        rfl
      · rw [output]
        cases channel.onDisconnected <;> rfl
      · rw [output]
        rfl
  · have notRead (chunk : Bytes) : step ≠ .received chunk := fun same => received ⟨chunk, same⟩
    obtain ⟨stepped, -, -⟩ := stepWith_of_not_received notRead taken
    obtain ⟨alive, stops | goes, -⟩ := step_cases stepped
    · exact ⟨alive, .inl (closes_stop stops)⟩
    · exact ⟨alive, .inr goes⟩

theorem Channel.accepted_of_not_received {codec : Codec} {handler : Handler} {conn : Nat}
    {channel : Channel String Nat} {step : PumpStep} {result : PumpResult}
    (notRead : ∀ chunk, step ≠ .received chunk)
    (taken : channel.stepWith codec handler conn step = some result) : result.accepted = [] := by
  obtain ⟨stepped, -, accepted⟩ := stepWith_of_not_received notRead taken
  rw [accepted]
  obtain ⟨-, closes | goes⟩ := stepWith_cases taken
  · rw [closes.queue]
    exact List.drop_nil
  · obtain ⟨-, frames, queue, -⟩ := step_conserves stepped goes notRead
    rw [queue]
    apply List.drop_eq_nil_of_le
    rw [List.length_append]
    exact Nat.le_add_left _ _

end Iso8583

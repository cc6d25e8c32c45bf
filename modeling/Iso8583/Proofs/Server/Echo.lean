import Iso8583.Proofs.Codec.Replies
import Iso8583.Proofs.Framing.Splits
import Iso8583.Proofs.Server.Endpoint
import Mathlib.Data.List.Forall2

/-!
# A server that answers everything at once

A server whose handler answers each request with its response serves every connection as if it were the
only one: the handler has the messages of the connection's own bytes, in order, and exactly the replies
to those that are requests enter its outbox and are written.
-/

namespace Iso8583

/-! ## Answering at once -/

def respondAtOnce : Handler := fun _ => [.respond]

def Server.echo (config : ServerConfig) : Server :=
  { config := config, codec := .binary, handler := some respondAtOnce }

/-- What answering a message once gives: a reply if it is a request, and otherwise the news that it has
none. -/
def Answered (msg : Message) (results : List (Except ServerError Unit)) : Prop :=
  if msg.isRequest = true then results = [.ok ()] else ∃ error, results = [.error (.mti error)]

namespace Server

variable {outbox : Outbox} {msg : Message}

theorem writeAnswer_of_isRequest (opened : outbox.status = .bound)
    (arrived : Codec.binary.Receives msg) (request : msg.isRequest = true) :
    ∃ bytes, FramesReply msg bytes ∧
      writeAnswer .binary outbox msg .respond = (outbox.push bytes, .ok ()) := by
  obtain ⟨reply, bytes, answer, framed, frames⟩ := framesReply_of_receives arrived request
  refine ⟨bytes, frames, ?_⟩
  unfold writeAnswer Answer.message Outbox.write
  rw [answer, opened]
  simp only [Except.mapError, framed, Except.map]

theorem writeAnswer_of_not_isRequest (outbox : Outbox) (other : msg.isRequest = false) :
    ∃ error, writeAnswer .binary outbox msg .respond = (outbox, .error (.mti error)) := by
  obtain ⟨error, refused⟩ := Message.toResponse_of_not_isRequest other
  refine ⟨error, ?_⟩
  unfold writeAnswer Answer.message
  rw [refused]
  rfl

/-- The handler is given some messages that were read: it is given each of them once, and the frames of
the replies to the requests among them enter the outbox. -/
theorem handle_respondAtOnce (opened : outbox.status = .bound) (conn : Nat) (peer : String)
    {msgs : List Message} (arrived : ∀ msg ∈ msgs, Codec.binary.Receives msg) :
    let (last, effects) := handle .binary respondAtOnce conn outbox (msgs.map (.message peer))
    (handledOn conn effects).map (·.1.message) = msgs ∧
      (∀ entry ∈ handledOn conn effects, Answered entry.1.message entry.2) ∧
      ∃ frames, last.queue = outbox.queue ++ frames ∧
        List.Forall₂ FramesReply (msgs.filter Message.isRequest) frames := by
  induction msgs generalizing outbox with
  | nil => exact ⟨rfl, by simp [handledOn], [], (List.append_nil _).symm, .nil⟩
  | cons msg msgs ih =>
    have later (msg' : Message) (mem : msg' ∈ msgs) := arrived msg' (List.mem_cons_of_mem _ mem)
    have first (next : Outbox) (result : Except ServerError Unit)
        (answered : writeAnswer .binary outbox msg .respond = (next, result)) :
        handle .binary respondAtOnce conn outbox ((msg :: msgs).map (.message peer)) =
          ((handle .binary respondAtOnce conn next (msgs.map (.message peer))).1,
            .handled ⟨msg, peer, conn⟩ [result] ::
              (handle .binary respondAtOnce conn next (msgs.map (.message peer))).2) := by
      rw [List.map_cons]
      simp only [handle, respondAtOnce, writeAnswers, answered]
    have here (effects : List ServerEffect) (result : Except ServerError Unit) :
        handledOn conn (.handled ⟨msg, peer, conn⟩ [result] :: effects) =
          (⟨msg, peer, conn⟩, [result]) :: handledOn conn effects :=
      List.filterMap_cons_some (if_pos rfl)
    cases request : msg.isRequest with
    | true =>
      obtain ⟨bytes, frames, answered⟩ :=
        writeAnswer_of_isRequest opened (arrived msg List.mem_cons_self) request
      -- The messages that follow meet an outbox with this frame at its end.
      obtain ⟨messages, answers, more, queue, replies⟩ :=
        ih (show (outbox.push bytes).status = .bound from opened) later
      rw [first _ _ answered]
      dsimp only
      rw [here, List.map_cons, messages, queue, List.filter_cons_of_pos request]
      refine ⟨rfl, ?_, bytes :: more, List.append_assoc _ [bytes] _, .cons frames replies⟩
      intro entry mem
      rcases List.mem_cons.1 mem with rfl | mem
      · unfold Answered
        rw [if_pos request]
      · exact answers entry mem
    | false =>
      obtain ⟨error, answered⟩ := writeAnswer_of_not_isRequest outbox request
      obtain ⟨messages, answers, more, queue, replies⟩ := ih opened later
      rw [first _ _ answered]
      dsimp only
      rw [here, List.map_cons, messages, queue, List.filter_cons_of_neg (by rw [request]; simp)]
      refine ⟨rfl, ?_, more, rfl, replies⟩
      intro entry mem
      rcases List.mem_cons.1 mem with rfl | mem
      · unfold Answered
        rw [if_neg (by rw [request]; simp)]
        exact ⟨error, rfl⟩
      · exact answers entry mem

end Server

/-! ## One connection -/

def Cut.messages (cut : Cut) : List Message :=
  cut.arrivals.filterMap fun
    | .message msg => some msg
    | .dropped _ => none

def Traffic.messages (traffic : Traffic) : List Message :=
  traffic.handled.map (·.1.message)

@[simp]
theorem Traffic.messages_append (first next : Traffic) :
    (first ++ next).messages = first.messages ++ next.messages := List.map_append

/-- A running channel with what has crossed it. -/
structure Flows (channel : Channel String Nat) (traffic : Traffic) : Prop where
  onMessage : channel.reader.onMessage.isSome = true
  onDropped : channel.reader.onDropped = none
  error : (cutFrames Codec.binary.decode traffic.received).error = none
  rest : (cutFrames Codec.binary.decode traffic.received).rest = channel.reader.buffered
  written : ∃ taken : List Bytes, traffic.accepted = taken ++ channel.outbox.queue ∧
    taken.flatten = traffic.written ++ channel.pump.unwritten

/-- A connection with what has crossed it. -/
structure Echoes (channel? : Option (Channel String Nat)) (traffic : Traffic) : Prop where
  messages : traffic.messages = (cutFrames Codec.binary.decode traffic.received).messages
  answered : ∀ entry ∈ traffic.handled, Answered entry.1.message entry.2
  replies : List.Forall₂ FramesReply (traffic.messages.filter Message.isRequest) traffic.accepted
  absent : channel? = none → traffic = {}
  flows : ∀ channel, channel? = some channel → channel.Running → Flows channel traffic
  ended : ∀ channel, channel? = some channel → channel.Over →
    channel.outbox.queue = [] ∧ traffic.written <+: traffic.accepted.flatten

theorem Flows.written_of_accepted {channel : Channel String Nat} {traffic : Traffic}
    (flows : Flows channel traffic) :
    traffic.written <+: traffic.accepted.flatten := by
  obtain ⟨taken, accepted, written⟩ := flows.written
  rw [accepted, List.flatten_append, written, List.append_assoc]
  exact List.prefix_append _ _

theorem Echoes.written {channel? : Option (Channel String Nat)} {traffic : Traffic}
    (echoes : Echoes channel? traffic)
    (status : ∀ channel, channel? = some channel → channel.Running ∨ channel.Over) :
    traffic.written <+: traffic.accepted.flatten := by
  cases channel? with
  | none =>
    rw [echoes.absent rfl]
    exact List.nil_prefix
  | some channel =>
    obtain running | ended := status channel rfl
    · exact (echoes.flows channel rfl running).written_of_accepted
    · exact (echoes.ended channel rfl ended).2

theorem Flows.openChannel (conn : Nat) (peer : String) : Flows (Server.openChannel conn peer) {} where
  onMessage := rfl
  onDropped := rfl
  error := by rw [cutFrames_of_none rfl]
  rest := by
    rw [cutFrames_of_none rfl]
    rfl
  written := ⟨[], rfl, rfl⟩

theorem echoes_none : Echoes none {} where
  messages := by
    rw [cutFrames_of_none rfl]
    rfl
  answered _ mem := by cases mem
  replies := .nil
  absent _ := rfl
  flows _ same := by cases same
  ended _ same := by cases same

namespace Echoes

variable {channel : Channel String Nat} {traffic : Traffic}

theorem openChannel (conn : Nat) (peer : String) : Echoes (some (Server.openChannel conn peer)) {} where
  messages := echoes_none.messages
  answered := echoes_none.answered
  replies := .nil
  absent same := by cases same
  flows _ same _ := by
    cases same
    exact .openChannel conn peer
  ended _ same ended := by
    cases same
    cases ended.status

theorem close (echoes : Echoes (some channel) traffic) (status : channel.Running ∨ channel.Over) :
    Echoes (some channel.close) traffic := by
  refine ⟨echoes.messages, echoes.answered, echoes.replies, by simp, ?_, ?_⟩
  · intro closed same running
    cases same
    rcases status with before | ended
    · have flows := echoes.flows channel rfl before
      unfold Channel.close
      rw [before.status]
      exact ⟨flows.onMessage, flows.onDropped, flows.error, flows.rest, flows.written⟩
    · exact absurd running ended.close.not_running
  · intro closed same ended
    cases same
    rcases status with before | ended
    · exact absurd before.close ended.not_running
    · unfold Channel.close
      rw [ended.status]
      exact echoes.ended channel rfl ended

end Echoes

/-! ## Reading -/

theorem Cut.messages_append (first cut : Cut) (rest : Bytes) (error : Option FrameError) :
    (⟨first.arrivals ++ cut.arrivals, rest, error⟩ : Cut).messages = first.messages ++ cut.messages :=
  List.filterMap_append

theorem Cut.calls_eq_messages {reader : FrameReader String} {peer : String}
    (onMessage : reader.onMessage = some peer) (onDropped : reader.onDropped = none) (cut : Cut) :
    cut.arrivals.filterMap reader.callFor = cut.messages.map (.message peer) := by
  have call (arrival : Arrival) : reader.callFor arrival =
      (match arrival with
        | .message msg => some msg
        | .dropped _ => none).map (.message peer) := by
    cases arrival with
    | message msg =>
      unfold FrameReader.callFor
      rw [onMessage]
      rfl
    | dropped error =>
      unfold FrameReader.callFor
      rw [onDropped]
      rfl
  unfold Cut.messages
  rw [List.map_filterMap]
  exact congrArg (cut.arrivals.filterMap ·) (funext call)

theorem receives_of_mem_messages {codec : Codec} {stream : Bytes} {msg : Message}
    (mem : msg ∈ (cutFrames codec.decode stream).messages) : codec.Receives msg := by
  obtain ⟨arrival, arrived, same⟩ := List.mem_filterMap.1 mem
  cases arrival with
  | message other =>
    cases same
    exact receives_of_arrival arrived
  | dropped error => cases same

theorem messages_cutFrames_append (decode : Bytes → Except CodecError Message) (stream more : Bytes) :
    (cutFrames decode stream).messages <+: (cutFrames decode (stream ++ more)).messages := by
  rw [cutFrames_append]
  generalize cutFrames decode stream = cut
  obtain ⟨arrivals, rest, error⟩ := cut
  cases error with
  | some error => exact List.prefix_rfl
  | none =>
    unfold Cut.resume
    dsimp only
    rw [Cut.messages_append ⟨arrivals, rest, none⟩]
    exact List.prefix_append _ _

variable {conn : Nat} {channel : Channel String Nat} {traffic : Traffic} {result : PumpResult}

theorem Flows.cutFrames_append (flows : Flows channel traffic) (chunk : Bytes) :
    let next := cutFrames Codec.binary.decode (channel.reader.buffered ++ chunk)
    cutFrames Codec.binary.decode (traffic.received ++ chunk) =
      ⟨(cutFrames Codec.binary.decode traffic.received).arrivals ++ next.arrivals, next.rest,
        next.error⟩ := by
  intro next
  rw [Iso8583.cutFrames_append _ traffic.received, Cut.resume, flows.error, flows.rest]

/-- What comes of a chunk that a connection reads, with `next` what the bytes kept and the chunk hold. -/
structure Handed (channel : Channel String Nat) (next : Cut) (result : PumpResult) (more : Traffic) :
    Prop where
  messages : more.messages = next.messages
  answered : ∀ entry ∈ more.handled, Answered entry.1.message entry.2
  replies : List.Forall₂ FramesReply (more.messages.filter Message.isRequest) more.accepted
  written : more.written = []
  goesOn : next.error = none →
    result.channel.reader = { channel.reader with buffer := next.rest.toArray } ∧
      result.channel.outbox.queue = channel.outbox.queue ++ more.accepted ∧
      result.channel.pump = .waiting
  stops : ∀ error, next.error = some error →
    result.channel.Over ∧ result.channel.outbox.queue = []

theorem Flows.handed {chunk : Bytes} (flows : Flows channel traffic) (running : channel.Running)
    (taken : channel.stepWith .binary respondAtOnce conn (.received chunk) = some result) :
    Handed channel (cutFrames Codec.binary.decode (channel.reader.buffered ++ chunk)) result
      (result.traffic conn (.received chunk)) := by
  obtain ⟨peer, onMessage⟩ := Option.isSome_iff_exists.1 flows.onMessage
  have spec := Channel.stepWith_received taken
  rw [FrameReader.ingest_eq] at spec
  dsimp only at spec
  rw [Cut.calls_eq_messages onMessage flows.onDropped] at spec
  have arrived : ∀ msg ∈ (cutFrames Codec.binary.decode (channel.reader.buffered ++ chunk)).messages,
      Codec.binary.Receives msg := fun msg mem => receives_of_mem_messages mem
  have handled := Server.handle_respondAtOnce running.outbox conn peer arrived
  generalize cutFrames Codec.binary.decode (channel.reader.buffered ++ chunk) = next at spec handled ⊢
  generalize Server.handle Codec.binary respondAtOnce conn channel.outbox
    (next.messages.map (.message peer)) = answers at spec handled
  obtain ⟨outbox, effects⟩ := answers
  obtain ⟨messages, answered, frames, queue, replies⟩ := handled
  obtain ⟨waiting, accepts, sameEffects, rest⟩ := spec
  dsimp only at accepts sameEffects rest
  have entered : result.accepted = frames := by rw [accepts, queue, List.drop_left]
  have same : (result.traffic conn (.received chunk)).messages = next.messages := by
    rw [← messages, ← sameEffects]
    rfl
  refine ⟨same, ?_, ?_, ?_, ?_, ?_⟩
  · intro entry mem
    unfold PumpResult.traffic at mem
    rw [sameEffects] at mem
    exact answered entry mem
  · rw [same]
    unfold PumpResult.traffic
    rw [entered]
    exact replies
  · unfold PumpResult.traffic
    cases fatal : next.error with
    | none =>
      rw [fatal] at rest
      rw [rest.2]
    | some error =>
      rw [fatal] at rest
      rw [rest.2]
      rfl
  · intro sound
    rw [sound] at rest
    rw [rest.1]
    refine ⟨rfl, ?_, waiting⟩
    unfold PumpResult.traffic
    rw [entered, queue]
  · intro error fatal
    rw [fatal] at rest
    rw [rest.1]
    exact ⟨⟨rfl, rfl, rfl⟩, rfl⟩

/-! ## A step of the pump -/

theorem Echoes.append {after : Channel String Nat} {more : Traffic}
    (echoes : Echoes (some channel) traffic)
    (messages : (cutFrames Codec.binary.decode (traffic.received ++ more.received)).messages =
      (cutFrames Codec.binary.decode traffic.received).messages ++ more.messages)
    (answered : ∀ entry ∈ more.handled, Answered entry.1.message entry.2)
    (replies : List.Forall₂ FramesReply (more.messages.filter Message.isRequest) more.accepted)
    (flows : after.Running → Flows after (traffic ++ more))
    (ended : after.Over → after.outbox.queue = [] ∧
      (traffic ++ more).written <+: (traffic ++ more).accepted.flatten) :
    Echoes (some after) (traffic ++ more) where
  messages := by
    rw [Traffic.messages_append, Traffic.received_append, messages, echoes.messages]
  answered entry mem := by
    rw [Traffic.handled_append] at mem
    rcases List.mem_append.1 mem with before | now
    · exact echoes.answered entry before
    · exact answered entry now
  replies := by
    rw [Traffic.messages_append, List.filter_append, Traffic.accepted_append]
    exact List.rel_append echoes.replies replies
  absent same := by cases same
  flows channel same := by
    cases same
    exact flows
  ended channel same := by
    cases same
    exact ended

theorem Echoes.received {chunk : Bytes} (echoes : Echoes (some channel) traffic)
    (running : channel.Running)
    (taken : channel.stepWith .binary respondAtOnce conn (.received chunk) = some result) :
    Echoes (some result.channel) (traffic ++ result.traffic conn (.received chunk)) := by
  have flows := echoes.flows channel rfl running
  have waiting : channel.pump = .waiting := (Channel.stepWith_received taken).1
  have whole := flows.cutFrames_append chunk
  have handed := flows.handed running taken
  have received : (result.traffic conn (.received chunk)).received = chunk := if_pos rfl
  generalize cutFrames Codec.binary.decode (channel.reader.buffered ++ chunk) = next at whole handed
  generalize result.traffic conn (.received chunk) = more at received handed ⊢
  dsimp only at whole
  obtain ⟨frames, accepted, written⟩ := flows.written
  refine echoes.append ?_ handed.answered handed.replies ?_ ?_
  · rw [received, whole, Cut.messages_append, handed.messages]
  · -- It runs on only if the stream has no header that cannot be passed over.
    intro runs
    have sound : next.error = none := by
      cases fatal : next.error with
      | none => rfl
      | some error => exact absurd runs (handed.stops error fatal).1.not_running
    obtain ⟨reader, queue, pump⟩ := handed.goesOn sound
    refine ⟨?_, ?_, ?_, ?_, frames, ?_, ?_⟩
    · rw [reader]
      exact flows.onMessage
    · rw [reader]
      exact flows.onDropped
    · rw [Traffic.received_append, received, whole, sound]
    · rw [Traffic.received_append, received, whole, reader]
      rfl
    · rw [Traffic.accepted_append, accepted, queue, List.append_assoc]
    · rw [Traffic.written_append, handed.written, written, pump, waiting, List.append_nil]
  · intro ended
    cases fatal : next.error with
    | none =>
      cases (handed.goesOn fatal).2.2.symm.trans ended.pump
    | some error =>
      refine ⟨(handed.stops error fatal).2, ?_⟩
      rw [Traffic.written_append, handed.written, List.append_nil, Traffic.accepted_append,
        List.flatten_append]
      exact flows.written_of_accepted.trans (List.prefix_append _ _)

theorem Echoes.stepped {step : PumpStep} (echoes : Echoes (some channel) traffic)
    (running : channel.Running) (notRead : ∀ chunk, step ≠ .received chunk)
    (taken : channel.stepWith .binary respondAtOnce conn step = some result) :
    Echoes (some result.channel) (traffic ++ result.traffic conn step) := by
  have flows := echoes.flows channel rfl running
  obtain ⟨frames, accepted, written⟩ := flows.written
  obtain ⟨stepped, effects, -⟩ := Channel.stepWith_of_not_received notRead taken
  have entered : (result.traffic conn step).accepted = [] :=
    Channel.accepted_of_not_received notRead taken
  have received : (result.traffic conn step).received = [] := by
    cases step <;> first | rfl | exact absurd rfl (notRead _)
  have handled : (result.traffic conn step).handled = [] := by
    unfold PumpResult.traffic
    rw [effects]
    rfl
  have wrote : (result.traffic conn step).written = result.output.written := rfl
  generalize result.traffic conn step = more at entered received handled wrote ⊢
  have messages : more.messages = [] := by
    unfold Traffic.messages
    rw [handled]
    rfl
  refine echoes.append ?_ ?_ ?_ ?_ ?_
  · rw [received, messages, List.append_nil, List.append_nil]
  · rw [handled]
    intro entry mem
    cases mem
  · rw [messages, entered]
    exact .nil
  · intro runs
    obtain ⟨-, closes | goes⟩ := Channel.stepWith_cases taken
    · exact absurd runs closes.ended.not_running
    · obtain ⟨reader, popped, queue, bytes⟩ := Channel.step_conserves stepped goes notRead
      refine ⟨?_, ?_, ?_, ?_, frames ++ popped, ?_, ?_⟩
      · rw [reader]
        exact flows.onMessage
      · rw [reader]
        exact flows.onDropped
      · rw [Traffic.received_append, received, List.append_nil]
        exact flows.error
      · rw [Traffic.received_append, received, List.append_nil, reader]
        exact flows.rest
      · rw [Traffic.accepted_append, entered, List.append_nil, accepted, queue, List.append_assoc]
      · rw [Traffic.written_append, wrote, List.flatten_append, written, List.append_assoc, bytes,
          List.append_assoc]
  · intro ended
    obtain ⟨-, closes | goes⟩ := Channel.stepWith_cases taken
    · refine ⟨closes.queue, ?_⟩
      rw [Traffic.accepted_append, entered, List.append_nil, Traffic.written_append, wrote,
        closes.written, List.append_nil]
      exact flows.written_of_accepted
    · exact absurd (running.goesOn goes) ended.not_running

/-! ## Runs -/

/-- What an event does to a connection keeps everything in its place, if no request was kept to be
answered later. -/
theorem Echoes.step {endpoint next : Endpoint} {event : ServerEvent} {more : Traffic}
    (echoes : Echoes endpoint.channel traffic)
    (status : ∀ channel, endpoint.channel = some channel → channel.Running ∨ channel.Over)
    (vacant : endpoint.count ≤ conn → endpoint.channel = none)
    (atOnce : ∀ request answer, event ≠ .answer request answer)
    (taken : endpoint.step .binary respondAtOnce conn event = some (next, more)) :
    Echoes next.channel (traffic ++ more) := by
  obtain ⟨count, channel?⟩ := endpoint
  cases event with
  | disconnectAll =>
    cases taken
    rw [Traffic.append_empty]
    cases channel? with
    | none => exact echoes
    | some channel => exact echoes.close (status channel rfl)
  | accepted listener peer =>
    cases taken
    rw [Traffic.append_empty]
    dsimp only at echoes vacant ⊢
    split
    · -- Nothing can have crossed a connection before there is one.
      rename_i same
      rw [echoes.absent (vacant (Nat.le_of_eq same))]
      exact .openChannel conn peer
    · exact echoes
  | pump source step =>
    simp only [Endpoint.step] at taken
    split at taken
    · obtain ⟨channel, found, taken⟩ := Option.bind_eq_some_iff.1 taken
      obtain ⟨result, stepped, taken⟩ := Option.bind_eq_some_iff.1 taken
      cases taken
      cases found
      have running : channel.Running := by
        rcases status channel rfl with running | ended
        · exact running
        · have alive := (Channel.stepWith_cases stepped).1
          rw [ended.pump] at alive
          cases alive
      by_cases received : ∃ chunk, step = .received chunk
      · obtain ⟨chunk, rfl⟩ := received
        exact echoes.received running stepped
      · exact echoes.stepped running (fun chunk same => received ⟨chunk, same⟩) stepped
    · cases taken
      rw [Traffic.append_empty]
      exact echoes
  | answer request answer => exact absurd rfl (atOnce request answer)
  | _ =>
    cases taken
    rw [Traffic.append_empty]
    exact echoes

namespace Server

/-- No request was kept to be answered later. -/
def AtOnce (past : List ServerMoment) : Prop :=
  ∀ event ∈ past.map (·.event), ∀ request answer, event ≠ .answer request answer

theorem sound_echo (config : ServerConfig) : (echo config).Sound := by
  intro conn channel found
  cases found

theorem Run.echoes {config : ServerConfig} {past : List ServerMoment} {last : Server}
    (run : Run (echo config) past last) (atOnce : AtOnce past) (conn : Nat) :
    Echoes last.channels[conn]? (trafficOn conn past) := by
  induction run with
  | start => exact echoes_none
  | @step past server after event effects run taken ih =>
    obtain ⟨before, codec, answers⟩ := run.sound (sound_echo config)
    have stepped := before.endpoint_step taken conn
    rw [codec, answers] at stepped
    rw [trafficOn_concat]
    unfold AtOnce at atOnce
    rw [List.map_append] at atOnce
    refine Echoes.step (ih fun event mem => atOnce event (List.mem_append_left _ mem)) ?_ ?_ ?_ stepped
    · exact fun channel found => (before conn channel found).status
    · exact fun behind => List.getElem?_eq_none behind
    · exact atOnce event (List.mem_append_right _ List.mem_cons_self)

/-- Connections of a server that answers everything at once do not influence each other. On each of
them the handler is given the messages that its own bytes bring, each once and in order. Every request
among them is answered without refusal, and the frames of exactly these replies enter the outbox, in
order; only such frames wait in it, and only their bytes are written. In another run with the same
events on this connection everything on it is the same, whatever happens on the others. -/
theorem Run.echo_separates {config : ServerConfig} {past : List ServerMoment} {last : Server}
    (run : Run (echo config) past last) (atOnce : AtOnce past) (conn : Nat) :
    let traffic := trafficOn conn past
    let arriving (stream : Bytes) := (cutFrames Codec.binary.decode stream).messages
    traffic.messages = arriving traffic.received ∧
      (∀ more, traffic.messages <+: arriving (traffic.received ++ more)) ∧
      List.Forall₂ FramesReply (traffic.messages.filter Message.isRequest) traffic.accepted ∧
      (∀ entry ∈ traffic.handled, Answered entry.1.message entry.2) ∧
      last.queueOf conn <:+ traffic.accepted ∧ traffic.written <+: traffic.accepted.flatten ∧
      ∀ {other : List ServerMoment} {otherLast : Server}, Run (echo config) other otherLast →
        (other.map (·.event)).filter (·.concerns conn) = (past.map (·.event)).filter (·.concerns conn) →
        trafficOn conn other = traffic ∧ otherLast.channels[conn]? = last.channels[conn]? := by
  intro traffic arriving
  have echoes := run.echoes atOnce conn
  have writer : last.queueOf conn <:+ traffic.accepted ∧
      traffic.written <+: traffic.accepted.flatten := by
    unfold queueOf
    cases found : last.channels[conn]? with
    | none =>
      have nothing : traffic = {} := echoes.absent found
      rw [nothing]
      exact ⟨List.nil_suffix, List.nil_prefix⟩
    | some channel =>
      rcases ((run.sound (sound_echo config)).1 conn channel found).status with running | ended
      · have flows := echoes.flows channel found running
        obtain ⟨taken, accepted, -⟩ := flows.written
        exact ⟨⟨taken, accepted.symm⟩, flows.written_of_accepted⟩
      · obtain ⟨queue, written⟩ := echoes.ended channel found ended
        refine ⟨?_, written⟩
        change channel.outbox.queue <:+ _
        rw [queue]
        exact List.nil_suffix
  refine ⟨echoes.messages, ?_, echoes.replies, echoes.answered, writer.1, writer.2, ?_⟩
  · intro more
    have whole : traffic.messages = arriving traffic.received := echoes.messages
    rw [whole]
    exact messages_cutFrames_append _ _ more
  · intro other otherLast otherRun same
    obtain ⟨endpoint, sameTraffic⟩ := run.endpoint_eq_of_events_eq otherRun (sound_echo config) same
    exact ⟨sameTraffic, congrArg Endpoint.channel endpoint⟩

/-! ## Two connections -/

def purchase : Message := (⟨"0200", .empty⟩ : Message).set 41 (.text "TERM01")

/-- A message that is a response already. -/
def notice : Message := ⟨"0210", .empty⟩

def bytesOf (msgs : List Message) : Bytes :=
  msgs.flatMap fun msg => (Outbox.frameOf .binary msg).toOption.getD []

/-- A server with two connections. The bytes of the first one arrive in two chunks, with `between`
happening after the first chunk, and the reply is taken from the outbox and written in part. -/
def twoConnections (between : List ServerEvent) : List ServerEvent :=
  [.listen "127.0.0.1:0" (.ok "127.0.0.1:8583"), .accepted 0 "first", .accepted 0 "second",
    .pump 0 (.received ((bytesOf [purchase, notice]).take 5))] ++ between ++
    [.pump 0 (.received ((bytesOf [purchase, notice]).drop 5)), .pump 0 .wake, .pump 0 (.wrote 5)]

/-- On the second connection a request arrives in one run, and a header that announces an impossible
length in the other. -/
theorem Run.echo_separates_two_connections :
    ∃ past last other otherLast, Run (echo .localNetwork) past last ∧
      past.map (·.event) = twoConnections [.pump 1 (.received (bytesOf [purchase])), .pump 1 .wake] ∧
      Run (echo .localNetwork) other otherLast ∧
      other.map (·.event) = twoConnections [.pump 1 (.received [0, 0, 0, 0, 0, 0, 0, 0])] ∧
      AtOnce past ∧ (trafficOn 0 past).messages = [purchase, notice] ∧
      List.Forall₂ FramesReply [purchase] (trafficOn 0 past).accepted ∧
      trafficOn 0 other = trafficOn 0 past := by
  obtain ⟨past, last, run, events, messages⟩ := exists_run_of_replay (echo .localNetwork)
    (twoConnections [.pump 1 (.received (bytesOf [purchase])), .pump 1 .wake])
    (fun past => (trafficOn 0 past).messages) [purchase, notice] (by decide +kernel)
  obtain ⟨other, otherLast, otherRun, otherEvents, -⟩ := exists_run_of_replay (echo .localNetwork)
    (twoConnections [.pump 1 (.received [0, 0, 0, 0, 0, 0, 0, 0])])
    (fun past => (trafficOn 0 past).messages) [purchase, notice] (by decide +kernel)
  have atOnce : AtOnce past := by
    unfold AtOnce
    rw [events]
    simp [twoConnections]
  obtain ⟨-, -, replies, -, -, -, separate⟩ := run.echo_separates atOnce 0
  rw [messages] at replies
  refine ⟨past, last, other, otherLast, run, events, otherRun, otherEvents, atOnce, messages, replies, ?_⟩
  refine (separate otherRun ?_).1
  rw [events, otherEvents]
  rfl

end Server

end Iso8583

import Iso8583.Proofs.Server.Run
import Iso8583.Proofs.Server.Steps

/-!
# Each connection of a server by itself

What a server does on one connection depends on what happens to this connection and on nothing else. An
`Endpoint` is what a server has for one connection, and `Endpoint.step` is what an event does to it.
Every step of a server is such a step for each of its connections, so two runs that differ only in what
happens to other connections cannot be told apart on this one.
-/

namespace Iso8583

/-! ## Endpoints -/

/-- What a server has for one connection. -/
structure Endpoint where
  /-- How many connections there have been, since they are numbered. -/
  count : Nat
  channel : Option (Channel String Nat)

namespace Server

def endpoint (server : Server) (conn : Nat) : Endpoint := ⟨server.channels.length, server.channels[conn]?⟩

end Server

/-- What a step of a pump brings across its connection. -/
def PumpResult.traffic (result : PumpResult) (conn : Nat) (step : PumpStep) : Traffic where
  received := ServerEvent.receivedOn conn (.pump conn step)
  handled := handledOn conn result.effects
  accepted := result.accepted
  written := result.output.written

/-- What an event does to a connection, and what crosses the connection. -/
def Endpoint.step (codec : Codec) (handler : Handler) (conn : Nat) (endpoint : Endpoint) :
    ServerEvent → Option (Endpoint × Traffic)
  | .disconnectAll => some ({ endpoint with channel := endpoint.channel.map (·.close) }, {})
  | .accepted _ peer =>
    let channel := if endpoint.count = conn then some (Server.openChannel conn peer) else endpoint.channel
    some (⟨endpoint.count + 1, channel⟩, {})
  | .pump source step =>
    if source = conn then do
      let channel ← endpoint.channel
      let result ← channel.stepWith codec handler conn step
      return ({ endpoint with channel := some result.channel }, result.traffic conn step)
    else some (endpoint, {})
  | .answer request answer =>
    if request.conn = conn then do
      let channel ← endpoint.channel
      let (outbox, _) := Server.writeAnswer codec channel.outbox request.message answer
      return ({ endpoint with channel := some { channel with outbox := outbox } },
        { accepted := outbox.queue.drop channel.outbox.queue.length })
    else some (endpoint, {})
  | _ => some (endpoint, {})

namespace Server

variable {server after : Server} {event : ServerEvent} {effects : List ServerEffect}

/-! ## A step on one connection -/

theorem queueOf_eq_of_getElem?_eq {conn : Nat} (same : after.channels[conn]? = server.channels[conn]?) :
    after.queueOf conn = server.queueOf conn := by
  unfold queueOf
  rw [same]

theorem queueOf_of_getElem? {conn : Nat} {channel : Channel String Nat}
    (found : server.channels[conn]? = some channel) : server.queueOf conn = channel.outbox.queue := by
  unfold queueOf
  rw [found]
  rfl

theorem getElem?_of_set {conn : Nat} {before channel : Channel String Nat}
    (found : server.channels[conn]? = some before)
    (channels : after.channels = server.channels.set conn channel) :
    after.channels[conn]? = some channel := by
  rw [channels, List.getElem?_set_self (List.getElem?_eq_some_iff.1 found).1]

theorem endpoint_of_set {source : Nat} {channel : Channel String Nat} (conn : Nat)
    (channels : after.channels = server.channels.set source channel) :
    after.endpoint conn = ⟨server.channels.length, after.channels[conn]?⟩ := by
  unfold endpoint
  rw [channels, List.length_set]

theorem onceHandled_of_step (notPump : ∀ conn step, event ≠ .pump conn step)
    (taken : server.step event = some (after, effects)) : server.onceHandled event = some after := by
  cases event with
  | pump conn step => exact absurd rfl (notPump conn step)
  | _ => exact congrArg (Option.map (·.1)) taken

theorem onceHandled_pump {conn : Nat} {channel : Channel String Nat} {pumpStep : PumpStep}
    {result : PumpResult} (found : server.channels[conn]? = some channel)
    (stepped : channel.stepWith server.codec server.answers conn pumpStep = some result) :
    ∃ middle, server.onceHandled (.pump conn pumpStep) = some (server.setChannel conn middle) ∧
      result.accepted = middle.outbox.queue.drop channel.outbox.queue.length := by
  unfold Channel.stepWith at stepped
  obtain ⟨⟨read, output⟩, taken, stepped⟩ := Option.bind_eq_some_iff.1 stepped
  obtain ⟨⟨last, output'⟩, -, stepped⟩ := Option.bind_eq_some_iff.1 stepped
  cases stepped
  refine ⟨{ read with outbox := (handle server.codec server.answers conn read.outbox output.calls).1 },
    ?_, rfl⟩
  simp only [onceHandled, found, bind, Option.bind, taken]
  rfl

variable {conn : Nat}

theorem traffic_eq_empty {middle : Server} (once : server.onceHandled event = some middle)
    (same : middle.queueOf conn = server.queueOf conn) (received : event.receivedOn conn = [])
    (handled : handledOn conn effects = []) (written : writtenOn conn effects = []) :
    (⟨event, server, after, effects⟩ : ServerMoment).traffic conn = {} := by
  unfold ServerMoment.traffic
  rw [once, received, handled, written]
  dsimp only [Option.elim]
  rw [same, List.drop_length]

theorem handledOn_eq_nil (none : ∀ request results, .handled request results ∈ effects →
    request.conn ≠ conn) : handledOn conn effects = [] := by
  unfold handledOn
  rw [List.filterMap_eq_nil_iff]
  intro effect mem
  cases effect with
  | handled request results => exact if_neg (none request results mem)
  | _ => rfl

theorem writtenOn_eq_nil (none : ∀ bytes, .write conn bytes ∉ effects) :
    writtenOn conn effects = [] := by
  unfold writtenOn
  rw [List.flatMap_eq_nil_iff]
  intro effect mem
  cases effect with
  | write target bytes =>
    refine if_neg fun same => ?_
    subst same
    exact none bytes mem
  | _ => rfl

end Server

namespace PumpResult

variable {codec : Codec} {handler : Handler} {source conn : Nat} {channel : Channel String Nat}
  {step : PumpStep} {result : PumpResult}

theorem handledOn_report (result : PumpResult) (source conn : Nat) :
    handledOn conn (result.report source) = handledOn conn result.effects := by
  unfold report handledOn
  rw [List.filterMap_append, List.filterMap_append]
  split <;> split <;> exact List.append_nil _

theorem handledOn_report_of_ne (other : source ≠ conn)
    (stepped : channel.stepWith codec handler source step = some result) :
    handledOn conn (result.report source) = [] := by
  rw [handledOn_report]
  refine Server.handledOn_eq_nil fun request results mem => ?_
  obtain ⟨given, _, same, here⟩ := Channel.conn_of_mem_stepWith stepped mem
  cases same
  exact fun there => other (here.symm.trans there)

theorem writtenOn_effects (stepped : channel.stepWith codec handler source step = some result)
    (conn : Nat) : writtenOn conn result.effects = [] := by
  refine Server.writtenOn_eq_nil fun bytes mem => ?_
  obtain ⟨request, results, same, -⟩ := Channel.conn_of_mem_stepWith stepped mem
  cases same

theorem writtenOn_report (stepped : channel.stepWith codec handler source step = some result)
    (conn : Nat) :
    writtenOn conn (result.report source) = if source = conn then result.output.written else [] := by
  have append (first next : List ServerEffect) :
      writtenOn conn (first ++ next) = writtenOn conn first ++ writtenOn conn next :=
    List.flatMap_append
  have hungUp : writtenOn conn (if result.output.hungUp then [.hangUp source] else []) = [] := by
    split <;> rfl
  unfold report
  rw [append, append, writtenOn_effects stepped, hungUp, List.append_nil, List.nil_append]
  split
  · rename_i empty
    rw [List.isEmpty_iff.1 empty, ite_self]
    rfl
  · exact List.append_nil _

end PumpResult

namespace Server

variable {server after : Server} {event : ServerEvent} {effects : List ServerEffect}

theorem Sound.endpoint_disconnectAll (sound : server.Sound)
    (taken : server.step .disconnectAll = some (after, effects)) (conn : Nat) :
    (server.endpoint conn).step server.codec server.answers conn .disconnectAll =
      some (after.endpoint conn, (⟨.disconnectAll, server, after, effects⟩ : ServerMoment).traffic conn) := by
  obtain ⟨channels, -, rfl⟩ := (step_cases taken).2.2
  have here := sound.getElem?_disconnectAll conn
  rw [← channels] at here
  have length : after.channels.length = server.channels.length := by
    rw [channels, List.length_map, List.length_zipIdx]
  have queue : after.queueOf conn = server.queueOf conn := by
    unfold queueOf
    rw [here]
    cases found : server.channels[conn]? with
    | none => rfl
    | some channel =>
      change channel.close.outbox.queue = channel.outbox.queue
      unfold Channel.close
      rcases (sound conn channel found).status with running | ended
      · rw [running.status]
      · rw [ended.status]
  rw [traffic_eq_empty (onceHandled_of_step (by simp) taken) queue rfl rfl rfl]
  simp only [Endpoint.step, endpoint, length, here]

theorem endpoint_accepted {listener : Nat} {peer : String}
    (taken : server.step (.accepted listener peer) = some (after, effects)) (conn : Nat) :
    (server.endpoint conn).step server.codec server.answers conn (.accepted listener peer) =
      some (after.endpoint conn,
        (⟨.accepted listener peer, server, after, effects⟩ : ServerMoment).traffic conn) := by
  obtain ⟨channels, -, rfl⟩ := (step_cases taken).2.2
  have length : after.channels.length = server.channels.length + 1 := by
    rw [channels, List.length_append, List.length_singleton]
  have here : after.channels[conn]? = if server.channels.length = conn then
      some (openChannel conn peer) else server.channels[conn]? := by
    rw [channels, getElem?_accepted]
  have queue : after.queueOf conn = server.queueOf conn := by
    unfold queueOf
    rw [here]
    split
    · rename_i same
      rw [List.getElem?_eq_none (Nat.le_of_eq same)]
      rfl
    · rfl
  rw [traffic_eq_empty (onceHandled_of_step (by simp) taken) queue rfl rfl rfl]
  unfold endpoint
  rw [length, here]
  rfl

theorem endpoint_pump {source : Nat} {pumpStep : PumpStep}
    (taken : server.step (.pump source pumpStep) = some (after, effects)) (conn : Nat) :
    (server.endpoint conn).step server.codec server.answers conn (.pump source pumpStep) =
      some (after.endpoint conn,
        (⟨.pump source pumpStep, server, after, effects⟩ : ServerMoment).traffic conn) := by
  obtain ⟨channel, result, found, stepped, channels, -, rfl⟩ := (step_cases taken).2.2
  obtain ⟨middle, once, accepted⟩ := onceHandled_pump found stepped
  rw [endpoint_of_set conn channels]
  by_cases same : source = conn
  · -- What the handler has queued is looked for before the pump stops and empties the outbox.
    subst same
    have before := queueOf_of_getElem? found
    have between : (server.setChannel source middle).queueOf source = middle.outbox.queue :=
      queueOf_of_getElem? (getElem?_of_set found rfl)
    rw [getElem?_of_set found channels]
    unfold ServerMoment.traffic
    simp only [Endpoint.step, PumpResult.traffic, endpoint, found, bind, Option.bind, stepped, once,
      Option.elim, before, between, accepted, PumpResult.handledOn_report,
      PumpResult.writtenOn_report stepped, if_pos]
    rfl
  · have here : after.channels[conn]? = server.channels[conn]? := by
      rw [channels, List.getElem?_set_ne same]
    have between : (server.setChannel source middle).channels[conn]? = server.channels[conn]? :=
      List.getElem?_set_ne same
    have received : ServerEvent.receivedOn conn (.pump source pumpStep) = [] := by
      unfold ServerEvent.receivedOn
      split
      · rename_i chunk event
        cases event
        exact if_neg same
      · rfl
    have handled := PumpResult.handledOn_report_of_ne same stepped
    have written : writtenOn conn (result.report source) = [] := by
      rw [PumpResult.writtenOn_report stepped, if_neg same]
    rw [traffic_eq_empty once (queueOf_eq_of_getElem?_eq between) received handled written]
    simp only [Endpoint.step, if_neg same, endpoint, here]

theorem endpoint_answer {request : Request} {answer : Answer}
    (taken : server.step (.answer request answer) = some (after, effects)) (conn : Nat) :
    (server.endpoint conn).step server.codec server.answers conn (.answer request answer) =
      some (after.endpoint conn,
        (⟨.answer request answer, server, after, effects⟩ : ServerMoment).traffic conn) := by
  obtain ⟨channel, found, channels, -, result, rfl⟩ := (step_cases taken).2.2
  have once := onceHandled_of_step (by simp) taken
  rw [endpoint_of_set conn channels]
  by_cases same : request.conn = conn
  · subst same
    have here := getElem?_of_set found channels
    have before := queueOf_of_getElem? found
    have behind := queueOf_of_getElem? here
    rw [here]
    unfold ServerMoment.traffic
    simp only [Endpoint.step, endpoint, found, bind, Option.bind, once, Option.elim, before, behind,
      if_pos]
    rfl
  · have here : after.channels[conn]? = server.channels[conn]? := by
      rw [channels, List.getElem?_set_ne same]
    rw [traffic_eq_empty once (queueOf_eq_of_getElem?_eq here) rfl rfl rfl]
    simp only [Endpoint.step, if_neg same, endpoint, here]

/-- Every step of a server is, for each of its connections, the step that the event is for the connection
by itself, and brings the same across it. -/
theorem Sound.endpoint_step (sound : server.Sound)
    (taken : server.step event = some (after, effects)) (conn : Nat) :
    (server.endpoint conn).step server.codec server.answers conn event =
      some (after.endpoint conn, (⟨event, server, after, effects⟩ : ServerMoment).traffic conn) := by
  have changes := (step_cases taken).2.2
  cases event with
  | disconnectAll => exact sound.endpoint_disconnectAll taken conn
  | accepted listener peer => exact endpoint_accepted taken conn
  | pump source pumpStep => exact endpoint_pump taken conn
  | answer request answer => exact endpoint_answer taken conn
  | _ =>
    obtain ⟨channels, -, quiet⟩ := changes
    have handled : handledOn conn effects = [] := handledOn_eq_nil fun request results mem => by
      rcases quiet _ mem with ⟨result, same⟩ | ⟨listener, time, same⟩ <;> cases same
    have written : writtenOn conn effects = [] := writtenOn_eq_nil fun bytes mem => by
      rcases quiet _ mem with ⟨result, same⟩ | ⟨listener, time, same⟩ <;> cases same
    have here : after.channels[conn]? = server.channels[conn]? := by rw [channels]
    rw [traffic_eq_empty (onceHandled_of_step (by simp) taken) (queueOf_eq_of_getElem?_eq here) rfl
      handled written]
    simp only [Endpoint.step, endpoint, channels]

end Server

/-! ## Runs -/

/-- Whether an event is about a connection. Connections are accepted one after the other and asked to end
together; the rest of what concerns a connection happens to it alone. -/
def ServerEvent.concerns (conn : Nat) : ServerEvent → Bool
  | .accepted _ _ => true
  | .disconnectAll => true
  | .pump source _ => source = conn
  | .answer request _ => request.conn = conn
  | _ => false

namespace Endpoint

variable {codec : Codec} {handler : Handler} {conn : Nat} {endpoint : Endpoint}

theorem step_of_not_concerns {event : ServerEvent} (other : event.concerns conn = false) :
    endpoint.step codec handler conn event = some (endpoint, {}) := by
  cases event with
  | accepted listener peer => cases other
  | disconnectAll => cases other
  | pump source step => exact if_neg (of_decide_eq_false other)
  | answer request answer => exact if_neg (of_decide_eq_false other)
  | _ => rfl

/-- Where an event leads from an endpoint and what has crossed the connection until then. -/
def advance (codec : Codec) (handler : Handler) (conn : Nat) (place : Endpoint × Traffic)
    (event : ServerEvent) : Option (Endpoint × Traffic) :=
  (place.1.step codec handler conn event).map fun next => (next.1, place.2 ++ next.2)

theorem foldlM_filter_concerns (codec : Codec) (handler : Handler) (conn : Nat)
    (place : Endpoint × Traffic) (events : List ServerEvent) :
    (events.filter (·.concerns conn)).foldlM (advance codec handler conn) place =
      events.foldlM (advance codec handler conn) place := by
  induction events generalizing place with
  | nil => rfl
  | cons event events ih =>
    cases concerned : event.concerns conn with
    | true =>
      rw [List.filter_cons_of_pos concerned, List.foldlM_cons, List.foldlM_cons]
      exact congrArg _ (funext ih)
    | false =>
      have stays : advance codec handler conn place event = some place := by
        unfold advance
        rw [step_of_not_concerns concerned, Option.map_some, Traffic.append_empty]
      rw [List.filter_cons_of_neg (by rw [concerned]; simp), List.foldlM_cons, stays, ih]
      rfl

end Endpoint

namespace Server

variable {start last : Server} {past : List ServerMoment}

theorem Run.sound (run : Run start past last) (sound : start.Sound) :
    last.Sound ∧ last.codec = start.codec ∧ last.answers = start.answers := by
  induction run with
  | start => exact ⟨sound, rfl, rfl⟩
  | step run taken ih =>
    obtain ⟨before, codec, answers⟩ := ih
    obtain ⟨sameCodec, sameHandler, -⟩ := step_cases taken
    refine ⟨before.step taken, sameCodec.trans codec, ?_⟩
    rw [← answers]
    unfold Server.answers
    rw [sameHandler]

theorem Run.foldlM_advance (run : Run start past last) (sound : start.Sound) (conn : Nat) :
    (past.map (·.event)).foldlM (Endpoint.advance start.codec start.answers conn)
        (start.endpoint conn, {}) =
      some (last.endpoint conn, trafficOn conn past) := by
  induction run with
  | start => rfl
  | @step past server after event effects run taken ih =>
    obtain ⟨before, codec, answers⟩ := run.sound sound
    have next := before.endpoint_step taken conn
    rw [codec, answers] at next
    rw [List.map_append, List.foldlM_append, ih, trafficOn_concat]
    change (Endpoint.advance start.codec start.answers conn (server.endpoint conn, trafficOn conn past)
      event).bind some = _
    unfold Endpoint.advance
    rw [next]
    rfl

/-- Two runs in which the same happens to a connection cannot be told apart on it, whatever happens to
the others. -/
theorem Run.endpoint_eq_of_events_eq {other : List ServerMoment} {otherLast : Server}
    (run : Run start past last) (otherRun : Run start other otherLast) (sound : start.Sound) {conn : Nat}
    (same : (other.map (·.event)).filter (·.concerns conn) =
      (past.map (·.event)).filter (·.concerns conn)) :
    otherLast.endpoint conn = last.endpoint conn ∧ trafficOn conn other = trafficOn conn past := by
  have first := run.foldlM_advance sound conn
  have second := otherRun.foldlM_advance sound conn
  rw [← Endpoint.foldlM_filter_concerns] at first second
  rw [same, first] at second
  exact Prod.mk.inj (Option.some.inj second.symm)

end Server

end Iso8583

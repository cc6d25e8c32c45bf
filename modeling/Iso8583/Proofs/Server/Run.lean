import Iso8583.Server

/-!
# Runs of a server

A run is a sequence of steps, each taken by the event that comes next. What crossed a connection in a run
is read off its steps.
-/

namespace Iso8583

/-! ## Runs -/

structure ServerMoment where
  event : ServerEvent
  before : Server
  after : Server
  effects : List ServerEffect

namespace Server

/-- The steps from `start` to a server, the first one first. -/
inductive Run (start : Server) : List ServerMoment → Server → Prop where
  | start : Run start [] start
  | step {past : List ServerMoment} {server after : Server} {event : ServerEvent}
      {effects : List ServerEffect} (run : Run start past server)
      (taken : server.step event = some (after, effects)) :
      Run start (past ++ [⟨event, server, after, effects⟩]) after

theorem Run.of_append_cons {start last : Server} {past earlier later : List ServerMoment}
    {moment : ServerMoment} (run : Run start past last) (split : past = earlier ++ moment :: later) :
    Run start earlier moment.before ∧
      moment.before.step moment.event = some (moment.after, moment.effects) ∧
      Run moment.after later last := by
  induction run generalizing later with
  | start => simp at split
  | step run taken ih =>
    obtain rfl | ⟨between, final, rfl⟩ := List.eq_nil_or_concat later
    · obtain ⟨rfl, same⟩ := List.append_inj' split rfl
      cases same
      exact ⟨run, taken, .start⟩
    · rw [List.concat_eq_append, ← List.cons_append, ← List.append_assoc] at split
      obtain ⟨front, same⟩ := List.append_inj' split rfl
      cases same
      obtain ⟨before, here, rest⟩ := ih front
      rw [List.concat_eq_append]
      exact ⟨before, here, .step rest taken⟩

def replay (server : Server) : List ServerEvent → Option (List ServerMoment × Server)
  | [] => some ([], server)
  | event :: rest => do
    let (after, effects) ← server.step event
    let (moments, last) ← after.replay rest
    return (⟨event, server, after, effects⟩ :: moments, last)

theorem run_of_replay {start server last : Server} {past moments : List ServerMoment}
    {events : List ServerEvent} (run : Run start past server)
    (replayed : server.replay events = some (moments, last)) : Run start (past ++ moments) last := by
  induction events generalizing past server moments with
  | nil =>
    cases replayed
    rw [List.append_nil]
    exact run
  | cons event events ih =>
    obtain ⟨⟨after, effects⟩, taken, replayed⟩ := Option.bind_eq_some_iff.1 replayed
    obtain ⟨⟨rest, final⟩, later, replayed⟩ := Option.bind_eq_some_iff.1 replayed
    cases replayed
    have whole := ih (.step run taken) later
    rw [List.append_assoc] at whole
    exact whole

theorem map_event_of_replay {server last : Server} {moments : List ServerMoment}
    {events : List ServerEvent} (replayed : server.replay events = some (moments, last)) :
    moments.map (·.event) = events := by
  induction events generalizing server moments with
  | nil =>
    cases replayed
    rfl
  | cons event events ih =>
    obtain ⟨⟨after, effects⟩, -, replayed⟩ := Option.bind_eq_some_iff.1 replayed
    obtain ⟨⟨rest, final⟩, later, replayed⟩ := Option.bind_eq_some_iff.1 replayed
    cases replayed
    exact congrArg (event :: ·) (ih later)

theorem exists_run_of_replay {α : Type} (start : Server) (events : List ServerEvent)
    (seen : List ServerMoment → α) (result : α)
    (replayed : (start.replay events).map (fun run => seen run.1) = some result) :
    ∃ past last, Run start past last ∧ past.map (·.event) = events ∧ seen past = result := by
  obtain ⟨⟨past, last⟩, taken, same⟩ := Option.map_eq_some_iff.1 replayed
  exact ⟨past, last, run_of_replay .start taken, map_event_of_replay taken, same⟩

/-- The frames that wait in the outbox of a connection. -/
def queueOf (server : Server) (conn : Nat) : List Bytes :=
  (server.channels[conn]?).elim [] (·.outbox.queue)

/-- The server at the point of a step where the handler is done. A pump that has read a header it cannot
pass over stops only after that, and empties its outbox. -/
def onceHandled (server : Server) : ServerEvent → Option Server
  | .pump conn step => do
    let channel ← server.channels[conn]?
    let (channel, output) ← channel.step server.codec.decode step
    let handler := server.handler.getD fun _ => []
    let (outbox, _) := handle server.codec handler conn channel.outbox output.calls
    return server.setChannel conn { channel with outbox := outbox }
  | event => (server.step event).map (·.1)

end Server

/-! ## Traffic -/

structure Traffic where
  /-- The bytes that were read. -/
  received : Bytes := []
  /-- The requests that the handler was given, with the results of its answers. -/
  handled : List (Request × List (Except ServerError Unit)) := []
  /-- The frames that entered the outbox. -/
  accepted : List Bytes := []
  /-- The bytes that were written. -/
  written : Bytes := []

namespace Traffic

instance : Append Traffic where
  append first next :=
    ⟨first.received ++ next.received, first.handled ++ next.handled, first.accepted ++ next.accepted,
      first.written ++ next.written⟩

@[simp]
theorem received_append (first next : Traffic) :
    (first ++ next).received = first.received ++ next.received := rfl

@[simp]
theorem handled_append (first next : Traffic) :
    (first ++ next).handled = first.handled ++ next.handled := rfl

@[simp]
theorem accepted_append (first next : Traffic) :
    (first ++ next).accepted = first.accepted ++ next.accepted := rfl

@[simp]
theorem written_append (first next : Traffic) :
    (first ++ next).written = first.written ++ next.written := rfl

@[simp]
theorem append_empty (traffic : Traffic) : traffic ++ ({} : Traffic) = traffic := by
  obtain ⟨received, handled, accepted, written⟩ := traffic
  change (⟨received ++ [], handled ++ [], accepted ++ [], written ++ []⟩ : Traffic) = _
  simp only [List.append_nil]

end Traffic

/-- The requests of a connection among some effects, with the results of their answers. -/
def handledOn (conn : Nat) (effects : List ServerEffect) :
    List (Request × List (Except ServerError Unit)) :=
  effects.filterMap fun
    | .handled request results => if request.conn = conn then some (request, results) else none
    | _ => none

def writtenOn (conn : Nat) (effects : List ServerEffect) : Bytes :=
  effects.flatMap fun
    | .write target bytes => if target = conn then bytes else []
    | _ => []

def ServerEvent.receivedOn (conn : Nat) : ServerEvent → Bytes
  | .pump source (.received chunk) => if source = conn then chunk else []
  | _ => []

/-- What crosses a connection in this step. A frame has entered the outbox if it stands there behind the
frames that were there before. -/
def ServerMoment.traffic (moment : ServerMoment) (conn : Nat) : Traffic where
  received := moment.event.receivedOn conn
  handled := handledOn conn moment.effects
  accepted := ((moment.before.onceHandled moment.event).elim [] (·.queueOf conn)).drop
    (moment.before.queueOf conn).length
  written := writtenOn conn moment.effects

def trafficOn (conn : Nat) (past : List ServerMoment) : Traffic :=
  past.foldl (fun traffic moment => traffic ++ moment.traffic conn) {}

theorem trafficOn_concat (conn : Nat) (past : List ServerMoment) (moment : ServerMoment) :
    trafficOn conn (past ++ [moment]) = trafficOn conn past ++ moment.traffic conn := by
  unfold trafficOn
  rw [List.foldl_append]
  rfl

end Iso8583

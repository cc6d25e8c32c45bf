import Iso8583.Codec.Binary
import Iso8583.Proofs.Server.Endpoint

/-!
# The registry of a server

The registry lists the connections whose pumps run. An event accepts one connection, ends one, or leaves
the registry alone; closing a server and letting it listen again are among the events that leave it alone.
-/

namespace Iso8583

/-- Whether a connection has been accepted and its pump has not stopped. -/
def Server.serves (server : Server) (conn : Nat) : Bool := (server.channels[conn]?).any (·.pump.isAlive)

namespace ServerMoment

/-- The connection that is accepted in this step. -/
def opened? (moment : ServerMoment) : Option Nat :=
  match moment.event with
  | .accepted _ _ => some moment.before.channels.length
  | _ => none

/-- The connection whose disconnect callback is called in this step. -/
def disconnected? (moment : ServerMoment) : Option Nat :=
  match moment.event with
  | .pump conn step => do
    let channel ← moment.before.channels[conn]?
    let result ← channel.stepWith moment.before.codec moment.before.answers conn step
    result.output.disconnected.map (·.callback)
  | _ => none

/-- Nothing is accepted, and nothing stops. -/
structure Quiet (moment : ServerMoment) : Prop where
  opened : moment.opened? = none
  disconnected : moment.disconnected? = none
  count : moment.after.channels.length = moment.before.channels.length
  registry : moment.after.registry = moment.before.registry
  serves : ∀ conn, moment.after.serves conn = moment.before.serves conn

/-- A connection is accepted under a number that no connection had before. -/
structure Opens (moment : ServerMoment) : Prop where
  opened : moment.opened? = some moment.before.channels.length
  disconnected : moment.disconnected? = none
  count : moment.after.channels.length = moment.before.channels.length + 1
  registry : moment.after.registry = moment.before.registry ++ [moment.before.channels.length]
  serves : ∀ conn, moment.after.serves conn =
    (moment.before.serves conn || conn == moment.before.channels.length)

/-- The pump of a connection stops. The registry loses this connection and no other. -/
structure Ends (moment : ServerMoment) (conn : Nat) : Prop where
  opened : moment.opened? = none
  disconnected : moment.disconnected? = some conn
  count : moment.after.channels.length = moment.before.channels.length
  served : moment.before.serves conn = true
  registered : conn ∈ moment.before.registry
  registry : moment.after.registry = moment.before.registry.filter (· ≠ conn)
  serves : ∀ other, moment.after.serves other = (decide (other ≠ conn) && moment.before.serves other)

/-- What each event does to the registry. -/
def Accounted (moment : ServerMoment) : Prop :=
  match moment.event with
  | .accepted _ _ => moment.Opens
  | .pump conn _ => if moment.after.serves conn then moment.Quiet else moment.Ends conn
  | _ => moment.Quiet

theorem Accounted.cases {moment : ServerMoment} (accounted : moment.Accounted) :
    moment.Quiet ∨ moment.Opens ∨ ∃ conn, moment.Ends conn := by
  unfold Accounted at accounted
  split at accounted
  · exact .inr (.inl accounted)
  · split at accounted
    · exact .inl accounted
    · exact .inr (.inr ⟨_, accounted⟩)
  · exact .inl accounted

theorem Accounted.mono {moment : ServerMoment} (accounted : moment.Accounted) :
    moment.before.channels.length ≤ moment.after.channels.length ∧
      ∀ conn < moment.before.channels.length,
        moment.after.serves conn = true → moment.before.serves conn = true := by
  obtain quiet | opens | ⟨gone, ends⟩ := accounted.cases
  · exact ⟨Nat.le_of_eq quiet.count.symm, fun conn _ served => (quiet.serves conn).symm.trans served⟩
  · refine ⟨by have := opens.count; omega, fun conn old served => ?_⟩
    simpa [opens.serves, Nat.ne_of_lt old] using served
  · refine ⟨Nat.le_of_eq ends.count.symm, fun conn _ served => ?_⟩
    rw [ends.serves] at served
    exact (Bool.and_eq_true_iff.1 served).2

end ServerMoment

theorem Channel.shutdown_stepWith {codec : Codec} {handler : Handler} {conn : Nat}
    {channel : Channel String Nat} {step : PumpStep} {result : PumpResult}
    (taken : channel.stepWith codec handler conn step = some result)
    (alive : result.channel.pump.isAlive = true) : result.channel.shutdown = channel.shutdown := by
  obtain ⟨-, closes | goes⟩ := stepWith_cases taken
  · rw [closes.ended.pump] at alive
    cases alive
  · exact goes.shutdown

namespace Server

variable {server after : Server} {event : ServerEvent} {effects : List ServerEffect} {conn : Nat}

/-! ## A step -/

theorem serves_set {source : Nat} {before channel : Channel String Nat}
    (found : server.channels[source]? = some before)
    (channels : after.channels = server.channels.set source channel) (conn : Nat) :
    after.serves conn = if source = conn then channel.pump.isAlive else server.serves conn := by
  unfold serves
  rw [channels, List.getElem?_set]
  split
  · rename_i same
    subst same
    rw [if_pos (List.getElem?_eq_some_iff.1 found).1]
    rfl
  · rfl

theorem serves_of_getElem? {channel : Channel String Nat}
    (found : server.channels[conn]? = some channel) : server.serves conn = channel.pump.isAlive := by
  unfold serves
  rw [found]
  rfl

theorem lt_length_of_serves (served : server.serves conn = true) : conn < server.channels.length := by
  unfold serves at served
  cases found : server.channels[conn]? with
  | none => simp [found] at served
  | some channel => exact (List.getElem?_eq_some_iff.1 found).1

theorem Sound.accounted_pump {pumpStep : PumpStep} (sound : server.Sound)
    (taken : server.step (.pump conn pumpStep) = some (after, effects)) :
    (⟨.pump conn pumpStep, server, after, effects⟩ : ServerMoment).Accounted := by
  obtain ⟨-, -, channel, result, found, stepped, channels, registry, -⟩ := step_cases taken
  have attached := sound conn channel found
  obtain ⟨alive, ends⟩ := Channel.stepWith_cases stepped
  have running := attached.running_of_alive alive
  have serves := serves_set found channels
  have served := serves_of_getElem? found
  have disconnected : (⟨.pump conn pumpStep, server, after, effects⟩ : ServerMoment).disconnected? =
      result.output.disconnected.map (·.callback) := by
    simp [ServerMoment.disconnected?, found, stepped]
  have count : after.channels.length = server.channels.length := by simp [channels]
  simp only [ServerMoment.Accounted, serves conn, if_true]
  obtain closes | goes := ends
  · rw [closes.ended.pump]
    obtain ⟨id, name⟩ := Option.isSome_iff_exists.1 running.onDisconnected
    obtain rfl := attached.named id name
    rw [closes.disconnected, name] at registry disconnected
    refine ⟨rfl, disconnected, count, served.trans alive, attached.registered running, registry, ?_⟩
    intro other
    rw [serves other]
    split
    · rename_i same
      subst same
      simp [closes.ended.pump, Pump.isAlive]
    · rename_i apart
      simp [Ne.symm apart]
  · rw [goes.pump]
    rw [goes.disconnected, Option.map_none] at registry disconnected
    refine ⟨rfl, disconnected, count, registry, fun other => ?_⟩
    rw [serves other]
    split
    · rename_i same
      subst same
      rw [served, alive, goes.pump]
    · rfl

/-- Each event accepts one connection, ends one, or leaves the registry alone. -/
theorem Sound.accounted (sound : server.Sound) (taken : server.step event = some (after, effects)) :
    (⟨event, server, after, effects⟩ : ServerMoment).Accounted := by
  have changes := (step_cases taken).2.2
  cases event with
  | disconnectAll =>
    obtain ⟨channels, registry, -⟩ := changes
    refine ⟨rfl, rfl, by simp [channels], registry, fun conn => ?_⟩
    unfold serves
    rw [channels, sound.getElem?_disconnectAll, Option.any_map]
    simp only [Channel.pump_close]
  | accepted listener peer =>
    obtain ⟨channels, registry, -⟩ := changes
    refine ⟨rfl, rfl, by simp [channels], registry, fun conn => ?_⟩
    unfold serves
    rw [channels, getElem?_accepted]
    split
    · rename_i same
      subst same
      simp [openChannel, Pump.isAlive]
    · rename_i apart
      simp [Ne.symm apart]
  | pump conn pumpStep => exact sound.accounted_pump taken
  | answer request answer =>
    obtain ⟨channel, found, channels, registry, -⟩ := changes
    refine ⟨rfl, rfl, by simp [channels], registry, fun conn => ?_⟩
    rw [serves_set found channels]
    split
    · rename_i same
      subst same
      exact (serves_of_getElem? found).symm
    · rfl
  | _ =>
    obtain ⟨channels, registry, -⟩ := changes
    refine ⟨rfl, rfl, congrArg List.length channels, registry, fun conn => ?_⟩
    unfold serves
    rw [channels]

/-! ## A run -/

variable {start last : Server} {past earlier later : List ServerMoment} {moment : ServerMoment}

theorem Run.accounted (run : Run start past last) (sound : start.Sound) (mem : moment ∈ past) :
    moment.Accounted := by
  obtain ⟨earlier, later, split⟩ := List.append_of_mem mem
  obtain ⟨before, taken, -⟩ := run.of_append_cons split
  exact (before.sound sound).1.accounted taken

/-- What a server's registry and the numbers of its connections say about its past. -/
structure Kept (past : List ServerMoment) (server : Server) : Prop where
  opened : past.filterMap (·.opened?) = List.range server.channels.length
  registry : server.registry = (List.range server.channels.length).filter server.serves
  disconnected : ∀ conn, (past.filterMap (·.disconnected?)).count conn =
    if conn < server.channels.length ∧ server.serves conn = false then 1 else 0

namespace Kept

theorem quiet (kept : Kept past moment.before) (quiet : moment.Quiet) :
    Kept (past ++ [moment]) moment.after := by
  have serves : moment.after.serves = moment.before.serves := funext quiet.serves
  refine ⟨?_, ?_, ?_⟩
  · simp [List.filterMap_append, quiet.opened, kept.opened, quiet.count]
  · rw [quiet.registry, quiet.count, serves, kept.registry]
  · simpa [List.filterMap_append, quiet.disconnected, quiet.count, serves] using kept.disconnected

theorem opens (kept : Kept past moment.before) (opens : moment.Opens) :
    Kept (past ++ [moment]) moment.after := by
  refine ⟨?_, ?_, ?_⟩
  · simp [List.filterMap_append, opens.opened, kept.opened, opens.count, List.range_succ]
  · have old : ∀ conn ∈ List.range moment.before.channels.length,
        moment.after.serves conn = moment.before.serves conn := by
      intro conn inside
      have := List.mem_range.1 inside
      simp [opens.serves, Nat.ne_of_lt this]
    rw [opens.registry, opens.count, List.range_succ, List.filter_append, List.filter_congr old,
      kept.registry]
    simp [opens.serves]
  · -- The new connection runs, and its number has not been called before.
    intro conn
    have before := kept.disconnected conn
    simp only [List.filterMap_append, List.filterMap_cons, opens.disconnected, List.filterMap_nil,
      List.append_nil, before, opens.count, opens.serves]
    grind

theorem ends (kept : Kept past moment.before) {conn : Nat} (ends : moment.Ends conn) :
    Kept (past ++ [moment]) moment.after := by
  refine ⟨?_, ?_, ?_⟩
  · simp [List.filterMap_append, ends.opened, kept.opened, ends.count]
  · rw [ends.registry, ends.count, kept.registry, List.filter_filter]
    refine List.filter_congr fun other _ => ?_
    exact (ends.serves other).symm
  · -- The connection ran until now, so this is its first call.
    intro other
    have before := kept.disconnected other
    have inside := lt_length_of_serves ends.served
    have served := ends.served
    simp only [List.filterMap_append, List.filterMap_cons, ends.disconnected, List.filterMap_nil,
      List.count_append, before, ends.count, ends.serves]
    grind

theorem step (kept : Kept past moment.before) (accounted : moment.Accounted) :
    Kept (past ++ [moment]) moment.after := by
  obtain quiet | opens | ⟨conn, ends⟩ := accounted.cases
  · exact kept.quiet quiet
  · exact kept.opens opens
  · exact kept.ends ends

theorem mem_registry_iff {conn : Nat} (kept : Kept past server) :
    conn ∈ server.registry ↔ server.serves conn = true := by
  rw [kept.registry, List.mem_filter, List.mem_range]
  exact ⟨And.right, fun served => ⟨lt_length_of_serves served, served⟩⟩

end Kept

theorem sound_fresh (config : ServerConfig) (codec : Codec) (handler : Option Handler) :
    ({ config, codec, handler } : Server).Sound := by
  intro conn channel found
  cases found

theorem Run.kept {config : ServerConfig} {codec : Codec} {handler : Option Handler}
    (run : Run { config, codec, handler } past last) : Kept past last := by
  induction run with
  | start => exact ⟨rfl, rfl, fun conn => by simp⟩
  | step run taken ih =>
    exact ih.step ((run.sound (sound_fresh config codec handler)).1.accounted taken)

theorem Run.serves_mono (run : Run start past last) (sound : start.Sound) :
    start.channels.length ≤ last.channels.length ∧
      ∀ conn < start.channels.length, last.serves conn = true → start.serves conn = true := by
  induction run with
  | start => exact ⟨Nat.le_refl _, fun _ _ served => served⟩
  | step run taken ih =>
    obtain ⟨grown, ran⟩ := ih
    obtain ⟨count, serves⟩ := ((run.sound sound).1.accounted taken).mono
    refine ⟨Nat.le_trans grown count, fun conn old served => ran conn old ?_⟩
    exact serves conn (Nat.lt_of_lt_of_le old grown) served

/-! ## Requests to shut down -/

/-- If the pump of a connection runs, a request to shut down is stored for it. -/
def Asked (server : Server) (conn : Nat) : Prop :=
  ∀ channel, server.channels[conn]? = some channel → channel.pump.isAlive = true →
    channel.shutdown = true

theorem Sound.asked_disconnectAll (sound : server.Sound)
    (taken : server.step .disconnectAll = some (after, effects)) (conn : Nat) : after.Asked conn := by
  obtain ⟨-, -, channels, -⟩ := step_cases taken
  intro channel found alive
  rw [channels, sound.getElem?_disconnectAll] at found
  obtain ⟨before, held, rfl⟩ := Option.map_eq_some_iff.1 found
  rw [Channel.pump_close] at alive
  have running := (sound conn before held).running_of_alive alive
  unfold Channel.close
  rw [running.status]

theorem Asked.step (asked : server.Asked conn) (sound : server.Sound)
    (old : conn < server.channels.length) (taken : server.step event = some (after, effects)) :
    after.Asked conn := by
  have changes := (step_cases taken).2.2
  intro channel found alive
  cases event with
  | disconnectAll => exact sound.asked_disconnectAll taken conn channel found alive
  | accepted listener peer =>
    rw [changes.1, getElem?_accepted, if_neg (Nat.ne_of_gt old)] at found
    exact asked channel found alive
  | pump source pumpStep =>
    obtain ⟨before, result, held, stepped, channels, -⟩ := changes
    rw [channels, List.getElem?_set] at found
    split at found
    · rename_i same
      subst same
      rw [if_pos old] at found
      cases found
      rw [Channel.shutdown_stepWith stepped alive]
      exact asked before held (Channel.stepWith_cases stepped).1
    · exact asked channel found alive
  | answer request answer =>
    obtain ⟨before, held, channels, -⟩ := changes
    rw [channels, List.getElem?_set] at found
    split at found
    · rename_i same
      subst same
      rw [if_pos old] at found
      cases found
      exact asked before held alive
    · exact asked channel found alive
  | _ =>
    rw [changes.1] at found
    exact asked channel found alive

theorem Run.asked (run : Run start past last) (sound : start.Sound) (old : conn < start.channels.length)
    (asked : start.Asked conn) : last.Asked conn := by
  induction run with
  | start => exact asked
  | step run taken ih =>
    have count := (run.serves_mono sound).1
    exact ih.step (run.sound sound).1 (Nat.lt_of_lt_of_le old count) taken

theorem exists_step_shutDown {channel : Channel String Nat} (found : server.channels[conn]? = some channel)
    (waiting : channel.pump = .waiting) (stored : channel.shutdown = true) :
    ∃ after effects, server.step (.pump conn .shutDown) = some (after, effects) := by
  suffices (server.step (.pump conn .shutDown)).isSome by
    obtain ⟨⟨after, effects⟩, taken⟩ := Option.isSome_iff_exists.1 this
    exact ⟨after, effects, taken⟩
  simp [step, stepPump, found, Channel.step, waiting, stored]

theorem serves_of_shutDown (taken : server.step (.pump conn .shutDown) = some (after, effects)) :
    after.serves conn = false := by
  obtain ⟨-, -, channel, result, found, stepped, channels, -⟩ := step_cases taken
  rw [serves_set found channels, if_pos rfl]
  obtain ⟨stepped, -⟩ := Channel.stepWith_of_not_received (by simp) stepped
  simp only [Channel.step, Option.ite_none_right_eq_some, Option.some.injEq] at stepped
  have stopped := congrArg Prod.fst stepped.2
  simp only at stopped
  rw [← stopped]
  rfl

theorem Run.gone_of_shutDown (run : Run start past last) (sound : start.Sound) (mem : moment ∈ past)
    (event : moment.event = .pump conn .shutDown) :
    conn < last.channels.length ∧ last.serves conn = false := by
  obtain ⟨earlier, later, split⟩ := List.append_of_mem mem
  obtain ⟨before, taken, rest⟩ := run.of_append_cons split
  have accounted := run.accounted sound mem
  rw [event] at taken
  have stopped := serves_of_shutDown taken
  simp only [ServerMoment.Accounted, event, stopped, Bool.false_eq_true, if_false] at accounted
  have old := lt_length_of_serves accounted.served
  rw [← accounted.count] at old
  obtain ⟨count, serves⟩ := rest.serves_mono ((before.sound sound).1.step taken)
  refine ⟨Nat.lt_of_lt_of_le old count, Bool.eq_false_iff.2 fun served => ?_⟩
  rw [serves conn old served] at stopped
  cases stopped

/-! ## The registry -/

variable {config : ServerConfig} {codec : Codec} {handler : Option Handler}

/-- A connection that is asked to end stays registered only until its pump takes the request. -/
theorem Run.leaves_of_disconnectAll (run : Run { config, codec, handler } past last)
    (split : past = earlier ++ ⟨.disconnectAll, server, after, effects⟩ :: later)
    (registered : conn ∈ server.registry) :
    (conn ∈ last.registry → ∃ channel, last.channels[conn]? = some channel ∧
      channel.shutdown = true ∧ (channel.pump = .waiting →
        ∃ after effects, last.step (.pump conn .shutDown) = some (after, effects))) ∧
      ((∃ moment ∈ later, moment.event = .pump conn .shutDown) →
        conn ∉ last.registry ∧ (past.filterMap (·.disconnected?)).count conn = 1) := by
  obtain ⟨before, taken, rest⟩ := run.of_append_cons split
  have sound := (before.sound (sound_fresh config codec handler)).1
  have kept := run.kept
  constructor
  · intro still
    have served := kept.mem_registry_iff.1 still
    have old := lt_length_of_serves (before.kept.mem_registry_iff.1 registered)
    rw [← (sound.accounted taken).count] at old
    have asked := rest.asked (sound.step taken) old (sound.asked_disconnectAll taken conn)
    have found := List.getElem?_eq_getElem (lt_length_of_serves served)
    rw [serves_of_getElem? found] at served
    have stored := asked _ found served
    exact ⟨_, found, stored, fun waiting => exists_step_shutDown found waiting stored⟩
  · rintro ⟨moment, mem, event⟩
    obtain ⟨old, gone⟩ := rest.gone_of_shutDown (sound.step taken) mem event
    refine ⟨fun still => ?_, ?_⟩
    · rw [kept.mem_registry_iff, gone] at still
      cases still
    · rw [kept.disconnected conn, if_pos ⟨old, gone⟩]

/-- The registry lists the connections that were accepted and whose pumps have not stopped. No two
connections have one number, each calls its disconnect callback once, when it stops, and every event does
to the registry what it should. Those that were registered when all were asked to end leave the registry
with the request: it stays stored, and a pump that waits can take it. -/
theorem Run.registry_exact (run : Run { config, codec, handler } past last) :
    let opened := past.filterMap (·.opened?)
    let disconnected := past.filterMap (·.disconnected?)
    last.registry = opened.filter last.serves ∧ opened.Nodup ∧
      (∀ conn, disconnected.count conn = if conn ∈ opened ∧ conn ∉ last.registry then 1 else 0) ∧
      (∀ moment ∈ past, moment.Accounted) ∧
      ∀ earlier server after effects later,
        past = earlier ++ ⟨.disconnectAll, server, after, effects⟩ :: later →
        effects = [.disconnecting server.registry.length] ∧ ∀ conn ∈ server.registry,
          (conn ∈ last.registry → ∃ channel, last.channels[conn]? = some channel ∧
            channel.shutdown = true ∧ (channel.pump = .waiting →
              ∃ after effects, last.step (.pump conn .shutDown) = some (after, effects))) ∧
          ((∃ moment ∈ later, moment.event = .pump conn .shutDown) →
            conn ∉ last.registry ∧ disconnected.count conn = 1) := by
  have kept := run.kept
  refine ⟨?_, ?_, ?_, ?_, ?_⟩
  · rw [kept.opened]
    exact kept.registry
  · rw [kept.opened]
    exact List.nodup_range
  · intro conn
    simp only [kept.disconnected conn, kept.opened, kept.mem_registry_iff, List.mem_range,
      Bool.not_eq_true]
  · exact fun moment mem => run.accounted (sound_fresh config codec handler) mem
  · intro earlier server after effects later split
    obtain ⟨-, taken, -⟩ := run.of_append_cons split
    exact ⟨(step_cases taken).2.2.2.2, fun conn => run.leaves_of_disconnectAll split⟩

/-- A server listens, is closed and listens again, while its connections end for two reasons. -/
def reopened : List ServerEvent :=
  [.listen "127.0.0.1:0" (.ok "127.0.0.1:8583"), .accepted 0 "first", .accepted 0 "second", .close,
    .listenerShutDown 0, .closingDone, .listen "127.0.0.1:0" (.ok "127.0.0.1:8583"), .accepted 1 "third",
    .pump 0 .endOfStream, .disconnectAll, .pump 1 .shutDown]

/-- The second connection is gone with its request, and the third one has yet to take its own. -/
theorem Run.registry_exact_after_reopening : ∃ past last,
    Run { config := .localNetwork, codec := .binary, handler := some fun _ => [.respond] } past last ∧
      past.map (·.event) = reopened ∧ past.filterMap (·.opened?) = [0, 1, 2] ∧
      last.registry = [0, 1, 2].filter last.serves ∧ 1 ∉ last.registry ∧
      (past.filterMap (·.disconnected?)).count 1 = 1 := by
  obtain ⟨past, last, run, events, seen⟩ := exists_run_of_replay
    { config := .localNetwork, codec := .binary, handler := some fun _ => [.respond] } reopened
    (fun past => (past.filterMap (·.opened?), past.map (·.before.registry)))
    ([0, 1, 2], [[], [], [0], [0, 1], [0, 1], [0, 1], [0, 1], [0, 1], [0, 1, 2], [1, 2], [1, 2]])
    (by decide +kernel)
  obtain ⟨opened, registries⟩ := Prod.mk.inj seen
  obtain ⟨registry, -, -, -, leaves⟩ := run.registry_exact
  rw [opened] at registry
  obtain ⟨earlier, rest, split, front, back⟩ := List.map_eq_append_iff.1
    (events.trans (List.take_append_drop 9 reopened).symm)
  obtain ⟨⟨event, server, after, effects⟩, later, rfl, rfl, final⟩ := List.map_eq_cons_iff.1 back
  obtain ⟨moment, rfl, shutDown⟩ := List.map_eq_singleton_iff.1 final
  have nine : earlier.length = 9 := by simpa [reopened] using congrArg List.length front
  have place : (past.map (·.before.registry))[9]? = some server.registry := by simp [split, ← nine]
  rw [registries] at place
  have registered : server.registry = [1, 2] := (Option.some.inj place).symm
  obtain ⟨-, leaves⟩ := leaves earlier server after effects [moment] split
  exact ⟨past, last, run, events, opened, registry,
    (leaves 1 (by simp [registered])).2 ⟨moment, List.mem_singleton_self moment, shutDown⟩⟩

end Server

end Iso8583

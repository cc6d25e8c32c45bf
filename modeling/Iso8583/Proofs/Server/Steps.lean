import Iso8583.Proofs.Server.Handling

/-!
# What a server does in a step

Every event is looked at once, for what it does to the connections of a server. A channel that a server
keeps either runs, and can be found among those that will be asked to end, or is over.
-/

namespace Iso8583

namespace Server

def openChannel (conn : Nat) (peer : String) : Channel String Nat :=
  { newChannel conn peer with status := .live, outbox := { status := .bound }, pump := .waiting }

end Server

/-! ## What holds of every channel -/

/-- A channel as a server keeps it: it runs and can be found among those to be asked to end, or it is
over. -/
structure Attached (registry : List Nat) (conn : Nat) (channel : Channel String Nat) : Prop where
  status : channel.Running ∨ channel.Over
  named : ∀ id, channel.onDisconnected = some id → id = conn
  registered : channel.Running → conn ∈ registry

namespace Attached

variable {registry : List Nat} {conn : Nat} {channel : Channel String Nat}

theorem openChannel (registry : List Nat) (conn : Nat) (peer : String) :
    Attached (registry ++ [conn]) conn (Server.openChannel conn peer) where
  status := .inl ⟨rfl, rfl, rfl, rfl, rfl⟩
  named _ name := (Option.some.inj name).symm
  registered _ := by simp

theorem close (attached : Attached registry conn channel) : Attached registry conn channel.close := by
  have name : channel.close.onDisconnected = channel.onDisconnected := by
    unfold Channel.close
    cases channel.status <;> rfl
  refine ⟨attached.status.imp (·.close) (·.close), by rw [name]; exact attached.named, ?_⟩
  intro running
  rcases attached.status with before | ended
  · exact attached.registered before
  · exact absurd running ended.close.not_running

/-- Asking only those channels that have not ended comes to asking all of them. -/
theorem close_eq (attached : Attached registry conn channel) :
    (if registry.contains conn then channel.close else channel) = channel.close := by
  split
  · rfl
  · rename_i missing
    rcases attached.status with running | ended
    · exact absurd (List.contains_iff_mem.2 (attached.registered running)) missing
    · unfold Channel.close
      rw [ended.status]

theorem withOutbox (attached : Attached registry conn channel) {outbox : Outbox}
    (same : outbox.status = channel.outbox.status) :
    Attached registry conn { channel with outbox := outbox } := by
  refine ⟨?_, attached.named, ?_⟩
  · rcases attached.status with running | ended
    · exact .inl ⟨running.status, same.trans running.outbox, running.onDisconnected, running.released,
        running.pump⟩
    · exact .inr ⟨ended.status, ended.released, ended.pump⟩
  · intro running
    exact attached.registered
      ⟨running.status, same.symm.trans running.outbox, running.onDisconnected, running.released,
        running.pump⟩

theorem mono {more : List Nat} (attached : Attached registry conn channel)
    (keeps : conn ∈ registry → conn ∈ more) : Attached more conn channel :=
  ⟨attached.status, attached.named, fun running => keeps (attached.registered running)⟩

theorem running_of_alive (attached : Attached registry conn channel)
    (alive : channel.pump.isAlive = true) : channel.Running := by
  rcases attached.status with running | ended
  · exact running
  · rw [ended.pump] at alive
    cases alive

theorem stepWith {codec : Codec} {handler : Handler} {step : PumpStep} {result : PumpResult}
    (attached : Attached registry conn channel)
    (stepped : channel.stepWith codec handler conn step = some result) :
    Attached ((result.output.disconnected.map (·.callback)).elim registry fun id => registry.filter (· ≠ id)) conn
      result.channel := by
  obtain ⟨alive, closes | goes⟩ := Channel.stepWith_cases stepped
  · refine ⟨.inr closes.ended, ?_, fun running => absurd running closes.ended.not_running⟩
    intro id name
    rw [closes.onDisconnected] at name
    cases name
  · have running := attached.running_of_alive alive
    rw [goes.disconnected, Option.map_none]
    refine ⟨.inl (running.goesOn goes), ?_, fun _ => attached.registered running⟩
    rw [goes.onDisconnected]
    exact attached.named

theorem mem_of_stepWith {codec : Codec} {handler : Handler} {step : PumpStep} {result : PumpResult}
    {other : Nat} (attached : Attached registry conn channel)
    (stepped : channel.stepWith codec handler conn step = some result) (apart : other ≠ conn)
    (mem : other ∈ registry) :
    other ∈ (result.output.disconnected.map (·.callback)).elim registry fun id => registry.filter (· ≠ id) := by
  obtain ⟨-, closes | goes⟩ := Channel.stepWith_cases stepped
  · rw [closes.disconnected]
    cases name : channel.onDisconnected with
    | none => exact mem
    | some id =>
      rw [attached.named id name]
      exact List.mem_filter.2 ⟨mem, decide_eq_true apart⟩
  · rw [goes.disconnected, Option.map_none]
    exact mem

end Attached

def Server.Sound (server : Server) : Prop :=
  ∀ conn channel, server.channels[conn]? = some channel → Attached server.registry conn channel

/-! ## What a step of a server does -/

namespace Server

variable {server after : Server} {event : ServerEvent} {effects : List ServerEffect}

/-- Effects that are not about a connection. -/
def AboutListeners (effects : List ServerEffect) : Prop :=
  ∀ effect ∈ effects, (∃ result, effect = .returned result) ∨
    ∃ listener time, effect = .sleepListener listener time

/-- What an event does to the connections of a server. -/
def Changes (server after : Server) (effects : List ServerEffect) : ServerEvent → Prop
  | .disconnectAll =>
    after.channels = server.channels.zipIdx.map (fun entry =>
        if server.registry.contains entry.2 then entry.1.close else entry.1) ∧
      after.registry = server.registry ∧ effects = [.disconnecting server.registry.length]
  | .accepted _ peer =>
    after.channels = server.channels ++ [openChannel server.channels.length peer] ∧
      after.registry = server.registry ++ [server.channels.length] ∧ effects = []
  | .pump conn step => ∃ channel result, server.channels[conn]? = some channel ∧
    channel.stepWith server.codec server.answers conn step = some result ∧
      after.channels = server.channels.set conn result.channel ∧
      after.registry = (result.output.disconnected.map (·.callback)).elim server.registry
        (fun id => server.registry.filter (· ≠ id)) ∧
      effects = result.report conn
  | .answer request answer => ∃ channel, server.channels[request.conn]? = some channel ∧
    after.channels = server.channels.set request.conn { channel with
      outbox := (writeAnswer server.codec channel.outbox request.message answer).1 } ∧
      after.registry = server.registry ∧ ∃ result, effects = [.answered result]
  | _ => after.channels = server.channels ∧ after.registry = server.registry ∧ AboutListeners effects

theorem shutListener_eq (server : Server) :
    ∃ listeners, server.shutListener = { server with listeners := listeners } := by
  unfold shutListener
  split
  · exact ⟨_, rfl⟩
  · exact ⟨server.listeners, rfl⟩

theorem step_cases (taken : server.step event = some (after, effects)) :
    after.codec = server.codec ∧ after.handler = server.handler ∧ Changes server after effects event := by
  cases event with
  | listen address result =>
    obtain ⟨listeners, shut⟩ := server.shutListener_eq
    simp only [step, startListener, shut] at taken
    split at taken
    · cases taken
      exact ⟨rfl, rfl, rfl, rfl, by simp [AboutListeners]⟩
    · split at taken <;> cases taken <;> exact ⟨rfl, rfl, rfl, rfl, by simp [AboutListeners]⟩
  | close =>
    obtain ⟨listeners, shut⟩ := server.shutListener_eq
    simp only [step, shut] at taken
    split at taken <;> cases taken <;> exact ⟨rfl, rfl, rfl, rfl, by simp [AboutListeners]⟩
  | closingDone =>
    simp only [step] at taken
    split at taken
    · split at taken <;> cases taken
      exact ⟨rfl, rfl, rfl, rfl, by simp [AboutListeners]⟩
    · cases taken
  | drop =>
    obtain ⟨listeners, shut⟩ := server.shutListener_eq
    simp only [step, shut] at taken
    cases taken
    exact ⟨rfl, rfl, rfl, rfl, by simp [AboutListeners]⟩
  | listenerShutDown listener | acceptFailed listener | listenerSlept listener =>
    simp only [step] at taken
    split at taken <;> cases taken
    exact ⟨rfl, rfl, rfl, rfl, by simp [AboutListeners]⟩
  | accepted listener peer =>
    simp only [step] at taken
    split at taken <;> cases taken
    exact ⟨rfl, rfl, rfl, rfl, rfl⟩
  | disconnectAll =>
    cases taken
    exact ⟨rfl, rfl, rfl, rfl, rfl⟩
  | pump conn pumpStep =>
    obtain ⟨channel, result, found, stepped, rfl, rfl⟩ := stepPump_cases taken
    refine ⟨?_, ?_, channel, result, found, stepped, ?_, ?_, rfl⟩
    all_goals
      unfold takeOutput
      cases result.output.disconnected <;> rfl
  | answer request answer =>
    obtain ⟨channel, found, taken⟩ := Option.bind_eq_some_iff.1 taken
    cases taken
    exact ⟨rfl, rfl, channel, found, rfl, rfl, _, rfl⟩

theorem Sound.getElem?_disconnectAll (sound : server.Sound) (conn : Nat) :
    (server.channels.zipIdx.map (fun entry =>
        if server.registry.contains entry.2 then entry.1.close else entry.1))[conn]? =
      server.channels[conn]?.map (·.close) := by
  rw [List.getElem?_map, List.getElem?_zipIdx]
  cases found : server.channels[conn]? with
  | none => rfl
  | some channel =>
    simp only [Option.map_some, Nat.zero_add, Option.some.injEq]
    exact (sound conn channel found).close_eq

theorem getElem?_accepted {channels : List (Channel String Nat)} {conn : Nat} {peer : String} :
    (channels ++ [openChannel channels.length peer])[conn]? =
      if channels.length = conn then some (openChannel conn peer) else channels[conn]? := by
  split
  · rename_i same
    subst same
    exact List.getElem?_concat_length
  · rename_i other
    rcases Nat.lt_or_gt_of_ne other with behind | before
    · rw [List.getElem?_eq_none (Nat.le_of_lt behind), List.getElem?_eq_none]
      rw [List.length_append]
      exact behind
    · exact List.getElem?_append_left before

theorem Sound.step (sound : server.Sound) (taken : server.step event = some (after, effects)) :
    after.Sound := by
  obtain ⟨-, -, changes⟩ := step_cases taken
  intro conn channel found
  cases event with
  | disconnectAll =>
    obtain ⟨channels, registry, -⟩ := changes
    rw [channels, sound.getElem?_disconnectAll] at found
    obtain ⟨before, held, rfl⟩ := Option.map_eq_some_iff.1 found
    rw [registry]
    exact (sound conn before held).close
  | accepted listener peer =>
    obtain ⟨channels, registry, -⟩ := changes
    rw [channels, getElem?_accepted] at found
    rw [registry]
    split at found
    · rename_i same
      subst same
      cases found
      exact .openChannel server.registry server.channels.length peer
    · exact (sound conn channel found).mono fun mem => List.mem_append_left _ mem
  | pump source pumpStep =>
    obtain ⟨before, result, held, stepped, channels, registry, -⟩ := changes
    have attached := sound source before held
    rw [channels, List.getElem?_set] at found
    rw [registry]
    split at found
    · rename_i same
      subst same
      split at found
      · cases found
        exact attached.stepWith stepped
      · cases found
    · rename_i other
      exact (sound conn channel found).mono (attached.mem_of_stepWith stepped (fun same => other same.symm))
  | answer request answer =>
    obtain ⟨before, held, channels, registry, -⟩ := changes
    rw [channels, List.getElem?_set] at found
    rw [registry]
    split at found
    · rename_i same
      subst same
      split at found
      · cases found
        exact (sound request.conn before held).withOutbox (status_writeAnswer _ _ _ _)
      · cases found
    · exact sound conn channel found
  | _ =>
    obtain ⟨channels, registry, -⟩ := changes
    rw [channels] at found
    rw [registry]
    exact sound conn channel found

end Server

end Iso8583

import Iso8583.Proofs.Client.Connections
import Iso8583.Proofs.Client.Correlation
import Iso8583.Proofs.Framing.RoundTrip
import Iso8583.Proofs.Keys.Stamp
import Iso8583.Proofs.Server.Echo
import Mathlib.Data.List.Pairwise

/-!
# A client and a server that answers everything at once

Each connection of a client leads to one of a server. Both take their steps in any order, and what one end
reads comes next in what the other end wrote. Connections may end at any time, and the rest is lost then.
Still a call that gets a reply gets the one to its own request.
-/

namespace Iso8583

/-! ## Keys -/

/-- Whether two messages have different keys, if they have keys at all. -/
def KeyFields.Apart (fields : KeyFields) (first second : Message) : Prop :=
  ∀ key, fields.keyFor first = .ok key → fields.keyFor second ≠ .ok key

instance (fields : KeyFields) : Std.Symm fields.Apart :=
  ⟨fun _ _ apart key second first => apart key first second⟩

def requestsIn {ι : Type} (entries : List (Entry ι)) : List Message :=
  entries.filterMap fun
    | .asked _ request => some request
    | _ => none

/-- Whether all requests have different keys, and none has the key of a handshake. -/
structure DistinctKeys {ι : Type} [DecidableEq ι] (fields : KeyFields) (past : List (Moment ι)) : Prop where
  requests : (requestsIn (journal past)).Pairwise fields.Apart
  handshakes : ∀ request ∈ requestsIn (journal past), ∀ handshake ∈ past.filterMap Moment.greeting?,
    fields.Apart request handshake

variable {ι : Type} [DecidableEq ι]

/-! ## Both ends -/

omit [DecidableEq ι] in
theorem ClientEvent.receivedOn_cases (event : ClientEvent ι) (conn : Nat) :
    event.receivedOn conn = [] ∨ ∃ chunk, event = .pump conn (.received chunk) := by
  cases event with
  | pump source step =>
    by_cases here : source = conn
    · subst here
      cases step with
      | received chunk => exact .inr ⟨chunk, rfl⟩
      | _ => exact .inl (if_pos rfl)
    · exact .inl (if_neg here)
  | _ => exact .inl rfl

theorem ServerEvent.receivedOn_cases (event : ServerEvent) (conn : Nat) :
    event.receivedOn conn = [] ∨ ∃ chunk, event = .pump conn (.received chunk) := by
  cases event with
  | pump source step =>
    cases step with
    | received chunk =>
      by_cases here : source = conn
      · exact .inr ⟨chunk, by rw [here]⟩
      · exact .inl (if_neg here)
    | _ => exact .inl rfl
  | _ => exact .inl rfl

/-- A client and a server, with the steps that they have taken. -/
structure Ends (ι : Type) where
  past : List (Moment ι) := []
  client : Client ι
  served : List ServerMoment := []
  server : Server

/-- The connection of the server to which each connection of the client leads. -/
abbrev Wiring := Nat → Option Nat

namespace Ends

def fresh (config : ClientConfig) (serverConfig : ServerConfig) : Ends ι :=
  { client := .new config .binary, server := .echo serverConfig }

/-- What the server has written for a connection of the client. -/
def answered (ends : Ends ι) (wire : Wiring) (conn : Nat) : Bytes :=
  (wire conn).elim [] fun source => (trafficOn source ends.served).written

/-- Whether the client reads in an event only what comes next for it. -/
def Reaches (ends : Ends ι) (wire : Wiring) : ClientEvent ι → Prop
  | .pump conn (.received chunk) => (crossingOn conn ends.past).received ++ chunk <+: ends.answered wire conn
  | _ => True

/-- Whether the server reads in an event only what comes next for it. What it reads from others than the
client is up to them. No request is kept to be answered later. -/
def Serves (ends : Ends ι) (wire : Wiring) : ServerEvent → Prop
  | .pump source (.received chunk) => ∀ conn, wire conn = some source →
    (trafficOn source ends.served).received ++ chunk <+: (crossingOn conn ends.past).written
  | .answer _ _ => False
  | _ => True

end Ends

/-- Steps of the client and of the server in any order. -/
inductive Exchange (wire : Wiring) (start : Ends ι) : Ends ι → Prop where
  | start : Exchange wire start start
  | client {ends : Ends ι} {now : Duration} {event : ClientEvent ι} {after : Client ι}
      {effects : List (ClientEffect ι)} (run : Exchange wire start ends) (reaches : ends.Reaches wire event)
      (taken : ends.client.step now event = some (after, effects)) :
      Exchange wire start
        { ends with past := ends.past ++ [⟨now, event, ends.client, after, effects⟩], client := after }
  | server {ends : Ends ι} {event : ServerEvent} {after : Server} {effects : List ServerEffect}
      (run : Exchange wire start ends) (serves : ends.Serves wire event)
      (taken : ends.server.step event = some (after, effects)) :
      Exchange wire start
        { ends with served := ends.served ++ [⟨event, ends.server, after, effects⟩], server := after }

/-- Each end has run by itself, and has read a part of what the other end wrote. -/
structure Joined (config : ClientConfig) (serverConfig : ServerConfig) (wire : Wiring) (ends : Ends ι) :
    Prop where
  client : Client.Run (.new config .binary) ends.past ends.client
  server : Server.Run (.echo serverConfig) ends.served ends.server
  atOnce : Server.AtOnce ends.served
  toClient : ∀ conn, (crossingOn conn ends.past).received <+: ends.answered wire conn
  toServer : ∀ conn source, wire conn = some source →
    (trafficOn source ends.served).received <+: (crossingOn conn ends.past).written

variable {config : ClientConfig} {serverConfig : ServerConfig} {wire : Wiring} {ends : Ends ι}

theorem Exchange.joined (run : Exchange wire (.fresh config serverConfig) ends) :
    Joined config serverConfig wire ends := by
  induction run with
  | start =>
    exact ⟨.start, .start, by simp [Server.AtOnce, Ends.fresh], fun conn => List.nil_prefix,
      fun conn source wired => List.nil_prefix⟩
  | client run reaches taken ih =>
    rename_i ends now event after effects
    refine ⟨.step ih.client taken, ih.server, ih.atOnce, fun conn => ?_, fun conn source wired => ?_⟩
    · change (crossingOn conn (ends.past ++ _)).received <+: ends.answered wire conn
      rw [crossingOn_concat, Crossing.received_append]
      obtain nothing | ⟨chunk, rfl⟩ := event.receivedOn_cases conn
      · simpa [Moment.crossing, nothing] using ih.toClient conn
      · have next : (crossingOn conn ends.past).received ++ chunk <+: ends.answered wire conn := reaches
        simpa [Moment.crossing, ClientEvent.receivedOn, PumpStep.chunk] using next
    · change _ <+: (crossingOn conn (ends.past ++ _)).written
      rw [crossingOn_concat, Crossing.written_append]
      exact (ih.toServer conn source wired).trans (List.prefix_append _ _)
  | server run serves taken ih =>
    rename_i ends event after effects
    refine ⟨ih.client, .step ih.server taken, ?_, fun conn => ?_, fun conn source wired => ?_⟩
    · intro other mem request answer
      rw [List.map_append] at mem
      obtain before | now := List.mem_append.1 mem
      · exact ih.atOnce other before request answer
      · rintro rfl
        cases List.mem_singleton.1 now
        exact serves
    · refine (ih.toClient conn).trans ?_
      unfold Ends.answered
      cases wire conn with
      | none => exact List.prefix_rfl
      | some source =>
        dsimp only [Option.elim]
        rw [trafficOn_concat, Traffic.written_append]
        exact List.prefix_append _ _
    · change (trafficOn source (ends.served ++ _)).received <+: _
      rw [trafficOn_concat, Traffic.received_append]
      obtain nothing | ⟨chunk, rfl⟩ := event.receivedOn_cases source
      · simpa [ServerMoment.traffic, nothing] using ih.toServer conn source wired
      · have next := serves conn wired
        simpa [ServerMoment.traffic, ServerEvent.receivedOn] using next

/-! ## What the client sends -/

/-- All requests and handshakes. -/
def outgoing (past : List (Moment ι)) : List Message :=
  requestsIn (journal past) ++ past.filterMap Moment.greeting?

omit [DecidableEq ι] in
theorem mem_requestsIn {entries : List (Entry ι)} {request : Message} :
    request ∈ requestsIn entries ↔ ∃ id, .asked id request ∈ entries := by
  unfold requestsIn
  rw [List.mem_filterMap]
  constructor
  · rintro ⟨entry, mem, same⟩
    cases entry <;> cases same
    exact ⟨_, mem⟩
  · rintro ⟨id, mem⟩
    exact ⟨_, mem, rfl⟩

theorem requestsIn_of_requestOf {entries : List (Entry ι)} {id : ι} {request : Message}
    (asked : requestOf entries id = some request) : request ∈ requestsIn entries := by
  obtain ⟨entry, mem, same⟩ := List.exists_of_findSome?_eq_some asked
  cases entry with
  | asked caller other =>
    simp only [Option.ite_none_right_eq_some, Option.some.injEq] at same
    exact mem_requestsIn.2 ⟨caller, same.2 ▸ List.mem_reverse.1 mem⟩
  | _ => cases same

theorem outgoing_concat {past : List (Moment ι)} {msg : Message} (mem : msg ∈ outgoing past)
    (moment : Moment ι) : msg ∈ outgoing (past ++ [moment]) := by
  simp only [outgoing, requestsIn, journal, List.flatMap_append, List.filterMap_append,
    List.mem_append] at mem ⊢
  obtain asked | greeted := mem
  · exact .inl (.inl asked)
  · exact .inr (.inl greeted)

namespace Client

variable {past : List (Moment ι)} {client after : Client ι} {now : Duration} {event : ClientEvent ι}
  {effects : List (ClientEffect ι)} {msg : Message} {conn : Nat}

theorem Run.asked_of_sends (run : Run (.new config .binary) past client)
    (sends : client.sends? event = some msg) :
    msg ∈ requestsIn (journal (past ++ [⟨now, event, client, after, effects⟩])) := by
  rw [journal_concat, mem_requestsIn]
  cases event with
  | send id request timeout =>
    cases sends
    exact ⟨id, by simp [Moment.entries, Moment.asked]⟩
  | awaitActive id timeout next =>
    simp only [sends?, Option.ite_none_right_eq_some] at sends
    obtain ⟨-, rfl⟩ := sends
    exact ⟨id, by simp [Moment.entries, Moment.asked]⟩
  | callSlept id ok =>
    cases ok with
    | false => cases sends
    | true =>
      simp only [sends?] at sends
      split at sends
      · rename_i timeout poll next standing
        obtain ⟨-, rfl⟩ := Option.ite_none_right_eq_some.1 sends
        have correlated := run.acts.correlated (fun _ _ => Codec.decode_of_receives (.inl rfl))
          (correlated_new config .binary)
        obtain ⟨caller, mem⟩ :=
          mem_requestsIn.1 (requestsIn_of_requestOf (correlated.serving id _ standing))
        exact ⟨caller, List.mem_append_left _ mem⟩
      · cases sends
  | _ => cases sends

theorem Run.outgoing_of_accepted (run : Run (.new config .binary) past client) (conn : Nat) :
    ∃ msgs, List.Forall₂ (fun msg frame => Outbox.frameOf .binary msg = .ok frame) msgs
      (crossingOn conn past).accepted ∧ ∀ msg ∈ msgs, msg ∈ outgoing past := by
  induction run with
  | start => exact ⟨[], .nil, by simp⟩
  | step run taken ih =>
    rename_i past client after now event effects
    obtain ⟨msgs, framed, sent⟩ := ih
    have accepts := (run_of_step taken conn).1
    have codec : client.codec = .binary := run.acts.keeps.2
    have older (msg : Message) (mem : msg ∈ msgs) := outgoing_concat (sent msg mem)
      ⟨now, event, client, after, effects⟩
    have one {msg : Message} {frame : Bytes} (made : Outbox.frameOf client.codec msg = .ok frame)
        (newer : msg ∈ outgoing (past ++ [⟨now, event, client, after, effects⟩])) :
        ∃ msgs, List.Forall₂ (fun msg frame => Outbox.frameOf .binary msg = .ok frame) msgs
          ((crossingOn conn past).accepted ++ [frame]) ∧
          ∀ msg ∈ msgs, msg ∈ outgoing (past ++ [⟨now, event, client, after, effects⟩]) := by
      refine ⟨msgs ++ [msg], List.rel_append framed (.cons (codec ▸ made) .nil), fun other mem => ?_⟩
      obtain before | now := List.mem_append.1 mem
      · exact older other before
      · cases List.mem_singleton.1 now
        exact newer
    rw [crossingOn_concat, Crossing.accepted_append]
    generalize (Moment.crossing ⟨now, event, client, after, effects⟩ conn).accepted = accepted at accepts
    cases accepts with
    | nothing =>
      rw [List.append_nil]
      exact ⟨msgs, framed, older⟩
    | request sends current made =>
      exact one made (List.mem_append_left _ (run.asked_of_sends sends))
    | greeting joins newest made =>
      subst joins
      exact one made (List.mem_append_right _ (by simp [Moment.greeting?]))

end Client

/-! ## What is read -/

theorem messages_of_frames {codec : Codec} (known : codec = .binary ∨ codec = .json)
    {msgs : List Message} {frames : List Bytes}
    (framed : List.Forall₂ (fun msg frame => Outbox.frameOf codec msg = .ok frame) msgs frames) :
    (cutFrames codec.decode frames.flatten).messages = msgs := by
  induction framed with
  | nil =>
    rw [List.flatten_nil, cutFrames_of_none rfl]
    rfl
  | cons made framed ih =>
    rw [List.flatten_cons, cutFrames_frameOf known made]
    exact congrArg (_ :: ·) ih

theorem mem_of_read {stream : Bytes} {msgs : List Message} {frames : List Bytes} {msg : Message}
    (framed : List.Forall₂ (fun msg frame => Outbox.frameOf .binary msg = .ok frame) msgs frames)
    (part : stream <+: frames.flatten)
    (read : msg ∈ (cutFrames Codec.binary.decode stream).messages) : msg ∈ msgs := by
  obtain ⟨more, whole⟩ := part
  have messages := messages_cutFrames_append Codec.binary.decode stream more
  rw [whole, messages_of_frames (.inl rfl) framed] at messages
  exact messages.subset read

/-- Whether a message is the reply to another one, which is a request. -/
def Message.Answers (reply request : Message) : Prop :=
  request.isRequest = true ∧ AnswersMti request.mti reply.mti ∧ reply.fields = request.fields

theorem replies_of_frames {requests : List Message} {frames : List Bytes}
    (framed : List.Forall₂ FramesReply (requests.filter Message.isRequest) frames) :
    ∃ replies, List.Forall₂ (fun msg frame => Outbox.frameOf .binary msg = .ok frame) replies frames ∧
      ∀ reply ∈ replies, ∃ request ∈ requests, reply.Answers request := by
  generalize same : requests.filter Message.isRequest = answered at framed
  have inside : ∀ request ∈ answered, request ∈ requests ∧ request.isRequest = true := by
    rw [← same]
    exact fun request => List.mem_filter.1
  clear same
  induction framed with
  | nil => exact ⟨[], .nil, by simp⟩
  | cons frames framed ih =>
    obtain ⟨replies, made, answers⟩ := ih fun request mem => inside request (List.mem_cons_of_mem _ mem)
    obtain ⟨reply, mti, fields, bytes⟩ := frames
    obtain ⟨mem, isRequest⟩ := inside _ List.mem_cons_self
    exact ⟨reply :: replies, .cons bytes made,
      List.forall_mem_cons.2 ⟨⟨_, mem, isRequest, mti, fields⟩, answers⟩⟩

namespace Joined

theorem answers_of_read (joined : Joined config serverConfig wire ends) {conn : Nat} {reply : Message}
    (read : .message () reply ∈ (crossingOn conn ends.past).calls) :
    ∃ request ∈ outgoing ends.past, reply.Answers request := by
  have hears := (joined.client.channel conn).hears (Channel.carries_fresh _ _ _) rfl
  rw [hears.calls] at read
  obtain ⟨arrival, arrived, called⟩ := List.mem_filterMap.1 read
  have read : reply ∈ (cutFrames Codec.binary.decode (crossingOn conn ends.past).received).messages := by
    refine List.mem_filterMap.2 ⟨arrival, arrived, ?_⟩
    cases arrival <;> cases called
    rfl
  have part := joined.toClient conn
  unfold Ends.answered at part
  cases wired : wire conn with
  | none =>
    rw [wired, Option.elim_none, List.prefix_nil] at part
    rw [part, cutFrames_of_none rfl] at read
    cases read
  | some source =>
    rw [wired, Option.elim_some] at part
    -- The server wrote only replies to what it read, and it read only what the client sent.
    have echoes := joined.server.echoes joined.atOnce source
    have written := echoes.written fun channel found =>
      ((joined.server.sound (Server.sound_echo serverConfig)).1 source channel found).status
    obtain ⟨replies, framed, answers⟩ := replies_of_frames echoes.replies
    obtain ⟨request, mem, answer⟩ := answers reply (mem_of_read framed (part.trans written) read)
    rw [echoes.messages] at mem
    obtain ⟨msgs, sent, among⟩ := joined.client.outgoing_of_accepted conn
    have carries := (joined.client.channel conn).carries (Channel.carries_fresh _ _ _)
    have heard := (joined.toServer conn source wired).trans carries.written
    exact ⟨request, among request (mem_of_read sent heard mem), answer⟩

end Joined

/-! ## Every exchange -/

/-- If all requests have different keys, and none has the key of a handshake, a call that gets a reply
asked with what is a request by its type indicator. The reply has exactly the fields of this request, and
its indicator with the next third digit. -/
theorem reply_echoes_request (run : Exchange wire (.fresh config serverConfig) ends)
    (distinct : DistinctKeys config.keyFields ends.past) {n : Nat} {id : ι} {reply : Message}
    (ended : (journal ends.past)[n]? = some (.ended id (.replied reply))) :
    ∃ request, requestOf ((journal ends.past).take n) id = some request ∧ request.isRequest = true ∧
      AnswersMti request.mti reply.mti ∧ reply.fields = request.fields := by
  have joined := run.joined
  have correlated : Correlated config.keyFields .binary (journal ends.past) ends.client.desk :=
    joined.client.acts.correlated (fun _ _ => Codec.decode_of_receives (.inl rfl))
      (Client.correlated_new config .binary)
  obtain ⟨key, i, msg, named, rests, same⟩ := correlated.taken n _ ended trivial
  obtain rfl := same id reply rfl
  unfold keyAt at named
  rw [ended, Option.bind_some] at named
  obtain ⟨request, asked, keyed⟩ := Option.bind_eq_some_iff.1 named
  have keyed : config.keyFields.keyFor request = .ok key := by
    cases found : config.keyFields.keyFor request <;> rw [found] at keyed <;> cases keyed
    rfl
  have among : request ∈ requestsIn (journal ends.past) := by
    obtain ⟨caller, mem⟩ := mem_requestsIn.1 (requestsIn_of_requestOf asked)
    exact mem_requestsIn.2 ⟨caller, List.mem_of_mem_take mem⟩
  -- The reply was read from a connection, and answers something that was sent.
  obtain ⟨moment, mem, recorded⟩ := List.mem_flatMap.1 (List.mem_of_getElem? rests.recorded)
  obtain ⟨conn, step, channel, -, -, -, heard⟩ := Client.read_of_recorded recorded
  obtain ⟨other, sent, isRequest, mti, fields⟩ :=
    joined.answers_of_read (mem_calls_crossingOn.2 ⟨moment, mem, heard⟩)
  have under : config.keyFields.keyFor other = .ok key :=
    (KeyFields.keyOf_congr fields.symm config.keyFields.ids).trans rests.keyed
  obtain sent | greeted := List.mem_append.1 sent
  · obtain rfl : request = other := by
      refine Decidable.byContradiction fun different => ?_
      exact distinct.requests.forall among sent different key keyed under
    exact ⟨request, asked, isRequest, mti, fields⟩
  · exact absurd under (distinct.handshakes request among other greeted key keyed)

/-! ## Exchanges from lists of steps -/

inductive Turn (ι : Type) where
  | client (now : Duration) (event : ClientEvent ι)
  | server (event : ServerEvent)

namespace Ends

/-- Whether the client reads in an event only what comes next for it, if each connection leads to the one
of its number. -/
def mayReach (ends : Ends ι) : ClientEvent ι → Bool
  | .pump conn (.received chunk) =>
    ((crossingOn conn ends.past).received ++ chunk).isPrefixOf (trafficOn conn ends.served).written
  | _ => true

def mayServe (ends : Ends ι) : ServerEvent → Bool
  | .pump conn (.received chunk) =>
    ((trafficOn conn ends.served).received ++ chunk).isPrefixOf (crossingOn conn ends.past).written
  | .answer _ _ => false
  | _ => true

def take (ends : Ends ι) : Turn ι → Option (Ends ι)
  | .client now event =>
    if ends.mayReach event then
      (ends.client.step now event).map fun (after, effects) =>
        { ends with past := ends.past ++ [⟨now, event, ends.client, after, effects⟩], client := after }
    else none
  | .server event =>
    if ends.mayServe event then
      (ends.server.step event).map fun (after, effects) =>
        { ends with served := ends.served ++ [⟨event, ends.server, after, effects⟩], server := after }
    else none

omit [DecidableEq ι] in
theorem reaches_of_mayReach {event : ClientEvent ι} (may : ends.mayReach event = true) :
    ends.Reaches some event := by
  cases event with
  | pump conn step =>
    cases step with
    | received chunk => exact List.isPrefixOf_iff_prefix.1 may
    | _ => trivial
  | _ => trivial

omit [DecidableEq ι] in
theorem serves_of_mayServe {event : ServerEvent} (may : ends.mayServe event = true) :
    ends.Serves some event := by
  cases event with
  | pump conn step =>
    cases step with
    | received chunk =>
      rintro source ⟨⟩
      exact List.isPrefixOf_iff_prefix.1 may
    | _ => trivial
  | answer request answer => cases may
  | _ => trivial

theorem exchange_of_take {start last : Ends ι} {turn : Turn ι} (run : Exchange some start ends)
    (taken : ends.take turn = some last) : Exchange some start last := by
  cases turn with
  | client now event =>
    obtain ⟨may, taken⟩ := Option.ite_none_right_eq_some.1 taken
    obtain ⟨⟨after, effects⟩, stepped, rfl⟩ := Option.map_eq_some_iff.1 taken
    exact run.client (reaches_of_mayReach may) stepped
  | server event =>
    obtain ⟨may, taken⟩ := Option.ite_none_right_eq_some.1 taken
    obtain ⟨⟨after, effects⟩, stepped, rfl⟩ := Option.map_eq_some_iff.1 taken
    exact run.server (serves_of_mayServe may) stepped

theorem exchange_of_turns {start last : Ends ι} {turns : List (Turn ι)} (run : Exchange some start ends)
    (taken : turns.foldlM take ends = some last) : Exchange some start last := by
  induction turns generalizing ends with
  | nil =>
    cases taken
    exact run
  | cons turn turns ih =>
    rw [List.foldlM_cons] at taken
    obtain ⟨next, first, rest⟩ := Option.bind_eq_some_iff.1 taken
    exact ih (exchange_of_take run first) rest

end Ends

/-- A message goes from the client to the server, which reads its first bytes by themselves, and the reply
comes back. -/
def roundTrip (msg reply : Message) : List (Turn Nat) :=
  let bytes := Server.bytesOf [msg]
  let answer := Server.bytesOf [reply]
  [.client ⟨2⟩ (.pump 0 .wake), .client ⟨2⟩ (.pump 0 (.wrote bytes.length)), .client ⟨2⟩ (.pump 0 .flushed),
    .server (.pump 0 (.received (bytes.take 5))), .server (.pump 0 (.received (bytes.drop 5))),
    .server (.pump 0 .wake), .server (.pump 0 (.wrote answer.length)), .server (.pump 0 .flushed),
    .client ⟨3⟩ (.pump 0 (.received answer))]

theorem reply_echoes_request_in_round_trip : ∃ ends : Ends Nat,
    Exchange some (.fresh (.localNetwork "peer") .localNetwork) ends ∧ DistinctKeys .default ends.past ∧
      (journal ends.past)[6]? = some (.ended 7 (.replied (keyedMessage "0210" "a"))) ∧
      AnswersMti "0200" "0210" := by
  obtain ⟨ends, taken, seen⟩ : ∃ ends : Ends Nat,
      List.foldlM Ends.take (.fresh (.localNetwork "peer") .localNetwork)
        ([.server (.listen "127.0.0.1:0" (.ok "127.0.0.1:8583")), .client ⟨0⟩ .attempt,
            .server (.accepted 0 "peer"), .client ⟨1⟩ (.connected fun _ => "h")] ++
          roundTrip (keyedMessage "2800" "h") (keyedMessage "2810" "h") ++
          [.client ⟨4⟩ (.sessionSlept true),
            .client ⟨5⟩ (.send 7 (keyedMessage "0200" "a") (.ofSeconds 1))] ++
          roundTrip (keyedMessage "0200" "a") (keyedMessage "0210" "a") ++
          [Turn.client ⟨6⟩ (.callSlept 7 true)]) = some ends ∧
        (journal ends.past, ends.past.filterMap Moment.greeting?) =
          (exchanged ++ [.checked 7, .ended 7 (.replied (keyedMessage "0210" "a"))],
            [keyedMessage "2800" "h"]) :=
    Option.map_eq_some_iff.1 (by decide +kernel)
  obtain ⟨shape, greetings⟩ := Prod.mk.inj seen
  have run : Exchange some _ ends := Ends.exchange_of_turns .start taken
  have asked : requestsIn (journal ends.past) = [keyedMessage "0200" "a"] := by
    rw [shape]
    rfl
  have distinct : DistinctKeys .default ends.past := by
    constructor
    · rw [asked]
      exact List.pairwise_singleton ..
    · rw [asked, greetings]
      intro request mem handshake greeted key first second
      rw [List.mem_singleton] at mem greeted
      subst mem greeted
      have keys : KeyFields.default.keyFor (keyedMessage "0200" "a") ≠
          KeyFields.default.keyFor (keyedMessage "2800" "h") := by decide +kernel
      exact keys (first.trans second.symm)
  have ended : (journal ends.past)[6]? = some (.ended 7 (.replied (keyedMessage "0210" "a"))) := by
    rw [shape]
    rfl
  obtain ⟨request, same, -, answers, -⟩ := reply_echoes_request run distinct ended
  rw [shape] at same
  cases same
  exact ⟨ends, run, distinct, ended, answers⟩

end Iso8583

import Iso8583.CommandLine
import Iso8583.Simulation.ClientRun

/-!
# The command line on a virtual clock

How calls of the program end that need nobody at the other end.
-/

namespace Iso8583.Simulation

open CommandLine

/-- What a probe tells. -/
structure ProbeReport where
  /-- Why the session did not become active, if it did not. -/
  failure : Option ClientError := none
  replies : List Message := []
  deriving DecidableEq

def ProbeReport.ending (report : ProbeReport) : Ending :=
  match report.failure with
  | some error => .failed (probeLine error)
  | none => { exitCode := 0 }

/-- Sends `count` requests, one after the other, the first of them with a given number. -/
def sendProbes : (count number : Nat) → ClientRun → List Message × ClientRun
  | 0, _, run => ([], run)
  | count + 1, number, run =>
    let request := probeRequest number (uuidText (1 <<< 60 + number))
    let (result, run) :=
      run.await "probe" (.send "probe" request run.client.config.responseTimeout)
    let (replies, run) := sendProbes count (number + 1) run
    match result with
    | some (.replied msg) => (msg :: replies, run)
    | _ => (replies, run)

/-- Waits for an active session and sends the requests. -/
def ClientRun.probe (run : ClientRun) (count : Nat) : ProbeReport :=
  let run := run.start
  let timeout := run.client.config.whenActiveTimeout
  match run.await "probe" (.awaitActive "probe" timeout none) with
  | (some (.failed error), _) => { failure := some error }
  | (_, run) => { replies := (sendProbes count 0 run).1 }

def Network.probe (network : Network) (address : String) (count : Nat) : ProbeReport :=
  let run : ClientRun :=
    { client := .new (probeConfig address) .binary, peerCodec := .binary, network := network }
  run.probe count

/-- How a call with the given arguments ends, if it does by itself. -/
def Network.ending? (network : Network) (args : List String) : Option Ending :=
  match Command.ofArgs args with
  | .error error => some (.failed (countLine error))
  | .ok .usage => some { exitCode := 0, stdout := usage }
  | .ok (.serve address) =>
    match Endpoint.ofText address with
    | .error reason => some (.failed (serverLine (.bind address reason)))
    | .ok _ => none
  | .ok (.probe address count) => some (network.probe address count).ending

end Iso8583.Simulation

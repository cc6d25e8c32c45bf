import Iso8583.Config
import Iso8583.Codec.Binary

/-!
# The command line

`serve` runs an echo server; `probe` waits for an active session and sends requests; anything else
shows how to use the program. What the program prints is here, and what it sends.
-/

namespace Iso8583.CommandLine

/-! ## Arguments -/

/-- What the program is asked to do. -/
inductive Command where
  | usage
  | serve (address : String)
  | probe (address : String) (count : Nat)
  deriving DecidableEq, Repr

def defaultAddress : String := "127.0.0.1:8583"

/-- How many requests a probe sends unless told otherwise. -/
def defaultCount : Nat := 5

/-- The command that the arguments give: the mode, the address and the count. A count that is no number
of 32 bits is refused whatever the mode. -/
def Command.ofArgs (args : List String) : Except Text.NumberError Command := do
  let count ← match args[2]? with
    | none => pure defaultCount
    | some text => Text.readNat UInt32.size text
  let address := args[1]?.getD defaultAddress
  match args[0]? with
  | some "serve" => return .serve address
  | some "probe" => return .probe address count
  | _ => return .usage

def usage : String :=
  "isolink: ISO-8583 session tools\n\n" ++
  "Usage:\n" ++
  "  isolink serve [addr]           # Echo server (default " ++ defaultAddress ++ ")\n" ++
  "  isolink probe [addr] [count]   # Send count echo requests\n" ++
  "\nDefault count: " ++ toString defaultCount ++ "\n"

/-- The line that reports a count that is no number. -/
def countLine (error : Text.NumberError) : String := "Invalid count: " ++ error.message ++ "\n"

/-! ## Serving -/

/-- A host and a port. -/
structure Endpoint where
  host : String
  port : Nat
  deriving DecidableEq, Repr

/-- The endpoint that an address names: the port stands behind the last colon. -/
def Endpoint.ofText (address : String) : Except String Endpoint :=
  let chars := address.toList.reverse
  match chars.dropWhile (· ≠ ':') with
  | [] => .error "invalid socket address"
  | _ :: host =>
    match Text.readNat UInt16.size (String.ofList (chars.takeWhile (· ≠ ':')).reverse) with
    | .ok port => .ok ⟨String.ofList host.reverse, port⟩
    | .error _ => .error "invalid port value"

/-- The line that reports why the server does not serve. -/
def serverLine (error : ServerError) : String := "Server error: " ++ error.message ++ "\n"

/-! ## Probing -/

def probeConfig (address : String) : ClientConfig :=
  { ClientConfig.localNetwork address with whenActiveTimeout := .ofSeconds 10 }

/-- A number in decimal with at least six digits. -/
def sixDigits (n : Nat) : String :=
  let digits := toString n
  String.ofList (List.replicate (6 - digits.length) '0') ++ digits

def probeRequest (number : Nat) (unique : String) : Message :=
  Message.mk "0200" .empty |>.set 11 (.text (sixDigits number)) |>.set 1000 (.text unique)

def probeLine (error : ClientError) : String := "Probe error: " ++ error.message ++ "\n"

/-! ## Ends of calls -/

/-- How a call of the program ends. -/
structure Ending where
  exitCode : Nat
  stdout : String := ""
  stderr : String := ""
  deriving DecidableEq, Repr

/-- The end of a call that reports an error. -/
def Ending.failed (line : String) : Ending where
  exitCode := 1
  stderr := line

end Iso8583.CommandLine

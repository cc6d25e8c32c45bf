import Iso8583.Codec
import Iso8583.Duration
import Iso8583.Frame

/-!
# Errors of channels, clients and servers

What a caller can be told, and in which words.
-/

namespace Iso8583

/-- Why a channel refuses a call, or drops a frame. -/
inductive ChannelError where
  | notBound
  | alreadyBound
  | closed
  | codec (error : CodecError)
  | wire (error : FrameError)
  deriving DecidableEq, Repr

def ChannelError.message : ChannelError → String
  | notBound => "channel is not bound to a connection"
  | alreadyBound => "channel is already bound"
  | closed => "channel closed"
  | codec error => "codec error: " ++ error.message
  | wire error => "wire error: " ++ error.message

/-- Why a client's call fails. -/
inductive ClientError where
  | notActive
  | responseTimeout (key : String) (waited : Duration)
  | handshakeTimeout (waited : Duration)
  | missingKeyField (field : UInt32)
  | duplicateKey (key : String)
  | codec (error : CodecError)
  | wire (error : FrameError)
  | closed
  deriving DecidableEq, Repr

def ClientError.message : ClientError → String
  | notActive => "client is not connected"
  | responseTimeout key waited => "no response for key " ++ key ++ " after " ++ waited.text
  | handshakeTimeout waited => "session not active after " ++ waited.text
  | missingKeyField field => "message has no key field " ++ toString field.toNat
  | duplicateKey key => "a request with key " ++ key ++ " is already in flight"
  | codec error => "codec error: " ++ error.message
  | wire error => "cannot frame request: " ++ error.message
  | closed => "client closed"

/-- Why a server's call fails. -/
inductive ServerError where
  | noHandler
  | bind (address reason : String)
  | notListening
  | mti (error : MtiError)
  | channel (error : ChannelError)
  deriving DecidableEq, Repr

def ServerError.message : ServerError → String
  | noHandler => "no request handler installed"
  | bind address reason => "failed to bind " ++ address ++ ": " ++ reason
  | notListening => "server is not listening"
  | mti error => "cannot respond: " ++ error.message
  | channel error => "channel error: " ++ error.message

/-- Why settings make no configuration. -/
inductive ConfigError where
  | invalidKeyFields (value : String)
  | missing (name : String)
  | zeroDuration (name : String)
  | json (problem : Json.Problem)
  deriving DecidableEq, Repr

def ConfigError.message : ConfigError → String
  | invalidKeyFields value => "invalid key fields " ++ quoted value
  | missing name => "missing setting " ++ name
  | zeroDuration name => "setting " ++ name ++ " must be greater than zero"
  | json problem => "invalid settings: " ++ problem.message

end Iso8583

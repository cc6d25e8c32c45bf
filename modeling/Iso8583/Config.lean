import Iso8583.KeyFields
import Iso8583.PendingReplies

/-!
# Configuration of clients and servers
-/

namespace Iso8583

/-- How a client works. -/
structure ClientConfig where
  address : String
  keyFields : KeyFields := .default
  connectTimeout : Option Duration := none
  responseTimeout : Duration := .ofSeconds 5
  pollInterval : Duration := .ofMillis 200
  reconnectDelay : Duration := .ofMillis 200
  whenActiveTimeout : Duration := .ofSeconds 30
  maxPendingReplies : UInt64 := PendingReplies.defaultLimit

/-- A client on the local network, where everything is quick. -/
def ClientConfig.localNetwork (address : String) : ClientConfig where
  address := address
  connectTimeout := some (.ofMillis 500)
  responseTimeout := .ofSeconds 2
  pollInterval := .ofMillis 20
  reconnectDelay := .ofMillis 20
  whenActiveTimeout := .ofSeconds 5

/-- How a server works. -/
structure ServerConfig where
  listenAddress : String := "0.0.0.0:8583"
  acceptErrorDelay : Duration := .ofMillis 100

/-- A server on the local network, on any free port. -/
def ServerConfig.localNetwork : ServerConfig where
  listenAddress := "127.0.0.1:0"
  acceptErrorDelay := .ofMillis 10

end Iso8583

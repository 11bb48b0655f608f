import JsonRpc.Error
/-!
# Failures of transports

A transport fails in three ways: it gives up waiting, it is shut down, or it
cannot move octets.  To a caller a shutdown is a local failure of input and
output, never an error of the peer.
-/

namespace JsonRpc

/-- Why a transport did not deliver. -/
inductive TransportFault where
  | timeout
  | shutdown (reason : String)
  | io (reason : String)
  deriving DecidableEq, Repr

namespace TransportFault

def message : TransportFault → String
  | timeout => "transport timeout"
  | shutdown reason => "transport shut down: " ++ reason
  | io reason => "transport I/O error: " ++ reason

def toRpcError : TransportFault → RpcError
  | timeout => .timeout
  | shutdown reason => .io ("connection shut down: " ++ reason)
  | io reason => .io reason

end TransportFault

end JsonRpc

import JsonRpc.Transport.Fault
import JsonRpc.Uri
/-!
# Where a WebSocket can be

A connection is asked for by a URL.  It has to name a host, and its scheme has
to be that of plain or of encrypted WebSockets, unless it says the port itself.
Everything else is refused before anything is connected.
-/

namespace JsonRpc.WebSocket

inductive UrlFault where
  | invalid (fault : UriFault)
  | noHost
  | unsupportedScheme
  deriving DecidableEq, Repr

def UrlFault.message : UrlFault → String
  | .invalid fault => "HTTP format error: " ++ fault.message
  | .noHost => "URL error: No host name in the URL"
  | .unsupportedScheme => "URL error: URL scheme not supported"

def UrlFault.toTransportFault (fault : UrlFault) : TransportFault := .io fault.message

def defaultPort? (scheme : String) : Option Nat :=
  if scheme = "wss" then some 443 else if scheme = "ws" then some 80 else none

def portOf? (u : Uri) : Option Nat := u.port? <|> u.scheme.bind defaultPort?

/-- Checks that a URL says where a WebSocket is, and at which port. -/
def checkUrl (url : String) : Except UrlFault Nat := do
  let u ← (Uri.parse url).mapError .invalid
  if u.authority.isNone then throw .noHost
  match portOf? u with
  | some port => return port
  | none => throw .unsupportedScheme

end JsonRpc.WebSocket

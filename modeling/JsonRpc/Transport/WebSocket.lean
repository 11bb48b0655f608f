import JsonRpc.Event
import JsonRpc.Transport.Fault
/-!
# A transport over a WebSocket

A connection carries frames in both directions, and nothing in a frame says
which request it answers.  So calls go one at a time, and the transport counts
the requests that were written and not yet answered.  A caller that gave up
leaves its request outstanding; the answer to it comes before the answer to
any later request, and is skipped.

A peer that is gone cannot receive.  Whoever sends something to it fails, and
with it everyone who sends after that.  The reader is the first to notice if
it has to answer a ping.

A reader moves incoming frames to a queue until the connection ends.  A call
first discards what is queued, for nothing in the queue can be an answer to
it.  From then on its request counts as outstanding, unless it turns out that
it cannot be written.  Once it is written the call takes frames until none is
outstanding.
-/

namespace JsonRpc

/-- A frame from the peer, or the end of the connection. -/
inductive Frame where
  | data (payload : Octets)
  /-- A ping, which the connection itself answers. -/
  | ping
  | pong
  | close
  /-- The connection is gone without a closing frame. -/
  | drop

inductive Sent where
  | text (s : String)
  | binary (payload : Octets)
  | close

/-- The state of a connection for those who write to it. -/
inductive Link where
  | live
  /-- The peer has sent a closing frame, which has not been answered. -/
  | asked
  /-- This side has sent a closing frame. -/
  | closing
  | dropped
  deriving DecidableEq, Repr

structure WebSocket where
  link : Link := .live
  /-- Whether the peer can no longer receive anything. -/
  gone : Bool := false
  /-- Whether something was to be sent that the peer could no longer receive.  It is kept, so
  nothing can be sent ever after. -/
  stuck : Bool := false
  /-- Whether the reader still waits for frames. -/
  reading : Bool := true
  /-- What the reader has queued: payloads, and at last the reason of the end. -/
  queue : List (Except TransportFault Octets) := []
  /-- The requests written whose reply has not been taken. -/
  outstanding : Nat := 0

/-- What came of waiting for a reply. -/
inductive Wait where
  | reply (payload : Octets)
  | failed (fault : TransportFault)
  /-- No reply has arrived yet. -/
  | pending

namespace WebSocket

def closedByPeer : TransportFault := .shutdown "peer closed the connection"

def connectionReset : TransportFault :=
  .io "WebSocket protocol error: Connection reset without closing handshake"

def sentAfterClosing : TransportFault :=
  .io "WebSocket protocol error: Sending after closing is not allowed"

def brokenPipe : TransportFault := .io "IO error: Broken pipe (os error 32)"

def alreadyClosed : TransportFault := .shutdown "Trying to work with closed connection"

def readerGone : TransportFault := .shutdown "connection closed"

/-- The end of the reader, with the reason that it queues. -/
def finish (ws : WebSocket) (link : Link) (fault : TransportFault) : WebSocket × List Event :=
  ({ ws with link := link, reading := false, queue := ws.queue ++ [.error fault] },
    [.readerFinished])

def ends (frames : List Frame) : Bool :=
  frames.any fun frame => match frame with
    | .drop => true
    | _ => false

/-- The arrival of a frame, and of further frames with it.  After the end of the connection nothing
is read.  A ping is answered before anything behind it is read; if the end of the connection
has arrived with it, the answer cannot be sent. -/
def receive (ws : WebSocket) (frame : Frame) (behind : List Frame) : WebSocket × List Event :=
  if !ws.reading then (ws, [])
  else match frame with
    | .data payload => ({ ws with queue := ws.queue ++ [.ok payload] }, [])
    | .ping =>
      if ends behind then finish { ws with stuck := true } ws.link brokenPipe else (ws, [])
    | .pong => (ws, [])
    | .close => ws.finish (if ws.link = .live then .asked else .closing) closedByPeer
    | .drop => ws.finish .dropped connectionReset

def readAll (ws : WebSocket) : List Frame → WebSocket × List Event
  | [] => (ws, [])
  | frame :: frames =>
    let (ws, events) := ws.receive frame frames
    let (ws, more) := ws.readAll frames
    (ws, events ++ more)

def receiveAll (ws : WebSocket) (frames : List Frame) : WebSocket × List Event :=
  readAll { ws with gone := ws.gone || ends frames } frames

def frameOf (payload : Octets) : Sent :=
  match Utf8.decode? payload with
  | some s => .text s
  | none => .binary payload

/-- Writes a payload.  Once the connection is ending nothing can be written. -/
def write (ws : WebSocket) (payload : Octets) : Except TransportFault Sent :=
  match ws.link with
  | .live => if ws.stuck then .error brokenPipe else .ok (frameOf payload)
  | .asked | .closing => .error sentAfterClosing
  | .dropped => .error alreadyClosed

/-- Discards queued replies of calls that were given up.  A queued failure is reported, and what
is behind it stays. -/
def discard (destination : String) :
    List (Except TransportFault Octets) → Nat →
      List (Except TransportFault Octets) × Nat × List Event × Except TransportFault Unit
  | [], outstanding => ([], outstanding, [], .ok ())
  | .error fault :: rest, outstanding => (rest, outstanding, [], .error fault)
  | .ok _ :: rest, outstanding =>
    let (queue, outstanding, events, result) := discard destination rest (outstanding - 1)
    (queue, outstanding, .discarding destination :: events, result)

/-- Enters a call: what is queued is discarded, and the request counts as outstanding. -/
def enter (ws : WebSocket) (destination : String) :
    WebSocket × List Event × Except TransportFault Unit :=
  let (queue, outstanding, events, result) := discard destination ws.queue ws.outstanding
  match result with
  | .error fault => ({ ws with queue, outstanding }, events, .error fault)
  | .ok _ => ({ ws with queue, outstanding := outstanding + 1 }, events, .ok ())

/-- Takes back the counting of a request that could not be written. -/
def withdraw (ws : WebSocket) : WebSocket := { ws with outstanding := ws.outstanding - 1 }

def post (ws : WebSocket) (destination : String) (payload : Octets) :
    WebSocket × List Event × Except TransportFault Sent :=
  match ws.enter destination with
  | (ws, events, .error fault) => (ws, events, .error fault)
  | (ws, events, .ok _) =>
    match ws.write payload with
    | .error fault => (ws.withdraw, events, .error fault)
    | .ok sent => (ws, events ++ [.awaiting destination], .ok sent)

/-- What a queued item means to the call that takes it, and how many requests are outstanding
afterwards.  A reply belongs to the call when no other request is left. -/
def judge (outstanding : Nat) : Except TransportFault Octets → Wait × Nat
  | .error fault => (.failed fault, outstanding)
  | .ok payload =>
    (if outstanding - 1 = 0 then .reply payload else .pending, outstanding - 1)

/-- Takes queued items until one of them ends the call. -/
def collect (destination : String) :
    List (Except TransportFault Octets) → Nat →
      List (Except TransportFault Octets) × Nat × List Event × Wait
  | [], outstanding => ([], outstanding, [], .pending)
  | item :: rest, outstanding =>
    match judge outstanding item with
    | (.pending, left) =>
      let (queue, left, events, wait) := collect destination rest left
      (queue, left, .skipping destination :: events, wait)
    | (wait, left) => (rest, left, [], wait)

/-- The rest of a call: the taking of replies.  A reader that is gone leaves nothing to wait
for. -/
def await (ws : WebSocket) (destination : String) : WebSocket × List Event × Wait :=
  let (queue, outstanding, events, wait) := collect destination ws.queue ws.outstanding
  let ws := { ws with queue, outstanding }
  match wait with
  | .pending => (ws, events, if ws.reading then .pending else .failed readerGone)
  | wait => (ws, events, wait)

/-- A whole call to which the peer answers with these frames, and what the peer receives.  A call
that waits for ever is given up, and its request stays outstanding. -/
def send (ws : WebSocket) (destination : String) (payload : Octets) (replies : List Frame) :
    WebSocket × List Event × List Sent × Wait :=
  match ws.post destination payload with
  | (ws, events, .error fault) => (ws, events, [], .failed fault)
  | (ws, events, .ok sent) =>
    let (ws, arrivals) := ws.receiveAll replies
    let (ws, taken, wait) := ws.await destination
    (ws, events ++ arrivals ++ taken, [sent], wait)

def publish (ws : WebSocket) (destination : String) (payload : Octets) :
    List Event × List Sent × Except TransportFault Unit :=
  match ws.write payload with
  | .ok sent => ([.writing destination], [sent], .ok ())
  | .error fault => ([.writing destination], [], .error fault)

/-- The answer to a closing frame that the peer has sent, or the first closing frame. -/
def sendClose (ws : WebSocket) : WebSocket × List Sent × Except TransportFault Unit :=
  if ws.gone then ({ ws with link := .closing, stuck := true }, [], .error brokenPipe)
  else ({ ws with link := .closing }, [.close], .ok ())

/-- Closes the connection.  The peer answers a closing frame with its own, which the reader sees as
the end; a closing frame of the peer is answered; a connection that is closing already, or has
ended, needs nothing more.  What could not be sent earlier cannot be sent now. -/
def close (ws : WebSocket) : WebSocket × List Event × List Sent × Except TransportFault Unit :=
  match ws.link with
  | .live =>
    let (ws, sent, result) := ws.sendClose
    let (ws, events) := ws.receive .close []
    (ws, events, sent, result)
  | .asked =>
    let (ws, sent, result) := ws.sendClose
    (ws, [], sent, result)
  | .closing | .dropped => (ws, [], [], if ws.stuck then .error brokenPipe else .ok ())

end WebSocket

end JsonRpc

import Herald.Message.PlainText
import Herald.Target
import Herald.Url.Request

/-!
# Websockets

A message goes out as one frame of plain text over a connection of its own, which is closed in the normal way afterwards. What the peer
sends until it has closed the connection too is read and dropped.
-/

namespace Herald.WebSocket

/-- The address of a host. -/
def url (host : String) : String :=
  "ws://" ++ host ++ "/"

/-- The code that closes a connection in the normal way. -/
def normalClosure : Nat := 1000

/-- What goes out over a connection. -/
inductive Frame
  | text (content : String)
  | close (code : Nat) (reason : String)
  deriving DecidableEq, Repr

/-- What is being done while a frame goes out. -/
def Frame.purpose : Frame → String
  | .text _ => "sending notification frame"
  | .close _ _ => "closing connection"

/-- What goes out for a message. -/
def frames (m : Message) : List Frame :=
  [.text m.plainText, .close normalClosure ""]

/-- What is wrong with a host, if anything is. -/
def unusable (host : String) : Option Failure :=
  match Url.Request.check "ws" (host.toList ++ ['/']) with
  | .ok () => none
  | .error refusal => some ⟨"connecting to " ++ url host, ["HTTP format error: " ++ refusal.message, refusal.message]⟩

/-- What ends the reading of a connection. -/
inductive ReadEnd
  /-- Both sides have closed it. -/
  | closed
  /-- The peer breaks the rules of the exchange, as one does that leaves without closing. -/
  | protocol
  /-- The connection broke. -/
  | broken
  | failed (failure : Failure)
  deriving DecidableEq, Repr

/-- A connection that was opened: which frames it takes, and how its reading ends. -/
structure Connection where
  send : Frame → Except Failure Unit
  readEnd : ReadEnd

/-- Sends the frames of a message over a connection and waits for its end. Once both frames have gone out, it does not matter how the peer
leaves. -/
def Connection.exchange (c : Connection) (m : Message) : Except Failure Unit := do
  (frames m).forM fun frame => (c.send frame).mapError (·.context frame.purpose)
  match c.readEnd with
  | .closed => return
  | .protocol => return
  | .broken => return
  | .failed failure => throw (failure.context "closing connection")

/-- What comes of sending a message to a host that there is a connection to, or none. -/
def outcome (host : String) (m : Message) (connected : Except Failure Connection) : Outcome :=
  match unusable host with
  | some failure => .failed failure
  | none =>
    match connected with
    | .error failure => .failed (failure.context ("connecting to " ++ url host))
    | .ok connection =>
      match connection.exchange m with
      | .error failure => .failed failure
      | .ok () => .sent

end Herald.WebSocket

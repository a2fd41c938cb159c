import Herald.Inbox
import Herald.Journal.Record
import Herald.Target.WebSocket
import Herald.Target.Webhook

/-!
# Deliveries

What happens when a target is handed a message: a line in the log, a notification in the inbox, a post, a frame, or whatever a
channel of the application does.
-/

namespace Herald

/-- The network as the targets see it. -/
structure Network where
  /-- What comes back for a post to an address. -/
  post : String → Value → Span → Reply
  /-- The connection to a host, or why there is none. -/
  connect : String → Except Failure WebSocket.Connection

/-- A network on which nothing can be reached. -/
def Network.unreachable : Network where
  post _ _ _ := .none "client error (Connect)"
  connect host := .error ⟨"URL error: Unable to connect to " ++ WebSocket.url host, []⟩

/-- What a delivery leaves behind. -/
structure Delivery where
  inbox : Inbox
  logs : List LogRecord := []
  outcome : Outcome

namespace Target

/-- The record that the log target writes. -/
def logRecord (d : Description) (m : Message) : LogRecord where
  level := .info
  message := m.plainText
  fields := ("notifier", d.name.getD "log") :: (m.data.map fun data => ("data", (Value.object data).compact)).toList

/-- Delivers a message at some time. -/
def deliver (t : Target) (network : Network) (now : Instant) (inbox : Inbox) (m : Message) : Delivery :=
  match t.channel with
  | .log => { inbox, logs := [logRecord t.description m], outcome := .sent }
  | .inbox =>
    match inbox.deliver now t.description.name m with
    | .ok inbox => { inbox, outcome := .sent }
    | .error failure => { inbox, outcome := .failed failure }
  | .webhook url format timeout =>
    { inbox, outcome := Webhook.outcome url timeout (network.post url (Webhook.payload format m) timeout) }
  | .websocket host => { inbox, outcome := WebSocket.outcome host m (network.connect host) }
  | .custom handler => { inbox, outcome := handler.send m }

end Target

end Herald

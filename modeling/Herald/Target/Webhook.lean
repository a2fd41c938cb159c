import Herald.Message.Slack
import Herald.Target
import Herald.Url
import Herald.Url.Request

/-!
# Webhooks

A webhook posts a message to an address and is done when the answer reports success. Any other answer is cited with its status and
its body.
-/

namespace Herald

/-- What comes back for a post. -/
inductive Reply
  | answered (status : Nat) (body : String)
  /-- Nothing in time, or no connection. -/
  | none (cause : String)
  deriving DecidableEq, Repr

namespace Webhook

/-- The body that a message is posted in. -/
def payload (format : WebhookFormat) (m : Message) : Value :=
  match format with
  | .json => m.toValue
  | .slack => .object [("text", .text m.slackText)]

/-- The method of a post. -/
def method : String := "POST"

/-- The content type of a post. -/
def contentType : String := "application/json"

/-- The phrase of a status. -/
def phrase : Nat → String
  | 100 => "Continue"
  | 101 => "Switching Protocols"
  | 102 => "Processing"
  | 103 => "Early Hints"
  | 200 => "OK"
  | 201 => "Created"
  | 202 => "Accepted"
  | 203 => "Non Authoritative Information"
  | 204 => "No Content"
  | 205 => "Reset Content"
  | 206 => "Partial Content"
  | 207 => "Multi-Status"
  | 208 => "Already Reported"
  | 226 => "IM Used"
  | 300 => "Multiple Choices"
  | 301 => "Moved Permanently"
  | 302 => "Found"
  | 303 => "See Other"
  | 304 => "Not Modified"
  | 305 => "Use Proxy"
  | 307 => "Temporary Redirect"
  | 308 => "Permanent Redirect"
  | 400 => "Bad Request"
  | 401 => "Unauthorized"
  | 402 => "Payment Required"
  | 403 => "Forbidden"
  | 404 => "Not Found"
  | 405 => "Method Not Allowed"
  | 406 => "Not Acceptable"
  | 407 => "Proxy Authentication Required"
  | 408 => "Request Timeout"
  | 409 => "Conflict"
  | 410 => "Gone"
  | 411 => "Length Required"
  | 412 => "Precondition Failed"
  | 413 => "Payload Too Large"
  | 414 => "URI Too Long"
  | 415 => "Unsupported Media Type"
  | 416 => "Range Not Satisfiable"
  | 417 => "Expectation Failed"
  | 418 => "I'm a teapot"
  | 421 => "Misdirected Request"
  | 422 => "Unprocessable Entity"
  | 423 => "Locked"
  | 424 => "Failed Dependency"
  | 425 => "Too Early"
  | 426 => "Upgrade Required"
  | 428 => "Precondition Required"
  | 429 => "Too Many Requests"
  | 431 => "Request Header Fields Too Large"
  | 451 => "Unavailable For Legal Reasons"
  | 500 => "Internal Server Error"
  | 501 => "Not Implemented"
  | 502 => "Bad Gateway"
  | 503 => "Service Unavailable"
  | 504 => "Gateway Timeout"
  | 505 => "HTTP Version Not Supported"
  | 506 => "Variant Also Negotiates"
  | 507 => "Insufficient Storage"
  | 508 => "Loop Detected"
  | 510 => "Not Extended"
  | 511 => "Network Authentication Required"
  | _ => "<unknown status code>"

/-- Whether a status reports success. -/
def isSuccess (status : Nat) : Bool :=
  200 ≤ status && status < 300

/-- Whether a status ends an answer: the others below 200 only say that there is more to come, and none has another number of
digits than three. -/
def isFinal (status : Nat) : Bool :=
  status == 101 || (200 ≤ status && status < 1000)

/-- The body of an answer, which some statuses do not have. -/
def bodyOf (status : Nat) (body : String) : String :=
  if status = 204 ∨ status = 304 ∨ status < 200 then "" else body

/-- The address as errors cite it. -/
def cited (url : String) : String :=
  match Url.ofText url with
  | .ok u => u.withoutUser.render
  | .error _ => url

/-- A failure of a post before it is under way. -/
def builderFailure (url : String) (cause : String) : Failure :=
  ⟨"builder error for url (" ++ cited url ++ ")", [cause]⟩

/-- What is wrong with an address that no post can be prepared for. -/
def unprepared? (url : String) : Option Failure :=
  match Url.ofText url with
  | .error f => some ⟨"builder error", [f.message]⟩
  | .ok u => if u.hasHost then none else some (builderFailure url "URL scheme is not allowed")

/-- What is wrong with an address that a prepared post is not sent to. -/
def unsendable? (url : String) : Option Failure :=
  match Url.ofText url with
  | .error f => some ⟨"builder error", [f.message]⟩
  | .ok u =>
    if !u.isWeb then some (builderFailure url "URL scheme is not allowed")
    else match Url.Request.check u.scheme ((u.withoutUser.render.toList.drop (u.scheme.length + 3))) with
      | .error _ => some (builderFailure url "Parsed Url is not a valid Uri")
      | .ok () => none

/-- How many seconds the clock can count that a post is timed with. -/
def clockEnd : Nat := Nat.pow 2 63

/-- A time by which that clock has run already whenever something is posted, in seconds. -/
def clockStart : Nat := 1000

/-- Whether the clock runs out before a timeout does. -/
def isBeyondClock (timeout : Span) : Bool :=
  (Span.ofSeconds clockEnd).nanos ≤ timeout.nanos + (Span.ofSeconds clockStart).nanos

/-- The failure of a post that nothing conclusive comes back for. -/
def unanswered (url : String) (cause : String) : Failure :=
  ⟨"error sending request for url (" ++ cited url ++ ")", [cause]⟩

/-- What comes of a post that is sent. -/
def replied (url : String) : Reply → Outcome
  | .none cause => .failed (unanswered url cause)
  | .answered status body =>
    if isSuccess status then .sent
    else if isFinal status then
      .failed ⟨"webhook returned status " ++ toString status ++ " " ++ phrase status ++ ", body: " ++ bodyOf status body, []⟩
    else .failed (unanswered url "client error (SendRequest)")

/-- What comes of a post to an address. -/
def outcome (url : String) (timeout : Span) (reply : Reply) : Outcome :=
  match unprepared? url with
  | some failure => .failed failure
  | none =>
    if isBeyondClock timeout then .panicked (some "overflow when adding duration to instant")
    else match unsendable? url with
      | some failure => .failed failure
      | none => replied url reply

end Webhook

end Herald

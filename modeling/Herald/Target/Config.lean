import Herald.DeviceClass
import Herald.Feature

/-!
# Configured targets

One entry of the list of targets in the settings: what every target has, and beside it, in the same object, the fields of its kind.
The fields that every target has are read first, in the order of the object, then the name of the kind, then the fields of the kind.
-/

namespace Herald

/-- The layout of the body that a webhook posts. -/
inductive WebhookFormat
  | json
  | slack
  deriving DecidableEq, Repr, Inhabited

namespace WebhookFormat

/-- The name of a format. -/
def name : WebhookFormat → String
  | .json => "json"
  | .slack => "slack"

/-- Reads the name of a format. -/
def ofName (text : String) : Reading WebhookFormat :=
  match text with
  | "json" => .ok .json
  | "slack" => .ok .slack
  | other => Reading.fault (.unknownVariant other ["json", "slack"])

/-- Reads a format from its name, or from an object with the name as its only key and a value that stands for nothing. -/
def ofValue (isNothing : Value → Bool) : Value → Reading WebhookFormat
  | .text s => ofName s
  | .object [(key, v)] => do
    let format ← ofName key
    if isNothing v then return format else Reading.fault (.wrongType v "unit")
  | .object fields => Reading.fault (.wrongValue (.object fields) "map with a single key")
  | v => Reading.fault (.wrongType v "string or map")

end WebhookFormat

/-- How a configured target delivers. -/
inductive TargetKind
  | log
  | persistent
  | webhook (url : String) (format : WebhookFormat) (timeoutSeconds : Nat)
  | websocket (host : String)
  deriving DecidableEq, Repr, Inhabited

/-- An entry of the list of targets. -/
structure TargetConfig where
  id : Option String := none
  name : String
  deviceClass : Option DeviceClass := none
  features : Option FeatureSet := none
  kind : TargetKind
  deriving DecidableEq, Repr, Inhabited

namespace TargetKind

/-- The names of the kinds in the order of their declaration. -/
def names : List String :=
  ["log", "persistent", "webhook", "websocket"]

/-- The seconds a webhook waits if its entry does not say. -/
def defaultTimeout : Nat := 10

/-- The name of a kind. -/
def name : TargetKind → String
  | .log => "log"
  | .persistent => "persistent"
  | .webhook _ _ _ => "webhook"
  | .websocket _ => "websocket"

/-- Whether a value stands for nothing where the fields of a kind are read. -/
def isNothing : Value → Bool
  | .null => true
  | .object [] => true
  | _ => false

/-- The fields of a kind that have been read. -/
structure Draft where
  url : Option String := none
  format : WebhookFormat := .json
  timeoutSeconds : Nat := defaultTimeout
  host : Option String := none

/-- Reads a field of a webhook. -/
def readWebhookField (d : Draft) (field : String × Value) : Reading Draft :=
  match field.1 with
  | "url" => do return { d with url := some (← field.2.asText) }
  | "format" => do return { d with format := ← WebhookFormat.ofValue isNothing field.2 }
  | "timeout_seconds" => do return { d with timeoutSeconds := ← field.2.asNat "u64" }
  | _ => .ok d

/-- Reads a field of a websocket. -/
def readWebsocketField (d : Draft) (field : String × Value) : Reading Draft :=
  match field.1 with
  | "host" => do return { d with host := some (← field.2.asText) }
  | _ => .ok d

/-- Reads the name of a kind, which may also be given by its position. -/
def readName : Value → Reading String
  | .text s => if names.contains s then .ok s else Reading.fault (.unknownVariant s names)
  | .unsigned n =>
    match names[n]? with
    | some name => .ok name
    | none => Reading.fault (.wrongValue (.unsigned n) "variant index 0 <= i < 4")
  | v => Reading.fault (.wrongType v "variant identifier")

/-- Reads a kind from the fields of an entry. -/
def ofFields (fields : List (String × Value)) : Reading TargetKind := do
  let name ← match Keyed.get? "kind" fields with
    | some v => readName v
    | none => Reading.fault (.missing "kind")
  match name with
  | "log" => return .log
  | "persistent" => return .persistent
  | "webhook" =>
    let d ← fields.foldlM readWebhookField {}
    match d.url with
    | some url => return .webhook url d.format d.timeoutSeconds
    | none => Reading.fault (.missing "url")
  | _ =>
    let d ← fields.foldlM readWebsocketField {}
    match d.host with
    | some host => return .websocket host
    | none => Reading.fault (.missing "host")

/-- The fields of a kind. -/
def fields : TargetKind → List (String × Value)
  | .log => [("kind", .text "log")]
  | .persistent => [("kind", .text "persistent")]
  | .webhook url format timeout =>
    [("kind", .text "webhook"), ("url", .text url), ("format", .text format.name), ("timeout_seconds", .unsigned timeout)]
  | .websocket host => [("kind", .text "websocket"), ("host", .text host)]

end TargetKind

namespace TargetConfig

/-- The fields that every target has, as far as they have been read. -/
structure Draft where
  id : Option String := none
  name : Option String := none
  deviceClass : Option DeviceClass := none
  features : Option FeatureSet := none

/-- Reads a field that every target has. -/
def readField (d : Draft) (field : String × Value) : Reading Draft :=
  let v := field.2.spelled
  Reading.under field.1 <|
    match field.1 with
    | "id" => do return { d with id := ← v.asOption Value.asText }
    | "name" => do return { d with name := some (← v.asText) }
    | "device_class" => do return { d with deviceClass := ← v.asOption DeviceClass.ofValue }
    | "supported_features" => do return { d with features := ← v.asOption FeatureSet.ofValue }
    | _ => .ok d

/-- Reads an entry. -/
def ofValue : Value → Reading TargetConfig
  | .object fields => do
    let d ← fields.foldlM readField {}
    match d.name with
    | none => Reading.fault (.missing "name")
    | some name => return ⟨d.id, name, d.deviceClass, d.features, ← TargetKind.ofFields fields⟩
  | v => Reading.fault (.wrongType v "struct TargetConfig")

/-- The entry as a value. -/
def toValue (c : TargetConfig) : Value :=
  .ofFields <|
    [("id", .ofText? c.id), ("name", .text c.name), ("device_class", (c.deviceClass.map (·.toValue)).getD .null),
      ("supported_features", (c.features.map (·.toValue)).getD .null)] ++ c.kind.fields

end TargetConfig

end Herald

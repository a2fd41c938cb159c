import Herald.Target
import Herald.Text.Slug
import Herald.Text.Space

/-!
# From the settings to targets

The identity of a configured target is the one it gives, without the blanks around it, else the slug of its name. A target is built
unless it has to reach an address and has a blank one.
-/

namespace Herald

/-- The features of a webhook: the chat layout has no room for data. -/
def WebhookFormat.features : WebhookFormat → FeatureSet
  | .json => .all
  | .slack => { message := true, title := true, recipients := true }

namespace TargetKind

/-- The features of a kind when its entry does not give any. -/
def features : TargetKind → FeatureSet
  | .log => .all
  | .persistent => .all
  | .webhook _ format _ => format.features
  | .websocket _ => { message := true, title := true }

/-- The channel of a kind. -/
def channel : TargetKind → Channel
  | .log => .log
  | .persistent => .inbox
  | .webhook url format timeout => .webhook url format (.ofSeconds timeout)
  | .websocket host => .websocket host

/-- What the address of a kind is called, and the address. -/
def address? : TargetKind → Option (String × String)
  | .webhook url _ _ => some ("url", url)
  | .websocket host => some ("host", host)
  | _ => none

end TargetKind

namespace TargetConfig

/-- The identity the target registers under, or why it has none. -/
def identity (c : TargetConfig) : Except Failure String :=
  let identity := match c.id with
    | some id => Text.trim id
    | none => Text.slug c.name
  if identity.isEmpty then .error ⟨"target '" ++ c.name ++ "' does not yield a usable identity", []⟩
  else .ok identity

/-- The target of an entry, as it is when its address is not blank. -/
def target (c : TargetConfig) : Target where
  description := ⟨some c.name, c.deviceClass, c.features.getD c.kind.features⟩
  channel := c.kind.channel

/-- The target of an entry, or why it cannot be built. -/
def build (c : TargetConfig) : Except Failure Target :=
  match c.kind.address? with
  | some (word, address) =>
    if Text.isBlank address then
      .error ⟨c.kind.name ++ " target '" ++ c.name ++ "' has an empty " ++ word, []⟩
    else .ok c.target
  | none => .ok c.target

end TargetConfig

end Herald

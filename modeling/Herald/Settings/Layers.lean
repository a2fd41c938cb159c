import Herald.Value

/-!
# Layers

The settings come in layers, each an object. A later layer is laid over the earlier ones key by key: two objects under one key are
joined in the same way, and of any other two values the later counts.
-/

namespace Herald.Value

mutual

/-- A value with a later one laid over it. -/
def overlay : Value → Value → Value
  | .object base, .object fields => .object (overlayFields base fields)
  | _, value => value

/-- The fields of an object with later ones laid over them. -/
def overlayFields (base : List (String × Value)) : List (String × Value) → List (String × Value)
  | [] => base
  | (key, value) :: rest =>
    let joined := match Keyed.get? key base with
      | some earlier => overlay earlier value
      | none => value
    Keyed.insert key joined (overlayFields base rest)

end

/-- Layers laid over one another, the first at the bottom. -/
def layered (layers : List Value) : Value :=
  layers.foldl overlay (.object [])

end Herald.Value

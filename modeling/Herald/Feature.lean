import Herald.Text.Ascii
import Herald.Text.Space
import Herald.Value.Reading

/-!
# Features

The fields of a message that a target says it understands. A set of features is written as the list of its names in the order of
declaration, and read from any list of names, with repeats, in any order, in any letter case and with blanks around them.
-/

namespace Herald

/-- A field of a message. -/
inductive Feature
  | message
  | title
  | recipients
  | data
  deriving DecidableEq, Repr

namespace Feature

/-- All features in the order of their declaration. -/
def all : List Feature :=
  [.message, .title, .recipients, .data]

/-- The name of a feature. -/
def name : Feature → String
  | .message => "message"
  | .title => "title"
  | .recipients => "recipients"
  | .data => "data"

/-- The bit of a feature in the number of a set. -/
def bit : Feature → Nat
  | .message => 1
  | .title => 2
  | .recipients => 4
  | .data => 8

/-- The feature that a text names. -/
def ofName? (text : String) : Option Feature :=
  all.find? fun f => f.name == Text.lower (Text.trim text)

end Feature

/-- A set of features. -/
structure FeatureSet where
  message : Bool := false
  title : Bool := false
  recipients : Bool := false
  data : Bool := false
  deriving DecidableEq, Repr, Inhabited

namespace FeatureSet

/-- The set without features. -/
def empty : FeatureSet := {}

/-- The set of all features. -/
def all : FeatureSet := ⟨true, true, true, true⟩

/-- Whether a feature is in the set. -/
def has (s : FeatureSet) : Feature → Bool
  | .message => s.message
  | .title => s.title
  | .recipients => s.recipients
  | .data => s.data

/-- The set of one feature. -/
def only : Feature → FeatureSet
  | .message => { message := true }
  | .title => { title := true }
  | .recipients => { recipients := true }
  | .data => { data := true }

/-- The features in either set. -/
def union (a b : FeatureSet) : FeatureSet :=
  ⟨a.message || b.message, a.title || b.title, a.recipients || b.recipients, a.data || b.data⟩

/-- The features of `required` that the set lacks. -/
def missing (s required : FeatureSet) : FeatureSet :=
  ⟨required.message && !s.message, required.title && !s.title, required.recipients && !s.recipients, required.data && !s.data⟩

/-- Whether the set has every feature of another. -/
def contains (s other : FeatureSet) : Bool :=
  Feature.all.all fun f => !other.has f || s.has f

/-- Whether the set has no feature. -/
def isEmpty (s : FeatureSet) : Bool :=
  Feature.all.all fun f => !s.has f

/-- The features in the set, in the order of their declaration. -/
def toList (s : FeatureSet) : List Feature :=
  Feature.all.filter s.has

/-- The names of the features in the set. -/
def names (s : FeatureSet) : List String :=
  s.toList.map Feature.name

/-- The number of the set: the sum of the bits of its features. -/
def bits (s : FeatureSet) : Nat :=
  s.toList.foldl (fun n f => n + f.bit) 0

/-- The set of some features. -/
def ofList (fs : List Feature) : FeatureSet :=
  fs.foldl (fun s f => s.union (only f)) empty

/-- The set in words. -/
def display (s : FeatureSet) : String :=
  if s.isEmpty then "none" else "|".intercalate s.names

/-- The reason why a text names no feature. -/
def unknownFeature (text : String) : String :=
  "unknown notify feature: " ++ text

/-- The features that some names stand for, or the first name that stands for none. -/
def ofNames : List String → Except String FeatureSet
  | [] => .ok empty
  | text :: rest =>
    match Feature.ofName? text with
    | none => .error text
    | some f => (ofNames rest).map fun s => (only f).union s

/-- Reads a set of features from a list of names. -/
def ofValue (v : Value) : Reading FeatureSet := do
  let names ← v.asList Value.asText
  match ofNames names with
  | .ok s => return s
  | .error text => Reading.fault (.custom (unknownFeature text))

/-- The set as a list of names. -/
def toValue (s : FeatureSet) : Value :=
  .ofTexts s.names

end FeatureSet

end Herald

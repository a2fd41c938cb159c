import Herald.Text.Composition
import Herald.Text.Direction
import Herald.Text.Joining
import Herald.Text.Punycode
import Herald.Url.Domain.Mapping

/-!
# Domain names

A domain name is looked up in basic characters. A label with others in it is brought into its one form, checked, and written in Punycode
behind `xn--`; a label that comes in Punycode has to be in that form already.
-/

namespace Herald.Url.Domain

open Text (Direction)

/-- Whether a character is basic. -/
def isBasic (c : Char) : Bool :=
  c.toNat < 128

/-- Whether a label may hold a basic character. -/
def isAllowed (c : Char) : Bool :=
  0x20 < c.toNat && c.toNat != 0x7F && !"#/:<>?@[\\]^|%".toList.contains c

/-- The one form of a name, if it can have one. -/
def normal? (cs : List Char) : Option (List Char) :=
  (cs.mapM replacement?).map fun images => Text.Composition.composed images.flatten

/-- A label as it is shown and as it is looked up. -/
structure Label where
  shown : List Char
  written : List Char
  deriving DecidableEq, Repr

/-- Whether the letters around a joiner are joined across it. -/
def isBetweenJoined (before behind : List Char) : Bool :=
  let neighbour (cs : List Char) := (cs.dropWhile Text.Joining.isTransparent).head?
  (neighbour before.reverse).any Text.Joining.joinsNext && (neighbour behind).any Text.Joining.joinsPrevious

/-- Whether the two joiners stand only where they change how a text looks; `before` is what stands before the rest of the label. -/
def hasJoinersInPlace (before : List Char) : List Char → Bool
  | [] => true
  | c :: behind =>
    let follows := before.getLast?.any fun b => Text.combiningClass b == Text.viramaClass
    let isInPlace :=
      if c.toNat = 0x200C then follows || isBetweenJoined before behind
      else if c.toNat = 0x200D then follows
      else true
    isInPlace && hasJoinersInPlace (before ++ [c]) behind

/-- Whether a label in its one form can be shown: no mark comes first, and joiners are in their places. -/
def isSound (cs : List Char) : Bool :=
  !cs.head?.any Text.isMark && hasJoinersInPlace [] cs

/-- What a label in Punycode begins with. -/
def punycodeMark : List Char := ['x', 'n', '-', '-']

/-- How many characters a label may have in Punycode, and how many without it. -/
def longestWritten : Nat := 2000

/-- How many characters a label may have that is brought into Punycode. -/
def longestShown : Nat := 1000

/-- Reads a label of a name in its one form. -/
def Label.ofChars? (cs : List Char) : Option Label :=
  if punycodeMark.isPrefixOf cs then
    let code := cs.drop punycodeMark.length
    if !cs.all isBasic || longestWritten < code.length then none
    else match Text.Punycode.decode? code with
      | none => none
      | some shown => if !shown.all isBasic && normal? shown == some shown && isSound shown then some ⟨shown, cs⟩ else none
  else if cs.all isBasic then some ⟨cs, cs⟩
  else if isSound cs && cs.length ≤ longestShown then some ⟨cs, punycodeMark ++ Text.Punycode.encode cs⟩
  else none

namespace Label

/-- Whether a name with the label has parts that are written to the left. -/
def isLeftward (l : Label) : Bool :=
  l.shown.any fun c => let d := Text.direction c; d == .leftward || d == .arabicDigit

/-- Whether a label can be told from its neighbours in a name with parts that are written to the left: its first letter decides about
the whole, the other direction does not occur in it, and it ends with a letter or a digit. -/
def keepsDirection (l : Label) : Bool :=
  let directions := l.shown.map Text.direction
  let last := (directions.reverse.dropWhile (· == .mark)).head?
  match directions.head? with
  | none => true
  | some .leftward =>
    !directions.contains .rightward && !(directions.contains .digit && directions.contains .arabicDigit) &&
      (last == some .leftward || last == some .digit || last == some .arabicDigit)
  | some .rightward =>
    !directions.contains .leftward && !directions.contains .arabicDigit && (last == some .rightward || last == some .digit)
  | some _ => false

end Label

/-- The name under which a domain is looked up, if it can be looked up. -/
def lookup? (cs : List Char) : Option (List Char) := do
  let labels ← (Text.partsAt '.' (← normal? cs)).mapM Label.ofChars?
  if (labels.any Label.isLeftward && !labels.all Label.keepsDirection) || !labels.all fun l => l.written.all isAllowed then none
  else some (Text.joinWith '.' (labels.map (·.written)))

end Herald.Url.Domain

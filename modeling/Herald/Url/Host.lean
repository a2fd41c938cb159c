import Herald.Text.Percent
import Herald.Url.Address4
import Herald.Url.Address6
import Herald.Url.Domain
import Herald.Url.Fault

/-!
# Hosts

The host of an address is a name or a number. With the schemes of the network it is a domain name, and a name that ends like a number
has to be one; with all others it is any text that does not end an address.
-/

namespace Herald.Url

/-- A host. -/
inductive Host
  | name (text : String)
  | address4 (number : Nat)
  | address6 (groups : List Nat)
  deriving DecidableEq, Repr, Inhabited

namespace Host

/-- Whether there is no host. -/
def isNone (h : Host) : Bool :=
  h == .name ""

/-- The host as text. -/
def render : Host → String
  | .name text => text
  | .address4 number => Address4.render number
  | .address6 groups => "[" ++ Address6.render groups ++ "]"

/-- Reads a number between brackets, the first of which is read already. -/
def ofBracketed (cs : List Char) : Except Fault Host :=
  match cs.reverse with
  | ']' :: groups =>
    match Address6.ofChars? groups.reverse with
    | some groups => .ok (.address6 groups)
    | none => .error .badAddress6
  | _ => .error .badAddress6

/-- Reads the host of a scheme of the network. -/
def ofDomain (cs : List Char) : Except Fault Host :=
  match cs with
  | '[' :: cs => ofBracketed cs
  | cs =>
    match (Text.Percent.unescape? cs).bind Domain.lookup? with
    | none => .error .badName
    | some [] => .error .emptyHost
    | some domain =>
      if Address4.isMeant domain then
        match Address4.ofChars? domain with
        | some number => .ok (.address4 number)
        | none => .error .badAddress4
      else .ok (.name (String.ofList domain))

/-- Whether a host of another scheme may hold a character. -/
def isPlain (c : Char) : Bool :=
  !"\x00\t\n\r #/:<>?@[\\]^|".toList.contains c

/-- Whether a character is no control and basic. -/
def isShown (c : Char) : Bool :=
  0x20 ≤ c.toNat && c.toNat < 0x7F

/-- Reads the host of any other scheme. -/
def ofText (cs : List Char) : Except Fault Host :=
  match cs with
  | '[' :: cs => ofBracketed cs
  | cs => if cs.all isPlain then .ok (.name (String.ofList (Text.Percent.escape isShown cs))) else .error .badCharacter

end Host

end Herald.Url

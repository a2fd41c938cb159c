import Herald.Text.Ascii

/-!
# Addresses as a server is asked for them

Whoever opens a connection takes an address as it is written and is stricter about its server than a reader of addresses: only some
characters may stand there, brackets come in one pair, and one colon is enough.
-/

namespace Herald.Url.Request

/-- Why an address is not asked for. -/
inductive Refusal
  | character
  | server
  | format
  | length
  deriving DecidableEq, Repr

/-- The wording of a refusal. -/
def Refusal.message : Refusal → String
  | .character => "invalid uri character"
  | .server => "invalid authority"
  | .format => "invalid format"
  | .length => "uri too long"

/-- How many bytes an address may have. -/
def longest : Nat := 65534

/-- How many colons a server may have before anything else is looked at. -/
def mostColons : Nat := 8

/-- Whether a server may hold a character. -/
def isServerChar (c : Char) : Bool :=
  Text.isAlphanumeric c || "!$%&'()*+,-.:;=@[]_~".toList.contains c

/-- What is known of a server up to some character: the colons and percent signs since the last user or bracket, the brackets, and
whether a user has just ended. -/
structure Scan where
  colons : Nat := 0
  hasPercent : Bool := false
  isOpened : Bool := false
  isClosed : Bool := false
  endsUser : Bool := false
  deriving DecidableEq, Repr

/-- Takes one more character of a server. -/
def Scan.next (s : Scan) (c : Char) : Except Refusal Scan :=
  let s := { s with endsUser := false }
  match c with
  | ':' => if mostColons ≤ s.colons then .error .server else .ok { s with colons := s.colons + 1 }
  | '[' => if s.hasPercent || s.isOpened then .error .server else .ok { s with isOpened := true }
  | ']' => if !s.isOpened || s.isClosed then .error .server else .ok { s with isClosed := true, colons := 0, hasPercent := false }
  | '@' => .ok { s with colons := 0, hasPercent := false, endsUser := true }
  | '%' => .ok { s with hasPercent := true }
  | c => if isServerChar c then .ok s else .error .character

/-- Checks a server. -/
def checkServer (cs : List Char) : Except Refusal Unit := do
  let s ← cs.foldlM Scan.next {}
  if s.isOpened != s.isClosed || 1 < s.colons || s.endsUser || s.hasPercent then throw .server

/-- Whether a path may hold a character. -/
def isPathChar (c : Char) : Bool :=
  0x20 < c.toNat && !"#<>?`".toList.contains c

/-- Whether a query may hold a character. -/
def isQueryChar (c : Char) : Bool :=
  0x20 < c.toNat && !"\"#<>".toList.contains c

/-- Checks what stands behind a server; a fragment is not looked at. -/
def checkRest (cs : List Char) : Except Refusal Unit :=
  let cs := cs.takeWhile (· != '#')
  if (cs.takeWhile (· != '?')).all isPathChar && ((cs.dropWhile (· != '?')).drop 1).all isQueryChar then .ok ()
  else .error .character

/-- Checks an address, of which `cs` is what stands behind the two slashes. -/
def check (scheme : String) (cs : List Char) : Except Refusal Unit := do
  if longest < scheme.utf8ByteSize + 3 + (String.ofList cs).utf8ByteSize then throw .length
  let isEnd (c : Char) := c == '/' || c == '?' || c == '#'
  checkServer (cs.takeWhile (!isEnd ·))
  if (cs.takeWhile (!isEnd ·)).isEmpty then throw .format
  checkRest (cs.dropWhile (!isEnd ·))

end Herald.Url.Request

import Herald.Url.Host
import Herald.Url.Path

/-!
# Addresses

An address is a scheme, in most schemes a host with a user and a number, a path, and what may follow it. Reading one brings it into the
form in which errors cite it: a small scheme, a host under its one name, no usual number behind it, a path without detours, and no
character in the rest that an address may not hold.
-/

namespace Herald

namespace Url

/-- Who asks: a name and perhaps a secret, both as they are written. -/
structure User where
  name : List Char
  secret : List Char
  deriving DecidableEq, Repr, Inhabited

/-- The server behind an address. -/
structure Authority where
  user : User := ⟨[], []⟩
  host : Host
  /-- The number behind the host, unless it is the usual one. -/
  number : Option Nat := none
  deriving DecidableEq, Repr, Inhabited

end Url

/-- An address. -/
structure Url where
  scheme : String
  authority : Option Url.Authority
  path : String
  query : Option String
  fragment : Option String
  deriving DecidableEq, Repr, Inhabited

namespace Url

/-- The kinds of schemes. -/
inductive Kind
  /-- Of a server, with its usual number. -/
  | network (usual : Nat)
  /-- Of the files of a machine. -/
  | file
  | other
  deriving DecidableEq, Repr

/-- The kind of a scheme. -/
def Kind.ofScheme : String → Kind
  | "http" => .network 80
  | "ws" => .network 80
  | "https" => .network 443
  | "wss" => .network 443
  | "ftp" => .network 21
  | "file" => .file
  | _ => .other

/-- Whether a backslash is a slash in the addresses of a kind. -/
def Kind.takesBackslash : Kind → Bool
  | .other => false
  | _ => true

/-- Whether a character is dropped at the ends of an address. -/
def isPadding (c : Char) : Bool :=
  c.toNat ≤ 0x20

/-- The characters of a text that count in an address. -/
def significant (text : String) : List Char :=
  let cs := (text.toList.dropWhile isPadding).reverse.dropWhile isPadding
  cs.reverse.filter fun c => c != '\t' && c != '\n' && c != '\r'

/-- Splits off the scheme, in small letters. -/
def splitScheme? (cs : List Char) : Option (String × List Char) :=
  let isPart (c : Char) := Text.isAlphanumeric c || c == '+' || c == '-' || c == '.'
  match cs with
  | [] => none
  | c :: _ =>
    if Text.isDigit c || !Text.isAlphanumeric c then none
    else match cs.dropWhile isPart with
      | ':' :: rest => some (String.ofList ((cs.takeWhile isPart).map Text.lowerChar), rest)
      | _ => none

/-- An address behind its scheme: up to the query, the query and the fragment. -/
structure Parts where
  body : List Char
  query : Option (List Char)
  fragment : Option (List Char)

/-- Takes apart what stands behind a scheme. -/
def Parts.ofChars (cs : List Char) : Parts :=
  let fragment := match cs.dropWhile (· != '#') with
    | _ :: cs => some cs
    | [] => none
  let cs := cs.takeWhile (· != '#')
  let query := match cs.dropWhile (· != '?') with
    | _ :: cs => some cs
    | [] => none
  ⟨cs.takeWhile (· != '?'), query, fragment⟩

/-- Whether a query may hold a character. -/
def isQueryChar (kind : Kind) (c : Char) : Bool :=
  0x20 < c.toNat && c.toNat < 0x7F && !"\"#<>".toList.contains c && !(kind.takesBackslash && c == '\'')

/-- Whether a fragment may hold a character. -/
def isFragmentChar (c : Char) : Bool :=
  0x20 < c.toNat && c.toNat < 0x7F && !"\"<>`".toList.contains c

/-- Whether the name and the secret of a user may hold a character. -/
def isUserChar (c : Char) : Bool :=
  Path.isKept c && !"/:;=@[\\]^|".toList.contains c

/-- The address of its parts. -/
def ofParts (scheme : String) (authority : Option Authority) (path : List Char) (parts : Parts) : Url where
  scheme := scheme
  authority := authority
  path := String.ofList path
  query := parts.query.map fun cs => String.ofList (Text.Percent.escape (isQueryChar (.ofScheme scheme)) cs)
  fragment := parts.fragment.map fun cs => String.ofList (Text.Percent.escape isFragmentChar cs)

/-- What stands before the last `@`, if there is one, and what stands behind it. -/
def splitUser (cs : List Char) : Option (List Char) × List Char :=
  match cs.reverse.span (· != '@') with
  | (_, []) => (none, cs)
  | (server, _ :: user) => (some user.reverse, server.reverse)

/-- Reads a user: the secret stands behind the first colon. -/
def User.ofChars (cs : List Char) : User :=
  let (name, secret) := Text.cutAt ':' cs
  ⟨Text.Percent.escape isUserChar name, Text.Percent.escape isUserChar secret⟩

/-- Whether there is no user. -/
def User.isNone (u : User) : Bool :=
  u.name.isEmpty && u.secret.isEmpty

/-- Splits a server at the colon behind its host; a colon between brackets belongs to the host. -/
def splitHost (inBrackets : Bool) : List Char → List Char × Option (List Char)
  | [] => ([], none)
  | c :: cs =>
    if c == ':' && !inBrackets then ([], some cs)
    else
      let (host, number) := splitHost (c == '[' || (c != ']' && inBrackets)) cs
      (c :: host, number)

/-- Reads the number behind a host, and gives what is left; a backslash may follow it. -/
def readNumber (kind : Kind) (cs : List Char) : Except Fault (Option Nat × List Char) :=
  let digits := cs.takeWhile Text.isDigit
  let rest := cs.dropWhile Text.isDigit
  let number := Text.natOfDigits digits
  if 65535 < number || (rest.head?.any (· != '\\')) then .error .badNumber
  else .ok (if digits.isEmpty || kind == .network number then none else some number, rest)

/-- Reads the server of an address that has slashes before it, and gives what is left. With `isLast` the address ends with the server. -/
def Authority.ofChars (kind : Kind) (isLast : Bool) (cs : List Char) : Except Fault (Authority × List Char) := do
  let (user, server) := splitUser cs
  if user == some [] && server.isEmpty && !isLast then throw .emptyHost
  let user := User.ofChars (user.getD [])
  let (host, number) := splitHost false server
  if kind != .other && host.isEmpty then throw .emptyHost
  let host ← if kind == .other then Host.ofText host else Host.ofDomain host
  if host.isNone && (number.isSome || !user.isNone) then throw .emptyHost
  let (number, rest) ← readNumber kind (number.getD [])
  return (⟨user, host, number⟩, rest)

/-- Whether a character ends the server of an address. -/
def endsServer (kind : Kind) (c : Char) : Bool :=
  c == '/' || (kind.takesBackslash && c == '\\')

/-- The characters behind the first slash. -/
def afterSlash (kind : Kind) : List Char → List Char
  | [] => []
  | c :: cs => if endsServer kind c then cs else c :: cs

/-- Reads an address of a server. -/
def ofServer (scheme : String) (kind : Kind) (parts : Parts) (cs : List Char) : Except Fault Url := do
  let server := cs.takeWhile (!endsServer kind ·)
  let path := cs.dropWhile (!endsServer kind ·)
  let isLast := path.isEmpty && parts.query.isNone && parts.fragment.isNone
  let (authority, rest) ← Authority.ofChars kind isLast server
  let path := rest ++ path
  if kind == .other && path.isEmpty then return ofParts scheme (some authority) [] parts
  return ofParts scheme (some authority) (Path.render (Path.ofChars false kind.takesBackslash (afterSlash kind path))) parts

/-- Reads the address of a file: a machine counts only behind two slashes and if it is not the machine itself, and a path that begins
with a drive is on the machine itself. -/
def ofFile (parts : Parts) : Except Fault Url := do
  let isSlash := endsServer .file
  let (host, path) ←
    match parts.body with
    | a :: b :: cs =>
      if isSlash a && isSlash b then
        let machine := cs.takeWhile (!isSlash ·)
        let path := cs.dropWhile (!isSlash ·)
        if Path.isDrive machine then pure (Host.name "", cs)
        else if machine.isEmpty then pure (Host.name "", path)
        else do
          let host ← Host.ofDomain machine
          pure (if host == .name "localhost" then (Host.name "", path) else (host, afterSlash .file path))
      else pure (Host.name "", afterSlash .file parts.body)
    | cs => pure (Host.name "", afterSlash .file cs)
  let names := Path.ofChars true true path
  let host := if names.head?.any Path.isDrive then .name "" else host
  return ofParts "file" (some ⟨⟨[], []⟩, host, none⟩) ('/' :: (Path.render names).dropWhile (· == '/')) parts

/-- Reads an address. -/
def ofText (text : String) : Except Fault Url :=
  match splitScheme? (significant text) with
  | none => .error .relative
  | some (scheme, rest) =>
    let parts := Parts.ofChars rest
    match Kind.ofScheme scheme with
    | .network usual => ofServer scheme (.network usual) parts (parts.body.dropWhile fun c => c == '/' || c == '\\')
    | .file => ofFile parts
    | .other =>
      match parts.body with
      | '/' :: '/' :: cs => ofServer scheme .other parts cs
      | '/' :: cs => .ok (ofParts scheme none (Path.render (Path.ofChars false false cs)) parts)
      | cs => .ok (ofParts scheme none (Text.Percent.escape Host.isShown cs) parts)

/-- The user as text, with the sign behind it. -/
def User.render (u : User) : String :=
  if u.isNone then ""
  else String.ofList (u.name ++ (if u.secret.isEmpty then [] else ':' :: u.secret) ++ ['@'])

/-- The server as text. -/
def Authority.render (a : Authority) : String :=
  a.user.render ++ a.host.render ++ match a.number with
    | some n => ":" ++ toString n
    | none => ""

/-- What stands before a path. Without a server, a path that begins with two slashes gets a dot before it, so that it is not taken for
one. -/
def lead (u : Url) : String :=
  match u.authority with
  | some a => "//" ++ a.render
  | none => if u.path.startsWith "//" then "/." else ""

/-- What the server of an address is asked for. -/
def asked (u : Url) : String :=
  u.path ++ (u.query.map ("?" ++ ·)).getD ""

/-- The address as text. -/
def render (u : Url) : String :=
  u.scheme ++ ":" ++ u.lead ++ u.asked ++ (u.fragment.map ("#" ++ ·)).getD ""

/-- Whether there is a host. -/
def hasHost (u : Url) : Bool :=
  u.authority.any (!·.host.isNone)

/-- Whether a message can be posted to the address. -/
def isWeb (u : Url) : Bool :=
  u.scheme == "http" || u.scheme == "https"

/-- Whether a user can be told: its name is a text, and is not empty unless there is a secret that is a text. -/
def User.isKnown (u : User) : Bool :=
  match Text.Percent.unescape? u.name with
  | none => false
  | some name => !name.isEmpty || (!u.secret.isEmpty && (Text.Percent.unescape? u.secret).isSome)

/-- The address without the user, who is told apart from it. -/
def withoutUser (u : Url) : Url :=
  { u with authority := u.authority.map fun a => if a.user.isKnown then { a with user := ⟨[], []⟩ } else a }

end Url

end Herald

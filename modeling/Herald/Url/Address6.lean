import Herald.Text.Table

/-!
# Numeric hosts of 128 digits

Such a host is eight groups of up to four digits in base 16 with colons between them. Two colons stand for at least one group of zeros,
once, and the last two groups may be written as four numbers with dots between them.
-/

namespace Herald.Url.Address6

/-- Reads a group. -/
def group? (ds : List Char) : Option Nat :=
  if ds.isEmpty || 4 < ds.length || !(ds.all fun d => (Text.hexValue? d).isSome) then none else some (Text.natOfHexDigits ds)

/-- Reads a number below 256 in base 10, without a zero before it. -/
def byte? (ds : List Char) : Option Nat :=
  match ds with
  | [] => none
  | ['0'] => some 0
  | '0' :: _ => none
  | ds => if ds.all Text.isDigit && Text.natOfDigits ds < 256 then some (Text.natOfDigits ds) else none

/-- Reads the last part of a host: a group, or two groups as four numbers. -/
def last? (part : List Char) : Option (List Nat) :=
  match group? part with
  | some g => some [g]
  | none =>
    match (Text.partsAt '.' part).mapM byte? with
    | some [a, b, c, d] => some [a * 256 + b, c * 256 + d]
    | _ => none

/-- Reads the groups between colons, where `isEnd` says that the host ends with them. -/
def groups? (isEnd : Bool) (cs : List Char) : Option (List Nat) :=
  if cs.isEmpty then some []
  else if isEnd then do
    let parts := Text.partsAt ':' cs
    return (← parts.dropLast.mapM group?) ++ (← last? (parts.getLastD []))
  else (Text.partsAt ':' cs).mapM group?

/-- What stands before two colons and behind them, if there are two. -/
def cutAtGap? : List Char → Option (List Char × List Char)
  | ':' :: ':' :: cs => some ([], cs)
  | c :: cs => (cutAtGap? cs).map fun p => (c :: p.1, p.2)
  | [] => none

/-- Reads a host as its eight groups. -/
def ofChars? (cs : List Char) : Option (List Nat) :=
  match cutAtGap? cs with
  | none => do
    let groups ← groups? true cs
    if groups.length = 8 then some groups else none
  | some (before, behind) => do
    let before ← groups? false before
    let behind ← groups? true behind
    if before.length + behind.length < 8 then
      some (before ++ List.replicate (8 - before.length - behind.length) 0 ++ behind)
    else none

/-- The place and the length of the longest run of zeros; of two as long, the first. -/
def longestGap (groups : List Nat) : Nat × Nat :=
  ((List.range groups.length).map fun i => (i, ((groups.drop i).takeWhile (· == 0)).length)).foldl
    (fun best run => if best.2 < run.2 then run else best) (0, 0)

/-- Groups with colons between them. -/
def joined (groups : List Nat) : List Char :=
  Text.joinWith ':' (groups.map (Nat.toDigits 16))

/-- The text of a host: the longest run of zeros is left out if it is longer than one. -/
def render (groups : List Nat) : String :=
  let (place, length) := longestGap groups
  if length < 2 then String.ofList (joined groups)
  else String.ofList (joined (groups.take place) ++ [':', ':'] ++ joined (groups.drop (place + length)))

end Herald.Url.Address6

import Herald.Text.Ascii

/-!
# Punycode

A text of any characters written with letters, digits and hyphens: first the basic characters as they are, then, behind a hyphen, the
others in the order of their numbers. Each is given by how far the decoder has to go on from the one before it through all pairs of a
number and a place, in digits whose weights depend on the steps so far.
-/

namespace Herald.Text.Punycode

/-- The character of a digit: letters first, then figures. -/
def digit (d : Nat) : Char :=
  if d < 26 then Char.ofNat (97 + d) else Char.ofNat (22 + d)

/-- The value of a digit. -/
def digitValue? (c : Char) : Option Nat :=
  let c := lowerChar c
  if 'a' ≤ c && c ≤ 'z' then some (c.toNat - 97) else if isDigit c then some (c.toNat - 22) else none

/-- The least digit that another one follows, `k` being 36 at the first digit and 36 more at each that follows. -/
def threshold (k bias : Nat) : Nat :=
  if k ≤ bias then 1 else if bias + 26 ≤ k then 26 else k - bias

theorem threshold_pos (k bias : Nat) : 0 < threshold k bias := by
  unfold threshold
  split
  · omega
  · split <;> omega

/-- Divides a step until it is small, and counts the divisions in `k`. -/
def settle (delta k : Nat) : Nat × Nat :=
  if 455 < delta then settle (delta / 35) (k + 36) else (delta, k)
termination_by delta
decreasing_by exact Nat.div_lt_self (by omega) (by omega)

/-- The bias after a step, where `count` characters are written so far. -/
def adapt (delta count : Nat) (isFirst : Bool) : Nat :=
  let delta := if isFirst then delta / 700 else delta / 2
  let (delta, k) := settle (delta + delta / count) 0
  k + 36 * delta / (delta + 38)

/-- The digits of a step. -/
def digits (bias k delta : Nat) : List Char :=
  if delta < threshold k bias then [digit delta]
  else
    digit (threshold k bias + (delta - threshold k bias) % (36 - threshold k bias)) ::
      digits bias (k + 36) ((delta - threshold k bias) / (36 - threshold k bias))
termination_by delta
decreasing_by
  have := threshold_pos k bias
  exact Nat.lt_of_le_of_lt (Nat.div_le_self _ _) (by omega)

/-- Where a writer stands: the digits so far, the step that it has made since the last of them, and how many characters it has
written. -/
structure Progress where
  written : List Char
  delta : Nat
  bias : Nat
  count : Nat

/-- Passes one character on the way to those of a number: a smaller one is a place further, the number itself is written. -/
def Progress.pass (basic n : Nat) (p : Progress) (c : Char) : Progress :=
  if c.toNat < n then { p with delta := p.delta + 1 }
  else if c.toNat = n then
    { written := p.written ++ digits p.bias 36 p.delta
      delta := 0
      bias := adapt p.delta (p.count + 1) (p.count == basic)
      count := p.count + 1 }
  else p

/-- Passes the whole text for one number, after the pairs of the numbers between. -/
def Progress.passAll (cs : List Char) (basic : Nat) (p : Nat × Progress) (n : Nat) : Nat × Progress :=
  let start := { p.2 with delta := p.2.delta + (n - p.1) * (p.2.count + 1) }
  let stop := cs.foldl (pass basic n) start
  (n + 1, { stop with delta := stop.delta + 1 })

/-- The numbers of the characters that are not basic, each once, from small to large. -/
def numbers (cs : List Char) : List Nat :=
  ((cs.filter (128 ≤ ·.toNat)).map (·.toNat)).mergeSort.eraseDups

/-- Writes a text. -/
def encode (cs : List Char) : List Char :=
  let basic := cs.filter (·.toNat < 128)
  let start : Progress := ⟨[], 0, 72, basic.length⟩
  basic ++ (if basic.isEmpty then [] else ['-']) ++ ((numbers cs).foldl (Progress.passAll cs basic.length) (128, start)).2.written

/-- Reads the digits of a step, and gives what is left. -/
def readStep? (bias : Nat) : List Char → Nat → Nat → Nat → Option (Nat × List Char)
  | [], _, _, _ => none
  | c :: cs, k, weight, delta => do
    let d ← digitValue? c
    if d < threshold k bias then return (delta + d * weight, cs)
    else readStep? bias cs (k + 36) (weight * (36 - threshold k bias)) (delta + d * weight)

/-- Reading a step takes at least one digit. -/
theorem length_of_readStep? {bias : Nat} {cs : List Char} {k weight delta : Nat} {r : Nat × List Char}
    (h : readStep? bias cs k weight delta = some r) : r.2.length < cs.length := by
  induction cs generalizing k weight delta with
  | nil => simp [readStep?] at h
  | cons c cs ih =>
    simp only [readStep?, Option.bind_eq_bind, Option.bind_eq_some_iff] at h
    obtain ⟨d, _, h⟩ := h
    split at h
    · cases h
      simp
    · have := ih h
      simp only [List.length_cons]
      omega

/-- Reads steps and puts a character in at each, where `n` and `place` say which pair the last step has led to. -/
def insertAll? (bias n place : Nat) (shown cs : List Char) : Option (List Char) :=
  match cs with
  | [] => some shown
  | c :: cs =>
    match _h : readStep? bias (c :: cs) 36 1 place with
    | none => none
    | some (position, rest) =>
      let count := shown.length + 1
      let n := n + position / count
      if n.isValidChar then
        insertAll? (adapt (position - place) count (place == 0)) n (position % count + 1)
          (shown.insertIdx (position % count) (Char.ofNat n)) rest
      else none
termination_by cs.length
decreasing_by
  have := length_of_readStep? _h
  simpa using this

/-- Reads a text. The basic characters end at the last hyphen that has something before it. -/
def decode? (cs : List Char) : Option (List Char) :=
  match cs.reverse.span (· != '-') with
  | (steps, _ :: basic) =>
    if basic.isEmpty then none else if basic.all (·.toNat < 128) then insertAll? 72 128 0 basic.reverse steps.reverse else none
  | (_, []) => insertAll? 72 128 0 [] cs

end Herald.Text.Punycode

import Herald.Json.Printer
import Herald.Json.Reader
import Herald.Proofs.Digits

/-!
# Values survive being written

The indented text of a value is read back as the draft of that value, whatever follows the text. Values that are written like another
one are left out (`Plain`): a character is written like a text, and a number with a fraction need not be read as the same.
-/

namespace Herald.Json

/-! ## Texts -/

/-- The piece that a written character is read as. -/
def pieceOf (c : Char) : Piece :=
  if c.toNat < 0x20 ∧ c ≠ '\x08' ∧ c ≠ '\x0c' ∧ c ≠ '\n' ∧ c ≠ '\r' ∧ c ≠ '\t' then .unit c.toNat else .plain c

/-- How an escape by number looks. -/
theorem hexDigits_spec : ∀ n < 32, unitOf? '0' '0' (Text.hexDigit (n / 16)) (Text.hexDigit (n % 16)) = some n := by
  decide

/-- A hexadecimal digit can stand in a text as it is. -/
theorem hexDigit_spec : ∀ n < 16, Text.hexDigit n ≠ '"' ∧ Text.hexDigit n ≠ '\\' ∧ ¬(Text.hexDigit n).toNat < 0x20 := by
  decide

/-- A character that can stand in a text as it is belongs to the content. -/
theorem content_cons {c : Char} (hq : c ≠ '"') (hb : c ≠ '\\') (hc : ¬c.toNat < 0x20) (cs : List Char) :
    content (c :: cs) = (content cs).map fun p => (c :: p.1, p.2) := by
  rw [content.eq_def]
  split
  case h_1 h => exact absurd h nofun
  case h_2 h => exact absurd (List.cons.inj h).1 hq
  case h_3 h => exact absurd (List.cons.inj h).1 hb
  case h_4 h => exact absurd (List.cons.inj h).1 hb
  case h_5 h =>
    obtain ⟨rfl, rfl⟩ := List.cons.inj h
    rw [if_neg hc]

/-- A character is written by a short escape, by its number, or as it is. -/
theorem escapeChar_cases (c : Char) :
    (∃ x, escapeChar c = ['\\', x] ∧ x ≠ 'u' ∧ shortEscape? x = some c ∧ pieceOf c = .plain c) ∨
      (c.toNat < 0x20 ∧ escapeChar c = ['\\', 'u', '0', '0', Text.hexDigit (c.toNat / 16), Text.hexDigit (c.toNat % 16)] ∧
        pieceOf c = .unit c.toNat) ∨
      (escapeChar c = [c] ∧ c ≠ '"' ∧ c ≠ '\\' ∧ ¬c.toNat < 0x20 ∧ pieceOf c = .plain c) := by
  rw [escapeChar.eq_def]
  split
  case h_1 => exact Or.inl ⟨'"', rfl, by decide, rfl, rfl⟩
  case h_2 => exact Or.inl ⟨'\\', rfl, by decide, rfl, rfl⟩
  case h_3 => exact Or.inl ⟨'b', rfl, by decide, rfl, rfl⟩
  case h_4 => exact Or.inl ⟨'f', rfl, by decide, rfl, rfl⟩
  case h_5 => exact Or.inl ⟨'n', rfl, by decide, rfl, rfl⟩
  case h_6 => exact Or.inl ⟨'r', rfl, by decide, rfl, rfl⟩
  case h_7 => exact Or.inl ⟨'t', rfl, by decide, rfl, rfl⟩
  case h_8 hq hb h8 hf hn hr ht =>
    split
    case isTrue hc => exact Or.inr (Or.inl ⟨hc, rfl, if_pos ⟨hc, h8, hf, hn, hr, ht⟩⟩)
    case isFalse hc => exact Or.inr (Or.inr ⟨rfl, hq, hb, hc, if_neg fun h => hc h.1⟩)

/-- A written character belongs to the content. -/
theorem content_escapeChar (c : Char) (cs : List Char) :
    content (escapeChar c ++ cs) = (content cs).map fun p => (escapeChar c ++ p.1, p.2) := by
  rcases escapeChar_cases c with ⟨x, he, _⟩ | ⟨hc, he, _⟩ | ⟨he, hq, hb, hc, _⟩
  · rw [he]
    rfl
  · obtain ⟨hq, hb, hh⟩ := hexDigit_spec (c.toNat / 16) (by omega)
    obtain ⟨gq, gb, gh⟩ := hexDigit_spec (c.toNat % 16) (by omega)
    rw [he]
    simp only [List.cons_append, List.nil_append]
    rw [content, content_cons (by decide) (by decide) (by decide), content_cons (by decide) (by decide) (by decide),
      content_cons hq hb hh, content_cons gq gb gh]
    cases content cs <;> rfl
  · rw [he]
    exact content_cons hq hb hc cs

/-- The content of a written text ends at its closing quote. -/
theorem content_escaped (cs rest : List Char) : content (cs.flatMap escapeChar ++ '"' :: rest) = some (cs.flatMap escapeChar, rest) := by
  induction cs with
  | nil => rfl
  | cons c cs ih => rw [List.flatMap_cons, List.append_assoc, content_escapeChar, ih, Option.map_some]

/-- A written character is read as its piece. -/
theorem pieces_escapeChar (c : Char) (cs : List Char) : pieces (escapeChar c ++ cs) = (pieces cs).map (pieceOf c :: ·) := by
  rcases escapeChar_cases c with ⟨x, he, hx, hs, hp⟩ | ⟨hc, he, hp⟩ | ⟨he, _, hb, _, hp⟩
  · rw [he, hp]
    change pieces ('\\' :: x :: cs) = _
    rw [pieces.eq_def]
    split
    case h_1 h => exact absurd h nofun
    case h_2 h => exact absurd (List.cons.inj (List.cons.inj h).2).1 hx
    case h_3 h =>
      obtain ⟨rfl, rfl⟩ := List.cons.inj (List.cons.inj h).2
      rw [hs]
      cases pieces cs <;> rfl
    case h_4 h => exact absurd (List.cons.inj h).2 nofun
    case h_5 hno _ h => exact (hno x cs (List.cons.inj h).1.symm (List.cons.inj h).2.symm).elim
  · rw [he, hp]
    simp only [List.cons_append, List.nil_append]
    rw [pieces, hexDigits_spec _ (by omega)]
    cases pieces cs <;> rfl
  · rw [he, hp]
    change pieces (c :: cs) = _
    rw [pieces.eq_def]
    split
    case h_1 h => exact absurd h nofun
    case h_2 h => exact absurd (List.cons.inj h).1 hb
    case h_3 h => exact absurd (List.cons.inj h).1 hb
    case h_4 h => exact absurd (List.cons.inj h).1 hb
    case h_5 h =>
      obtain ⟨rfl, rfl⟩ := List.cons.inj h
      cases pieces cs <;> rfl

/-- A written text is read as its pieces. -/
theorem pieces_escaped (cs : List Char) : pieces (cs.flatMap escapeChar) = some (cs.map pieceOf) := by
  induction cs with
  | nil => rfl
  | cons c cs ih => rw [List.flatMap_cons, pieces_escapeChar, ih, Option.map_some, List.map_cons]

/-- The number of a control is no half of a pair. -/
theorem joinUnits_unit {n : Nat} (hn : n < 0x20) (ps : List Piece) :
    joinUnits (.unit n :: ps) = (joinUnits ps).map (Char.ofNat n :: ·) := by
  have hhigh : isHigh n = false := by
    simp only [isHigh, Bool.and_eq_false_iff, decide_eq_false_iff_not]
    omega
  have hlow : isLow n = false := by
    simp only [isLow, Bool.and_eq_false_iff, decide_eq_false_iff_not]
    omega
  cases ps with
  | nil => simp [joinUnits, hhigh, hlow]
  | cons p ps =>
    cases p with
    | plain c => simp [joinUnits, hhigh, hlow]
    | unit m => simp [joinUnits, hhigh, hlow]

/-- The pieces of a written text are put together again. -/
theorem joinUnits_pieces (cs : List Char) : joinUnits (cs.map pieceOf) = some cs := by
  induction cs with
  | nil => rfl
  | cons c cs ih =>
    rw [List.map_cons]
    rcases escapeChar_cases c with ⟨_, _, _, _, hp⟩ | ⟨hc, _, hp⟩ | ⟨_, _, _, _, hp⟩
    · rw [hp, joinUnits, ih, Option.map_some]
    · rw [hp, joinUnits_unit hc, ih, Option.map_some, Char.ofNat_toNat]
    · rw [hp, joinUnits, ih, Option.map_some]

/-- A written text is read back, from behind its opening quote. -/
theorem readText_escaped (s : String) (rest : List Char) :
    readText (s.toList.flatMap escapeChar ++ '"' :: rest) = some (some s, rest) := by
  rw [readText, content_escaped]
  simp only [Option.bind_eq_bind, Option.bind_some]
  rw [pieces_escaped, Option.bind_some, joinUnits_pieces, Option.map_some, String.ofList_toList]
  rfl

/-! ## Numbers -/

/-- What may follow a number: nothing that would continue it. -/
def Ends (cs : List Char) : Prop :=
  ∀ c ∈ cs.head?, Text.isDigit c = false ∧ c ≠ '.' ∧ c ≠ 'e' ∧ c ≠ 'E'

/-- The first digit of a positive number is not zero. -/
theorem head_toDigits {n : Nat} (hn : 0 < n) : (Nat.toDigits 10 n).head? ≠ some '0' := by
  induction n using Nat.strongRecOn with
  | ind n ih =>
    by_cases hlt : n < 10
    · rw [Nat.toDigits_of_lt_base hlt]
      have hall : ∀ k < 10, 0 < k → [k.digitChar].head? ≠ some '0' := by decide
      exact hall n hlt hn
    · have hdiv := ih (n / 10) (by omega) (by omega)
      rw [Nat.toDigits_of_base_le (by decide) (by omega), List.head?_append]
      obtain ⟨d, ds, hd⟩ := List.exists_cons_of_ne_nil (Nat.toDigits_ne_nil : Nat.toDigits 10 (n / 10) ≠ [])
      rw [hd] at hdiv ⊢
      exact hdiv

/-- A zero does not start the digits of a longer number. -/
theorem toDigits_ne_zero_cons (n : Nat) (d : Char) (ds : List Char) : Nat.toDigits 10 n ≠ '0' :: d :: ds := by
  intro h
  rcases Nat.eq_zero_or_pos n with rfl | hn
  · rw [Nat.toDigits_zero] at h
    exact absurd (List.cons.inj h).2 nofun
  · exact head_toDigits hn (h ▸ rfl)

/-- Nothing follows a number that an exponent could start with. -/
theorem readExponent_ends {rest : List Char} (hr : Ends rest) : readExponent rest = some (none, rest) := by
  cases rest with
  | nil => rfl
  | cons c rest =>
    obtain ⟨_, _, he, hE⟩ := hr c rfl
    rw [readExponent.eq_def]
    exact if_neg (by simp [he, hE])

/-- A whole number is read as it is written. -/
theorem readNumberText_toDigits (n : Nat) {rest : List Char} (hr : Ends rest) :
    readNumberText (Nat.toDigits 10 n ++ rest) = some (⟨false, Nat.toDigits 10 n, [], none⟩, rest) := by
  have hdigits : ∀ c ∈ Nat.toDigits 10 n, Text.isDigit c = true := fun c hc => Text.isDigit_of_mem_toDigits hc
  have hstops : Text.Stops rest := fun c hc => (hr c hc).1
  have htake := Text.takeWhile_digits hdigits hstops
  have hdrop := Text.dropWhile_digits hdigits hstops
  rw [readNumberText]
  case x =>
    -- the first digit is no sign
    intro ds h
    obtain ⟨d, _, hd⟩ := List.exists_cons_of_ne_nil (Nat.toDigits_ne_nil : Nat.toDigits 10 n ≠ [])
    have hdigit := hdigits d (hd ▸ List.mem_cons_self)
    rw [hd] at h
    exact absurd hdigit ((List.cons.inj h).1 ▸ by decide)
  simp only [htake, hdrop]
  split
  · next h => exact absurd h Nat.toDigits_ne_nil
  · next h => exact absurd h (toDigits_ne_zero_cons n _ _)
  · have hexponent := readExponent_ends hr
    cases rest with
    | nil => rfl
    | cons c rest =>
      have hpoint := (hr c rfl).2.1
      simp [hpoint, hexponent]

/-- The value of a whole number that fits. -/
theorem value?_toDigits {n : Nat} (hn : n ≤ maxWord) :
    NumberText.value? ⟨false, Nat.toDigits 10 n, [], none⟩ = some (.unsigned n) := by
  simp [NumberText.value?, Text.natOfDigits_toDigits, hn]

/-! ## Values -/

mutual

/-- The draft of a value: every part of it has a value. -/
def draftOf : Value → Draft
  | .list items => .list (draftsOf items)
  | .object fields => .object (fieldDraftsOf fields)
  | v => .scalar (some v)

/-- The drafts of some values. -/
def draftsOf : List Value → List Draft
  | [] => []
  | v :: rest => draftOf v :: draftsOf rest

/-- The drafts of some fields. -/
def fieldDraftsOf : List (String × Value) → List (Option String × Draft)
  | [] => []
  | (k, v) :: rest => (some k, draftOf v) :: fieldDraftsOf rest

end

mutual

/-- A value that is read as it is written. -/
def Plain : Value → Prop
  | .null => True
  | .bool _ => True
  | .unsigned n => n ≤ maxWord
  | .text _ => True
  | .list items => PlainItems items
  | .object fields => PlainFields fields
  | _ => False

/-- Values that are read as they are written. -/
def PlainItems : List Value → Prop
  | [] => True
  | v :: rest => Plain v ∧ PlainItems rest

/-- Fields that are read as they are written. -/
def PlainFields : List (String × Value) → Prop
  | [] => True
  | (_, v) :: rest => Plain v ∧ PlainFields rest

end

/-- A new line holds blanks only. -/
theorem isBlank_of_mem_newline {level : Nat} {c : Char} (h : c ∈ newline level) : isBlank c = true := by
  rcases List.mem_cons.mp h with rfl | h
  · rfl
  · rw [List.eq_of_mem_replicate h]
    rfl

/-- A new line is skipped. -/
theorem skipBlanks_newline (level : Nat) (cs : List Char) : skipBlanks (newline level ++ cs) = skipBlanks cs :=
  List.dropWhile_append_of_pos fun _ h => isBlank_of_mem_newline h

/-- What starts without a blank has none to skip. -/
theorem skipBlanks_cons {c : Char} (h : isBlank c = false) (cs : List Char) : skipBlanks (c :: cs) = c :: cs := by
  rw [skipBlanks, List.dropWhile_cons, h]
  rfl

/-- A new line before a value is skipped. -/
theorem readDraft_newline (fuel level : Nat) (cs : List Char) : readDraft fuel (newline level ++ cs) = readDraft fuel cs := by
  cases fuel with
  | zero => rfl
  | succ fuel => rw [readDraft, readDraft, skipBlanks_newline]

/-- A space before a value is skipped. -/
theorem readDraft_space (fuel : Nat) (cs : List Char) : readDraft fuel (' ' :: cs) = readDraft fuel cs := by
  cases fuel with
  | zero => rfl
  | succ fuel => rw [readDraft, readDraft, skipBlanks, List.dropWhile_cons_of_pos (by decide), skipBlanks]

/-- A new line before the items of a list is skipped. -/
theorem readItems_newline (fuel level : Nat) (cs : List Char) : readItems fuel (newline level ++ cs) = readItems fuel cs := by
  cases fuel with
  | zero => rfl
  | succ fuel => rw [readItems, readItems, readDraft_newline]

/-- A new line before the fields of an object is skipped. -/
theorem readFields_newline (fuel level : Nat) (cs : List Char) : readFields fuel (newline level ++ cs) = readFields fuel cs := by
  cases fuel with
  | zero => rfl
  | succ fuel => rw [readFields, readFields, skipBlanks_newline]

/-- A new line ends a number. -/
theorem ends_newline (level : Nat) (cs : List Char) : Ends (newline level ++ cs) := by
  intro c hc
  obtain rfl : '\n' = c := Option.some.inj hc
  decide

/-- A comma ends a number. -/
theorem ends_comma (cs : List Char) : Ends (',' :: cs) := by
  intro c hc
  obtain rfl : ',' = c := Option.some.inj hc
  decide

/-- A value that is not a list or an object is read as one. -/
theorem readDraft_of_scalar {fuel : Nat} {c : Char} {cs : List Char} (hblank : isBlank c = false) (hlist : c ≠ '[')
    (hobject : c ≠ '\x7b') : readDraft (fuel + 1) (c :: cs) = readScalar (c :: cs) := by
  rw [readDraft, skipBlanks_cons hblank]
  split
  · next h => exact absurd (List.cons.inj h).1 hlist
  · next h => exact absurd (List.cons.inj h).1 hobject
  · rfl

/-- A digit is no blank. -/
theorem isBlank_of_isDigit {c : Char} (h : Text.isDigit c = true) : isBlank c = false := by
  simp only [isBlank, Bool.or_eq_false_iff, beq_eq_false_iff_ne]
  refine ⟨⟨⟨?_, ?_⟩, ?_⟩, ?_⟩ <;> rintro rfl <;> exact absurd h (by decide)

/-- What is written of a value starts without a blank and is not the end of a list. -/
theorem head_indentedChars {v : Value} (hp : Plain v) (level : Nat) :
    ∃ c cs, indentedChars level v = c :: cs ∧ isBlank c = false ∧ c ≠ ']' := by
  cases v with
  | null => exact ⟨'n', _, rfl, by decide, by decide⟩
  | bool b =>
    cases b
    · exact ⟨'f', _, rfl, by decide, by decide⟩
    · exact ⟨'t', _, rfl, by decide, by decide⟩
  | unsigned n =>
    obtain ⟨d, ds, hd⟩ := List.exists_cons_of_ne_nil (Nat.toDigits_ne_nil : Nat.toDigits 10 n ≠ [])
    have hdigit : Text.isDigit d = true := Text.isDigit_of_mem_toDigits (hd ▸ List.mem_cons_self)
    exact ⟨d, ds, hd, isBlank_of_isDigit hdigit, fun h => absurd hdigit (h ▸ by decide)⟩
  | text s => exact ⟨'"', _, rfl, by decide, by decide⟩
  | list items => cases items <;> exact ⟨'[', _, rfl, by decide, by decide⟩
  | object fields => cases fields <;> exact ⟨'\x7b', _, rfl, by decide, by decide⟩
  | signed n => exact hp.elim
  | float x => exact hp.elim
  | char c => exact hp.elim

/-- A whole number is read back where nothing continues it. -/
theorem readDraft_unsigned {n fuel : Nat} (hn : n ≤ maxWord) {rest : List Char} (hr : Ends rest) :
    readDraft (fuel + 1) (Nat.toDigits 10 n ++ rest) = some (.scalar (some (.unsigned n)), rest) := by
  have hread := readNumberText_toDigits n hr
  obtain ⟨d, ds, hd⟩ := List.exists_cons_of_ne_nil (Nat.toDigits_ne_nil : Nat.toDigits 10 n ≠ [])
  have hdigit : Text.isDigit d = true := Text.isDigit_of_mem_toDigits (hd ▸ List.mem_cons_self)
  have hne : ∀ c, Text.isDigit c = false → d ≠ c := fun c hc h => absurd hdigit (h ▸ hc ▸ Bool.false_ne_true)
  have hvalue := value?_toDigits hn
  rw [hd, List.cons_append] at hread ⊢
  rw [readDraft_of_scalar (isBlank_of_isDigit hdigit) (hne _ rfl) (hne _ rfl), readScalar.eq_def]
  split
  · next h => exact absurd (List.cons.inj h).1 (hne _ rfl)
  · next h => exact absurd (List.cons.inj h).1 (hne _ rfl)
  · next h => exact absurd (List.cons.inj h).1 (hne _ rfl)
  · next h => exact absurd (List.cons.inj h).1 (hne _ rfl)
  · rw [hread, Option.map_some, ← hd, hvalue]

/-- A text is read back. -/
theorem readDraft_text (s : String) (fuel : Nat) (rest : List Char) :
    readDraft (fuel + 1) (textChars s ++ rest) = some (.scalar (some (.text s)), rest) := by
  have hshape : textChars s ++ rest = '"' :: (s.toList.flatMap escapeChar ++ '"' :: rest) := by
    simp [textChars]
  rw [hshape, readDraft_of_scalar (by decide) (by decide) (by decide), readScalar, readText_escaped]
  rfl

/-- What is written of the items of a list starts without a blank and is not the end of the list. -/
theorem head_indentedItems {v : Value} (hp : Plain v) (items : List Value) (level : Nat) :
    ∃ c cs, indentedItems level (v :: items) = c :: cs ∧ isBlank c = false ∧ c ≠ ']' := by
  obtain ⟨c, cs, hc, hblank, hend⟩ := head_indentedChars hp (level + 1)
  cases items with
  | nil => exact ⟨c, _, by rw [indentedItems, hc]; rfl, hblank, hend⟩
  | cons w items => exact ⟨c, _, by simp only [indentedItems, hc, List.cons_append]; rfl, hblank, hend⟩

/-- What is written of the fields of an object starts with a quote. -/
theorem head_indentedFields (k : String) (v : Value) (fields : List (String × Value)) (level : Nat) :
    ∃ cs, indentedFields level ((k, v) :: fields) = '"' :: cs := by
  cases fields <;> exact ⟨_, rfl⟩

/-- What is written of the items of a list is not empty. -/
theorem length_indentedItems (level : Nat) (items : List Value) : 0 < (indentedItems level items).length := by
  rw [indentedItems.eq_def]
  split <;> simp only [List.length_append, List.length_cons] <;> omega

/-- What is written of the fields of an object is not empty. -/
theorem length_indentedFields (level : Nat) (fields : List (String × Value)) : 0 < (indentedFields level fields).length := by
  rw [indentedFields.eq_def]
  split <;> simp only [List.length_append, List.length_cons] <;> omega

/-- A list that is not empty is read as its items. -/
theorem readDraft_list {fuel level : Nat} {c : Char} {cs : List Char} (hblank : isBlank c = false) (hend : c ≠ ']') :
    readDraft (fuel + 1) ('[' :: (newline level ++ c :: cs)) = (readItems fuel (c :: cs)).map fun p => (.list p.1, p.2) := by
  rw [readDraft, skipBlanks_cons (by decide)]
  simp only [skipBlanks_newline, skipBlanks_cons hblank]
  split
  · next h => exact absurd (List.cons.inj h).1 hend
  · rfl

/-- An object that is not empty is read as its fields. -/
theorem readDraft_object (fuel level : Nat) (cs : List Char) :
    readDraft (fuel + 1) ('\x7b' :: (newline level ++ '"' :: cs)) = (readFields fuel ('"' :: cs)).map fun p => (.object p.1, p.2) := by
  rw [readDraft, skipBlanks_cons (by decide)]
  simp only [skipBlanks_newline, skipBlanks_cons (by decide : isBlank '"' = false)]
  rfl

mutual

/-- A value is read back where nothing continues it. -/
theorem readDraft_indentedChars (v : Value) (hp : Plain v) (level fuel : Nat) (rest : List Char) (hr : Ends rest)
    (hf : 2 * (indentedChars level v).length ≤ fuel) :
    readDraft fuel (indentedChars level v ++ rest) = some (draftOf v, rest) := by
  obtain ⟨_, _, hhead, _⟩ := head_indentedChars hp level
  have hlen : 0 < (indentedChars level v).length := hhead ▸ Nat.zero_lt_succ _
  obtain ⟨fuel, rfl⟩ : ∃ k, fuel = k + 1 := ⟨fuel - 1, by omega⟩
  match v with
  | .null => exact readDraft_of_scalar (by decide) (by decide) (by decide)
  | .bool true => exact readDraft_of_scalar (by decide) (by decide) (by decide)
  | .bool false => exact readDraft_of_scalar (by decide) (by decide) (by decide)
  | .unsigned n => exact readDraft_unsigned hp hr
  | .text s => exact readDraft_text s fuel rest
  | .list [] => rfl
  | .list (v :: items) =>
    obtain ⟨c, cs, hc, hblank, hend⟩ := head_indentedItems hp.1 items level
    have hshape : indentedChars level (.list (v :: items)) ++ rest =
        '[' :: (newline (level + 1) ++ (indentedItems level (v :: items) ++ rest)) := by
      simp [indentedChars]
    have hfuel : 2 * (indentedItems level (v :: items)).length ≤ fuel := by
      simp only [indentedChars, List.length_cons, List.length_append, List.cons_append] at hf
      omega
    have hitems := readItems_indentedItems (v :: items) nofun hp level fuel rest hfuel
    rw [hshape]
    rw [hc, List.cons_append] at hitems ⊢
    rw [readDraft_list hblank hend, hitems]
    rfl
  | .object [] => rfl
  | .object ((k, v) :: fields) =>
    obtain ⟨cs, hc⟩ := head_indentedFields k v fields level
    have hshape : indentedChars level (.object ((k, v) :: fields)) ++ rest =
        '\x7b' :: (newline (level + 1) ++ (indentedFields level ((k, v) :: fields) ++ rest)) := by
      simp [indentedChars]
    have hfuel : 2 * (indentedFields level ((k, v) :: fields)).length ≤ fuel := by
      simp only [indentedChars, List.length_cons, List.length_append, List.cons_append] at hf
      omega
    have hfields := readFields_indentedFields ((k, v) :: fields) nofun hp level fuel rest hfuel
    rw [hshape]
    rw [hc, List.cons_append] at hfields ⊢
    rw [readDraft_object, hfields]
    rfl
  | .signed _ => exact hp.elim
  | .float _ => exact hp.elim
  | .char _ => exact hp.elim

/-- The items of a list are read back. -/
theorem readItems_indentedItems (items : List Value) (hne : items ≠ []) (hp : PlainItems items) (level fuel : Nat)
    (rest : List Char) (hf : 2 * (indentedItems level items).length ≤ fuel) :
    readItems fuel (indentedItems level items ++ rest) = some (draftsOf items, rest) := by
  obtain ⟨fuel, rfl⟩ : ∃ k, fuel = k + 1 := ⟨fuel - 1, by have := length_indentedItems level items; omega⟩
  match items with
  | [] => exact absurd rfl hne
  | [v] =>
    have hshape : indentedItems level [v] ++ rest = indentedChars (level + 1) v ++ (newline level ++ ']' :: rest) := by
      simp [indentedItems]
    have hfuel : 2 * (indentedChars (level + 1) v).length ≤ fuel := by
      simp only [indentedItems, List.length_append, List.length_cons] at hf
      omega
    rw [hshape, readItems, readDraft_indentedChars v hp.1 (level + 1) fuel _ (ends_newline level _) hfuel]
    simp only [Option.bind_eq_bind, Option.bind_some, skipBlanks_newline, skipBlanks_cons (by decide : isBlank ']' = false)]
    rfl
  | v :: w :: items =>
    have hshape : indentedItems level (v :: w :: items) ++ rest =
        indentedChars (level + 1) v ++ ',' :: (newline (level + 1) ++ (indentedItems level (w :: items) ++ rest)) := by
      simp [indentedItems]
    have hlengths : (indentedItems level (v :: w :: items)).length =
        (indentedChars (level + 1) v).length + 1 + (newline (level + 1)).length + (indentedItems level (w :: items)).length := by
      simp only [indentedItems, List.length_append, List.length_cons]
      omega
    rw [hshape, readItems, readDraft_indentedChars v hp.1 (level + 1) fuel _ (ends_comma _) (by omega)]
    simp only [Option.bind_eq_bind, Option.bind_some, skipBlanks_cons (by decide : isBlank ',' = false)]
    rw [readItems_newline, readItems_indentedItems (w :: items) nofun hp.2 level fuel rest (by omega)]
    rfl

/-- The fields of an object are read back. -/
theorem readFields_indentedFields (fields : List (String × Value)) (hne : fields ≠ []) (hp : PlainFields fields)
    (level fuel : Nat) (rest : List Char) (hf : 2 * (indentedFields level fields).length ≤ fuel) :
    readFields fuel (indentedFields level fields ++ rest) = some (fieldDraftsOf fields, rest) := by
  obtain ⟨fuel, rfl⟩ : ∃ k, fuel = k + 1 := ⟨fuel - 1, by have := length_indentedFields level fields; omega⟩
  match fields with
  | [] => exact absurd rfl hne
  | [(k, v)] =>
    have hshape : indentedFields level [(k, v)] ++ rest = '"' :: (k.toList.flatMap escapeChar ++
        '"' :: ':' :: ' ' :: (indentedChars (level + 1) v ++ (newline level ++ '\x7d' :: rest))) := by
      simp [indentedFields, textChars]
    have hfuel : 2 * (indentedChars (level + 1) v).length ≤ fuel := by
      simp only [indentedFields, List.length_append, List.length_cons] at hf
      omega
    have hvalue := readDraft_indentedChars v hp.1 (level + 1) fuel _ (ends_newline level ('\x7d' :: rest)) hfuel
    rw [hshape, readFields, skipBlanks_cons (by decide)]
    simp only [readText_escaped, Option.bind_eq_bind, Option.bind_some, skipBlanks_cons (by decide : isBlank ':' = false)]
    rw [readDraft_space, hvalue]
    simp only [Option.bind_some, skipBlanks_newline, skipBlanks_cons (by decide : isBlank '\x7d' = false)]
    rfl
  | (k, v) :: (k', w) :: fields =>
    have hshape : indentedFields level ((k, v) :: (k', w) :: fields) ++ rest = '"' :: (k.toList.flatMap escapeChar ++
        '"' :: ':' :: ' ' :: (indentedChars (level + 1) v ++
          ',' :: (newline (level + 1) ++ (indentedFields level ((k', w) :: fields) ++ rest)))) := by
      simp [indentedFields, textChars]
    have hlengths : (indentedChars (level + 1) v).length + 1 + (indentedFields level ((k', w) :: fields)).length ≤
        (indentedFields level ((k, v) :: (k', w) :: fields)).length := by
      simp only [indentedFields, List.length_append, List.length_cons]
      omega
    have hvalue := readDraft_indentedChars v hp.1 (level + 1) fuel _
      (ends_comma (newline (level + 1) ++ (indentedFields level ((k', w) :: fields) ++ rest))) (by omega)
    rw [hshape, readFields, skipBlanks_cons (by decide)]
    simp only [readText_escaped, Option.bind_eq_bind, Option.bind_some, skipBlanks_cons (by decide : isBlank ':' = false)]
    rw [readDraft_space, hvalue]
    simp only [Option.bind_some, skipBlanks_cons (by decide : isBlank ',' = false)]
    rw [readFields_newline, readFields_indentedFields ((k', w) :: fields) nofun hp.2 level fuel rest (by omega)]
    rfl

end

/-- The indented text of a plain value is read as the draft of the value. -/
theorem ofText?_indented {v : Value} (hp : Plain v) : Draft.ofText? v.indented = some (draftOf v) := by
  have hread := readDraft_indentedChars v hp 0 (2 * (indentedChars 0 v).length + 2) [] nofun (by omega)
  rw [List.append_nil] at hread
  rw [Draft.ofText?, Value.indented, String.toList_ofList]
  simp only [hread]
  rfl

end Herald.Json

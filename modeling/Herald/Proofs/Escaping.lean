import Herald.Proofs.ChatMarkup

/-!
# Escaping can be undone

A text is escaped by three replacements, each over the outcome of the one before. Together they are one pass, which writes an entity for
each special character and leaves every other (`toList_escape`). The special characters can be put back in the same way, one after the other,
if the ampersand comes last: until then every ampersand begins an entity, so that no entity is found where none was written
(`putBack_flatMap`). Put back first, an ampersand may complete an entity that stood in the text.
-/

namespace Herald.Message.Slack

/-! ## Replacing a text -/

/-- Replaces every occurrence of a text that is not empty. They are looked for from the left, behind what was replaced before. -/
def replaceText (old new : List Char) : List Char → List Char
  | [] => []
  | c :: cs =>
    if old.isPrefixOf (c :: cs) then new ++ replaceText old new (cs.drop (old.length - 1)) else c :: replaceText old new cs
termination_by cs => cs.length
decreasing_by
  · rw [List.length_drop, List.length_cons]
    omega
  · exact Nat.lt_succ_self _

section ReplaceText

variable {old new : List Char}

/-- An occurrence at the start is replaced. -/
theorem replaceText_append_self (hold : old ≠ []) (rest : List Char) :
    replaceText old new (old ++ rest) = new ++ replaceText old new rest := by
  obtain ⟨c, cs, rfl⟩ := List.exists_cons_of_ne_nil hold
  have hfound : (c :: cs).isPrefixOf (c :: (cs ++ rest)) = true := List.isPrefixOf_iff_prefix.mpr (List.prefix_append _ _)
  rw [List.cons_append, replaceText, if_pos hfound, List.length_cons, Nat.add_sub_cancel, List.drop_left]

/-- A character at which no occurrence starts stays. -/
theorem replaceText_cons {c : Char} {cs : List Char} (h : ¬old <+: c :: cs) :
    replaceText old new (c :: cs) = c :: replaceText old new cs := by
  rw [replaceText, if_neg (mt List.isPrefixOf_iff_prefix.mp h)]

/-- Characters with which no occurrence can start stay. -/
theorem replaceText_append {first : Char} {tail : List Char} {cs : List Char} (h : first ∉ cs) (rest : List Char) :
    replaceText (first :: tail) new (cs ++ rest) = cs ++ replaceText (first :: tail) new rest := by
  induction cs with
  | nil => rfl
  | cons c cs ih =>
    rw [List.mem_cons, not_or] at h
    have hstart : ¬first :: tail <+: c :: (cs ++ rest) := fun hp => h.1 (List.cons_prefix_cons.mp hp).1
    rw [List.cons_append, replaceText_cons hstart, ih h.2, List.cons_append]

/-- What is replaced in the same way behind every character is replaced in the whole. -/
theorem replaceText_flatMap {f g : Char → List Char}
    (h : ∀ c rest, replaceText old new (f c ++ rest) = g c ++ replaceText old new rest) (cs : List Char) :
    replaceText old new (cs.flatMap f) = cs.flatMap g := by
  induction cs with
  | nil =>
    rw [List.flatMap_nil, List.flatMap_nil]
    exact replaceText.eq_1 old new
  | cons c cs ih => rw [List.flatMap_cons, h, ih, List.flatMap_cons]

/-- Replacing a single character takes each one for itself. -/
theorem replaceText_singleton (old : Char) (new : String) (cs : List Char) : replaceText [old] new.toList cs = replaceChar old new cs := by
  have hpass : replaceText [old] new.toList (cs.flatMap fun c => [c]) = replaceChar old new cs := by
    refine replaceText_flatMap (fun c rest => ?_) cs
    split
    · next hc =>
      rw [hc]
      exact replaceText_append_self (List.cons_ne_nil _ _) rest
    · next hc => exact replaceText_cons fun hp => hc (List.cons_prefix_cons.mp hp).1.symm
  rwa [List.flatMap_singleton'] at hpass

end ReplaceText

/-! ## Entities -/

/-- The special characters. -/
def specials : List Char :=
  ['&', '<', '>']

/-- An entity has one ampersand, at its start. -/
theorem exists_escapedChar {c : Char} (h : c ∈ specials) : ∃ tail, escapedChar c = '&' :: tail ∧ '&' ∉ tail := by
  simp only [specials, List.mem_cons, List.not_mem_nil, or_false] at h
  rcases h with rfl | rfl | rfl
  · exact ⟨"amp;".toList, rfl, by decide⟩
  · exact ⟨"lt;".toList, rfl, by decide⟩
  · exact ⟨"gt;".toList, rfl, by decide⟩

/-- No entity is the start of another. -/
theorem eq_of_escapedChar_starts {c d : Char} (hc : c ∈ specials) (hd : d ∈ specials) {rest : List Char}
    (h : escapedChar d <+: escapedChar c ++ rest) : c = d := by
  simp only [specials, List.mem_cons, List.not_mem_nil, or_false] at hc hd
  rcases hc with rfl | rfl | rfl <;> rcases hd with rfl | rfl | rfl <;> simp [escapedChar] at h ⊢

/-- A character that is not special is its own. -/
theorem escapedChar_of_not_mem {c : Char} (h : c ∉ specials) : escapedChar c = [c] := by
  simp only [specials, List.mem_cons, List.not_mem_nil, or_false, not_or] at h
  rw [escapedChar, if_neg h.1, if_neg h.2.1, if_neg h.2.2]

/-! ## Putting special characters back -/

/-- A character where only some of the special ones are escaped. -/
def escapedAmong (escaped : List Char) (c : Char) : List Char :=
  if c ∈ escaped then escapedChar c else [c]

/-- Puts a special character in the place of its entity. -/
def putBack (cs : List Char) (special : Char) : List Char :=
  replaceText (escapedChar special) [special] cs

/-- A text with the special characters put back, one after the other. -/
def unescape (order : List Char) (text : String) : String :=
  String.ofList (order.foldl putBack text.toList)

/-- Where ampersands are escaped, putting back a special character leaves the others as they are. -/
theorem putBack_flatMap {escaped : List Char} {d : Char} (hsub : ∀ c ∈ escaped, c ∈ specials) (hamp : '&' ∈ escaped)
    (hd : d ∈ escaped) (cs : List Char) :
    putBack (cs.flatMap (escapedAmong escaped)) d = cs.flatMap (escapedAmong (escaped.filter (· ≠ d))) := by
  obtain ⟨tail, hentity, -⟩ := exists_escapedChar (hsub d hd)
  refine replaceText_flatMap (fun c rest => ?_) cs
  by_cases hcd : c = d
  · -- its own entity
    subst hcd
    have hself : escapedAmong (escaped.filter (· ≠ c)) c = [c] := if_neg (by simp)
    rw [escapedAmong, if_pos hd, hself, replaceText_append_self (by simp [hentity])]
  have hfilter : escapedAmong (escaped.filter (· ≠ d)) c = escapedAmong escaped c := by
    simp only [escapedAmong, List.mem_filter, decide_eq_true_eq, hcd, ne_eq, not_false_eq_true, and_true]
  rw [hfilter]
  by_cases hc : c ∈ escaped
  · -- another entity
    obtain ⟨other, hother, hrest⟩ := exists_escapedChar (hsub c hc)
    have hstart : ¬escapedChar d <+: '&' :: (other ++ rest) := by
      rw [← List.cons_append, ← hother]
      exact fun hp => hcd (eq_of_escapedChar_starts (hsub c hc) (hsub d hd) hp)
    rw [escapedAmong, if_pos hc, hother, List.cons_append, replaceText_cons hstart, hentity, replaceText_append hrest, List.cons_append]
  · -- a character as it stands, which is no ampersand
    have hplain : '&' ∉ [c] := fun hmem => hc (List.mem_singleton.mp hmem ▸ hamp)
    rw [escapedAmong, if_neg hc, hentity, replaceText_append hplain]

/-- An escaped text is one in which all special characters are escaped. -/
theorem toList_escape_eq (text : String) : (escape text).toList = text.toList.flatMap (escapedAmong specials) := by
  rw [toList_escape]
  congr 1
  funext c
  rw [escapedAmong]
  split
  · rfl
  · next h => exact escapedChar_of_not_mem h

/-- Where nothing is escaped, the text stands as it is. -/
theorem flatMap_escapedAmong_nil (cs : List Char) : cs.flatMap (escapedAmong []) = cs := by
  have hplain : escapedAmong [] = fun c => [c] := funext fun c => if_neg List.not_mem_nil
  rw [hplain, List.flatMap_singleton']

/-- Putting the brackets back in either order and then the ampersands gives the text. -/
theorem unescape_escape {order : List Char} (h : order = ['<', '>', '&'] ∨ order = ['>', '<', '&']) (text : String) :
    unescape order (escape text) = text := by
  rw [← String.toList_inj, unescape, String.toList_ofList, toList_escape_eq]
  rcases h with rfl | rfl <;>
  · simp only [List.foldl_cons, List.foldl_nil]
    rw [putBack_flatMap (fun _ h => h) (by decide) (by decide),
      putBack_flatMap (fun _ h => (List.mem_filter.mp h).1) (by decide) (by decide),
      putBack_flatMap (fun _ h => (List.mem_filter.mp (List.mem_filter.mp h).1).1) (by decide) (by decide)]
    exact flatMap_escapedAmong_nil _

/-- An ampersand of an inert text begins an entity. -/
theorem Inert.entity {before after : List Char} (h : Inert (before ++ '&' :: after)) : ∃ e ∈ entities, e <+: after := by
  induction before with
  | nil =>
    cases h with
    | cons _ _ ampersand _ => exact ampersand rfl
  | cons c before ih =>
    cases h with
    | cons _ _ _ rest => exact ih rest

/-- Escaping replaces the ampersands, then the opening brackets, then the closing ones, each in what came of the one before, and this comes
to a single pass. Every ampersand of an escaped text begins an entity, and the special characters can be put back, the ampersands last. So no
two texts are escaped to the same. -/
theorem escape_is_reversible (text : String) :
    (escape text).toList =
      replaceText ['>'] "&gt;".toList (replaceText ['<'] "&lt;".toList (replaceText ['&'] "&amp;".toList text.toList)) ∧
      (escape text).toList = text.toList.flatMap escapedChar ∧
      (∀ before after, (escape text).toList = before ++ '&' :: after → ∃ e ∈ entities, e <+: after) ∧
      unescape ['<', '>', '&'] (escape text) = text ∧ unescape ['>', '<', '&'] (escape text) = text ∧
      ∀ other, escape other = escape text → other = text := by
  refine ⟨?_, toList_escape text, fun before after h => ?_, unescape_escape (.inl rfl) text, unescape_escape (.inr rfl) text, ?_⟩
  · rw [replaceText_singleton, replaceText_singleton, replaceText_singleton, escape, String.toList_ofList]
  · have hinert := inert_escape text
    rw [h] at hinert
    exact hinert.entity
  · intro other h
    rw [← unescape_escape (.inl rfl) other, h]
    exact unescape_escape (.inl rfl) text

/-- A text with an entity, a part of one and a bracket: its own ampersands are escaped too, and nothing else is put back for them. -/
theorem entity_in_a_text_is_kept :
    escape "&lt; &am <" = "&amp;lt; &amp;am &lt;" ∧ (∃ e ∈ entities, e <+: "amp;am &lt;".toList) ∧
      unescape ['<', '>', '&'] "&amp;lt; &amp;am &lt;" = "&lt; &am <" ∧ escape "< &am <" ≠ escape "&lt; &am <" := by
  have hescaped : escape "&lt; &am <" = "&amp;lt; &amp;am &lt;" := by decide
  obtain ⟨-, -, hentity, hback, -, hsame⟩ := escape_is_reversible "&lt; &am <"
  rw [hescaped] at hentity hback
  exact ⟨hescaped, hentity "&amp;lt; ".toList "amp;am &lt;".toList (by decide), hback, fun h => absurd (hsame _ h) (by decide)⟩

/-- With the ampersands first, the entity that stood in the text is taken for an escaped bracket. -/
example : unescape ['&', '<', '>'] (escape "&lt;") = "<" := by
  cbv

end Herald.Message.Slack

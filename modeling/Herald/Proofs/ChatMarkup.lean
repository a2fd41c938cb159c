import Herald.Message.Slack

/-!
# What callers put into chat markup

The markup of a message is put together from parts of its own and from the texts of the message. The title and the body are escaped, so
neither a bracket nor a loose ampersand comes from them, and the control sequences of the markup are those of its last line, whatever the
title and the body are. The recipients are not escaped: a recipient with a `>` ends its mention early, and what follows may open a
control sequence of its own (`recipient_mentions_the_channel`). The markup is free of forgeries exactly if no recipient holds a bracket or
a loose ampersand (`forged_by_recipients_only`).
-/

namespace Herald.Message.Slack

/-! ## Control sequences -/

/-- The control sequences of a text that follows an opened one. -/
def controlsFrom : Option (List Char) → List Char → List String
  | _, [] => []
  | none, c :: cs => if c = '<' then controlsFrom (some [c]) cs else controlsFrom none cs
  | some opened, c :: cs =>
    if c = '>' then String.ofList (opened ++ [c]) :: controlsFrom none cs else controlsFrom (some (opened ++ [c])) cs

/-- The control sequences of a text: each begins at a `<` and ends with the next `>`. -/
def controls (text : String) : List String :=
  controlsFrom none text.toList

/-- A text without an opening bracket opens nothing. -/
theorem controlsFrom_append {cs : List Char} (h : '<' ∉ cs) (rest : List Char) :
    controlsFrom none (cs ++ rest) = controlsFrom none rest := by
  induction cs with
  | nil => rfl
  | cons c cs ih =>
    rw [List.mem_cons, not_or] at h
    rw [List.cons_append, controlsFrom, if_neg (Ne.symm h.1), ih h.2]

/-- What is open ends at the next closing bracket. -/
theorem controlsFrom_close {cs : List Char} (h : '>' ∉ cs) (opened rest : List Char) :
    controlsFrom (some opened) (cs ++ '>' :: rest) = String.ofList (opened ++ cs ++ ['>']) :: controlsFrom none rest := by
  induction cs generalizing opened with
  | nil => rw [List.nil_append, controlsFrom, if_pos rfl, List.append_nil]
  | cons c cs ih =>
    rw [List.mem_cons, not_or] at h
    rw [List.cons_append, controlsFrom, if_neg (Ne.symm h.1), ih h.2, List.append_assoc opened, List.singleton_append]

/-! ## Mentions -/

/-- The mentions of some recipients, on one line. -/
def mentionLine (recipients : List String) : String :=
  " ".intercalate (recipients.map mention)

theorem toList_mention (recipient : String) : (mention recipient).toList = '<' :: '@' :: recipient.toList ++ ['>'] := by
  simp [mention]

/-- Different recipients are mentioned differently. -/
theorem mention_inj {r s : String} : mention r = mention s ↔ r = s := by
  simp [mention]

/-- The mention of a recipient without a closing bracket is a control sequence. -/
theorem controlsFrom_mention {recipient : String} (h : '>' ∉ recipient.toList) (rest : List Char) :
    controlsFrom none ((mention recipient).toList ++ rest) = mention recipient :: controlsFrom none rest := by
  have hopened : '>' ∉ '@' :: recipient.toList := by
    rw [List.mem_cons, not_or]
    exact ⟨by decide, h⟩
  have htext : String.ofList (['<'] ++ '@' :: recipient.toList ++ ['>']) = mention recipient := by
    rw [← String.toList_inj, String.toList_ofList, toList_mention, List.singleton_append]
  rw [toList_mention, List.append_assoc, List.singleton_append, List.cons_append, controlsFrom, if_pos rfl,
    controlsFrom_close hopened, htext]

/-- The mention of a recipient with a closing bracket is cut off there. -/
theorem controlsFrom_mention_of_mem {recipient : String} (h : '>' ∈ recipient.toList) (rest : List Char) :
    ∃ shorter after, shorter ≠ recipient ∧
      controlsFrom none ((mention recipient).toList ++ rest) = mention shorter :: controlsFrom none after := by
  obtain ⟨before, behind, hsplit, hfirst⟩ := List.eq_append_cons_of_mem h
  refine ⟨String.ofList before, behind ++ ['>'] ++ rest, ?_, ?_⟩
  · intro hsame
    rw [← hsame, String.toList_ofList] at h
    exact hfirst h
  · have hshort : '>' ∉ (String.ofList before).toList := by rwa [String.toList_ofList]
    rw [← controlsFrom_mention hshort (behind ++ ['>'] ++ rest)]
    simp [toList_mention, hsplit]

/-- The control sequences of a line of mentions are the mentions, if no recipient has a closing bracket, and only then. -/
theorem controls_mentionLine {recipients : List String} :
    controls (mentionLine recipients) = recipients.map mention ↔ ∀ r ∈ recipients, '>' ∉ r.toList := by
  have hsep : (" " : String).toList = [' '] := rfl
  unfold controls mentionLine
  rw [String.toList_intercalate, hsep]
  induction recipients with
  | nil => simp [controlsFrom]
  | cons r rest ih =>
    -- what stands behind the first mention opens what the other mentions open
    have hrest : ∃ behind, [' '].intercalate (((r :: rest).map mention).map String.toList) = (mention r).toList ++ behind ∧
        controlsFrom none behind = controlsFrom none ([' '].intercalate ((rest.map mention).map String.toList)) := by
      cases rest with
      | nil => exact ⟨[], by simp, rfl⟩
      | cons s rest =>
        refine ⟨[' '] ++ [' '].intercalate (((s :: rest).map mention).map String.toList), ?_, controlsFrom_append (by decide) _⟩
        simp only [List.map_cons, List.intercalate_cons_cons, List.append_assoc]
    obtain ⟨behind, hline, hbehind⟩ := hrest
    rw [hline, List.forall_mem_cons, List.map_cons]
    by_cases hr : '>' ∈ r.toList
    · obtain ⟨shorter, after, hne, hcut⟩ := controlsFrom_mention_of_mem hr behind
      rw [hcut, List.cons.injEq, mention_inj]
      exact ⟨fun h => absurd h.1 hne, fun h => absurd hr h.1⟩
    · rw [controlsFrom_mention hr, hbehind, List.cons.injEq]
      exact ⟨fun h => ⟨hr, ih.mp h.2⟩, fun h => ⟨rfl, ih.mpr h.2⟩⟩

/-! ## Inert texts -/

/-- What follows the ampersand of an entity. -/
def entities : List (List Char) :=
  ["amp;".toList, "lt;".toList, "gt;".toList]

/-- Whether a text has no bracket, and no ampersand but those that begin an entity. -/
inductive Inert : List Char → Prop
  | nil : Inert []
  | cons {c : Char} {cs : List Char} (opens : c ≠ '<') (closes : c ≠ '>') (ampersand : c = '&' → ∃ e ∈ entities, e <+: cs)
      (rest : Inert cs) : Inert (c :: cs)

theorem Inert.not_mem {cs : List Char} (h : Inert cs) : '<' ∉ cs ∧ '>' ∉ cs := by
  induction h with
  | nil => exact ⟨List.not_mem_nil, List.not_mem_nil⟩
  | cons hopen hclose _ _ ih =>
    exact ⟨List.not_mem_cons_of_ne_of_not_mem hopen.symm ih.1, List.not_mem_cons_of_ne_of_not_mem hclose.symm ih.2⟩

/-- A character as it is escaped. -/
def escapedChar (c : Char) : List Char :=
  if c = '&' then "&amp;".toList else if c = '<' then "&lt;".toList else if c = '>' then "&gt;".toList else [c]

/-- A text is escaped character by character. -/
theorem toList_escape (text : String) : (escape text).toList = text.toList.flatMap escapedChar := by
  rw [escape, String.toList_ofList, replaceChar, replaceChar, replaceChar, List.flatMap_assoc, List.flatMap_assoc]
  congr 1
  funext c
  unfold escapedChar
  by_cases hamp : c = '&'
  · subst hamp
    decide
  by_cases hopen : c = '<'
  · subst hopen
    decide
  simp [hamp, hopen]

/-- An escaped character is inert. -/
theorem inert_escapedChar (c : Char) {cs : List Char} (h : Inert cs) : Inert (escapedChar c ++ cs) := by
  have hplain (d : Char) {ds : List Char} (hd : d ≠ '<' ∧ d ≠ '>' ∧ d ≠ '&') (hds : Inert ds) : Inert (d :: ds) :=
    .cons hd.1 hd.2.1 (fun he => absurd he hd.2.2) hds
  unfold escapedChar
  split
  · refine .cons (by decide) (by decide) (fun _ => ⟨"amp;".toList, by decide, List.prefix_append _ _⟩) ?_
    exact hplain 'a' (by decide) (hplain 'm' (by decide) (hplain 'p' (by decide) (hplain ';' (by decide) h)))
  split
  · refine .cons (by decide) (by decide) (fun _ => ⟨"lt;".toList, by decide, List.prefix_append _ _⟩) ?_
    exact hplain 'l' (by decide) (hplain 't' (by decide) (hplain ';' (by decide) h))
  split
  · refine .cons (by decide) (by decide) (fun _ => ⟨"gt;".toList, by decide, List.prefix_append _ _⟩) ?_
    exact hplain 'g' (by decide) (hplain 't' (by decide) (hplain ';' (by decide) h))
  · next hamp hopen hclose => exact hplain c ⟨hopen, hclose, hamp⟩ h

/-- An escaped text is inert. -/
theorem inert_escape (text : String) : Inert (escape text).toList := by
  rw [toList_escape]
  induction text.toList with
  | nil => exact .nil
  | cons c cs ih =>
    rw [List.flatMap_cons]
    exact inert_escapedChar c ih

/-! ## Where the markup comes from -/

/-- Where a part of the markup comes from: from the markup itself, or from a text of the message. -/
inductive Origin
  | frame
  | title
  | body
  | recipient
  deriving DecidableEq, Repr

/-- A part of the markup. -/
structure Part where
  origin : Origin
  text : String
  deriving DecidableEq, Repr

/-- The parts of a mention. -/
def mentionParts (recipient : String) : List Part :=
  [⟨.frame, "<@"⟩, ⟨.recipient, recipient⟩, ⟨.frame, ">"⟩]

/-- The lines of the markup of a message, each in its parts. -/
def lineParts (m : Message) : List (List Part) :=
  (m.title.map fun t => [⟨.frame, "*"⟩, ⟨.title, escape t⟩, ⟨.frame, "*"⟩]).toList ++
  (m.message.map fun t => [⟨.body, escape t⟩]).toList ++
  match m.recipientList with
  | [] => []
  | recipients => [[⟨.frame, " "⟩].intercalate (recipients.map mentionParts)]

/-- The markup of a message in its parts. -/
def parts (m : Message) : List Part :=
  [⟨.frame, "\n"⟩].intercalate (lineParts m)

/-- What the texts of a message come to in its markup: the title and the body escaped, the recipients as they are. -/
def supplied (m : Message) : List Part :=
  (m.title.map fun t => ⟨.title, escape t⟩).toList ++ (m.message.map fun t => ⟨.body, escape t⟩).toList ++
    m.recipientList.map fun r => ⟨.recipient, r⟩

/-- Parts with another one between them are joined as their texts are. -/
theorem join_intercalate (between : Part) (pieces : List (List Part)) :
    String.join (([between].intercalate pieces).map Part.text) =
      between.text.intercalate (pieces.map fun ps => String.join (ps.map Part.text)) := by
  induction pieces with
  | nil => rfl
  | cons ps rest ih =>
    cases rest with
    | nil => simp
    | cons qs rest =>
      rw [List.intercalate_cons_cons, List.map_append, String.join_append, ih]
      simp

/-- The parts of the markup are the markup. -/
theorem join_parts (m : Message) : String.join ((parts m).map Part.text) = m.slackText := by
  have hmention : (fun r => String.join ((mentionParts r).map Part.text)) = mention := by
    funext r
    simp [mentionParts, mention, String.append_assoc]
  rw [parts, join_intercalate, slackText, lineParts]
  congr 1
  cases m.title <;> cases m.message <;> cases m.recipientList <;>
    simp [join_intercalate, ← hmention, Function.comp_def, String.append_assoc]

/-- Between parts that are passed over, the others stay in their order. -/
theorem filter_intercalate {between : Part} {p : Part → Bool} (h : p between = false) (pieces : List (List Part)) :
    ([between].intercalate pieces).filter p = pieces.flatMap (List.filter p) := by
  induction pieces with
  | nil => rfl
  | cons ps rest ih =>
    cases rest with
    | nil => simp
    | cons qs rest =>
      rw [List.intercalate_cons_cons, List.filter_append, List.filter_append, ih]
      simp [h]

/-- The parts that come from the message are its texts, in the order of the markup. -/
theorem filter_parts (m : Message) : (parts m).filter (fun p => p.origin ≠ .frame) = supplied m := by
  have hmentions (recipients : List String) :
      ([⟨.frame, " "⟩].intercalate (recipients.map mentionParts)).filter (fun p => p.origin ≠ .frame) =
        recipients.map (⟨.recipient, ·⟩) := by
    rw [filter_intercalate (by decide), List.flatMap_map, List.map_eq_flatMap]
    rfl
  rw [parts, filter_intercalate (by decide), lineParts, supplied]
  cases m.recipientList with
  | nil => cases m.title <;> cases m.message <;> rfl
  | cons r rest => cases m.title <;> cases m.message <;> simp [← hmentions]

/-- What holds of each piece and of what stands between them holds of all. -/
theorem forall_mem_intercalate {P : Part → Prop} {between : Part} {pieces : List (List Part)} (hb : P between)
    (h : ∀ ps ∈ pieces, ∀ p ∈ ps, P p) : ∀ p ∈ [between].intercalate pieces, P p := by
  induction pieces with
  | nil => exact fun p hp => absurd hp List.not_mem_nil
  | cons ps rest ih =>
    obtain ⟨hps, hrest⟩ := List.forall_mem_cons.mp h
    cases rest with
    | nil => simpa using hps
    | cons qs rest =>
      rw [List.intercalate_cons_cons, List.append_assoc, List.forall_mem_append, List.singleton_append, List.forall_mem_cons]
      exact ⟨hps, hb, ih hrest⟩

/-- The texts that the markup itself consists of. -/
def marks : List String :=
  ["*", "\n", " ", "<@", ">"]

/-- Whether a part is a mark, if it does not come from the message. -/
def Part.Marked (p : Part) : Prop :=
  p.origin = .frame → p.text ∈ marks

/-- The markup adds nothing of its own but its marks. -/
theorem marked_parts (m : Message) : ∀ p ∈ parts m, p.Marked := by
  refine forall_mem_intercalate (by simp [Part.Marked, marks]) ?_
  unfold lineParts
  rw [List.forall_mem_append, List.forall_mem_append]
  refine ⟨⟨?_, ?_⟩, ?_⟩
  · cases m.title <;> simp [Part.Marked, marks]
  · cases m.message <;> simp [Part.Marked]
  · cases m.recipientList with
    | nil => exact fun ps hps => absurd hps List.not_mem_nil
    | cons r rest =>
      intro ps hps
      obtain rfl := List.mem_singleton.mp hps
      refine forall_mem_intercalate (by simp [Part.Marked, marks]) fun ps hps => ?_
      obtain ⟨s, -, rfl⟩ := List.mem_map.mp hps
      simp [Part.Marked, mentionParts, marks]

/-! ## Forgeries -/

/-- Lines without an opening bracket open nothing. -/
theorem controlsFrom_lines {lines : List (List Char)} (h : ∀ line ∈ lines, '<' ∉ line) (more : List (List Char)) :
    controlsFrom none (['\n'].intercalate (lines ++ more)) = controlsFrom none (['\n'].intercalate more) := by
  induction lines with
  | nil => rfl
  | cons line lines ih =>
    obtain ⟨hline, hlines⟩ := List.forall_mem_cons.mp h
    rw [← ih hlines, List.cons_append]
    cases lines ++ more with
    | nil =>
      have hend := controlsFrom_append hline []
      rw [List.append_nil] at hend
      rw [List.intercalate_singleton, List.intercalate_nil, hend]
    | cons next rest =>
      rw [List.intercalate_cons_cons, List.append_assoc, controlsFrom_append hline, List.singleton_append, controlsFrom,
        if_neg (by decide)]

/-- The control sequences of a markup are those of its line of mentions. -/
theorem controls_slackText (m : Message) : controls m.slackText = controls (mentionLine m.recipientList) := by
  have hopens (text : String) : '<' ∉ (escape text).toList := (inert_escape text).not_mem.1
  have hfront : ∀ line ∈ ((m.title.map fun t => "*" ++ escape t ++ "*").toList ++ (m.message.map escape).toList).map String.toList,
      '<' ∉ line := by
    cases m.title <;> cases m.message <;> simp [hopens]
  have hnewline : ("\n" : String).toList = ['\n'] := rfl
  rw [controls, slackText, String.toList_intercalate, hnewline, List.map_append, controlsFrom_lines hfront]
  cases m.recipientList with
  | nil => rfl
  | cons r rest => simp [controls, mentionLine]

/-- What comes from a message: its title and its body, escaped, and its recipients, as they are. -/
theorem supplied_cases {m : Message} {p : Part} (hp : p ∈ parts m) (ho : p.origin ≠ .frame) :
    (p.origin = .title ∨ p.origin = .body) ∧ (∃ t, p.text = escape t) ∨ p.origin = .recipient ∧ p.text ∈ m.recipientList := by
  have hmem : p ∈ supplied m := by
    rw [← filter_parts]
    exact List.mem_filter.mpr ⟨hp, decide_eq_true ho⟩
  simp only [supplied, List.mem_append, Option.mem_toList, Option.map_eq_some_iff, List.mem_map] at hmem
  rcases hmem with (⟨t, -, rfl⟩ | ⟨t, -, rfl⟩) | ⟨r, hr, rfl⟩
  · exact .inl ⟨.inl rfl, t, rfl⟩
  · exact .inl ⟨.inr rfl, t, rfl⟩
  · exact .inr ⟨rfl, hr⟩

/-- What comes from the title or from the body is inert. -/
theorem inert_of_origin {m : Message} {p : Part} (hp : p ∈ parts m) (ho : p.origin = .title ∨ p.origin = .body) :
    Inert p.text.toList := by
  have hframe : p.origin ≠ .frame := by rcases ho with ho | ho <;> simp [ho]
  rcases supplied_cases hp hframe with ⟨-, t, ht⟩ | ⟨hrecipient, -⟩
  · rw [ht]
    exact inert_escape t
  · rw [hrecipient] at ho
    rcases ho with ho | ho <;> cases ho

/-- A recipient is a part as it stands. -/
theorem recipient_mem_parts {m : Message} {r : String} (hr : r ∈ m.recipientList) : ⟨.recipient, r⟩ ∈ parts m := by
  have hmem : (⟨.recipient, r⟩ : Part) ∈ supplied m := List.mem_append_right _ (List.mem_map.mpr ⟨r, hr, rfl⟩)
  rw [← filter_parts] at hmem
  exact (List.mem_filter.mp hmem).1

/-- Whether nothing in the markup of a message is forged: its control sequences are one mention for each recipient, in their order, and no
part that comes from the message has a bracket or a loose ampersand. -/
structure Genuine (m : Message) : Prop where
  controls : controls m.slackText = m.recipientList.map mention
  inert : ∀ p ∈ parts m, p.origin ≠ .frame → Inert p.text.toList

/-- The markup consists of marks of its own and of the texts of the message. The title and the body are inert and have no say in the control
sequences. These are the mentions of the recipients exactly if no recipient has a closing bracket, and nothing is forged exactly if the
recipients are inert as they stand. -/
theorem forged_by_recipients_only (m : Message) :
    (String.join ((parts m).map Part.text) = m.slackText ∧ (parts m).filter (fun p => p.origin ≠ .frame) = supplied m ∧
      ∀ p ∈ parts m, p.Marked) ∧
    (∀ p ∈ parts m, p.origin = .title ∨ p.origin = .body → Inert p.text.toList) ∧
    (∀ m' : Message, m'.recipientList = m.recipientList → controls m'.slackText = controls m.slackText) ∧
    (controls m.slackText = m.recipientList.map mention ↔ ∀ r ∈ m.recipientList, '>' ∉ r.toList) ∧
    (Genuine m ↔ ∀ r ∈ m.recipientList, Inert r.toList) := by
  have hmentions : controls m.slackText = m.recipientList.map mention ↔ ∀ r ∈ m.recipientList, '>' ∉ r.toList := by
    rw [controls_slackText, controls_mentionLine]
  refine ⟨⟨join_parts m, filter_parts m, marked_parts m⟩, fun p hp => inert_of_origin hp, ?_, hmentions, ?_⟩
  · intro m' hsame
    rw [controls_slackText, controls_slackText, hsame]
  · constructor
    · intro h r hr
      exact h.inert _ (recipient_mem_parts hr) nofun
    · intro h
      refine ⟨hmentions.mpr fun r hr => (h r hr).not_mem.2, fun p hp ho => ?_⟩
      rcases supplied_cases hp ho with ⟨horigin, -⟩ | ⟨-, hr⟩
      · exact inert_of_origin hp horigin
      · exact h _ hr

/-- A recipient ends its own mention and mentions the whole channel. -/
theorem recipient_mentions_the_channel :
    controls (slackText { message := some "hi", recipients := some ["U1> <!channel"] }) = ["<@U1>", "<!channel>"] ∧
      ¬Genuine { message := some "hi", recipients := some ["U1> <!channel"] } := by
  have hforged : controls (slackText { message := some "hi", recipients := some ["U1> <!channel"] }) = ["<@U1>", "<!channel>"] := by
    cbv
  refine ⟨hforged, fun h => ?_⟩
  have hsame := h.controls
  rw [hforged] at hsame
  exact absurd (congrArg List.length hsame) (by decide)

end Herald.Message.Slack

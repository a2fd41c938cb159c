import Herald.Text.Slug
import Mathlib.Data.List.Basic

/-!
# Slugs are a normal form

The scanner that makes a slug of a name joins the runs of letters and digits of the name with single underscores
(`Slug.scan_eq_intercalate`, `Slug.runs_eq_map_words`). What it makes has small letters, digits and underscores only, and no underscore
that leads, trails or follows another (`IsSlug`); and just such names are their own slugs (`slug_eq_self_iff`).
-/

namespace Herald.Text

/-! ## Small letters and digits -/

/-- Whether a character is a basic small letter or a digit. -/
def IsSmall (c : Char) : Prop :=
  ('a' ≤ c ∧ c ≤ 'z') ∨ ('0' ≤ c ∧ c ≤ '9')

/-- A letter or a digit made small is a small letter or a digit. -/
theorem isSmall_lowerChar {c : Char} (h : isAlphanumeric c = true) : IsSmall (lowerChar c) := by
  rw [lowerChar]
  split
  · next hcapital =>
    simp only [Bool.and_eq_true, decide_eq_true_eq, Char.le_def, UInt32.le_iff_toNat_le] at hcapital
    have hlow : 65 ≤ c.toNat := hcapital.1
    have hhigh : c.toNat ≤ 90 := hcapital.2
    have hvalid : (c.toNat + 32).isValidChar := .inl (by omega)
    have hnat : (Char.ofNat (c.toNat + 32)).toNat = c.toNat + 32 := by rw [Char.ofNat, dif_pos hvalid]; rfl
    simp only [IsSmall, Char.le_def, UInt32.le_iff_toNat_le, Char.toNat_val, hnat]
    exact .inl ⟨by change 97 ≤ _; omega, by change _ ≤ 122; omega⟩
  · next hcapital =>
    simp only [isAlphanumeric, isDigit, Bool.or_eq_true, Bool.and_eq_true, decide_eq_true_eq] at h hcapital
    rcases h with (h | h) | h
    · exact .inl h
    · exact absurd h hcapital
    · exact .inr h

section IsSmall

variable {c : Char} (h : IsSmall c)
include h

/-- A small letter or a digit is a letter or a digit. -/
theorem IsSmall.isAlphanumeric : isAlphanumeric c = true := by
  simp only [Text.isAlphanumeric, isDigit, Bool.or_eq_true, Bool.and_eq_true, decide_eq_true_eq]
  rcases h with h | h
  · exact .inl (.inl h)
  · exact .inr h

/-- A small letter or a digit is small already. -/
theorem IsSmall.lowerChar_eq : lowerChar c = c := by
  refine if_neg fun hcapital => ?_
  simp only [Bool.and_eq_true, decide_eq_true_eq, Char.le_def, UInt32.le_iff_toNat_le] at hcapital
  simp only [IsSmall, Char.le_def, UInt32.le_iff_toNat_le] at h
  have hlow : 65 ≤ c.val.toNat := hcapital.1
  have hhigh : c.val.toNat ≤ 90 := hcapital.2
  rcases h with ⟨hstart, -⟩ | ⟨-, hend⟩
  · have : 97 ≤ c.val.toNat := hstart
    omega
  · have : c.val.toNat ≤ 57 := hend
    omega

/-- A small letter or a digit is no underscore. -/
theorem IsSmall.ne_underscore : c ≠ '_' := by
  rintro rfl
  exact absurd h.isAlphanumeric (by decide)

end IsSmall

/-! ## The form of a slug -/

/-- Whether a text neither ends with an underscore nor has two in a row. -/
structure Settled (cs : List Char) : Prop where
  last : cs.getLast? ≠ some '_'
  single : ¬['_', '_'] <:+: cs

/-- Whether a text has the form of a slug. -/
structure IsSlug (cs : List Char) : Prop extends Settled cs where
  chars : ∀ c ∈ cs, IsSmall c ∨ c = '_'
  first : cs.head? ≠ some '_'

/-- An empty text is settled. -/
theorem settled_nil : Settled [] :=
  ⟨nofun, by decide⟩

section Settled

variable {c : Char} {cs : List Char}

/-- A character that is no underscore may stand before a settled text. -/
theorem Settled.cons (h : Settled cs) (hc : c ≠ '_') : Settled (c :: cs) where
  last := by
    cases cs with
    | nil => exact fun hlast => hc (Option.some.inj hlast)
    | cons d cs =>
      rw [List.getLast?_cons_cons]
      exact h.last
  single := by
    rw [List.infix_cons_iff, List.cons_prefix_cons, not_or]
    exact ⟨fun hstart => hc hstart.1.symm, h.single⟩

/-- And an underscore before that. -/
theorem Settled.underscore_cons (h : Settled cs) (hc : c ≠ '_') : Settled ('_' :: c :: cs) where
  last := by
    rw [List.getLast?_cons_cons]
    exact (h.cons hc).last
  single := by
    rw [List.infix_cons_iff, List.cons_prefix_cons, List.cons_prefix_cons, not_or]
    exact ⟨fun hstart => hc hstart.2.1.symm, (h.cons hc).single⟩

/-- What stands behind the first character of a settled text is settled. -/
theorem Settled.of_cons (h : Settled (c :: cs)) : Settled cs where
  last := by
    cases cs with
    | nil => exact nofun
    | cons d cs =>
      rw [← List.getLast?_cons_cons]
      exact h.last
  single := fun hin => h.single (List.infix_cons hin)

/-- Behind an underscore of a settled text stands something else. -/
theorem Settled.exists_cons (h : Settled ('_' :: cs)) : ∃ d ds, cs = d :: ds ∧ d ≠ '_' := by
  cases cs with
  | nil => exact absurd rfl h.last
  | cons d ds =>
    refine ⟨d, ds, rfl, ?_⟩
    rintro rfl
    exact h.single (List.prefix_append ['_', '_'] ds).isInfix

end Settled

namespace Slug

/-! ## What the scanner makes -/

/-- The scanner writes small letters, digits and underscores. -/
theorem chars_scan (started gap : Bool) (cs : List Char) : ∀ c ∈ scan started gap cs, IsSmall c ∨ c = '_' := by
  induction cs generalizing started gap with
  | nil => exact fun c hc => absurd hc List.not_mem_nil
  | cons d rest ih =>
    rw [scan]
    split
    · next hd =>
      intro c hc
      rcases List.mem_append.mp hc with hc | hc
      · split at hc
        · exact .inr (List.mem_singleton.mp hc)
        · exact absurd hc List.not_mem_nil
      · rcases List.mem_cons.mp hc with rfl | hc
        · exact .inl (isSmall_lowerChar hd)
        · exact ih true false c hc
    · exact ih started true

/-- The scanner writes an underscore only between two characters of other kinds. -/
theorem settled_scan (started gap : Bool) (cs : List Char) : Settled (scan started gap cs) := by
  induction cs generalizing started gap with
  | nil => exact settled_nil
  | cons c rest ih =>
    rw [scan]
    split
    · next hc =>
      have hne := (isSmall_lowerChar hc).ne_underscore
      split
      · exact (ih true false).underscore_cons hne
      · exact (ih true false).cons hne
    · exact ih started true

/-- The scanner does not begin with an underscore. -/
theorem head?_scan (gap : Bool) (cs : List Char) : (scan false gap cs).head? ≠ some '_' := by
  induction cs generalizing gap with
  | nil => exact nofun
  | cons c rest ih =>
    rw [scan]
    split
    · next hc => exact fun hhead => (isSmall_lowerChar hc).ne_underscore (Option.some.inj hhead)
    · exact ih true

/-- What the scanner makes of a text has the form of a slug. -/
theorem isSlug_scan (cs : List Char) : IsSlug (scan false false cs) :=
  ⟨settled_scan false false cs, chars_scan false false cs, head?_scan false cs⟩

/-- The scanner writes nothing if there is no letter and no digit, and only then. -/
theorem scan_eq_nil_iff {started gap : Bool} {cs : List Char} : scan started gap cs = [] ↔ ∀ c ∈ cs, isAlphanumeric c = false := by
  induction cs generalizing started gap with
  | nil => exact ⟨fun _ c hc => absurd hc List.not_mem_nil, fun _ => rfl⟩
  | cons c rest ih =>
    rw [scan, List.forall_mem_cons]
    split
    · next hc =>
      rw [List.append_eq_nil_iff, hc]
      exact ⟨fun h => absurd h.2 (List.cons_ne_nil _ _), fun h => absurd h.1 nofun⟩
    · next hc => rw [ih, and_iff_right (Bool.eq_false_iff.mpr hc)]

/-- Behind a letter or a digit the scanner leaves a settled text as it is. -/
theorem scan_of_settled {cs : List Char} (hchars : ∀ c ∈ cs, IsSmall c ∨ c = '_') (h : Settled cs) :
    scan true false cs = cs ∧ (cs ≠ [] → cs.head? ≠ some '_' → scan true true cs = '_' :: cs) := by
  induction cs with
  | nil => exact ⟨rfl, fun hne => absurd rfl hne⟩
  | cons c rest ih =>
    obtain ⟨hc, hrest⟩ := List.forall_mem_cons.mp hchars
    obtain ⟨hplain, hgap⟩ := ih hrest h.of_cons
    rcases hc with hc | rfl
    · constructor
      · rw [scan, if_pos hc.isAlphanumeric, hc.lowerChar_eq, hplain]
        rfl
      · intro _ _
        rw [scan, if_pos hc.isAlphanumeric, hc.lowerChar_eq, hplain]
        rfl
    · -- an underscore is passed over, and written before what stands behind it
      obtain ⟨d, ds, rfl, hd⟩ := h.exists_cons
      refine ⟨?_, fun _ hhead => absurd rfl hhead⟩
      rw [scan, if_neg (by decide)]
      exact hgap (List.cons_ne_nil d ds) fun hhead => hd (Option.some.inj hhead)

/-- A text that has the form of a slug is left as it is. -/
theorem scan_of_isSlug {cs : List Char} (h : IsSlug cs) : scan false false cs = cs := by
  cases cs with
  | nil => rfl
  | cons c rest =>
    obtain ⟨hc, hrest⟩ := List.forall_mem_cons.mp h.chars
    have hsmall : IsSmall c := hc.resolve_right fun heq => h.first (congrArg some heq)
    rw [scan, if_pos hsmall.isAlphanumeric, hsmall.lowerChar_eq, (scan_of_settled hrest h.toSettled.of_cons).1]
    rfl

/-! ## The runs of a text -/

/-- The maximal runs of letters and digits of a text: it is cut at every other character. -/
def words (cs : List Char) : List (List Char) :=
  (cs.splitOnP fun c => !isAlphanumeric c).filter fun run => !run.isEmpty

/-- Texts with a character between them: the first, and the others behind that character. -/
theorem intercalate_cons (sep : Char) (first : List Char) (others : List (List Char)) :
    [sep].intercalate (first :: others) = first ++ others.flatMap (sep :: ·) := by
  induction others generalizing first with
  | nil => simp
  | cons next others ih =>
    rw [List.intercalate_cons_cons, ih, List.flatMap_cons, List.append_assoc]
    rfl

/-- Where a run has begun there is one. -/
theorem runsFrom_ne_nil {run : List Char} (h : run ≠ []) (cs : List Char) : runsFrom run cs ≠ [] := by
  induction cs generalizing run with
  | nil =>
    rw [runsFrom, if_neg (mt List.isEmpty_iff.mp h)]
    exact List.cons_ne_nil _ _
  | cons c rest ih =>
    rw [runsFrom]
    split
    · exact ih (List.cons_ne_nil _ _)
    · rw [if_neg (mt List.isEmpty_iff.mp h)]
      exact List.cons_ne_nil _ _

/-- The scanner, in a run that has begun, behind a run that has ended, and before all runs. -/
theorem scan_eq (cs : List Char) :
    (∀ run ≠ [], run.reverse ++ scan true false cs = ['_'].intercalate (runsFrom run cs)) ∧
      scan true true cs = (runs cs).flatMap ('_' :: ·) ∧ ∀ gap, scan false gap cs = ['_'].intercalate (runs cs) := by
  induction cs with
  | nil =>
    refine ⟨fun run hrun => ?_, rfl, fun gap => rfl⟩
    rw [runsFrom, if_neg (mt List.isEmpty_iff.mp hrun), List.intercalate_singleton, scan, List.append_nil]
  | cons c rest ih =>
    obtain ⟨hbegun, hended, hbefore⟩ := ih
    by_cases hc : isAlphanumeric c = true
    · have hfirst : lowerChar c :: scan true false rest = ['_'].intercalate (runsFrom [lowerChar c] rest) :=
        hbegun [lowerChar c] (List.cons_ne_nil _ _)
      have hruns : runs (c :: rest) = runsFrom [lowerChar c] rest := by rw [runs, runsFrom, if_pos hc]
      refine ⟨fun run _ => ?_, ?_, fun gap => ?_⟩
      · rw [scan, if_pos hc, runsFrom, if_pos hc, ← hbegun _ (List.cons_ne_nil _ _), List.reverse_cons, List.append_assoc]
        rfl
      · obtain ⟨first, others, hsplit⟩ := List.exists_cons_of_ne_nil (runsFrom_ne_nil (List.cons_ne_nil (lowerChar c) []) rest)
        rw [hsplit, intercalate_cons] at hfirst
        rw [scan, if_pos hc, hruns, hsplit, List.flatMap_cons, List.cons_append, ← hfirst]
        rfl
      · rw [scan, if_pos hc, hruns, ← hfirst]
        rfl
    · have hruns : runs (c :: rest) = runs rest := by rw [runs, runsFrom, if_neg hc]; rfl
      refine ⟨fun run hrun => ?_, ?_, fun gap => ?_⟩
      · rw [scan, if_neg hc, hended, runsFrom, if_neg hc, if_neg (mt List.isEmpty_iff.mp hrun), intercalate_cons]
        rfl
      · rw [scan, if_neg hc, hended, hruns]
      · rw [scan, if_neg hc, hbefore, hruns]

/-- The scanner joins the runs with single underscores. -/
theorem scan_eq_intercalate (cs : List Char) : scan false false cs = ['_'].intercalate (runs cs) :=
  (scan_eq cs).2.2 false

/-- Nothing is put before the first. -/
theorem modifyHead_nil_append (pieces : List (List Char)) : pieces.modifyHead (([] : List Char).reverse ++ ·) = pieces := by
  cases pieces <;> rfl

/-- The runs that are read, with what was read of the first already: the text is cut at every other character. -/
theorem runsFrom_eq (run cs : List Char) :
    runsFrom run cs =
      (((cs.splitOnP fun c => !isAlphanumeric c).map (List.map lowerChar)).modifyHead (run.reverse ++ ·)).filter (!·.isEmpty) := by
  induction cs generalizing run with
  | nil =>
    rw [runsFrom]
    by_cases hrun : run = [] <;> simp [hrun]
  | cons c rest ih =>
    rw [runsFrom, List.splitOnP_cons_eq_if_modifyHead]
    by_cases hc : isAlphanumeric c = true
    · obtain ⟨first, others, hsplit⟩ := List.exists_cons_of_ne_nil (List.splitOnP_ne_nil (fun c => !isAlphanumeric c) rest)
      rw [if_pos hc, ih, hsplit]
      simp [hc]
    · rw [if_neg hc, ih [], modifyHead_nil_append]
      by_cases hrun : run = [] <;> simp [hc, hrun]

/-- The runs that are read are the maximal runs of the text, made small. -/
theorem runs_eq_map_words (cs : List Char) : runs cs = (words cs).map (List.map lowerChar) := by
  have hempty : (fun run : List Char => !run.isEmpty) ∘ List.map lowerChar = fun run => !run.isEmpty := by
    funext run
    rw [Function.comp_apply, List.isEmpty_map]
  rw [runs, runsFrom_eq, modifyHead_nil_append, List.filter_map, hempty, words]

end Slug

/-! ## Slugs -/

/-- A slug is what the scanner makes. -/
theorem toList_slug (name : String) : (slug name).toList = Slug.scan false false name.toList :=
  String.toList_ofList

/-- A slug has the form of one. -/
theorem isSlug_slug (name : String) : IsSlug (slug name).toList := by
  rw [toList_slug]
  exact Slug.isSlug_scan name.toList

/-- The names that are their own slugs are those of the form. -/
theorem slug_eq_self_iff {name : String} : slug name = name ↔ IsSlug name.toList := by
  constructor
  · intro h
    rw [← h]
    exact isSlug_slug name
  · intro h
    rw [← String.toList_inj, toList_slug, Slug.scan_of_isSlug h]

/-- A slug is joined from the runs of the name. -/
theorem slug_eq_intercalate (name : String) :
    slug name = "_".intercalate ((Slug.words name.toList).map fun run => lower (String.ofList run)) := by
  have hsep : ("_" : String).toList = ['_'] := rfl
  have hlower : String.toList ∘ (fun run => lower (String.ofList run)) = List.map lowerChar := by
    funext run
    rw [Function.comp_apply, lower, String.toList_ofList, String.toList_ofList]
  rw [← String.toList_inj, toList_slug, Slug.scan_eq_intercalate, Slug.runs_eq_map_words, String.toList_intercalate, hsep, List.map_map,
    hlower]

/-- A slug is empty if the name has no letter and no digit, and only then. -/
theorem slug_eq_empty_iff {name : String} : slug name = "" ↔ ∀ c ∈ name.toList, isAlphanumeric c = false := by
  rw [← String.toList_inj, toList_slug, String.toList_empty, Slug.scan_eq_nil_iff]

/-- The slug of a name consists of the maximal runs of its basic letters and digits, in small letters and in their order, with single
underscores between them. It has the form of a slug, is empty if there is no such run, and the names of that form, slugs among them, are
those that stay as they are. -/
theorem slug_is_a_normal_form (name : String) :
    slug name = "_".intercalate ((Slug.words name.toList).map fun run => lower (String.ofList run)) ∧
      IsSlug (slug name).toList ∧ (slug name = "" ↔ ∀ c ∈ name.toList, isAlphanumeric c = false) ∧
      (slug name = name ↔ IsSlug name.toList) ∧ slug (slug name) = slug name :=
  ⟨slug_eq_intercalate name, isSlug_slug name, slug_eq_empty_iff, slug_eq_self_iff, slug_eq_self_iff.mpr (isSlug_slug name)⟩

/-- Blanks, accents and signs all part the runs. -/
example : slug "  Café--Raum 2!" = "caf_raum_2" := by
  decide

end Herald.Text

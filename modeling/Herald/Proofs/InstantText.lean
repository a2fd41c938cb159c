import Herald.Proofs.Calendar
import Herald.Proofs.Digits
import Herald.Time.Text

/-!
# Which instants survive being written

What `Instant.render` writes is read back by `Instant.ofText?`, for every instant of the calendar in use. An instant that a clock can show
comes back as it was, one in an inserted second at the end of a minute included. The text of any other inserted second is that of the
second behind it, and that is what comes back (`Instant.written`). Each part of the text is read by its own reader, up to the mark that
follows it. Whatever text is read, a clock can show what it tells.
-/

namespace Herald.Instant

open Text (Stops)

/-- A mark that is no white space is read. -/
theorem readMark_self {mark : Char} (h : Text.isSpace mark = false) (rest : List Char) : readMark mark (mark :: rest) = some rest := by
  rw [readMark, Text.trimLeft, List.dropWhile_cons, h]
  simp

/-- A year is read up to the dash that follows it. -/
theorem readYear_yearChars (year : Int) (rest : List Char) :
    readYear (yearChars year ++ '-' :: rest) = some (year, '-' :: rest) := by
  have hstops : Stops ('-' :: rest) := by
    intro c hc
    obtain rfl : '-' = c := Option.some.inj hc
    rfl
  rw [yearChars]
  split
  case isTrue h =>
    have hlt : year.toNat < 10 ^ 4 := by omega
    obtain ⟨d, ds, hd⟩ := List.exists_cons_of_ne_nil (padded_ne_nil 4 year.toNat)
    have hdigit : Text.isDigit d = true := isDigit_of_mem_padded 4 year.toNat (hd ▸ List.mem_cons_self)
    have hread := readDigits_padded (by decide) hlt ('-' :: rest)
    rw [readYear, trimLeft_padded]
    rw [hd] at hread ⊢
    split
    · next he => exact absurd hdigit ((List.cons.inj he).1 ▸ by decide)
    · next he => exact absurd hdigit ((List.cons.inj he).1 ▸ by decide)
    · rw [hread]
      simp only [Option.map_some]
      rw [Int.toNat_of_nonneg h.1]
  case isFalse h =>
    have hread := readDigits_padded_all 4 year.natAbs hstops
    split
    case isTrue hneg =>
      rw [List.cons_append, readYear, Text.trimLeft, List.dropWhile_cons_of_neg (by decide)]
      simp only [hread, Option.map_some]
      congr 2
      omega
    case isFalse hpos =>
      rw [List.cons_append, readYear, Text.trimLeft, List.dropWhile_cons_of_neg (by decide)]
      simp only [hread, Option.map_some]
      congr 2
      omega

/-- The decimals of a second are read up to the zone. -/
theorem readFraction_fractionChars {nanos : Nat} (h : nanos < 1000000000) :
    readFraction (fractionChars nanos ++ ['Z']) = some (nanos, ['Z']) := by
  have hread : ∀ width n, 0 < width → width ≤ 9 → n < 10 ^ width →
      readFraction ('.' :: padded width n ++ ['Z']) = some (n * 10 ^ (9 - width), ['Z']) := by
    intro width n hw hle hn
    have hlen := length_padded hw hn
    have hdigits : ∀ c ∈ padded width n, Text.isDigit c = true := fun c hc => isDigit_of_mem_padded width n hc
    have hstops : ∀ k, Stops (['Z'].take k) := by
      intro k
      cases k with
      | zero => exact nofun
      | succ k =>
        intro c hc
        obtain rfl : 'Z' = c := by simpa using hc
        rfl
    have htake : ((padded width n ++ ['Z']).take 9).takeWhile Text.isDigit = padded width n := by
      rw [List.take_append, List.take_of_length_le (by omega)]
      exact Text.takeWhile_digits hdigits (hstops _)
    have hrest : (padded width n ++ ['Z']).dropWhile Text.isDigit = ['Z'] := Text.dropWhile_digits hdigits (hstops 1)
    have hempty : (padded width n).isEmpty = false := by
      rw [List.isEmpty_eq_false_iff]
      exact padded_ne_nil width n
    rw [List.cons_append, readFraction, htake, hempty, hrest, natOfDigits_padded, hlen]
    rfl
  rw [fractionChars]
  split
  · next h0 => rw [h0]; rfl
  · split
    · rw [hread 3 (nanos / 1000000) (by decide) (by decide) (by omega)]
      congr 2
      omega
    · split
      · rw [hread 6 (nanos / 1000) (by decide) (by decide) (by omega)]
        congr 2
        omega
      · rw [hread 9 nanos (by decide) (by decide) (by omega)]
        congr 2
        omega

/-! ## What comes back -/

/-- What is read of the text of an instant: an inserted second that no clock shows counts as the second behind it. -/
def written (t : Instant) : Instant :=
  if h : t.OnClock then t
  else {
    seconds := t.seconds + 1
    nanos := t.nanos - 1000000000
    inYears := by
      -- the calendar ends with a minute, so the second behind is in it
      have hyears := t.inYears
      have hminute : t.seconds % 60 ≠ 59 := fun hend => h (.inr hend)
      omega
    inSecond := Nat.lt_of_le_of_lt (Nat.sub_le _ _) t.inSecond }

/-- What a clock can show comes back as it was. -/
theorem written_of_onClock {t : Instant} (h : t.OnClock) : t.written = t :=
  dif_pos h

/-- A clock can show what comes back. -/
theorem onClock_written (t : Instant) : t.written.OnClock := by
  rw [written]
  split
  · assumption
  · have hsecond := t.inSecond
    exact .inl (show t.nanos - 1000000000 < 1000000000 by omega)

/-- What comes back is not before what was written. -/
theorem le_written (t : Instant) : t ≤ t.written := by
  rw [written]
  split
  · exact .inr ⟨rfl, Nat.le_refl _⟩
  · exact .inl (Int.lt_succ t.seconds)

/-- The date of an instant is in the years of the calendar in use. -/
theorem year_mem (t : Instant) :
    firstYear ≤ (Date.ofDayNumber (t.seconds / 86400)).year ∧ (Date.ofDayNumber (t.seconds / 86400)).year ≤ lastYear := by
  obtain ⟨hfirst, hlast⟩ := t.inYears
  have hnext : (⟨lastYear + 1, 1, 1⟩ : Date).dayNumber = (⟨lastYear, 12, 31⟩ : Date).dayNumber + 1 := by decide
  have hle := Date.le_year_iff firstYear (t.seconds / 86400)
  have hgt := Date.le_year_iff (lastYear + 1) (t.seconds / 86400)
  rw [hnext] at hgt
  generalize (⟨firstYear, 1, 1⟩ : Date).dayNumber = first at hfirst hle
  generalize (⟨lastYear, 12, 31⟩ : Date).dayNumber = last at hlast hgt
  omega

/-- An instant has its own seconds and nanoseconds. -/
theorem of?_eq_some {seconds : Int} {nanos : Nat} {t : Instant} (hs : seconds = t.seconds) (hn : nanos = t.nanos) :
    of? seconds nanos = some t := by
  subst hs hn
  rw [of?, dif_pos t.inYears, dif_pos t.inSecond]

/-- What is put together from the date, the time of the day and the nanoseconds of an instant: an inserted second is the one of 60 at the
end of a minute, and elsewhere the one behind it. -/
theorem assemble_parts (t : Instant) :
    assemble (Date.ofDayNumber (t.seconds / 86400)) ((t.seconds % 86400).toNat / 3600) ((t.seconds % 86400).toNat / 60 % 60)
      ((t.seconds % 86400).toNat % 60 + t.nanos / 1000000000) (t.nanos % 1000000000) 0 = some t.written := by
  obtain ⟨hfirst, hlast⟩ := year_mem t
  have hvalid := Date.isValid_ofDayNumber (t.seconds / 86400)
  have hnumber := Date.dayNumber_ofDayNumber (t.seconds / 86400)
  have hsecond := t.inSecond
  generalize Date.ofDayNumber (t.seconds / 86400) = date at hfirst hlast hvalid hnumber
  generalize hclock : (t.seconds % 86400).toNat = clock
  have hall : (date.isValid && firstYear ≤ date.year && date.year ≤ lastYear && clock / 3600 < 24 && clock / 60 % 60 < 60 &&
      clock % 60 + t.nanos / 1000000000 ≤ 60) = true := by
    simp only [Bool.and_eq_true, decide_eq_true_eq]
    refine ⟨⟨⟨⟨⟨hvalid, hfirst⟩, hlast⟩, ?_⟩, ?_⟩, ?_⟩ <;> omega
  simp only [assemble, hall, if_true]
  by_cases hshown : t.nanos < 1000000000 ∨ t.seconds % 60 = 59
  · rw [written_of_onClock hshown]
    refine of?_eq_some (by omega) ?_
    split <;> omega
  · rw [written, dif_neg (show ¬t.OnClock from hshown)]
    refine of?_eq_some (show _ = t.seconds + 1 by omega) (show _ = t.nanos - 1000000000 from ?_)
    split <;> omega

/-- What is written of an instant is read back, as the instant itself if a clock can show it. -/
theorem ofText?_render (t : Instant) : ofText? t.render = some t.written := by
  have hassemble := assemble_parts t
  have hvalid := Date.isValid_ofDayNumber (t.seconds / 86400)
  have hsecond := t.inSecond
  rw [ofText?, render, String.toList_ofList, dateTimeChars]
  generalize Date.ofDayNumber (t.seconds / 86400) = date at hassemble hvalid
  simp only [Date.isValid, Bool.and_eq_true, decide_eq_true_eq] at hvalid
  obtain ⟨⟨⟨_, hmonth⟩, _⟩, hday⟩ := hvalid
  have hshort : Date.daysInMonth date.year date.month ≤ 31 := by
    unfold Date.daysInMonth
    split
    · split <;> decide
    · split <;> decide
  have hclock : (t.seconds % 86400).toNat < 86400 := by omega
  have hinserted : (t.seconds % 86400).toNat % 60 + t.nanos / 1000000000 ≤ 60 := by omega
  generalize (t.seconds % 86400).toNat = clock at hassemble hclock hinserted
  have hfraction := readFraction_fractionChars (Nat.mod_lt t.nanos (by decide : 0 < 1000000000))
  have hnumber : ∀ {n : Nat} (rest : List Char), n < 10 ^ 2 → readNumber 2 (padded 2 n ++ rest) = some (n, rest) :=
    fun rest hn => readNumber_padded (by decide) hn rest
  simp only [List.append_assoc, List.cons_append]
  rw [readYear_yearChars]
  simp only [Option.bind_eq_bind, Option.bind_some]
  rw [readMark_self (by decide), Option.bind_some, hnumber _ (by omega)]
  simp only [Option.bind_some]
  rw [readMark_self (by decide), Option.bind_some, hnumber _ (by omega)]
  simp only [Option.bind_some]
  rw [hnumber _ (by omega)]
  simp only [Option.bind_some]
  rw [readMark_self (by decide), Option.bind_some, hnumber _ (by omega)]
  simp only [Option.bind_some]
  rw [readMark_self (by decide), Option.bind_some, hnumber _ (by omega)]
  simp only [Option.bind_some]
  rw [hfraction]
  exact hassemble

/-! ## What is read -/

/-- An offset is one of whole minutes. -/
theorem readOffset_emod {cs rest : List Char} {offset : Int} (h : readOffset cs = some (offset, rest)) : offset % 60 = 0 := by
  simp only [readOffset, Option.bind_eq_bind] at h
  split at h
  case h_4 => cases h
  -- whatever the sign is, hours and minutes are counted in whole minutes
  all_goals
    rw [Option.bind_some] at h
    dsimp only at h
    split at h
    · split at h
      · cases h
      · split at h
        · split at h
          · cases h
          · split at h
            · obtain ⟨rfl, -⟩ := Prod.mk.inj (Option.some.inj h)
              omega
            · cases h
        · cases h
    · cases h

/-- So is a zone. -/
theorem readZone_emod {cs rest : List Char} {offset : Int} (h : readZone cs = some (offset, rest)) : offset % 60 = 0 := by
  unfold readZone at h
  split at h
  · split at h
    · obtain ⟨rfl, -⟩ := Prod.mk.inj (Option.some.inj h)
      rfl
    · split at h
      · obtain ⟨rfl, -⟩ := Prod.mk.inj (Option.some.inj h)
        rfl
      · exact readOffset_emod h
  · split at h
    · obtain ⟨rfl, -⟩ := Prod.mk.inj (Option.some.inj h)
      rfl
    · cases h
  · cases h

/-- The decimals that are read are those of one second. -/
theorem readFraction_lt {cs rest : List Char} {nanos : Nat} (h : readFraction cs = some (nanos, rest)) : nanos < 1000000000 := by
  unfold readFraction at h
  split at h
  · next cs =>
    dsimp only at h
    split at h
    · cases h
    · obtain ⟨rfl, -⟩ := Prod.mk.inj (Option.some.inj h)
      have hdigits : ∀ c ∈ (cs.take 9).takeWhile Text.isDigit, Text.isDigit c = true := fun c hc => List.mem_takeWhile_imp hc
      have hlength : ((cs.take 9).takeWhile Text.isDigit).length ≤ 9 :=
        Nat.le_trans (List.takeWhile_prefix _).length_le (List.length_take_le 9 cs)
      -- so many digits and the zeros behind them are nine
      calc Text.natOfDigits ((cs.take 9).takeWhile Text.isDigit) * 10 ^ (9 - ((cs.take 9).takeWhile Text.isDigit).length)
          < 10 ^ ((cs.take 9).takeWhile Text.isDigit).length * 10 ^ (9 - ((cs.take 9).takeWhile Text.isDigit).length) :=
            Nat.mul_lt_mul_of_pos_right (Text.natOfDigits_lt hdigits) (Nat.pow_pos (by decide))
        _ = 10 ^ 9 := by rw [← Nat.pow_add, Nat.add_sub_cancel' hlength]
  · obtain ⟨rfl, -⟩ := Prod.mk.inj (Option.some.inj h)
    decide

/-- An instant that there is for some seconds and nanoseconds has these. -/
theorem parts_of_of? {seconds : Int} {nanos : Nat} {t : Instant} (h : of? seconds nanos = some t) :
    t.seconds = seconds ∧ t.nanos = nanos := by
  unfold of? at h
  split at h
  · split at h
    · obtain rfl := Option.some.inj h
      exact ⟨rfl, rfl⟩
    · cases h
  · cases h

/-- A clock can show what is put together from the decimals of a second and an offset of whole minutes. -/
theorem onClock_of_assemble {date : Date} {hour minute second nanos : Nat} {offset : Int} {t : Instant} (hn : nanos < 1000000000)
    (ho : offset % 60 = 0) (h : assemble date hour minute second nanos offset = some t) : t.OnClock := by
  simp only [assemble] at h
  split at h
  · obtain ⟨hseconds, hnanos⟩ := parts_of_of? h
    rw [OnClock, hseconds, hnanos]
    generalize date.dayNumber = day
    by_cases hsixty : second = 60
    · right
      omega
    · left
      rwa [if_neg hsixty]
  · cases h

/-- A clock can show what is read of any text. -/
theorem onClock_of_ofText? {text : String} {t : Instant} (h : ofText? text = some t) : t.OnClock := by
  unfold ofText? at h
  simp only [Option.bind_eq_bind] at h
  obtain ⟨_, -, h⟩ := Option.bind_eq_some_iff.mp h
  obtain ⟨_, -, h⟩ := Option.bind_eq_some_iff.mp h
  obtain ⟨_, -, h⟩ := Option.bind_eq_some_iff.mp h
  obtain ⟨_, -, h⟩ := Option.bind_eq_some_iff.mp h
  obtain ⟨_, -, h⟩ := Option.bind_eq_some_iff.mp h
  split at h
  case h_4 => cases h
  -- whatever stands between date and time, the decimals and the zone decide
  all_goals
    simp only [Option.bind_some, Option.bind_eq_some_iff, Prod.exists] at h
    obtain ⟨_, _, -, _, -, _, _, -, _, -, _, _, -, nanos, _, hfraction, offset, _, hzone, h⟩ := h
    split at h
    · exact onClock_of_assemble (readFraction_lt hfraction) (readZone_emod hzone) h
    · cases h

end Herald.Instant

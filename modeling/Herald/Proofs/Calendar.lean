import Herald.Time.Calendar

/-!
# Dates and their numbers

`Date.ofDayNumber` and `Date.dayNumber` are inverse to each other on valid dates. The way back from a number is followed through the
cycle of four centuries, the century, the group of four years and the year (`Place`): each digit is bounded, and the last of its kind
is longer by a day.
-/

namespace Herald.Date

/-- Where a day is in its cycle of four centuries. -/
structure Place where
  century : Nat
  group : Nat
  year : Nat
  day : Nat

namespace Place

/-- The number of the day in the cycle. -/
def ofCycle (p : Place) : Nat :=
  p.century * 36524 + p.group * 1461 + p.year * 365 + p.day

/-- The year in the cycle. -/
def yearOfCycle (p : Place) : Nat :=
  p.century * 100 + p.group * 4 + p.year

/-- A place that a cycle has: a century but the last is without the day that ends its last year, and so is a year but the last of its
group. -/
structure Exists (p : Place) : Prop where
  century : p.century ≤ 3
  group : p.group ≤ 24
  year : p.year ≤ 3
  day : p.day ≤ 365
  leap : p.day = 365 → p.year = 3 ∧ (p.group = 24 → p.century = 3)

end Place

/-- The place of a day in its cycle. -/
def placeOf (dayOfCycle : Nat) : Place where
  century := min 3 (dayOfCycle / 36524)
  group := (dayOfCycle - min 3 (dayOfCycle / 36524) * 36524) / 1461
  year := min 3 ((dayOfCycle - min 3 (dayOfCycle / 36524) * 36524) % 1461 / 365)
  day := (dayOfCycle - min 3 (dayOfCycle / 36524) * 36524) % 1461 -
    min 3 ((dayOfCycle - min 3 (dayOfCycle / 36524) * 36524) % 1461 / 365) * 365

/-- The place of a day is one that the cycle has, and it is the place of that day. -/
theorem placeOf_spec {dayOfCycle : Nat} (h : dayOfCycle < 146097) :
    (placeOf dayOfCycle).Exists ∧ (placeOf dayOfCycle).ofCycle = dayOfCycle := by
  have hc : min 3 (dayOfCycle / 36524) ≤ 3 := Nat.min_le_left _ _
  generalize hd : dayOfCycle - min 3 (dayOfCycle / 36524) * 36524 = dayOfCentury
  have hcentury : dayOfCycle = min 3 (dayOfCycle / 36524) * 36524 + dayOfCentury := by omega
  have hlong : dayOfCentury ≤ 36524 ∧ (dayOfCentury = 36524 → min 3 (dayOfCycle / 36524) = 3) := by omega
  have hgroup : dayOfCentury = dayOfCentury / 1461 * 1461 + dayOfCentury % 1461 := by omega
  generalize hg : dayOfCentury % 1461 = dayOfGroup at hgroup
  have hy : dayOfGroup = min 3 (dayOfGroup / 365) * 365 + (dayOfGroup - min 3 (dayOfGroup / 365) * 365) := by omega
  constructor
  · constructor
    · exact hc
    · simp only [placeOf, hd]
      omega
    · exact Nat.min_le_left _ _
    · simp only [placeOf, hd, hg]
      omega
    · simp only [placeOf, hd, hg]
      omega
  · simp only [placeOf, Place.ofCycle, hd, hg]
    omega

/-- The month of a day in a year that starts in March, and the days of the year before that month. -/
theorem month_spec {day : Nat} (h : day ≤ 365) :
    (5 * day + 2) / 153 ≤ 11 ∧ daysBefore ((5 * day + 2) / 153) ≤ day ∧
      day < daysBefore ((5 * day + 2) / 153) + 31 := by
  unfold daysBefore
  omega

/-- The date of a day in a year that starts in March. -/
def ofYearDay (year : Int) (day : Nat) : Date :=
  let month := (5 * day + 2) / 153
  if month < 10 then ⟨year, month + 3, day - daysBefore month + 1⟩ else ⟨year + 1, month - 9, day - daysBefore month + 1⟩

/-- The date of a number is told by the cycle and the place in it. -/
theorem ofDayNumber_spec (n : Int) :
    ∃ (cycle : Int) (p : Place), p.Exists ∧ n + 719468 = cycle * 146097 + p.ofCycle ∧
      ofDayNumber n = ofYearDay (cycle * 400 + p.yearOfCycle) p.day := by
  have hlt : ((n + 719468) % 146097).toNat < 146097 := by omega
  obtain ⟨hexists, hday⟩ := placeOf_spec hlt
  refine ⟨(n + 719468) / 146097, placeOf ((n + 719468) % 146097).toNat, hexists, ?_, rfl⟩
  rw [hday]
  omega

/-- The number of a date in a year that starts in March. -/
theorem dayNumber_ofYearDay {cycle : Int} {p : Place} (hp : p.Exists) :
    (ofYearDay (cycle * 400 + p.yearOfCycle) p.day).dayNumber = cycle * 146097 + p.ofCycle - 719468 := by
  obtain ⟨century, group, year, day⟩ := p
  obtain ⟨hc, hg, hy, hd, _⟩ := hp
  simp only at hc hg hy hd
  simp only [Place.yearOfCycle, Place.ofCycle]
  obtain ⟨hmonth, hbefore, _⟩ := month_spec hd
  generalize hm : (5 * day + 2) / 153 = month at hmonth hbefore
  -- the year of the cycle, and its parts, are found again
  have hyear : ((cycle * 400 + (century * 100 + group * 4 + year : Nat)) % 400).toNat = century * 100 + group * 4 + year := by
    omega
  have hcycle : (cycle * 400 + (century * 100 + group * 4 + year : Nat)) / 400 = cycle := by omega
  have hquarter : (century * 100 + group * 4 + year) / 4 = century * 25 + group := by omega
  have hhundred : (century * 100 + group * 4 + year) / 100 = century := by omega
  have hleft : daysBefore month + (day - daysBefore month + 1) - 1 = day := by omega
  by_cases hten : month < 10
  · have hback : (month + 3 + 9) % 12 = month := by omega
    have hmarch : ¬month + 3 ≤ 2 := by omega
    simp only [ofYearDay, hm, hten, if_true, dayNumber, hmarch, if_false, hback, hyear, hcycle, hquarter, hhundred, hleft]
    omega
  · have hback : (month - 9 + 9) % 12 = month := by omega
    have hmarch : month - 9 ≤ 2 := by omega
    simp only [ofYearDay, hm, hten, if_false, dayNumber, hmarch, if_true, hback, Int.add_sub_cancel, hyear, hcycle, hquarter,
      hhundred, hleft]
    omega

/-- The number of the date of a number is that number. -/
theorem dayNumber_ofDayNumber (n : Int) : (ofDayNumber n).dayNumber = n := by
  obtain ⟨cycle, p, hp, hn, hdate⟩ := ofDayNumber_spec n
  rw [hdate, dayNumber_ofYearDay hp]
  omega

/-- A year that starts in March and has 366 days ends in a leap year. -/
theorem isLeap_of_day {cycle : Int} {p : Place} (hp : p.Exists) (hday : p.day = 365) :
    isLeap (cycle * 400 + p.yearOfCycle + 1) = true := by
  obtain ⟨century, group, year, day⟩ := p
  obtain ⟨hc, hg, hy, hd, hleap⟩ := hp
  obtain ⟨rfl, hlast⟩ := hleap hday
  simp only at hc hg hlast
  simp only [isLeap, Place.yearOfCycle, Bool.and_eq_true, Bool.or_eq_true, bne_iff_ne, beq_iff_eq]
  omega

/-- The date of a number is in the calendar. -/
theorem isValid_ofDayNumber (n : Int) : (ofDayNumber n).isValid = true := by
  obtain ⟨cycle, p, hp, _, hdate⟩ := ofDayNumber_spec n
  rw [hdate]
  obtain ⟨hmonth, hbefore, hlast⟩ := month_spec hp.day
  have hday := hp.day
  have hleap : p.day = 365 → isLeap (cycle * 400 + p.yearOfCycle + 1) = true := isLeap_of_day hp
  generalize cycle * 400 + (p.yearOfCycle : Int) = year at hleap
  generalize p.day = day at hmonth hbefore hlast hday hleap
  unfold daysBefore at hbefore hlast
  by_cases hten : (5 * day + 2) / 153 < 10
  · simp only [ofYearDay, hten, if_true, isValid, daysInMonth, daysBefore, Bool.and_eq_true, decide_eq_true_eq]
    refine ⟨⟨⟨?_, ?_⟩, ?_⟩, ?_⟩ <;> try omega
    split
    · omega
    · split <;> omega
  · simp only [ofYearDay, hten, if_false, isValid, daysInMonth, daysBefore, Bool.and_eq_true, decide_eq_true_eq]
    refine ⟨⟨⟨?_, ?_⟩, ?_⟩, ?_⟩ <;> try omega
    split
    · split
      · omega
      · next h =>
        have hshort : day ≠ 365 := fun h' => h (hleap h')
        omega
    · split <;> omega

/-- How many days are before the first of March of a year, counted from the one of the year zero. -/
def daysBeforeYear (year : Int) : Int :=
  year * 365 + year / 4 - year / 100 + year / 400

/-- A year has 365 days at least. -/
theorem daysBeforeYear_lt {a b : Int} (h : a < b) : daysBeforeYear a + 365 ≤ daysBeforeYear b := by
  unfold daysBeforeYear
  rcases (by omega : b = a + 1 ∨ a + 2 ≤ b) with rfl | hfar <;> omega

/-- The days before a year, told by its place in the cycle. -/
theorem daysBeforeYear_place (cycle : Int) {p : Place} (hp : p.Exists) :
    daysBeforeYear (cycle * 400 + p.yearOfCycle) + p.day = cycle * 146097 + p.ofCycle := by
  obtain ⟨century, group, year, day⟩ := p
  obtain ⟨hc, hg, hy, hd, _⟩ := hp
  simp only at hc hg hy hd
  simp only [daysBeforeYear, Place.yearOfCycle, Place.ofCycle]
  omega

/-- The number of the first day of a year. -/
theorem dayNumber_first (year : Int) : (⟨year, 1, 1⟩ : Date).dayNumber = daysBeforeYear (year - 1) + 306 - 719468 := by
  have hmarch : (1 : Nat) ≤ 2 := by decide
  have hbefore : daysBefore ((1 + 9) % 12) + 1 - 1 = 306 := by decide
  simp only [dayNumber, hmarch, if_true, hbefore, daysBeforeYear]
  omega

/-- The year of a number is at least a given one if the number is at least the one of the first day of that year. -/
theorem le_year_iff (year n : Int) : year ≤ (ofDayNumber n).year ↔ (⟨year, 1, 1⟩ : Date).dayNumber ≤ n := by
  obtain ⟨cycle, p, hp, hn, hdate⟩ := ofDayNumber_spec n
  have hplace := daysBeforeYear_place cycle hp
  obtain ⟨_, _, hlast⟩ := month_spec hp.day
  have hday := hp.day
  have hbelow : ∀ {a b : Int}, a < b → daysBeforeYear a + 365 ≤ daysBeforeYear b := daysBeforeYear_lt
  rw [dayNumber_first, hdate]
  generalize cycle * 400 + (p.yearOfCycle : Int) = start at hplace
  generalize p.day = day at hplace hlast hday
  unfold daysBefore at hlast
  rcases Int.lt_trichotomy (year - 1) start with hlt | heq | hgt
  · have hdays := hbelow hlt
    simp only [ofYearDay]
    split
    · dsimp only
      omega
    · dsimp only
      omega
  · subst heq
    simp only [ofYearDay]
    split
    · dsimp only
      omega
    · dsimp only
      omega
  · have hdays := hbelow hgt
    simp only [ofYearDay]
    split
    · dsimp only
      omega
    · dsimp only
      omega

end Herald.Date

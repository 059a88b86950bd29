/-
  `fromisoformat` reads back what `isoformat` writes, for every instant a `datetime` can hold.

  The calendar goes through eras of 400 years that begin in March.  Within an era the year is read
  off the day by a monotone count (`yearCount`), so that only the first and the last day of each
  year have to be looked at; within a year, month and day are a table.
-/
import CloudOpsAgent.Nz.Encoding

namespace CloudOpsAgent

namespace Time

/-! ## The calendar -/

/-- The first day of year `y` of an era, counted from March. -/
def yearStart (y : Nat) : Nat := 365 * y + y / 4 - y / 100 + y / 400

/-- The numerator of the year of an era that day `doe` falls in. -/
def yearCount (doe : Nat) : Nat := doe - doe / 1460 + doe / 36524 - doe / 146096

theorem yearCount_mono {a b : Nat} (h : a ≤ b) : yearCount a ≤ yearCount b := by
  induction b, h using Nat.le_induction with
  | base => exact le_rfl
  | succ n _ ih =>
    refine ih.trans ?_
    unfold yearCount
    omega

set_option maxRecDepth 4000 in
theorem yearCount_bounds : ∀ y < 400, yearCount (yearStart y) / 365 = y ∧
    yearCount (yearStart (y + 1) - 1) / 365 = y := by decide +kernel

theorem exists_year {doe : Nat} (h : doe < 146097) :
    ∃ y < 400, yearStart y ≤ doe ∧ doe < yearStart (y + 1) := by
  by_contra hno
  push Not at hno
  have hall : ∀ y ≤ 400, yearStart y ≤ doe := by
    intro y
    induction y with
    | zero => exact fun _ => Nat.zero_le _
    | succ y ih => exact fun hy => hno y (by omega) (ih (by omega))
  have := hall 400 le_rfl
  have : yearStart 400 = 146097 := by decide
  omega

/-- The year of an era is read off its day. -/
theorem yearCount_eq {doe y : Nat} (hy : y < 400) (hlo : yearStart y ≤ doe)
    (hhi : doe < yearStart (y + 1)) : yearCount doe / 365 = y := by
  have h1 := yearCount_mono hlo
  have h2 := yearCount_mono (show doe ≤ yearStart (y + 1) - 1 by omega)
  have ⟨hb, hb'⟩ := yearCount_bounds y hy
  have h3 := Nat.div_le_div_right (c := 365) h1
  have h4 := Nat.div_le_div_right (c := 365) h2
  omega


/-- Month and day of a day of the year, the year beginning in March. -/
theorem monthDay : ∀ doy < 366, (5 * doy + 2) / 153 < 12 ∧
    (153 * ((5 * doy + 2) / 153) + 2) / 5 ≤ doy ∧ (306 ≤ doy ↔ 10 ≤ (5 * doy + 2) / 153) := by
  decide +kernel

theorem day_le : ∀ doy < 366, doy - (153 * ((5 * doy + 2) / 153) + 2) / 5 + 1 ≤
    (if (5 * doy + 2) / 153 = 11 then if doy = 365 then 29 else 28
    else if (5 * doy + 2) / 153 = 1 ∨ (5 * doy + 2) / 153 = 3 ∨ (5 * doy + 2) / 153 = 6 ∨
      (5 * doy + 2) / 153 = 8 then 30 else 31) := by decide +kernel

theorem yearStart_succ {y : Nat} (hy : y < 400) : yearStart (y + 1) - yearStart y =
    if (y + 1) % 4 = 0 ∧ ((y + 1) % 100 ≠ 0 ∨ (y + 1) % 400 = 0) then 366 else 365 := by
  unfold yearStart
  split <;> omega

/-- A day, as its era, year, month and day. -/
theorem civil_spec (days : Nat) : ∃ year month day, civil days = (year, month, day) ∧ 1 ≤ year ∧
    (days < 3652059 → year ≤ 9999) ∧ 1 ≤ month ∧ month ≤ 12 ∧ 1 ≤ day ∧ day ≤ daysInMonth year month ∧
    ofCivil year month day = days := by
  obtain ⟨yoe, hyoe, hlo, hhi⟩ := exists_year (Nat.mod_lt (days + 306) (show 0 < 146097 by decide))
  have hyear := yearCount_eq hyoe hlo hhi
  have hlen := yearStart_succ hyoe
  have hstart : 365 * yoe + yoe / 4 - yoe / 100 = yearStart yoe := by
    unfold yearStart
    omega
  obtain ⟨doy, hdoy⟩ : ∃ doy, doy = (days + 306) % 146097 - yearStart yoe := ⟨_, rfl⟩
  have hdoy' : doy < 366 := by split at hlen <;> omega
  obtain ⟨mp, hmp⟩ : ∃ mp, mp = (5 * doy + 2) / 153 := ⟨_, rfl⟩
  obtain ⟨hmp12, hday, hjan⟩ := monthDay doy hdoy'
  have hle := day_le doy hdoy'
  rw [← hmp] at hmp12 hday hjan hle
  have hcivil : civil days = (yoe + (days + 306) / 146097 * 400 +
        (if (if mp < 10 then mp + 3 else mp - 9) ≤ 2 then 1 else 0),
      if mp < 10 then mp + 3 else mp - 9, doy - (153 * mp + 2) / 5 + 1) := by
    unfold yearCount at hyear
    simp only [civil, hyear, hstart, ← hdoy, ← hmp]
  have hcentury : yoe / 100 ≤ yoe / 4 := Nat.div_le_div_left (by decide) (by decide)
  have hstart' : 365 * yoe ≤ yearStart yoe := by
    unfold yearStart
    omega
  have hdays : days + 306 = (days + 306) / 146097 * 146097 + yearStart yoe + doy := by omega
  by_cases hmarch : mp < 10
  · rw [if_pos hmarch, if_neg (by omega)] at hcivil
    refine ⟨_, _, _, hcivil, by omega, fun _ => by omega, by omega, by omega, by omega, ?_, ?_⟩
    · unfold daysInMonth
      rw [if_neg (by omega)]
      split at hle <;> split <;> split at hle <;> omega
    · unfold ofCivil
      dsimp only
      rw [if_neg (by omega), if_neg (by omega)]
      have hera : (yoe + (days + 306) / 146097 * 400 + 0) / 400 = (days + 306) / 146097 := by omega
      have hmod : (yoe + (days + 306) / 146097 * 400 + 0) % 400 = yoe := by omega
      have hm : mp + 3 - 3 = mp := by omega
      rw [hera, hmod, hm, Nat.mul_comm yoe, hstart]
      omega
  · have hmonth : mp - 9 ≤ 2 := by omega
    rw [if_neg hmarch, if_pos hmonth] at hcivil
    refine ⟨_, _, _, hcivil, by omega, fun hlast => ?_, by omega, by omega, by omega, ?_, ?_⟩
    · by_contra hyear
      obtain hera | ⟨hera, rfl⟩ : 25 ≤ (days + 306) / 146097 ∨
        (days + 306) / 146097 = 24 ∧ yoe = 399 := by omega
      · omega
      · have hlast : yearStart 399 = 145731 := by decide
        omega
    · unfold daysInMonth
      split at hle
      · rw [if_pos (by omega)]
        split
        · split at hle <;> omega
        · rename_i hleap
          rw [if_neg (by omega)] at hlen
          rw [if_neg (by omega)] at hle
          exact hle
      · rw [if_neg (by omega), if_neg (by omega)]
        split at hle <;> omega
    · unfold ofCivil
      dsimp only
      rw [if_pos hmonth, if_pos hmonth]
      have hera : (yoe + (days + 306) / 146097 * 400 + 1 - 1) / 400 = (days + 306) / 146097 := by
        omega
      have hmod : (yoe + (days + 306) / 146097 * 400 + 1 - 1) % 400 = yoe := by omega
      have hm : mp - 9 + 9 = mp := by omega
      rw [hera, hmod, hm, Nat.mul_comm yoe, hstart]
      omega


/-! ## Digits -/

theorem digitChar_spec : ∀ d < 10, (Nat.digitChar d).isDigit ∧ (Nat.digitChar d).toNat - 48 = d := by
  decide

theorem padded_isDigit (n width : Nat) : (padded n width).all Char.isDigit := by
  induction width with
  | zero => rfl
  | succ width ih =>
    have hd := (digitChar_spec (n / 10 ^ width % 10) (Nat.mod_lt _ (by decide))).1
    simp only [padded, List.all_cons, hd, ih, Bool.and_self]

theorem foldl_padded (n width : Nat) : ∀ acc, (padded n width).foldl
    (fun n c => 10 * n + (c.toNat - 48)) acc = acc * 10 ^ width + n % 10 ^ width :=
  @foldl_digits padded (fun c => c.toNat - 48) 10 (by decide) (fun _ => rfl) (fun _ _ => rfl)
    (fun d hd => (digitChar_spec d hd).2) n width

theorem number?_padded {n width : Nat} (h : n < 10 ^ width) :
    number? (padded n width) = some n := by
  rw [number?, if_pos (padded_isDigit n width), foldl_padded, Nat.mod_eq_of_lt h, Nat.zero_mul,
    Nat.zero_add]

/-! ## There and back -/

/-- `datetime.max`. -/
def datetimeMax : Nat := 315537897599999999

/-- The fraction and the offset of `isoformat` are read back. -/
theorem fraction?_spec {us : Nat} : fraction? ((if us % 1000000 = 0 then [] else
    '.' :: padded (us % 1000000) 6) ++ "+00:00".toList) = some (us % 1000000) := by
  by_cases h : us % 1000000 = 0
  · rw [if_pos h, h]
    rfl
  · rw [if_neg h]
    have hread : number? (padded (us % 1000000) 6) = some _ :=
      number?_padded (Nat.mod_lt _ (by decide))
    exact hread

/-- **A text written by `isoformat` is read back.** -/
theorem fromisoformat_isoformat {t : Nat} (ht : t ≤ datetimeMax) :
    fromisoformat (isoformat t) = some t := by
  obtain ⟨year, month, day, hcivil, hy, hyear, hm, hm', hd, hd', hof⟩ :=
    civil_spec (t / 86400000000)
  have hd31 : daysInMonth year month ≤ 31 := by
    unfold daysInMonth
    split
    · split <;> decide
    · split <;> decide
  obtain ⟨us, hus⟩ : ∃ us : Nat, us = t % 86400000000 := ⟨_, rfl⟩
  have hmax : t ≤ 315537897599999999 := ht
  have hyear := hyear (by omega)
  have hlt : us < 86400000000 := hus ▸ Nat.mod_lt _ (by decide)
  have h1 : number? (padded year 4) = some _ := number?_padded (by omega)
  have h2 : number? (padded month 2) = some _ := number?_padded (by omega)
  have h3 : number? (padded day 2) = some _ := number?_padded (by omega)
  have h4 : number? (padded (us / 3600000000) 2) = some _ := number?_padded (by omega)
  have h5 : number? (padded (us / 60000000 % 60) 2) = some _ := number?_padded (by omega)
  have h6 : number? (padded (us / 1000000 % 60) 2) = some _ := number?_padded (by omega)
  unfold fromisoformat isoformat clockText
  rw [String.toList_ofList, hcivil, ← hus]
  dsimp only
  have h7 := @fraction?_spec us
  simp only [List.append_assoc, List.cons_append]
  generalize (if us % 1000000 = 0 then [] else '.' :: padded (us % 1000000) 6) ++
    "+00:00".toList = tail at h7 ⊢
  simp only [padded, List.cons_append, List.nil_append, List.drop, List.take]
    at h1 h2 h3 h4 h5 h6 ⊢
  have passes {p : Prop} [Decidable p] {f : Unit → Option Time} (hp : p) (hf : f () = some t) :
      (guard p >>= f : Option Time) = some t := by
    rw [guard, if_pos hp]
    exact hf
  rw [h1, h2, h3, h4, h5, h6, h7]
  refine passes ⟨by simp, rfl, rfl, rfl, rfl, rfl⟩ ?_
  refine passes ⟨hy, hm, hm', hd, hd', by omega, by omega, by omega⟩ ?_
  have hsum : (((ofCivil year month day * 24 + us / 3600000000) * 60 + us / 60000000 % 60) * 60 +
      us / 1000000 % 60) * 1000000 + us % 1000000 = t := by
    rw [hof]
    omega
  exact congrArg some hsum

end Time

end CloudOpsAgent

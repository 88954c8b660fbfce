import Mathlib

/-!
# Instants, durations and the day layout

A `time.Time` is an instant in UTC, counted in nanoseconds from Go's zero time, January 1 of
year 1, 00:00:00 UTC, so that `IsZero` holds of the instant `0` only. Days are counted from the
same origin: the midnight of day `n` is the instant `n * nsPerDay`.
-/

namespace Gosoline

/-- `time.Time`: nanoseconds since the zero time, in UTC. -/
abbrev Time := ℤ

/-- `time.Duration`: a signed number of nanoseconds. -/
abbrev Duration := ℤ

/-- `time.Hour`. -/
def nsPerHour : ℤ := 3600000000000

/-- The length of a UTC day, the step of `AddDate(0, 0, 1)`. -/
def nsPerDay : ℤ := 24 * nsPerHour

theorem nsPerDay_eq : nsPerDay = 86400000000000 := rfl

/-- The layout `"2006-01-02"` of package `time` (`YMDLayout`), as `Format` writes it: the text of
a day number. The only law the development relies on is that different days are written
differently. Go's `Format` writes every year, beyond four digits and below zero too, so that holds
of it for every day. `time.Parse` reads back only years of four digits, so no law of parsing is
assumed here. -/
structure Calendar where
  /-- The text of a day. -/
  format : ℤ → String
  /-- Different days are written differently. -/
  format_injective : Function.Injective format

namespace Calendar

variable (cal : Calendar)

/-- `t.Format(YMDLayout)`: the text of the day of `t`. -/
def formatYMD (t : Time) : String := cal.format (t / nsPerDay)

theorem nsPerDay_pos : 0 < nsPerDay := by
  rw [nsPerDay_eq]
  decide

/-- The day of a midnight is written as that day. -/
@[simp] theorem formatYMD_mul (day : ℤ) : cal.formatYMD (day * nsPerDay) = cal.format day := by
  rw [formatYMD, Int.mul_ediv_cancel _ nsPerDay_pos.ne']

/-- A layout that writes day `n` as `|n|` tally marks, `a` from the origin on and `b` before
it. It obeys the law of `Calendar`, so theorems about every calendar can be run on it. -/
def tally : Calendar where
  format day := ⟨List.replicate day.natAbs (if day < 0 then 'b' else 'a')⟩
  format_injective a b h := by
    obtain ⟨hn, h0 | hc⟩ := List.replicate_inj.1 (congrArg String.data h)
    · omega
    · split_ifs at hc <;> first | omega | exact absurd hc (by decide)

/-- A day from the origin on is written with as many marks as its number. -/
theorem length_tally_format {day : ℤ} (h : 0 ≤ day) : ((tally.format day).length : ℤ) = day := by
  show ((List.replicate day.natAbs _).length : ℤ) = day
  rw [List.length_replicate]
  omega

end Calendar

end Gosoline

import Gcosmos.Time.Civil

/-!
# RFC 3339 text of Go's `time` package

The proposer writes the time of its block as `time.Now().UTC().Format(time.RFC3339)`, and a
validator reads it back with `time.Parse(time.RFC3339, ·)` (`BlockAnnotation.Time`). This file
models both ends: `Format` with the layout `2006-01-02T15:04:05Z07:00` of a time in UTC, and the
fast path `parseRFC3339` that `time.Parse` tries first for this layout. Go's general parser, which
`time.Parse` falls back to when the fast path fails, is left as a parameter.

The layout writes no fraction of a second, so the text keeps only whole seconds; its year has
four digits, so only years `0` to `9999` read back through the fast path.

## Main definitions

* `Time`: an instant, in seconds and nanoseconds since the Unix epoch; `Time.after` is Go's
  `Time.After`.
* `Time.appendInt`, `Time.formatRFC3339`: Go's digit writer and `Format(time.RFC3339)` in UTC.
* `Time.parseUint`, `Time.parseRFC3339`, `Time.parse`: Go's fast path and `time.Parse`.

## Main results

* `Time.parseRFC3339_formatRFC3339`: for a year in `[0, 9999]`, the text of an instant parses back
  to the instant truncated to its second.
* `Time.parse_formatRFC3339`: the same for `time.Parse`.
* `Time.after_truncate`: a truncated instant is never after a later clock reading.
-/

namespace Gcosmos

/-- An instant of Go's `time.Time`: seconds since the Unix epoch and the nanoseconds of that
second. A location only matters when the instant is formatted, which the code does in UTC. -/
structure Time where
  sec : Int
  nsec : Fin 1000000000
  deriving DecidableEq, Repr

namespace Time

/-- Go's `t.After(u)`: whether `t` is strictly later than `u`. -/
def after (t u : Time) : Bool :=
  decide (u.sec < t.sec) || (decide (t.sec = u.sec) && decide (u.nsec < t.nsec))

/-- The instant `t` without its fraction of a second. -/
def truncate (t : Time) : Time := ⟨t.sec, 0⟩

/-- Go's `time.Unix(sec, nsec)`: nanoseconds outside `[0, 10^9)` carry into the seconds. -/
def unix (sec nsec : Int) : Time :=
  ⟨sec + nsec / 1000000000, ⟨(nsec % 1000000000).toNat, by omega⟩⟩

/-- Go's `t.addSec(d)`. -/
def addSec (t : Time) (d : Int) : Time := ⟨t.sec + d, t.nsec⟩

/-- The year of `t` in UTC. -/
def year (t : Time) : Int := (civilOfDays (t.sec / 86400)).year

theorem after_truncate {t u : Time} (h : t.after u = false) : t.truncate.after u = false := by
  simp only [after, truncate, Bool.or_eq_false_iff, Bool.and_eq_false_iff,
    decide_eq_false_iff_not] at h ⊢
  obtain ⟨h1, h2⟩ := h
  refine ⟨h1, ?_⟩
  by_cases he : t.sec = u.sec
  · exact Or.inr (Fin.not_lt_zero _)
  · exact Or.inl he

/-- Not being after is transitive: it is the order `≤` of instants. -/
theorem after_eq_false_trans {t u w : Time} (h₁ : t.after u = false) (h₂ : u.after w = false) :
    t.after w = false := by
  simp only [after, Bool.or_eq_false_iff, Bool.and_eq_false_iff, decide_eq_false_iff_not,
    Fin.lt_def] at *
  omega

/-! ### Writing the layout -/

/-- Go's `utod`: the digit character of `u < 10`. -/
def utod (u : Nat) : Char := Char.ofNat ('0'.toNat + u)

/-- Go's `appendInt(b, x, width)` of package `time`, without the prefix `b`: the decimal digits
of `x` zero-padded to `width`, after a `-` when `x` is negative. Two- and four-digit fields have
their own branch in Go, kept here. -/
def appendInt (x : Int) (width : Nat) : List Char :=
  let u := x.natAbs
  (if x < 0 then ['-'] else []) ++
    if width = 2 ∧ u < 100 then [utod (u / 10), utod (u % 10)]
    else if width = 4 ∧ u < 10000 then
      [utod (u / 1000), utod (u / 100 % 10), utod (u / 10 % 10), utod (u % 10)]
    else List.replicate (width - (Nat.toDigits 10 u).length) '0' ++ Nat.toDigits 10 u

/-- `t.UTC().Format(time.RFC3339)`: the layout `2006-01-02T15:04:05Z07:00`, where a zero offset
is written `Z`. The nanoseconds are not written. -/
def formatRFC3339 (t : Time) : String :=
  let c := civilOfDays (t.sec / 86400)
  let s := t.sec % 86400
  ⟨appendInt c.year 4 ++ '-' :: appendInt c.month 2 ++ '-' :: appendInt c.day 2 ++
    'T' :: appendInt (s / 3600) 2 ++ ':' :: appendInt (s % 3600 / 60) 2 ++ ':' ::
    appendInt (s % 60) 2 ++ ['Z']⟩

/-! ### Reading the layout -/

/-- The bytes `s[i:j]` of a string whose length is at least `j`. -/
def slice (s : List Char) (i j : Nat) : List Char := (s.drop i).take (j - i)

/-- The decimal value of a string of digits. -/
def decimal (s : List Char) : Int :=
  s.foldl (fun x c => x * 10 + ((c.toNat : Int) - ('0'.toNat : Int))) 0

/-- The closure `parseUint` of Go's `parseRFC3339`: the decimal value of `s` and `true` when
every byte is a digit and the value lies in `[min, max]`; otherwise `min` and `false`. -/
def parseUint (s : List Char) (min max : Int) : Int × Bool :=
  if s.all Char.isDigit ∧ min ≤ decimal s ∧ decimal s ≤ max then (decimal s, true)
  else (min, false)

/-- Go's `parseNanoseconds(value, nbytes)` where `value` starts with `.` and digits up to byte
`nbytes`: the fraction in nanoseconds; digits past the ninth are dropped. -/
def parseNanoseconds (value : List Char) (nbytes : Nat) : Int :=
  decimal (slice value 1 (min nbytes 10)) * 10 ^ (10 - min nbytes 10)

/-- `time.Date(year, month, day, hour, min, sec, nsec, time.UTC)` for a month in `[1, 12]`; the
other fields carry over linearly, as Go normalises them. -/
def date (year month day hour min sec nsec : Int) : Time :=
  Time.unix (daysOfCivil ⟨year, month, day⟩ * 86400 + hour * 3600 + min * 60 + sec) nsec

/-- The zone of `parseRFC3339`: `Z`, or an offset `±hh:mm` that is subtracted from `t`. -/
def parseZone (t : Time) (s : List Char) : Option Time :=
  if s = ['Z'] then some t
  else if s.length ≠ 6 then none
  else
    let hr := parseUint (slice s 1 3) 0 23
    let mm := parseUint (slice s 4 6) 0 59
    if !(hr.2 && mm.2 && (s.get? 0 == some '-' || s.get? 0 == some '+') && s.get? 3 == some ':')
    then none
    else
      let zoneOffset := (hr.1 * 60 + mm.1) * 60
      some (t.addSec (-(if s.get? 0 = some '-' then -zoneOffset else zoneOffset)))

/-- Go's `parseRFC3339(s, local)`, the fast path of `time.Parse(time.RFC3339, s)`. The flag `ok`
of the source is the conjunction of the flags of the six fields. -/
def parseRFC3339 (s : List Char) : Option Time :=
  if s.length < 19 then none
  else
    let year := parseUint (slice s 0 4) 0 9999
    let month := parseUint (slice s 5 7) 1 12
    let day := parseUint (slice s 8 10) 1 (daysIn month.1 year.1)
    let hour := parseUint (slice s 11 13) 0 23
    let min := parseUint (slice s 14 16) 0 59
    let sec := parseUint (slice s 17 19) 0 59
    if !(year.2 && month.2 && day.2 && hour.2 && min.2 && sec.2 &&
        s.get? 4 == some '-' && s.get? 7 == some '-' && s.get? 10 == some 'T' &&
        s.get? 13 == some ':' && s.get? 16 == some ':') then none
    else
      let s := s.drop 19
      let n := 1 + ((s.drop 1).takeWhile Char.isDigit).length
      let frac := 2 ≤ s.length ∧ s.get? 0 = some '.' ∧ (s.get? 1).any Char.isDigit
      let nsec := if frac then parseNanoseconds s n else 0
      let s := if frac then s.drop n else s
      parseZone (date year.1 month.1 day.1 hour.1 min.1 sec.1 nsec) s

/-- `time.Parse(time.RFC3339, value)`: the fast path, and Go's general parser `general` where the
fast path fails. -/
def parse (general : String → Except String Time) (value : String) : Except String Time :=
  match parseRFC3339 value.toList with
  | some t => .ok t
  | none => general value

/-! ### Reading back what was written -/

theorem utod_isDigit {u : Nat} (h : u < 10) : (utod u).isDigit = true := by
  interval_cases u <;> rfl

theorem utod_toNat {u : Nat} (h : u < 10) : (utod u).toNat = 48 + u := by
  interval_cases u <;> rfl

private theorem zero_toNat : '0'.toNat = 48 := rfl

theorem appendInt_two {x : Int} (h0 : 0 ≤ x) (h : x < 100) :
    appendInt x 2 = [utod (x.toNat / 10), utod (x.toNat % 10)] := by
  have hx : x.natAbs = x.toNat := by omega
  simp [appendInt, hx, Int.not_lt.mpr h0, show x.toNat < 100 by omega]

theorem appendInt_four {x : Int} (h0 : 0 ≤ x) (h : x < 10000) :
    appendInt x 4 = [utod (x.toNat / 1000), utod (x.toNat / 100 % 10), utod (x.toNat / 10 % 10),
      utod (x.toNat % 10)] := by
  have hx : x.natAbs = x.toNat := by omega
  simp [appendInt, hx, Int.not_lt.mpr h0, show x.toNat < 10000 by omega]

theorem parseUint_two {n : Nat} {min max : Int} (h : n < 100) (hmin : min ≤ n) (hmax : n ≤ max) :
    parseUint [utod (n / 10), utod (n % 10)] min max = ((n : Int), true) := by
  have hd : decimal [utod (n / 10), utod (n % 10)] = n := by
    simp only [decimal, List.foldl, zero_toNat, utod_toNat (show n / 10 < 10 by omega),
      utod_toNat (Nat.mod_lt n (by decide))]
    omega
  simp [parseUint, hd, utod_isDigit (show n / 10 < 10 by omega),
    utod_isDigit (Nat.mod_lt n (by decide)), hmin, hmax]

theorem parseUint_four {n : Nat} {min max : Int} (h : n < 10000) (hmin : min ≤ n)
    (hmax : n ≤ max) :
    parseUint [utod (n / 1000), utod (n / 100 % 10), utod (n / 10 % 10), utod (n % 10)] min max =
      ((n : Int), true) := by
  have hd : decimal [utod (n / 1000), utod (n / 100 % 10), utod (n / 10 % 10), utod (n % 10)] =
      n := by
    simp only [decimal, List.foldl, zero_toNat, utod_toNat (show n / 1000 < 10 by omega),
      utod_toNat (Nat.mod_lt _ (show 10 > 0 by decide)), utod_toNat (Nat.mod_lt n (by decide))]
    omega
  simp [parseUint, hd, utod_isDigit (show n / 1000 < 10 by omega),
    utod_isDigit (Nat.mod_lt _ (show 10 > 0 by decide)), hmin, hmax]

/-- A two-digit field written by `appendInt` is two digits that `parseUint` reads back. -/
theorem appendInt_two_spec {x : Int} (h0 : 0 ≤ x) (h : x < 100) :
    ∃ a b, appendInt x 2 = [a, b] ∧
      ∀ min max, min ≤ x → x ≤ max → parseUint [a, b] min max = (x, true) := by
  refine ⟨_, _, appendInt_two h0 h, fun min max hmin hmax => ?_⟩
  rw [parseUint_two (by omega) (by omega) (by omega), Int.toNat_of_nonneg h0]

/-- A four-digit field written by `appendInt` is four digits that `parseUint` reads back. -/
theorem appendInt_four_spec {x : Int} (h0 : 0 ≤ x) (h : x < 10000) :
    ∃ a b c d, appendInt x 4 = [a, b, c, d] ∧
      ∀ min max, min ≤ x → x ≤ max → parseUint [a, b, c, d] min max = (x, true) := by
  refine ⟨_, _, _, _, appendInt_four h0 h, fun min max hmin hmax => ?_⟩
  rw [parseUint_four (by omega) (by omega) (by omega), Int.toNat_of_nonneg h0]

theorem parseRFC3339_formatRFC3339 (t : Time) (h0 : 0 ≤ t.year) (h1 : t.year ≤ 9999) :
    parseRFC3339 (formatRFC3339 t).toList = some t.truncate := by
  obtain ⟨hm1, hm2⟩ := civilOfDays_month (t.sec / 86400)
  obtain ⟨hd1, hd2⟩ := civilOfDays_day (t.sec / 86400)
  have hd3 := daysIn_le (civilOfDays (t.sec / 86400)).year hm1 hm2
  have hdays := daysOfCivil_civilOfDays (t.sec / 86400)
  simp only [year] at h0 h1
  simp only [formatRFC3339]
  generalize civilOfDays (t.sec / 86400) = c at *
  obtain ⟨y1, y2, y3, y4, hy, py⟩ := appendInt_four_spec h0 (by omega)
  obtain ⟨m1, m2, hm, pm⟩ := appendInt_two_spec (by omega : 0 ≤ c.month) (by omega)
  obtain ⟨d1, d2, hd, pd⟩ := appendInt_two_spec (by omega : 0 ≤ c.day) (by omega)
  obtain ⟨h1', h2', hh, ph⟩ := appendInt_two_spec (x := t.sec % 86400 / 3600) (by omega) (by omega)
  obtain ⟨i1, i2, hi, pi⟩ := appendInt_two_spec (x := t.sec % 86400 % 3600 / 60) (by omega)
    (by omega)
  obtain ⟨s1, s2, hs, ps⟩ := appendInt_two_spec (x := t.sec % 86400 % 60) (by omega) (by omega)
  rw [hy, hm, hd, hh, hi, hs]
  simp [parseRFC3339, slice, py 0 9999 h0 h1, pm 1 12 hm1 hm2, pd 1 _ hd1 hd2,
    ph 0 23 (by omega) (by omega), pi 0 59 (by omega) (by omega), ps 0 59 (by omega) (by omega),
    parseZone, date, Time.unix, truncate, hdays]
  omega

/-- `time.Parse(time.RFC3339, ·)` reads back the text of `Format(time.RFC3339)` through its fast
path, whatever Go's general parser would do. -/
theorem parse_formatRFC3339 (general : String → Except String Time) (t : Time) (h0 : 0 ≤ t.year)
    (h1 : t.year ≤ 9999) : parse general (formatRFC3339 t) = .ok t.truncate := by
  rw [parse, parseRFC3339_formatRFC3339 t h0 h1]

end Time

end Gcosmos

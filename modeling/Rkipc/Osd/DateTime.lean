import Rkipc.Libc.Search
import Rkipc.Param.Decimal

namespace Rkipc.Osd.DateTime

open Ini Libc Param

/-! The text of the clock: `generate_date_time`, and the format that `osd_time_server` makes for
it. -/

/-- `struct tm`, as far as it is printed. -/
structure Tm where
  year : Nat
  mon : Nat
  mday : Nat
  hour : Nat
  min : Nat
  sec : Nat
  wday : Nat
deriving DecidableEq

/-- What `localtime` fills in, up to the last year of seven digits. -/
structure Tm.Valid (tm : Tm) : Prop where
  year : tm.year < 10 ^ 7
  mon : tm.mon < 12
  mday : tm.mday < 32
  hour : tm.hour < 24
  min : tm.min < 60
  sec : tm.sec < 61
  wday : tm.wday < 7

def twoDigits (n : Nat) : Text := [Nat.digitChar (n / 10), Nat.digitChar (n % 10)]

/-! The conversions of `strftime`. -/

def year (tm : Tm) : Text := Nat.toDigits 10 tm.year

def month (tm : Tm) : Text := twoDigits (tm.mon + 1)

def day (tm : Tm) : Text := twoDigits tm.mday

def minuteSecond (tm : Tm) : Text := ':' :: (twoDigits tm.min ++ ':' :: twoDigits tm.sec)

/-- `%H:%M:%S` -/
def hms24 (tm : Tm) : Text := twoDigits tm.hour ++ minuteSecond tm

/-- `%I:%M:%S %p` -/
def hms12 (tm : Tm) : Text :=
  twoDigits (if tm.hour % 12 = 0 then 12 else tm.hour % 12) ++
    (minuteSecond tm ++ if tm.hour < 12 then " AM".toList else " PM".toList)

/-- `%u` -/
def weekday (tm : Tm) : Nat := if tm.wday = 0 then 7 else tm.wday

/-- `%A` -/
def weekdayName (tm : Tm) : Text :=
  match tm.wday with
  | 0 => "Sunday".toList
  | 1 => "Monday".toList
  | 2 => "Tuesday".toList
  | 3 => "Wednesday".toList
  | 4 => "Thursday".toList
  | 5 => "Friday".toList
  | _ => "Saturday".toList

def weekdayText (wid : Nat) : Text :=
  match wid with
  | 1 => " 星期一".toList
  | 2 => " 星期二".toList
  | 3 => " 星期三".toList
  | 4 => " 星期四".toList
  | 5 => " 星期五".toList
  | 6 => " 星期六".toList
  | 7 => " 星期日".toList
  | _ => " 星期*".toList

section Source

variable (fmt : Text)

/-- `strstr(fmt, ...)`; the format has no NUL. -/
def has (needle : String) : Bool := (strstr '\x00' needle.toList fmt).isSome

def hms (tm : Tm) : Text :=
  if has fmt "24hour" then hms24 tm else if has fmt "12hour" then hms12 tm else []

def weekString (tm : Tm) : Text :=
  if has fmt "WEEKCN" then weekdayText (weekday tm)
  else if has fmt "WEEK" then (' ' :: weekdayName tm).take 14
  else []

def yearMonthDay (first second last : Text) (tm : Tm) : Text :=
  year tm ++ (first ++ (month tm ++ (second ++ (day tm ++ last))))

def monthDayYear (first second last : Text) (tm : Tm) : Text :=
  month tm ++ (first ++ (day tm ++ (second ++ (year tm ++ last))))

def dayMonthYear (first second last : Text) (tm : Tm) : Text :=
  day tm ++ (first ++ (month tm ++ (second ++ (year tm ++ last))))

def ymdString (tm : Tm) : Text :=
  if has fmt "CHR" then
    if has fmt "YYYY-MM-DD" then yearMonthDay ['年'] ['月'] ['日'] tm
    else if has fmt "MM-DD-YYYY" then monthDayYear ['月'] ['日'] ['年'] tm
    else if has fmt "DD-MM-YYYY" then dayMonthYear ['日'] ['月'] ['年'] tm
    else if has fmt "YYYY/MM/DD" then yearMonthDay ['/'] ['/'] [] tm
    else if has fmt "MM/DD/YYYY" then monthDayYear ['/'] ['/'] [] tm
    else if has fmt "DD/MM/YYYY" then dayMonthYear ['/'] ['/'] [] tm
    else []
  else if has fmt "YYYY-MM-DD" then yearMonthDay ['-'] ['-'] [] tm
  else if has fmt "MM-DD-YYYY" then monthDayYear ['-'] ['-'] [] tm
  else if has fmt "DD-MM-YYYY" then dayMonthYear ['-'] ['-'] [] tm
  else []

end Source

/-- The bytes of a text in UTF-8. -/
def byteLength (text : Text) : Nat := (text.map Char.utf8Size).sum

/-- The whole characters in the first bytes. -/
def takeBytes : Nat → Text → Text
  | _, [] => []
  | room, char :: text =>
      if char.utf8Size ≤ room then char :: takeBytes (room - char.utf8Size) text else []

def maxWchByte : Nat := 128

/-- `iconv_utf8_to_wchar`: there is room for 128 bytes of wide characters. -/
def iconvUtf8ToWchar (text : Text) : Text := text.take (maxWchByte / 4)

def generateDateTime (fmt : Text) (tm : Tm) : Text :=
  iconvUtf8ToWchar
    (takeBytes (maxWchByte - 1) (ymdString fmt tm ++ (weekString fmt tm ++ ' ' :: hms fmt tm)))

def clockFormat (timeStyle dateStyle : Option Text) (displayWeekEnabled : Int) : Text :=
  (match timeStyle with
    | none => []
    | some style =>
        (if style = "12hour".toList then "12hour".toList else "24hour".toList) ++ [' ']) ++
  ((if displayWeekEnabled ≠ 0 then "WEEKCN ".toList else []) ++ dateStyle.getD [])

/-- The date has a place in the format. -/
def Dated (fmt : Text) : Prop :=
  has fmt "YYYY-MM-DD" = true ∨ has fmt "MM-DD-YYYY" = true ∨ has fmt "DD-MM-YYYY" = true ∨
    has fmt "CHR" = true ∧ (has fmt "YYYY/MM/DD" = true ∨ has fmt "MM/DD/YYYY" = true ∨
      has fmt "DD/MM/YYYY" = true)

def Timed (fmt : Text) : Prop := has fmt "24hour" = true ∨ has fmt "12hour" = true

/-- The same second of the same day. -/
structure SameMoment (tm other : Tm) : Prop where
  year : tm.year = other.year
  mon : tm.mon = other.mon
  mday : tm.mday = other.mday
  hour : tm.hour = other.hour
  min : tm.min = other.min
  sec : tm.sec = other.sec

/-- Each text has a place, with its NUL, in the array that `generate_date_time` prints it to,
and the wide characters have one as well. -/
structure Uncut (fmt : Text) (tm : Tm) : Prop where
  year : byteLength (year tm) < 8
  month : byteLength (month tm) < 4
  day : byteLength (day tm) < 4
  hms : byteLength (hms fmt tm) < 12
  ymdString : byteLength (ymdString fmt tm) < 32
  weekString : byteLength (weekString fmt tm) < 16
  timeString :
    byteLength (DateTime.ymdString fmt tm ++ (DateTime.weekString fmt tm ++
      ' ' :: DateTime.hms fmt tm)) < maxWchByte
  whole : generateDateTime fmt tm =
    DateTime.ymdString fmt tm ++ (DateTime.weekString fmt tm ++ ' ' :: DateTime.hms fmt tm)

variable {fmt : Text} {tm other : Tm} {n m : Nat} {first second last : Text}

theorem digitChar_injective (small : n < 10) (smallOther : m < 10)
    (same : Nat.digitChar n = Nat.digitChar m) : n = m := by
  have every : ∀ n < 10, ∀ m < 10, Nat.digitChar n = Nat.digitChar m → n = m := by decide
  exact every n small m smallOther same

theorem twoDigits_injective (small : n < 100) (smallOther : m < 100)
    (same : twoDigits n = twoDigits m) : n = m := by
  obtain ⟨tens, rest⟩ := List.cons.inj same
  obtain ⟨ones, _⟩ := List.cons.inj rest
  have sameTens := digitChar_injective (by omega) (by omega) tens
  have sameOnes := digitChar_injective (by omega) (by omega) ones
  omega

theorem twoDigits_plain (small : n < 100) : ∀ char ∈ twoDigits n, char ≠ ' ' := by
  have every : ∀ n < 10, Nat.digitChar n ≠ ' ' := by decide
  intro char member
  rcases List.mem_cons.mp member with rfl | member
  · exact every _ (by omega)
  · rw [List.mem_singleton.mp member]
    exact every _ (Nat.mod_lt n (by decide))

theorem toDigits_injective (same : Nat.toDigits 10 n = Nat.toDigits 10 m) : n = m := by
  rw [← Nat.ofDigitChars_ten_toDigits (n := n), same, Nat.ofDigitChars_ten_toDigits]

theorem year_plain (tm : Tm) : ∀ char ∈ year tm, char ≠ ' ' := by
  intro char member
  exact digit_all (p := fun char => char ≠ ' ') (digits_isDigit member) (by decide)

theorem yearMonthDay_injective (valid : tm.Valid) (validOther : other.Valid)
    (same : yearMonthDay first second last tm = yearMonthDay first second last other) :
    tm.year = other.year ∧ tm.mon = other.mon ∧ tm.mday = other.mday := by
  have ofMon := valid.mon
  have ofMonOther := validOther.mon
  have ofDay := valid.mday
  have ofDayOther := validOther.mday
  obtain ⟨years, rest⟩ := List.append_inj' same (by simp [month, day, twoDigits])
  obtain ⟨months, rest⟩ := List.append_inj (List.append_cancel_left rest) rfl
  obtain ⟨days, _⟩ := List.append_inj (List.append_cancel_left rest) rfl
  have sameMonth := twoDigits_injective (by omega) (by omega) months
  exact ⟨toDigits_injective years, by omega,
    twoDigits_injective (by omega) (by omega) days⟩

theorem monthDayYear_injective (valid : tm.Valid) (validOther : other.Valid)
    (same : monthDayYear first second last tm = monthDayYear first second last other) :
    tm.year = other.year ∧ tm.mon = other.mon ∧ tm.mday = other.mday := by
  have ofMon := valid.mon
  have ofMonOther := validOther.mon
  have ofDay := valid.mday
  have ofDayOther := validOther.mday
  obtain ⟨months, rest⟩ := List.append_inj same rfl
  obtain ⟨days, rest⟩ := List.append_inj (List.append_cancel_left rest) rfl
  have years := List.append_cancel_right (List.append_cancel_left rest)
  have sameMonth := twoDigits_injective (by omega) (by omega) months
  exact ⟨toDigits_injective years, by omega,
    twoDigits_injective (by omega) (by omega) days⟩

theorem dayMonthYear_injective (valid : tm.Valid) (validOther : other.Valid)
    (same : dayMonthYear first second last tm = dayMonthYear first second last other) :
    tm.year = other.year ∧ tm.mon = other.mon ∧ tm.mday = other.mday := by
  have ofMon := valid.mon
  have ofMonOther := validOther.mon
  have ofDay := valid.mday
  have ofDayOther := validOther.mday
  obtain ⟨days, rest⟩ := List.append_inj same rfl
  obtain ⟨months, rest⟩ := List.append_inj (List.append_cancel_left rest) rfl
  have years := List.append_cancel_right (List.append_cancel_left rest)
  have sameMonth := twoDigits_injective (by omega) (by omega) months
  exact ⟨toDigits_injective years, by omega,
    twoDigits_injective (by omega) (by omega) days⟩

/-- The three orders of the date, with what stands between its numbers. -/
theorem ymdString_cases (dated : Dated fmt) : ∃ first second last : Text,
    (∀ char ∈ first ++ (second ++ last), char ∈ ['年', '月', '日', '/', '-']) ∧
      first.length = 1 ∧ second.length = 1 ∧ last.length ≤ 1 ∧
      (ymdString fmt = yearMonthDay first second last ∨
        ymdString fmt = monthDayYear first second last ∨
        ymdString fmt = dayMonthYear first second last) := by
  by_cases chr : has fmt "CHR" = true
  · by_cases ymd : has fmt "YYYY-MM-DD" = true
    · refine ⟨['年'], ['月'], ['日'], by decide, rfl, rfl, by decide, .inl (funext fun tm => ?_)⟩
      rw [ymdString, if_pos chr, if_pos ymd]
    by_cases mdy : has fmt "MM-DD-YYYY" = true
    · refine ⟨['月'], ['日'], ['年'], by decide, rfl, rfl, by decide,
        .inr (.inl (funext fun tm => ?_))⟩
      rw [ymdString, if_pos chr, if_neg ymd, if_pos mdy]
    by_cases dmy : has fmt "DD-MM-YYYY" = true
    · refine ⟨['日'], ['月'], ['年'], by decide, rfl, rfl, by decide,
        .inr (.inr (funext fun tm => ?_))⟩
      rw [ymdString, if_pos chr, if_neg ymd, if_neg mdy, if_pos dmy]
    by_cases slashYmd : has fmt "YYYY/MM/DD" = true
    · refine ⟨['/'], ['/'], [], by decide, rfl, rfl, by decide, .inl (funext fun tm => ?_)⟩
      rw [ymdString, if_pos chr, if_neg ymd, if_neg mdy, if_neg dmy, if_pos slashYmd]
    by_cases slashMdy : has fmt "MM/DD/YYYY" = true
    · refine ⟨['/'], ['/'], [], by decide, rfl, rfl, by decide, .inr (.inl (funext fun tm => ?_))⟩
      rw [ymdString, if_pos chr, if_neg ymd, if_neg mdy, if_neg dmy, if_neg slashYmd,
        if_pos slashMdy]
    by_cases slashDmy : has fmt "DD/MM/YYYY" = true
    · refine ⟨['/'], ['/'], [], by decide, rfl, rfl, by decide, .inr (.inr (funext fun tm => ?_))⟩
      rw [ymdString, if_pos chr, if_neg ymd, if_neg mdy, if_neg dmy, if_neg slashYmd,
        if_neg slashMdy, if_pos slashDmy]
    rcases dated with isYmd | isMdy | isDmy | ⟨_, isYmd | isMdy | isDmy⟩
    · exact absurd isYmd ymd
    · exact absurd isMdy mdy
    · exact absurd isDmy dmy
    · exact absurd isYmd slashYmd
    · exact absurd isMdy slashMdy
    · exact absurd isDmy slashDmy
  · by_cases ymd : has fmt "YYYY-MM-DD" = true
    · refine ⟨['-'], ['-'], [], by decide, rfl, rfl, by decide, .inl (funext fun tm => ?_)⟩
      rw [ymdString, if_neg chr, if_pos ymd]
    by_cases mdy : has fmt "MM-DD-YYYY" = true
    · refine ⟨['-'], ['-'], [], by decide, rfl, rfl, by decide, .inr (.inl (funext fun tm => ?_))⟩
      rw [ymdString, if_neg chr, if_neg ymd, if_pos mdy]
    by_cases dmy : has fmt "DD-MM-YYYY" = true
    · refine ⟨['-'], ['-'], [], by decide, rfl, rfl, by decide, .inr (.inr (funext fun tm => ?_))⟩
      rw [ymdString, if_neg chr, if_neg ymd, if_neg mdy, if_pos dmy]
    rcases dated with isYmd | isMdy | isDmy | ⟨isChr, _⟩
    · exact absurd isYmd ymd
    · exact absurd isMdy mdy
    · exact absurd isDmy dmy
    · exact absurd isChr chr

theorem ymdString_injective (dated : Dated fmt) (valid : tm.Valid) (validOther : other.Valid)
    (same : ymdString fmt tm = ymdString fmt other) :
    tm.year = other.year ∧ tm.mon = other.mon ∧ tm.mday = other.mday := by
  obtain ⟨first, second, last, _, _, _, _, isYmd | isMdy | isDmy⟩ := ymdString_cases dated
  · rw [isYmd] at same
    exact yearMonthDay_injective valid validOther same
  · rw [isMdy] at same
    exact monthDayYear_injective valid validOther same
  · rw [isDmy] at same
    exact dayMonthYear_injective valid validOther same

theorem minuteSecond_injective (valid : tm.Valid) (validOther : other.Valid)
    (same : minuteSecond tm = minuteSecond other) : tm.min = other.min ∧ tm.sec = other.sec := by
  have ofMin := valid.min
  have ofMinOther := validOther.min
  have ofSec := valid.sec
  have ofSecOther := validOther.sec
  obtain ⟨mins, rest⟩ := List.append_inj (List.cons.inj same).2 rfl
  exact ⟨twoDigits_injective (by omega) (by omega) mins,
    twoDigits_injective (by omega) (by omega) (List.cons.inj rest).2⟩

theorem hms24_injective (valid : tm.Valid) (validOther : other.Valid)
    (same : hms24 tm = hms24 other) :
    tm.hour = other.hour ∧ tm.min = other.min ∧ tm.sec = other.sec := by
  have ofHour := valid.hour
  have ofHourOther := validOther.hour
  obtain ⟨hours, rest⟩ := List.append_inj same rfl
  exact ⟨twoDigits_injective (by omega) (by omega) hours,
    minuteSecond_injective valid validOther rest⟩

/-- The half of the day tells the hours apart that have the same number. -/
theorem hms12_injective (valid : tm.Valid) (validOther : other.Valid)
    (same : hms12 tm = hms12 other) :
    tm.hour = other.hour ∧ tm.min = other.min ∧ tm.sec = other.sec := by
  have ofHour := valid.hour
  have ofHourOther := validOther.hour
  obtain ⟨hours, rest⟩ := List.append_inj same rfl
  obtain ⟨minutes, halves⟩ := List.append_inj rest rfl
  have sameHour := twoDigits_injective (by split <;> omega) (by split <;> omega) hours
  have sameHalf : tm.hour < 12 ↔ other.hour < 12 := by
    by_cases isMorning : tm.hour < 12
    · by_cases isMorningOther : other.hour < 12
      · exact iff_of_true isMorning isMorningOther
      · rw [if_pos isMorning, if_neg isMorningOther] at halves
        exact absurd halves (by decide)
    · by_cases isMorningOther : other.hour < 12
      · rw [if_neg isMorning, if_pos isMorningOther] at halves
        exact absurd halves (by decide)
      · exact iff_of_false isMorning isMorningOther
  refine ⟨?_, minuteSecond_injective valid validOther minutes⟩
  split at sameHour <;> split at sameHour <;> omega

theorem hms_injective (timed : Timed fmt) (valid : tm.Valid) (validOther : other.Valid)
    (same : hms fmt tm = hms fmt other) :
    tm.hour = other.hour ∧ tm.min = other.min ∧ tm.sec = other.sec := by
  unfold hms at same
  by_cases is24 : has fmt "24hour" = true
  · rw [if_pos is24, if_pos is24] at same
    exact hms24_injective valid validOther same
  · have is12 := timed.resolve_left is24
    rw [if_neg is24, if_neg is24, if_pos is12, if_pos is12] at same
    exact hms12_injective valid validOther same

theorem length_hms (fmt : Text) (tm other : Tm) : (hms fmt tm).length = (hms fmt other).length := by
  unfold hms
  split
  · rfl
  · split
    · unfold hms12
      rw [List.length_append, List.length_append, List.length_append, List.length_append]
      have halves : ∀ tm : Tm,
          (if tm.hour < 12 then " AM".toList else " PM".toList).length = 3 := by
        intro tm
        split <;> rfl
      rw [halves, halves]
      rfl
    · rfl

theorem weekday_injective (valid : tm.Valid) (validOther : other.Valid)
    (same : weekdayText (weekday tm) = weekdayText (weekday other)) : tm.wday = other.wday := by
  have every : ∀ n < 7, ∀ m < 7, weekdayText (if n = 0 then 7 else n) =
      weekdayText (if m = 0 then 7 else m) → n = m := by decide
  exact every _ valid.wday _ validOther.wday same

/-! Nothing of the text is cut. -/

theorem byteLength_append (left right : Text) :
    byteLength (left ++ right) = byteLength left + byteLength right := by
  rw [byteLength, List.map_append, List.sum_append, byteLength, byteLength]

theorem byteLength_cons (char : Char) (text : Text) :
    byteLength (char :: text) = char.utf8Size + byteLength text := by
  rw [byteLength, List.map_cons, List.sum_cons, byteLength]

theorem takeBytes_of_le {text : Text} {room : Nat} (fits : byteLength text ≤ room) :
    takeBytes room text = text := by
  induction text generalizing room with
  | nil => rfl
  | cons char text induction =>
      rw [byteLength_cons] at fits
      rw [takeBytes, if_pos (by omega), induction (by omega)]

theorem byteLength_le {text : Text} {size : Nat} (narrow : ∀ char ∈ text, char.utf8Size ≤ size) :
    byteLength text ≤ size * text.length := by
  induction text with
  | nil => exact Nat.zero_le _
  | cons char text induction =>
      have ofChar := narrow char List.mem_cons_self
      have ofText := induction fun other member => narrow other (List.mem_cons_of_mem _ member)
      rw [byteLength_cons, List.length_cons, Nat.mul_succ]
      omega

theorem byteLength_twoDigits (small : n < 100) : byteLength (twoDigits n) = 2 := by
  have every : ∀ n < 10, (Nat.digitChar n).utf8Size = 1 := by decide
  rw [twoDigits, byteLength_cons, byteLength_cons, every _ (by omega),
    every _ (Nat.mod_lt n (by decide))]
  rfl

theorem byteLength_year (valid : tm.Valid) : byteLength (year tm) ≤ 7 := by
  have digits : (year tm).length ≤ 7 :=
    (Nat.length_toDigits_le_iff (by decide) (by decide)).mpr valid.year
  have narrow : ∀ char ∈ year tm, char.utf8Size ≤ 1 := fun char member =>
    digit_all (p := fun char => char.utf8Size ≤ 1) (digits_isDigit member) (by decide)
  have bytes := byteLength_le narrow
  omega

theorem byteLength_ymdString (dated : Dated fmt) (valid : tm.Valid) :
    byteLength (ymdString fmt tm) ≤ 20 := by
  have ofMon := valid.mon
  have ofDay := valid.mday
  have years := byteLength_year valid
  have months : byteLength (month tm) = 2 := byteLength_twoDigits (by omega)
  have days : byteLength (day tm) = 2 := byteLength_twoDigits (by omega)
  obtain ⟨first, second, last, separators, ofFirst, ofSecond, ofLast, order⟩ :=
    ymdString_cases dated
  have between : byteLength (first ++ (second ++ last)) ≤ 9 := by
    have every : ∀ char ∈ ['年', '月', '日', '/', '-'], char.utf8Size ≤ 3 := by decide
    have bytes := byteLength_le fun char member => every char (separators char member)
    simp only [List.length_append] at bytes
    omega
  simp only [byteLength_append] at between
  rcases order with isYmd | isMdy | isDmy
  · rw [isYmd, yearMonthDay]
    simp only [byteLength_append]
    omega
  · rw [isMdy, monthDayYear]
    simp only [byteLength_append]
    omega
  · rw [isDmy, dayMonthYear]
    simp only [byteLength_append]
    omega

theorem byteLength_hms (fmt : Text) (valid : tm.Valid) : byteLength (hms fmt tm) ≤ 11 := by
  have ofHour := valid.hour
  have ofMin := valid.min
  have ofSec := valid.sec
  have rest : byteLength (minuteSecond tm) = 6 := by
    rw [minuteSecond, byteLength_cons, byteLength_append, byteLength_cons,
      byteLength_twoDigits (by omega), byteLength_twoDigits (by omega)]
    rfl
  unfold hms hms24 hms12
  split
  · rw [byteLength_append, byteLength_twoDigits (by omega), rest]
    decide
  · split
    · have halves : byteLength (if tm.hour < 12 then " AM".toList else " PM".toList) = 3 := by
        split <;> decide
      rw [byteLength_append, byteLength_append, rest, halves,
        byteLength_twoDigits (by split <;> omega)]
    · decide

theorem length_ymdString (dated : Dated fmt) (valid : tm.Valid) :
    (ymdString fmt tm).length ≤ 14 := by
  have years : (year tm).length ≤ 7 :=
    (Nat.length_toDigits_le_iff (by decide) (by decide)).mpr valid.year
  have months : (month tm).length = 2 := rfl
  have days : (day tm).length = 2 := rfl
  obtain ⟨first, second, last, _, ofFirst, ofSecond, ofLast, isYmd | isMdy | isDmy⟩ :=
    ymdString_cases dated
  · rw [isYmd, yearMonthDay]
    simp only [List.length_append]
    omega
  · rw [isMdy, monthDayYear]
    simp only [List.length_append]
    omega
  · rw [isDmy, dayMonthYear]
    simp only [List.length_append]
    omega

theorem ymdString_plain (dated : Dated fmt) (valid : tm.Valid) :
    ∀ char ∈ ymdString fmt tm, char ≠ ' ' := by
  have ofMon := valid.mon
  have ofDay := valid.mday
  have years := year_plain tm
  have months : ∀ char ∈ month tm, char ≠ ' ' := twoDigits_plain (by omega)
  have days : ∀ char ∈ day tm, char ≠ ' ' := twoDigits_plain (by omega)
  obtain ⟨first, second, last, separators, _, _, _, order⟩ := ymdString_cases dated
  have between : ∀ char ∈ first ++ (second ++ last), char ≠ ' ' := by
    intro char member
    have every : ∀ char ∈ ['年', '月', '日', '/', '-'], char ≠ ' ' := by decide
    exact every char (separators char member)
  simp only [List.mem_append] at between
  intro char member
  rcases order with isYmd | isMdy | isDmy
  · rw [isYmd, yearMonthDay] at member
    simp only [List.mem_append] at member
    grind
  · rw [isMdy, monthDayYear] at member
    simp only [List.mem_append] at member
    grind
  · rw [isDmy, dayMonthYear] at member
    simp only [List.mem_append] at member
    grind

theorem length_hms_le (fmt : Text) (tm : Tm) : (hms fmt tm).length ≤ 11 := by
  rw [length_hms fmt tm ⟨0, 0, 0, 0, 0, 0, 0⟩]
  unfold hms
  split
  · decide
  · split
    · decide
    · decide

theorem weekdayText_eq (wid : Nat) :
    ∃ rest, weekdayText wid = ' ' :: rest ∧ rest.length = 3 := by
  unfold weekdayText
  split <;> exact ⟨_, rfl, rfl⟩

theorem byteLength_weekdayText (wid : Nat) : byteLength (weekdayText wid) ≤ 10 := by
  unfold weekdayText
  split <;> decide

theorem weekString_cases (chinese : has fmt "WEEK" = true → has fmt "WEEKCN" = true) (tm : Tm) :
    weekString fmt tm = [] ∨ ∃ rest, weekString fmt tm = ' ' :: rest ∧ rest.length = 3 := by
  unfold weekString
  by_cases isChinese : has fmt "WEEKCN" = true
  · rw [if_pos isChinese]
    exact .inr (weekdayText_eq (weekday tm))
  · rw [if_neg isChinese, if_neg (fun isWeek => isChinese (chinese isWeek))]
    exact .inl rfl

theorem uncut (dated : Dated fmt) (chinese : has fmt "WEEK" = true → has fmt "WEEKCN" = true)
    (valid : tm.Valid) : Uncut fmt tm := by
  have ofMon := valid.mon
  have ofDay := valid.mday
  have date := byteLength_ymdString dated valid
  have time := byteLength_hms fmt valid
  have week : byteLength (weekString fmt tm) ≤ 10 ∧ (weekString fmt tm).length ≤ 4 := by
    unfold weekString
    by_cases isChinese : has fmt "WEEKCN" = true
    · obtain ⟨rest, isWeek, length⟩ := weekdayText_eq (weekday tm)
      rw [if_pos isChinese]
      refine ⟨byteLength_weekdayText _, ?_⟩
      rw [isWeek, List.length_cons]
      omega
    · rw [if_neg isChinese, if_neg (fun isWeek => isChinese (chinese isWeek))]
      exact ⟨by decide, by decide⟩
  have bytes : byteLength (ymdString fmt tm ++ (weekString fmt tm ++ ' ' :: hms fmt tm)) ≤ 42 := by
    have blank : ' '.utf8Size = 1 := rfl
    rw [byteLength_append, byteLength_append, byteLength_cons]
    omega
  have short : (ymdString fmt tm ++ (weekString fmt tm ++ ' ' :: hms fmt tm)).length ≤ 30 := by
    have ofDate := length_ymdString dated valid
    have ofTime := length_hms_le fmt tm
    rw [List.length_append, List.length_append, List.length_cons]
    omega
  exact {
    year := Nat.lt_succ_of_le (byteLength_year valid)
    month := (byteLength_twoDigits (by omega)).trans_lt (by decide)
    day := (byteLength_twoDigits (by omega)).trans_lt (by decide)
    hms := Nat.lt_succ_of_le time
    ymdString := date.trans_lt (by decide)
    weekString := week.1.trans_lt (by decide)
    timeString := bytes.trans_lt (by decide)
    whole := by
      rw [generateDateTime, takeBytes_of_le (by rw [maxWchByte]; omega), iconvUtf8ToWchar,
        List.take_of_length_le (by rw [maxWchByte]; omega)] }

theorem ymdString_eq (same : SameMoment tm other) :
    ymdString fmt tm = ymdString fmt other := by
  have sameYear : year tm = year other := by rw [year, year, same.year]
  have sameMonth : month tm = month other := by rw [month, month, same.mon]
  have sameDay : day tm = day other := by rw [day, day, same.mday]
  simp only [ymdString, yearMonthDay, monthDayYear, dayMonthYear, sameYear, sameMonth,
    sameDay]

theorem hms_eq (same : SameMoment tm other) : hms fmt tm = hms fmt other := by
  have rest : minuteSecond tm = minuteSecond other := by
    rw [minuteSecond, minuteSecond, same.min, same.sec]
  simp only [hms, hms24, hms12, same.hour, rest]

/-- The clock shows two moments alike exactly when they are the same second, whatever the order
and the separators of the date, in twelve hours as in twenty-four, and nothing is cut. -/
theorem clock_shows_moment (fmt : Text) (tm other : Tm) (dated : Dated fmt) (timed : Timed fmt)
    (chinese : has fmt "WEEK" = true → has fmt "WEEKCN" = true) (valid : tm.Valid)
    (validOther : other.Valid) :
    Uncut fmt tm ∧ Uncut fmt other ∧ (generateDateTime fmt tm = generateDateTime fmt other ↔
      SameMoment tm other ∧ (has fmt "WEEKCN" = true → tm.wday = other.wday)) := by
  have first := uncut dated chinese valid
  have second := uncut dated chinese validOther
  refine ⟨first, second, ?_⟩
  rw [first.whole, second.whole]
  have stops : ∀ tm : Tm, ∀ char ∈ (weekString fmt tm ++ ' ' :: hms fmt tm).head?,
      ¬ char ≠ ' ' := by
    intro tm char member
    rcases weekString_cases chinese tm with isNone | ⟨rest, isWeek, _⟩
    · rw [isNone] at member
      exact fun differs => differs (Option.some.inj member).symm
    · rw [isWeek] at member
      exact fun differs => differs (Option.some.inj member).symm
  constructor
  · intro same
    obtain ⟨dates, rest⟩ := append_inj_of_stops (ymdString_plain dated valid)
      (ymdString_plain dated validOther) (stops tm) (stops other) same
    obtain ⟨weeks, times⟩ := List.append_inj' rest (by
      rw [List.length_cons, List.length_cons, length_hms])
    obtain ⟨sameYear, sameMon, sameDay⟩ := ymdString_injective dated valid validOther dates
    obtain ⟨sameHour, sameMin, sameSec⟩ :=
      hms_injective timed valid validOther (List.cons.inj times).2
    refine ⟨⟨sameYear, sameMon, sameDay, sameHour, sameMin, sameSec⟩, fun isChinese => ?_⟩
    rw [weekString, weekString, if_pos isChinese, if_pos isChinese] at weeks
    exact weekday_injective valid validOther weeks
  · rintro ⟨same, sameWeek⟩
    have weeks : weekString fmt tm = weekString fmt other := by
      unfold weekString
      by_cases isChinese : has fmt "WEEKCN" = true
      · rw [if_pos isChinese, if_pos isChinese, weekday, weekday, sameWeek isChinese]
      · have notWeek : ¬ has fmt "WEEK" = true := fun isWeek => isChinese (chinese isWeek)
        rw [if_neg isChinese, if_neg isChinese, if_neg notWeek, if_neg notWeek]
    rw [ymdString_eq same, hms_eq same, weeks]

theorem clock_shows_moment_noon :
    Uncut (clockFormat (some "12hour".toList) (some "CHR-YYYY-MM-DD".toList) 1)
        ⟨2024, 1, 29, 0, 5, 9, 4⟩ ∧
      Uncut (clockFormat (some "12hour".toList) (some "CHR-YYYY-MM-DD".toList) 1)
        ⟨2024, 1, 29, 12, 5, 9, 4⟩ ∧
      (generateDateTime
          (clockFormat (some "12hour".toList) (some "CHR-YYYY-MM-DD".toList) 1)
          ⟨2024, 1, 29, 0, 5, 9, 4⟩ =
        generateDateTime
          (clockFormat (some "12hour".toList) (some "CHR-YYYY-MM-DD".toList) 1)
          ⟨2024, 1, 29, 12, 5, 9, 4⟩ ↔
      SameMoment ⟨2024, 1, 29, 0, 5, 9, 4⟩ ⟨2024, 1, 29, 12, 5, 9, 4⟩ ∧
        (has (clockFormat (some "12hour".toList) (some "CHR-YYYY-MM-DD".toList) 1) "WEEKCN" =
          true → 4 = 4)) :=
  clock_shows_moment _ _ _ (.inl (by decide)) (.inr (by decide)) (fun _ => by decide)
    ⟨by decide, by decide, by decide, by decide, by decide, by decide, by decide⟩
    ⟨by decide, by decide, by decide, by decide, by decide, by decide, by decide⟩

end Rkipc.Osd.DateTime

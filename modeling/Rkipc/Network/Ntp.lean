import Mathlib.Data.Rat.Floor
import Rkipc.Param.Decimal

namespace Rkipc.Network.Ntp

open Ini Param

/-! `ntp.c`.  A double is a rational number, and `round` is the rounding of an operation on
doubles. -/

def hlen : Nat := 48

def bufsize : Nat := 1500

def jan1970 : Nat := 0x83aa7e80

structure Timeval where
  sec : Int
  usec : Nat
  bound : usec < 1000000

def htonl (value : Nat) : List UInt8 :=
  [UInt8.ofNat (value / 2 ^ 24), UInt8.ofNat (value / 2 ^ 16), UInt8.ofNat (value / 2 ^ 8),
    UInt8.ofNat value]

/-- `ntohl` of the four bytes at the offset. -/
def ntohl (buf : List UInt8) (at_ : Nat) : Nat :=
  ((buf.drop at_).take 4).foldl (fun value byte => value * 256 + byte.toNat) 0

/-! The offsets of the fields of `struct ntphdr`. -/

def orits : Nat := 24

def recvts : Nat := 32

def transts : Nat := 40

/-- `ntp_mode`, the lowest bits of the first byte. -/
def mode (buf : List UInt8) : Nat := (buf.headD 0).toNat % 8

def modeServer : Nat := 4

section Doubles

variable (round : ℚ → ℚ)

def usec2frac (usec : Nat) : Nat :=
  ⌊round (round (usec / 1000000) * 2 ^ 32)⌋.toNat % 2 ^ 32

def frac2usec (frac : Nat) : Nat := ⌊round (round (frac * 1000000) / 2 ^ 32)⌋.toNat % 2 ^ 32

/-- `NTP_LFIXED2DOUBLE` of the two words at the offset. -/
def lfixed2double (buf : List UInt8) (at_ : Nat) : ℚ :=
  round (((ntohl buf at_ + 2 ^ 32 - jan1970) % 2 ^ 32 : Nat) +
    round (frac2usec round (ntohl buf (at_ + 4)) / 1000000))

/-- `get_ntp_packet`, with the version and the mode of a client. -/
def getNtpPacket (size : Nat) (tv : Timeval) : Option (List UInt8) :=
  if size < hlen then none
  else
    some ([27, 0, 4, 250] ++ List.replicate (transts - 4) 0 ++
      htonl ((tv.sec + jan1970) % 2 ^ 32).toNat ++ htonl (usec2frac round tv.usec) ++
      List.replicate (size - hlen) 0)

def getOffset (buf : List UInt8) (recvtv : Timeval) : ℚ :=
  let t1 := lfixed2double round buf orits
  let t2 := lfixed2double round buf recvts
  let t3 := lfixed2double round buf transts
  let t4 := round (recvtv.sec + round (recvtv.usec / 1000000))
  round (round (round (t2 - t1) + round (t3 - t4)) / 2)

end Doubles

/-- The conversion of a double to an integer. -/
def truncated (value : ℚ) : Int := if 0 ≤ value then ⌊value⌋ else ⌈value⌉

/-- `struct tm`, with the year and the month as they are printed. -/
structure Tm where
  year : Nat
  month : Nat
  day : Nat
  hour : Nat
  minute : Nat
  second : Nat
deriving DecidableEq

/-- `%02d` -/
def twoDigits (n : Nat) : Text :=
  if n < 10 then '0' :: Nat.toDigits 10 n else Nat.toDigits 10 n

/-- `strftime` with the format `%Y-%m-%d %H:%M:%S`. -/
def strftime (tm : Tm) : Text :=
  Nat.toDigits 10 tm.year ++ '-' :: (twoDigits tm.month ++ '-' :: (twoDigits tm.day ++
    ' ' :: (twoDigits tm.hour ++ ':' :: (twoDigits tm.minute ++ ':' :: twoDigits tm.second))))

def dateCommand (tm : Tm) : Text :=
  "busybox date -s \"".toList ++ strftime tm ++ "\" > /dev/null".toList

/-- What happens in a call of `rkipc_ntp_update`.  `ready` is the result of `select`; `reply` is
what `recv` delivers, where `none` is an error. -/
structure Exchange where
  socket : Bool
  connect : Bool
  requestTv : Timeval
  ready : Bool
  reply : Option { bytes : List UInt8 // bytes.length ≤ bufsize }
  recvtv : Timeval
  tv : Timeval

namespace Exchange

variable (round : ℚ → ℚ) (localtime : Int → Tm) (exchange : Exchange)

/-- The buffer behind `recv`: what it does not write is what `get_ntp_packet` left there. -/
def received (request : List UInt8) : List UInt8 :=
  match exchange.reply with
  | none => request
  | some reply => reply.val ++ request.drop reply.val.length

def rkipcNtpUpdate : List Text × Int :=
  if exchange.socket = false then ([], -1)
  else if exchange.connect = false then ([], -1)
  else
    match getNtpPacket round bufsize exchange.requestTv with
    | none => ([], -1)
    | some request =>
        if exchange.ready then
          -- The result of recv is unsigned, so it is never below zero; and what is added to
          -- the microseconds is not looked at again.
          let offset := getOffset round (exchange.received request) exchange.recvtv
          let sec := exchange.tv.sec + (truncated offset + 28800)
          ([dateCommand (localtime sec)], 0)
        else ([], 0)

def request : List UInt8 :=
  ((getNtpPacket round bufsize exchange.requestTv).getD []).take hlen

/-- A complete packet in server mode, which answers the request that was sent. -/
def Genuine : Prop :=
  exchange.ready = true ∧ ∃ reply, exchange.reply = some reply ∧ hlen ≤ reply.val.length ∧
    mode reply.val = modeServer ∧
    (reply.val.drop orits).take 8 = ((exchange.request round).drop transts).take 8

def offset : ℚ :=
  getOffset round
    (exchange.received ((getNtpPacket round bufsize exchange.requestTv).getD [])) exchange.recvtv

/-- The current time and the offset, in whole seconds. -/
def corrected : Int :=
  ⌊exchange.tv.sec + (exchange.tv.usec : ℚ) / 1000000 + exchange.offset round⌋

/-- The clock is set from a genuine reply only, and to the corrected time; and when it is not
set, the call fails. -/
structure SetsRight : Prop where
  set : ∀ command ∈ (exchange.rkipcNtpUpdate round localtime).1, exchange.Genuine round ∧
    command = dateCommand (localtime (exchange.corrected round))
  fails : (exchange.rkipcNtpUpdate round localtime).1 = [] →
    (exchange.rkipcNtpUpdate round localtime).2 ≠ 0

end Exchange

/-! The text of a time determines it. -/

theorem twoDigits_isDigit {n : Nat} {char : Char} (member : char ∈ twoDigits n) :
    char.isDigit = true := by
  unfold twoDigits at member
  split_ifs at member with small
  · rcases List.mem_cons.mp member with rfl | member
    · rfl
    · exact digits_isDigit member
  · exact digits_isDigit member

theorem toDigits_inj {m n : Nat} (same : Nat.toDigits 10 m = Nat.toDigits 10 n) : m = n := by
  have values := congrArg (fun digits => Nat.ofDigitChars 10 digits 0) same
  simpa only [Nat.ofDigitChars_ten_toDigits] using values

theorem twoDigits_inj {m n : Nat} (same : twoDigits m = twoDigits n) : m = n := by
  have value : ∀ n, Nat.ofDigitChars 10 (twoDigits n) 0 = n := by
    intro n
    unfold twoDigits
    split_ifs
    · exact (Nat.ofDigitChars_ten_toDigits : Nat.ofDigitChars 10 (Nat.toDigits 10 n) 0 = n)
    · exact Nat.ofDigitChars_ten_toDigits
  rw [← value m, same, value n]

theorem digits_append_inj {left left' right right' : Text} {mark : Char}
    (digits : ∀ char ∈ left, char.isDigit = true) (digits' : ∀ char ∈ left', char.isDigit = true)
    (noDigit : mark.isDigit = false) (same : left ++ mark :: right = left' ++ mark :: right') :
    left = left' ∧ right = right' := by
  have stops : ∀ (right : Text), ∀ char ∈ (mark :: right).head?, ¬ char.isDigit = true := by
    rintro right _ ⟨⟩
    rw [noDigit]
    decide
  obtain ⟨sameLeft, sameRight⟩ :=
    append_inj_of_stops digits digits' (stops right) (stops right') same
  exact ⟨sameLeft, (List.cons.inj sameRight).2⟩

theorem strftime_inj {tm tm' : Tm} (same : strftime tm = strftime tm') : tm = tm' := by
  unfold strftime at same
  obtain ⟨sameYear, same⟩ := digits_append_inj (fun _ => digits_isDigit)
    (fun _ => digits_isDigit) (by decide) same
  obtain ⟨sameMonth, same⟩ := digits_append_inj (fun _ => twoDigits_isDigit)
    (fun _ => twoDigits_isDigit) (by decide) same
  obtain ⟨sameDay, same⟩ := digits_append_inj (fun _ => twoDigits_isDigit)
    (fun _ => twoDigits_isDigit) (by decide) same
  obtain ⟨sameHour, same⟩ := digits_append_inj (fun _ => twoDigits_isDigit)
    (fun _ => twoDigits_isDigit) (by decide) same
  obtain ⟨sameMinute, sameSecond⟩ := digits_append_inj (fun _ => twoDigits_isDigit)
    (fun _ => twoDigits_isDigit) (by decide) same
  obtain ⟨year, month, day, hour, minute, second⟩ := tm
  obtain ⟨year', month', day', hour', minute', second'⟩ := tm'
  simp only [Tm.mk.injEq]
  exact ⟨toDigits_inj sameYear, twoDigits_inj sameMonth, twoDigits_inj sameDay,
    twoDigits_inj sameHour, twoDigits_inj sameMinute, twoDigits_inj sameSecond⟩

theorem dateCommand_inj {tm tm' : Tm} (same : dateCommand tm = dateCommand tm') : tm = tm' := by
  unfold dateCommand at same
  exact strftime_inj (List.append_cancel_left (List.append_cancel_right same))

/-! When the clock is set right. -/

/-- The time zone does not show the time a second time eight hours later, give or take a
second. -/
def ZoneApart (localtime : Int → Tm) (time : Int) : Prop :=
  ∀ later ∈ ([28799, 28800, 28801] : List Int), localtime (time + later) ≠ localtime time

/-- The truncated offset is at most a second away from what the whole sum adds. -/
theorem truncated_near {usec : Nat} (bound : usec < 1000000) (offset : ℚ) :
    ⌊(usec : ℚ) / 1000000 + offset⌋ - 1 ≤ truncated offset ∧
      truncated offset ≤ ⌊(usec : ℚ) / 1000000 + offset⌋ + 1 := by
  have low : (0 : ℚ) ≤ usec / 1000000 := by positivity
  have high : (usec : ℚ) / 1000000 < 1 := by
    rw [div_lt_one (by norm_num)]
    exact_mod_cast bound
  have floors : ⌊offset⌋ ≤ truncated offset ∧ truncated offset ≤ ⌊offset⌋ + 1 := by
    unfold truncated
    split_ifs
    · omega
    · exact ⟨Int.floor_le_ceil offset, Int.ceil_le_floor_add_one offset⟩
  have above : ⌊offset⌋ ≤ ⌊(usec : ℚ) / 1000000 + offset⌋ :=
    Int.floor_le_floor (by linarith)
  have below : ⌊(usec : ℚ) / 1000000 + offset⌋ ≤ ⌊offset⌋ + 1 := by
    rw [← Int.floor_add_one]
    exact Int.floor_le_floor (by linarith)
  omega

/-- What the code adds to the seconds is eight hours more than the offset, but for a second. -/
theorem truncated_apart (sec : Int) {usec : Nat} (bound : usec < 1000000) (offset : ℚ) :
    ∃ later ∈ ([28799, 28800, 28801] : List Int),
      sec + (truncated offset + 28800) = ⌊(sec : ℚ) + (usec : ℚ) / 1000000 + offset⌋ + later := by
  have whole : ⌊(sec : ℚ) + (usec : ℚ) / 1000000 + offset⌋ =
      sec + ⌊(usec : ℚ) / 1000000 + offset⌋ := by
    rw [add_assoc, Int.floor_intCast_add]
  obtain ⟨low, high⟩ := truncated_near bound offset
  refine ⟨truncated offset + 28800 - ⌊(usec : ℚ) / 1000000 + offset⌋, ?_, ?_⟩
  · simp only [List.mem_cons, List.not_mem_nil, or_false]
    omega
  · rw [whole]
    omega

variable {round : ℚ → ℚ} {localtime : Int → Tm} {exchange : Exchange}

theorem getNtpPacket_bufsize (round : ℚ → ℚ) (tv : Timeval) :
    ∃ packet, getNtpPacket round bufsize tv = some packet :=
  ⟨_, if_neg (by decide)⟩

/-- The clock is set right only where there is no socket that is connected. -/
theorem setsRight_iff (apart : ZoneApart localtime (exchange.corrected round)) :
    exchange.SetsRight round localtime ↔ exchange.socket = false ∨ exchange.connect = false := by
  constructor
  · intro right
    by_contra connected
    push Not at connected
    obtain ⟨hasSocket, hasConnect⟩ := connected
    obtain ⟨packet, isPacket⟩ := getNtpPacket_bufsize round exchange.requestTv
    have ran : exchange.rkipcNtpUpdate round localtime =
        if exchange.ready then
          ([dateCommand (localtime (exchange.tv.sec +
            (truncated (exchange.offset round) + 28800)))], 0)
        else ([], 0) := by
      simp only [Exchange.rkipcNtpUpdate, if_neg hasSocket, if_neg hasConnect, isPacket,
        Exchange.offset, Option.getD_some]
    cases isReady : exchange.ready with
    | false =>
        rw [isReady] at ran
        exact right.fails (by rw [ran]; rfl) (by rw [ran]; rfl)
    | true =>
        rw [isReady, if_pos rfl] at ran
        obtain ⟨_, same⟩ := right.set _ (by rw [ran]; exact List.mem_singleton_self _)
        obtain ⟨later, isLater, sum⟩ :=
          truncated_apart exchange.tv.sec exchange.tv.bound (exchange.offset round)
        rw [sum] at same
        exact apart later isLater (dateCommand_inj same)
  · intro failed
    have ran : exchange.rkipcNtpUpdate round localtime = ([], -1) := by
      rcases failed with noSocket | noConnect
      · simp [Exchange.rkipcNtpUpdate, noSocket]
      · simp [Exchange.rkipcNtpUpdate, noConnect]
    refine ⟨?_, ?_⟩
    · intro command member
      rw [ran] at member
      cases member
    · intro _
      rw [ran]
      decide

/-- `localtime` in a zone without an offset: the Gregorian calendar, in eras of 400 years that
begin in March. -/
def gmtime (time : Int) : Tm :=
  let days := time / 86400 + 719468
  let secs := (time % 86400).toNat
  let doe := (days % 146097).toNat
  let yoe := (doe - doe / 1460 + doe / 36524 - doe / 146096) / 365
  let doy := doe - (365 * yoe + yoe / 4 - yoe / 100)
  let mp := (5 * doy + 2) / 153
  let month := if mp < 10 then mp + 3 else mp - 9
  let year := (days / 146097 * 400 + yoe + if month ≤ 2 then 1 else 0).toNat
  ⟨year, month, doy - (153 * mp + 2) / 5 + 1, secs / 3600, secs / 60 % 60, secs % 60⟩

example : gmtime 1700000000 = ⟨2023, 11, 14, 22, 13, 20⟩ := by decide

theorem gmtime_apart (time : Int) : ZoneApart gmtime time := by
  intro later isLater same
  have hour := congrArg Tm.hour same
  have minute := congrArg Tm.minute same
  have second := congrArg Tm.second same
  simp only [gmtime] at hour minute second
  simp only [List.mem_cons, List.not_mem_nil, or_false] at isLater
  omega

/-- A call at the given time, with what `recv` delivers. -/
def callAt (connect : Bool) (sec : Int)
    (reply : Option { bytes : List UInt8 // bytes.length ≤ bufsize }) : Exchange :=
  let now : Timeval := ⟨sec, 0, by decide⟩
  ⟨true, connect, now, true, reply, now, now⟩

theorem setsRight_iff_noConnection :
    (callAt false 1700000000 none).SetsRight id gmtime :=
  (setsRight_iff (gmtime_apart _)).mpr (.inr rfl)

/-- `recv` fails, and the clock is set from the request. -/
theorem set_without_reply : ¬ (callAt true 1700000000 none).SetsRight id gmtime := by
  intro right
  obtain ⟨⟨_, reply, isReply, _⟩, _⟩ := right.set _ (List.mem_singleton_self _)
  cases isReply

end Rkipc.Network.Ntp

import Rkipc.Param.IntEntries
import Rkipc.Video.AdvancedParams
import Rkipc.Video.RateControlFollows

namespace Rkipc.Video.RateStrings

open Ini Param RateControl AdvancedParams

/-! The frame rates and resolutions that are set and read as strings. -/

section Numerals

/-- What `%d` takes of a text without a sign: the digits up to another character. -/
structure Digits (digits rest : Text) : Prop where
  nonempty : digits ≠ []
  digits : ∀ char ∈ digits, char.isDigit = true
  stops : ∀ char ∈ rest.head?, char.isDigit = false

/-- A number that `%d` accepts, with what is left behind it. -/
inductive Numeral : Text → Nat → Text → Prop
  | digits {digits rest : Text} (taken : Digits digits rest) :
      Numeral (digits ++ rest) (Nat.ofDigitChars 10 digits 0) rest
  | plus {digits rest : Text} (taken : Digits digits rest) :
      Numeral ('+' :: (digits ++ rest)) (Nat.ofDigitChars 10 digits 0) rest
  | blank {char : Char} {text rest : Text} {val : Nat} (space : isspace char = true)
      (numeral : Numeral text val rest) : Numeral (char :: text) val rest

inductive Form
  | rate
  | size
deriving DecidableEq

def Form.separator : Form → Char
  | rate => '/'
  | size => '*'

/-- The numbers of a string, where `ends` says what may stand behind them.  A rate without
a slash is a whole one. -/
inductive Denotes (ends : Text → Prop) : Form → Text → Nat → Nat → Prop
  | whole {text rest : Text} {num : Nat} (noSlash : '/' ∉ text)
      (number : Numeral text num rest) (isEnd : ends rest) : Denotes ends .rate text num 1
  | pair {form : Form} {text middle rest : Text} {first second : Nat}
      (left : Numeral text first (form.separator :: middle))
      (right : Numeral middle second rest) (isEnd : ends rest) :
      Denotes ends form text first second

theorem foldl_int (digits : Text) (all : ∀ char ∈ digits, char.isDigit = true) (val : Nat) :
    digits.foldl (fun (val : Int) char => val * 10 + digitVal char) val =
      Nat.ofDigitChars 10 digits val := by
  induction digits generalizing val with
  | nil => rfl
  | cons char digits induction =>
      obtain ⟨digit, rest⟩ := List.forall_mem_cons.mp all
      rw [List.foldl_cons, Nat.ofDigitChars_cons, ← induction rest, (digitVal_digit digit).1,
        Nat.mul_comm]
      norm_cast

/-- What `%d` reads behind the sign. -/
def scanDigits (negative : Bool) (text : Text) : Option (Int32 × Text) :=
  let digits := text.takeWhile Char.isDigit
  let val : Int := digits.foldl (fun val char => val * 10 + digitVal char) 0
  if digits = [] then none
  else some (Int32.ofInt (clampLong (if negative then -val else val)),
    text.dropWhile Char.isDigit)

theorem scanInt_minus (text : Text) : scanInt ('-' :: text) = scanDigits true text := rfl

theorem scanInt_plus (text : Text) : scanInt ('+' :: text) = scanDigits false text := rfl

theorem scanInt_digit {char : Char} (digit : char.isDigit = true) (rest : Text) :
    scanInt (char :: rest) = scanDigits false (char :: rest) :=
  digit_all (p := fun char => scanInt (char :: rest) = scanDigits false (char :: rest)) digit (by
    simp only [List.forall_mem_cons]
    exact ⟨rfl, rfl, rfl, rfl, rfl, rfl, rfl, rfl, rfl, rfl, nofun⟩)

theorem scanInt_blank {char : Char} (space : isspace char = true) (text : Text) :
    scanInt (char :: text) = scanInt text := by
  unfold scanInt
  rw [List.dropWhile_cons_of_pos space]

theorem scanDigits_eq {digits rest : Text} (taken : Digits digits rest) (negative : Bool) :
    scanDigits negative (digits ++ rest) =
      some (Int32.ofInt (clampLong (if negative then -(Nat.ofDigitChars 10 digits 0 : Int)
        else Nat.ofDigitChars 10 digits 0)), rest) := by
  have stop : rest.takeWhile Char.isDigit = [] ∧ rest.dropWhile Char.isDigit = rest := by
    cases rest with
    | nil => exact ⟨rfl, rfl⟩
    | cons char rest =>
        have other := taken.stops char rfl
        exact ⟨List.takeWhile_cons_of_neg (by rw [other]; decide),
          List.dropWhile_cons_of_neg (by rw [other]; decide)⟩
  unfold scanDigits
  rw [List.takeWhile_append_of_pos taken.digits, List.dropWhile_append_of_pos taken.digits,
    stop.1, stop.2, List.append_nil]
  dsimp only
  rw [if_neg taken.nonempty, ← foldl_int digits taken.digits 0]
  rfl

theorem scanInt_digits {digits rest : Text} (taken : Digits digits rest) :
    scanInt (digits ++ rest) =
      some (Int32.ofInt (clampLong (Nat.ofDigitChars 10 digits 0)), rest) := by
  have scanned := scanDigits_eq taken false
  cases digits with
  | nil => exact absurd rfl taken.nonempty
  | cons char digits =>
      exact (scanInt_digit (taken.digits char List.mem_cons_self) _).trans scanned

theorem Numeral.scanInt {text rest : Text} {val : Nat} (numeral : Numeral text val rest) :
    RateControl.scanInt text = some (Int32.ofInt (clampLong val), rest) := by
  induction numeral with
  | digits taken => exact scanInt_digits taken
  | plus taken => exact (scanInt_plus _).trans (scanDigits_eq taken false)
  | blank space _ induction => exact (scanInt_blank space _).trans induction

theorem digits_decimal (val : Nat) {rest : Text}
    (stops : ∀ char ∈ rest.head?, char.isDigit = false) :
    Digits (Nat.toDigits 10 val) rest :=
  ⟨Nat.toDigits_ne_nil, fun _ => digits_isDigit, stops⟩

theorem decimal_natCast (val : Nat) : decimal val = Nat.toDigits 10 val := by
  unfold decimal
  rw [if_neg (by omega), Int.natAbs_natCast]

theorem numeral_decimal (val : Nat) {rest : Text}
    (stops : ∀ char ∈ rest.head?, char.isDigit = false) :
    Numeral (decimal val ++ rest) val rest := by
  have numeral := Numeral.digits (digits_decimal val stops)
  rwa [Nat.ofDigitChars_ten_toDigits, ← decimal_natCast] at numeral

end Numerals

section Model

/-- `rk_param_set_int` for one entry after another. -/
def setEntries : List (Text × Int) → Store → Except Fault Store
  | [], store => .ok store
  | (entry, val) :: rest, store => do setEntries rest (← rkParamSetInt entry val store)

def storeEntries (writes : List (Text × Int)) (state : State) : Except Fault (Int × State) := do
  let store ← setEntries writes state.store
  return (0, { state with store := store })

def printRate (num den : Int) : Text :=
  if den = 1 then decimal num else decimal num ++ '/' :: decimal den

def printSize (width height : Int) : Text := decimal width ++ '*' :: decimal height

def Form.print : Form → Int → Int → Text
  | rate => printRate
  | size => printSize

def getRate (denEntry numEntry : Text) (store : Store) : Except Fault Text := do
  let den ← rkParamGetInt denEntry (-1) store
  let num ← rkParamGetInt numEntry (-1) store
  return printRate num den

def getSize (widthEntry heightEntry : Text) (store : Store) : Except Fault Text := do
  let width ← rkParamGetInt widthEntry 0 store
  let height ← rkParamGetInt heightEntry 0 store
  return printSize width height

def rkVideoGetFrameRate (streamId : Int32) : Store → Except Fault Text :=
  getRate (videoEntry streamId .dstFrameRateDen) (videoEntry streamId .dstFrameRateNum)

def rkVideoGetFrameRateIn (streamId : Int32) : Store → Except Fault Text :=
  getRate (videoEntry streamId .srcFrameRateDen) (videoEntry streamId .srcFrameRateNum)

def rkVideoGetResolution (streamId : Int32) : Store → Except Fault Text :=
  getSize (chnEntry streamId "width".toList) (chnEntry streamId "height".toList)

def rkVideoGetJpegResolution : Store → Except Fault Text :=
  getSize "video.jpeg:width".toList "video.jpeg:height".toList

/-- `sscanf(value, "%d*%d", &width, &height)`, where `width` and `height` are what the
variables hold that are not assigned. -/
def scanSize (value : Text) (width height : Int32) : Int32 × Int32 :=
  match scanInt value with
  | none => (width, height)
  | some (width, '*' :: rest) =>
      match scanInt rest with
      | none => (width, height)
      | some (height, _) => (width, height)
  | some (width, _) => (width, height)

/-- Up to `rk_video_restart`, which stores other parameters. -/
def rkVideoSetFrameRateIn (streamId : Int32) (value : Text) (num den : Int32) :
    State → Except Fault (Int × State) :=
  let (num, den) := scanFrameRate value num den
  storeEntries [(videoEntry streamId .srcFrameRateDen, den.toInt),
    (videoEntry streamId .srcFrameRateNum, num.toInt)]

/-- Up to `rk_video_restart` as well. -/
def rkVideoSetResolution (enableJpeg : Bool) (streamId : Int32) (value : Text)
    (width height : Int32) : State → Except Fault (Int × State) :=
  let (width, height) := scanSize value width height
  storeEntries ([(chnEntry streamId "width".toList, width.toInt),
      (chnEntry streamId "height".toList, height.toInt)] ++
    if enableJpeg ∧ streamId = 0 then
      [("video.jpeg:width".toList, width.toInt), ("video.jpeg:height".toList, height.toInt)]
    else [])

def rkVideoSetJpegResolution (value : Text) (width height : Int32) :
    State → Except Fault (Int × State) :=
  let (width, height) := scanSize value width height
  storeEntries [("video.jpeg:width".toList, width.toInt),
    ("video.jpeg:height".toList, height.toInt)]

/-- What the buffer of `rk_video_reset_frame_rate` gets, of 20 bytes. -/
def resetValue (streamId : Int32) (store : Store) : Except Fault Text := do
  let value ← rkVideoGetFrameRate streamId store
  if value.length < 20 then return value else .error .overflow

def rkVideoResetFrameRate (layout : Layout) (streamId num den : Int32) (state : State) :
    Except Fault (Int × State) := do
  let value ← resetValue streamId state.store
  let (_, state) ← rkVideoSetFrameRate layout streamId value num den state
  return (0, state)

end Model

/-- The setters, each with its getter. -/
inductive Call
  | frameRate (streamId : Int32)
  | frameRateIn (streamId : Int32)
  | resolution (streamId : Int32)
  | jpegResolution

namespace Call

def form : Call → Form
  | frameRate _ | frameRateIn _ => .rate
  | resolution _ | jpegResolution => .size

/-- `first` and `second` are what the variables hold that are not assigned. -/
def set (layout : Layout) (enableJpeg : Bool) (value : Text) (first second : Int32) :
    Call → State → Except Fault (Int × State)
  | frameRate streamId => rkVideoSetFrameRate layout streamId value first second
  | frameRateIn streamId => rkVideoSetFrameRateIn streamId value first second
  | resolution streamId => rkVideoSetResolution enableJpeg streamId value first second
  | jpegResolution => rkVideoSetJpegResolution value first second

def get : Call → Store → Except Fault Text
  | frameRate streamId => rkVideoGetFrameRate streamId
  | frameRateIn streamId => rkVideoGetFrameRateIn streamId
  | resolution streamId => rkVideoGetResolution streamId
  | jpegResolution => rkVideoGetJpegResolution

/-- Where the first number and the second are kept. -/
def entries (enableJpeg : Bool) : Call → List (Text × Text)
  | frameRate streamId =>
      [(videoEntry streamId .dstFrameRateNum, videoEntry streamId .dstFrameRateDen)]
  | frameRateIn streamId =>
      [(videoEntry streamId .srcFrameRateNum, videoEntry streamId .srcFrameRateDen)]
  | resolution streamId =>
      (chnEntry streamId "width".toList, chnEntry streamId "height".toList) ::
        if enableJpeg ∧ streamId = 0 then
          [("video.jpeg:width".toList, "video.jpeg:height".toList)]
        else []
  | jpegResolution => [("video.jpeg:width".toList, "video.jpeg:height".toList)]

end Call

/-! What a call has to do with its string. -/

section Property

variable (layout : Layout) (enableJpeg : Bool) (ends : Text → Prop) (call : Call)
  (value : Text) (first second : Int32)

/-- The positive numbers of the string are stored, and the getter gives them back. -/
def Accepted (next : State) : Prop :=
  ∃ left right : Nat, 0 < left ∧ 0 < right ∧ Denotes ends call.form value left right ∧
    (∀ pair ∈ call.entries enableJpeg, ∀ default,
      rkParamGetInt pair.1 default next.store = .ok left ∧
        rkParamGetInt pair.2 default next.store = .ok right) ∧
    ∃ text, call.get next.store = .ok text ∧ Denotes (· = []) call.form text left right

def Handled (state : State) : Prop :=
  ∃ ret next, call.set layout enableJpeg value first second state = .ok (ret, next) ∧
    (ret = 0 ∧ Accepted enableJpeg ends call value next ∨ ret ≠ 0 ∧ next = state)

/-- The buffer is never too small, whatever the stream. -/
def ResetFits (store : Store) : Prop :=
  ∀ streamId, resetValue streamId store ≠ .error .overflow

/-- Whether the call comes to the parameters: `rk_video_set_frame_rate` looks at the type
and the mode before. -/
def Call.supported (store : Store) : Call → Except Fault Bool
  | frameRate streamId => (currentMode streamId store).map Option.isSome
  | _ => .ok true

/-- Seven digits are the room of `rk_param_set_int`. -/
def Acceptable : Prop :=
  ∃ left right : Nat, 0 < left ∧ left ≤ 9999999 ∧ 0 < right ∧ right ≤ 9999999 ∧
    Denotes ends call.form value left right

def RatesShort (store : Store) : Prop :=
  ∀ streamId num den,
    rkParamGetInt (videoEntry streamId .dstFrameRateNum) (-1) store = .ok num →
    rkParamGetInt (videoEntry streamId .dstFrameRateDen) (-1) store = .ok den →
    den = 1 ∨ (decimal num).length + (decimal den).length ≤ 18

end Property

section Stores

variable {store next : Store} {d : Dictionary} {entry : Text} {val : Int}

theorem getInt_live (live : store.dict = .ok (some d)) (entry : Text) (default : Int) :
    rkParamGetInt entry default store =
      iniparserGetnumber strtol (some d) entry default := by
  unfold rkParamGetInt
  rw [live]
  rfl

theorem setInt_short (set : rkParamSetInt entry val store = .ok next) :
    (decimal val).length < 8 := by
  unfold rkParamSetInt at set
  cases wrote : rkParamSetString entry (some (decimal val)) store with
  | error fault =>
      rw [wrote] at set
      cases set
  | ok after =>
      rw [wrote] at set
      dsimp only [bind, Except.bind] at set
      split at set
      next short => exact short
      next => cases set

theorem setInt_live (live : store.dict = .ok (some d)) (sound : d.Sound) (entry : Text)
    (short : (decimal val).length < 8) :
    ∃ next after, rkParamSetInt entry val store = .ok next ∧ next.dict = .ok (some after) ∧
      after.Sound ∧ (∀ default, rkParamGetInt entry default next = .ok val) ∧
        ∀ other, ¬ SameEntry other entry → ∀ default,
          rkParamGetInt other default next = rkParamGetInt other default store := by
  obtain ⟨next, wrote, isNext⟩ := write_next live
    fun d => iniparserSet d entry (some (decimal val))
  obtain ⟨low, high⟩ := bounds_of_length short
  refine ⟨next, _, ?_, isNext, (set_spec sound _ _).1, fun default => ?_,
    fun other isOther default => ?_⟩
  · unfold rkParamSetInt rkParamSetString
    rw [wrote]
    exact if_pos short
  · rw [getInt_live isNext, getInt_set sound, strtol_decimal low high]
  · rw [getInt_live isNext, getInt_live live]
    unfold iniparserGetnumber
    rw [Option.bind_some, Option.bind_some, find_set_other sound isOther]

theorem setEntries_cons (write : Text × Int) (writes : List (Text × Int)) (store : Store) :
    setEntries (write :: writes) store =
      (rkParamSetInt write.1 write.2 store).bind (setEntries writes) := rfl

theorem setEntries_short {writes : List (Text × Int)}
    (set : setEntries writes store = .ok next) :
    ∀ write ∈ writes, (decimal write.2).length < 8 := by
  induction writes generalizing store with
  | nil => exact nofun
  | cons write writes induction =>
      rw [setEntries_cons] at set
      cases first : rkParamSetInt write.1 write.2 store with
      | error fault =>
          rw [first] at set
          cases set
      | ok middle =>
          rw [first] at set
          exact List.forall_mem_cons.mpr ⟨setInt_short first, induction set⟩

/-- Numbers that fit are all stored, and other entries stay as they are. -/
theorem setEntries_live {writes : List (Text × Int)} (live : store.dict = .ok (some d))
    (sound : d.Sound) (short : ∀ write ∈ writes, (decimal write.2).length < 8)
    (distinct : writes.Pairwise fun write other => ¬ SameEntry write.1 other.1) :
    ∃ next, setEntries writes store = .ok next ∧
      (∀ write ∈ writes, ∀ default, rkParamGetInt write.1 default next = .ok write.2) ∧
      ∀ entry, (∀ write ∈ writes, ¬ SameEntry entry write.1) → ∀ default,
        rkParamGetInt entry default next = rkParamGetInt entry default store := by
  induction writes generalizing store d with
  | nil => exact ⟨store, rfl, nofun, fun _ _ _ => rfl⟩
  | cons write writes induction =>
      obtain ⟨shortFirst, short⟩ := List.forall_mem_cons.mp short
      obtain ⟨apart, distinct⟩ := List.pairwise_cons.mp distinct
      obtain ⟨middle, after, first, live, sound, read, others⟩ :=
        setInt_live live sound write.1 shortFirst
      obtain ⟨next, set, reads, kept⟩ := induction live sound short distinct
      refine ⟨next, ?_, List.forall_mem_cons.mpr ⟨fun default => ?_, reads⟩,
        fun entry isOther default => ?_⟩
      · rw [setEntries_cons, first]
        exact set
      · exact (kept write.1 apart default).trans (read default)
      · obtain ⟨isFirst, isOther⟩ := List.forall_mem_cons.mp isOther
        exact (kept entry isOther default).trans (others entry isFirst default)

end Stores

section Entries

theorem strlwc_chnEntry (streamId : Int32) {key : Text} (lower : key.map Char.toLower = key)
    (short : key.length ≤ 18) :
    strlwc (chnEntry streamId key) 1025 =
      "video.".toList ++ decimal streamId.toInt ++ ':' :: key := by
  obtain ⟨low, high⟩ := int32_bounds streamId
  have number := length_decimal low high
  have video : "video.".toList.length = 6 := rfl
  have whole : chnEntry streamId key =
      "video.".toList ++ decimal streamId.toInt ++ ':' :: key := by
    unfold chnEntry
    apply List.take_of_length_le
    simp only [List.length_append, List.length_cons]
    omega
  rw [whole]
  apply strlwc_eq_self
  · rw [List.map_append, List.map_append, toLower_decimal, List.map_cons, lower]
    rfl
  · simp only [List.length_append, List.length_cons]
    omega

theorem exists_digit (val : Int) : ∃ char ∈ decimal val, char.isDigit = true := by
  obtain ⟨char, rest, isCons⟩ := List.exists_cons_of_ne_nil
    (Nat.toDigits_ne_nil (n := val.natAbs) (b := 10))
  have member : char ∈ Nat.toDigits 10 val.natAbs := by
    rw [isCons]
    exact List.mem_cons_self
  refine ⟨char, ?_, digits_isDigit member⟩
  unfold decimal
  split
  · exact List.mem_cons_of_mem _ member
  · exact member

theorem chnEntry_apart (streamId : Int32) {key other : Text}
    (lower : key.map Char.toLower = key) (short : key.length ≤ 18)
    (plain : ∀ char ∈ strlwc other 1025, char.isDigit = false) :
    ¬ SameEntry (chnEntry streamId key) other := by
  intro same
  obtain ⟨char, member, digit⟩ := exists_digit streamId.toInt
  have inside : char ∈ strlwc other 1025 := by
    rw [← same, strlwc_chnEntry streamId lower short]
    exact List.mem_append_left _ (List.mem_append_right _ member)
  rw [plain char inside] at digit
  cases digit

theorem width_apart (streamId : Int32) :
    ¬ SameEntry (chnEntry streamId "width".toList) (chnEntry streamId "height".toList) := by
  intro same
  unfold SameEntry at same
  rw [strlwc_chnEntry streamId (by decide) (by decide),
    strlwc_chnEntry streamId (by decide) (by decide)] at same
  exact absurd (List.append_cancel_left same) (by decide)

theorem rate_apart (streamId : Int32) {key other : Key} (isOther : key ≠ other) :
    ¬ SameEntry (videoEntry streamId key) (videoEntry streamId other) := by
  intro same
  unfold SameEntry at same
  rw [strlwc_videoEntry, strlwc_videoEntry] at same
  exact isOther (videoEntry_inj.mp same).2

/-- What a call writes, in the order of the source. -/
def Call.writes (enableJpeg : Bool) (left right : Int) : Call → List (Text × Int)
  | frameRate streamId =>
      [(videoEntry streamId .dstFrameRateDen, right),
        (videoEntry streamId .dstFrameRateNum, left)]
  | frameRateIn streamId =>
      [(videoEntry streamId .srcFrameRateDen, right),
        (videoEntry streamId .srcFrameRateNum, left)]
  | resolution streamId =>
      [(chnEntry streamId "width".toList, left),
          (chnEntry streamId "height".toList, right)] ++
        if enableJpeg ∧ streamId = 0 then
          [("video.jpeg:width".toList, left), ("video.jpeg:height".toList, right)]
        else []
  | jpegResolution =>
      [("video.jpeg:width".toList, left), ("video.jpeg:height".toList, right)]

variable {enableJpeg : Bool} {left right : Int} {call : Call}

theorem jpeg_apart (streamId : Int32) {key other : Text}
    (isKey : key ∈ ["width".toList, "height".toList])
    (isOther : other ∈ ["video.jpeg:width".toList, "video.jpeg:height".toList]) :
    ¬ SameEntry (chnEntry streamId key) other := by
  have lower : ∀ key ∈ ["width".toList, "height".toList],
      key.map Char.toLower = key ∧ key.length ≤ 18 := by decide
  have plain : ∀ other ∈ ["video.jpeg:width".toList, "video.jpeg:height".toList],
      ∀ char ∈ strlwc other 1025, char.isDigit = false := by decide
  exact chnEntry_apart streamId (lower key isKey).1 (lower key isKey).2 (plain other isOther)

theorem writes_apart (enableJpeg : Bool) (left right : Int) (call : Call) :
    (call.writes enableJpeg left right).Pairwise
      fun write other => ¬ SameEntry write.1 other.1 := by
  have jpeg : ¬ SameEntry "video.jpeg:width".toList "video.jpeg:height".toList := by
    unfold SameEntry
    decide
  unfold Call.writes
  cases call with
  | frameRate streamId | frameRateIn streamId =>
      exact List.pairwise_pair.mpr (rate_apart streamId (by decide))
  | jpegResolution => exact List.pairwise_pair.mpr jpeg
  | resolution streamId =>
      dsimp only
      split
      · simp only [List.cons_append, List.nil_append, List.pairwise_cons, List.forall_mem_cons,
          List.not_mem_nil, false_imp_iff, implies_true, List.Pairwise.nil, and_true]
        exact ⟨⟨width_apart streamId, jpeg_apart streamId (by simp) (by simp),
          jpeg_apart streamId (by simp) (by simp)⟩,
          ⟨jpeg_apart streamId (by simp) (by simp), jpeg_apart streamId (by simp) (by simp)⟩,
          jpeg⟩
      · exact List.pairwise_pair.mpr (width_apart streamId)

/-- Every write is the first number or the second of a pair of entries. -/
theorem mem_writes_iff {write : Text × Int} :
    write ∈ call.writes enableJpeg left right ↔
      ∃ pair ∈ call.entries enableJpeg, write = (pair.1, left) ∨ write = (pair.2, right) := by
  unfold Call.entries Call.writes
  cases call with
  | frameRate streamId | frameRateIn streamId => simp [or_comm]
  | jpegResolution => simp
  | resolution streamId =>
      dsimp only
      split <;> simp [or_assoc]

theorem writes_cover {pair : Text × Text} (member : pair ∈ call.entries enableJpeg) :
    (pair.1, left) ∈ call.writes enableJpeg left right ∧
      (pair.2, right) ∈ call.writes enableJpeg left right :=
  ⟨mem_writes_iff.mpr ⟨pair, member, .inl rfl⟩, mem_writes_iff.mpr ⟨pair, member, .inr rfl⟩⟩

theorem writes_val {write : Text × Int} (member : write ∈ call.writes enableJpeg left right) :
    write.2 = left ∨ write.2 = right := by
  obtain ⟨pair, _, rfl | rfl⟩ := mem_writes_iff.mp member
  · exact .inl rfl
  · exact .inr rfl

theorem getRate_eq {store : Store} {denEntry numEntry : Text} {num den : Int}
    (readNum : rkParamGetInt numEntry (-1) store = .ok num)
    (readDen : rkParamGetInt denEntry (-1) store = .ok den) :
    getRate denEntry numEntry store = .ok (printRate num den) := by
  unfold getRate
  rw [readNum, readDen]
  rfl

theorem getSize_eq {store : Store} {widthEntry heightEntry : Text} {width height : Int}
    (readWidth : rkParamGetInt widthEntry 0 store = .ok width)
    (readHeight : rkParamGetInt heightEntry 0 store = .ok height) :
    getSize widthEntry heightEntry store = .ok (printSize width height) := by
  unfold getSize
  rw [readWidth, readHeight]
  rfl

/-- The getter prints what is stored. -/
theorem get_eq {store : Store} (reads : ∀ pair ∈ call.entries enableJpeg, ∀ default,
      rkParamGetInt pair.1 default store = .ok left ∧
        rkParamGetInt pair.2 default store = .ok right) :
    call.get store = .ok (call.form.print left right) := by
  cases call with
  | frameRate streamId | frameRateIn streamId =>
      obtain ⟨readNum, readDen⟩ := reads _ List.mem_cons_self (-1)
      exact getRate_eq readNum readDen
  | resolution streamId | jpegResolution =>
      obtain ⟨readWidth, readHeight⟩ := reads _ List.mem_cons_self 0
      exact getSize_eq readWidth readHeight

end Entries

section Calls

def Form.scan : Form → Text → Int32 → Int32 → Int32 × Int32
  | rate => scanFrameRate
  | size => scanSize

theorem Numeral.mem {text rest : Text} {val : Nat} (numeral : Numeral text val rest)
    {char : Char} (member : char ∈ rest) : char ∈ text := by
  induction numeral with
  | digits => exact List.mem_append_right _ member
  | plus => exact List.mem_cons_of_mem _ (List.mem_append_right _ member)
  | blank _ _ induction => exact List.mem_cons_of_mem _ (induction member)

variable {ends : Text → Prop} {form : Form} {value : Text} {left right : Nat}

theorem Denotes.scan (denotes : Denotes ends form value left right) (first second : Int32) :
    form.scan value first second =
      (Int32.ofInt (clampLong left), Int32.ofInt (clampLong right)) := by
  cases denotes with
  | whole noSlash number =>
      show scanFrameRate value first second = _
      unfold scanFrameRate
      rw [if_neg noSlash, number.scanInt]
      rfl
  | pair leftNumber rightNumber =>
      cases form with
      | rate =>
          have slash : '/' ∈ value := leftNumber.mem List.mem_cons_self
          show scanFrameRate value first second = _
          unfold scanFrameRate
          rw [if_pos slash, leftNumber.scanInt]
          simp only [Form.separator, rightNumber.scanInt]
      | size =>
          show scanSize value first second = _
          unfold scanSize
          rw [leftNumber.scanInt]
          simp only [Form.separator, rightNumber.scanInt]

theorem toInt_clampLong {val : Nat} (small : val ≤ 9999999) :
    (Int32.ofInt (clampLong val)).toInt = val := by
  have same : clampLong val = val := by
    unfold clampLong
    omega
  rw [same]
  exact Int32.toInt_ofInt_of_le (by omega) (by omega)

theorem denotes_print (form : Form) (left right : Nat) :
    Denotes (· = []) form (form.print left right) left right := by
  have last : ∀ val : Nat, Numeral (decimal val) val [] := fun val => by
    have numeral : Numeral (decimal val ++ []) val [] := numeral_decimal val nofun
    rwa [List.append_nil] at numeral
  have pair : Denotes (· = []) form (decimal left ++ form.separator :: decimal right)
      left right := by
    refine .pair (numeral_decimal left ?_) (last right) rfl
    cases form <;> rintro _ ⟨⟩ <;> rfl
  cases form with
  | size => exact pair
  | rate =>
      show Denotes _ _ (printRate left right) left right
      unfold printRate
      split
      next isOne =>
        obtain rfl : right = 1 := by exact_mod_cast isOne
        refine .whole (fun member => ?_) (last left) rfl
        rw [decimal_natCast] at member
        exact absurd (digits_isDigit member) (by decide)
      next => exact pair

variable {layout : Layout} {enableJpeg : Bool} {call : Call} {state : State}
  {first second : Int32}

theorem setInts_eq (streamId : Int32) (writes : List (Key × Int)) (store : Store) :
    setInts streamId writes store =
      setEntries (writes.map fun write => (videoEntry streamId write.1, write.2)) store := by
  induction writes generalizing store with
  | nil => rfl
  | cons write writes induction =>
      unfold setInts
      rw [List.map_cons, setEntries_cons]
      cases rkParamSetInt (videoEntry streamId write.1) write.2 store with
      | error fault => rfl
      | ok next => exact induction next

theorem storeEntries_eq (writes : List (Text × Int)) (state : State) :
    storeEntries writes state =
      (setEntries writes state.store).map fun store => (0, ⟨store, state.chnAttr⟩) := by
  unfold storeEntries
  cases setEntries writes state.store <;> rfl

section SetAttr

variable {streamId : Int32} {change : RcMode → VencChnAttr → VencChnAttr}
  {params : List (Key × Int)}

theorem setAttr_eq : setAttr streamId change params state =
    (currentMode streamId state.store).bind fun
      | none => .ok (-1, state)
      | some mode => (setInts streamId params state.store).map
          fun store => (0, ⟨store, Function.update state.chnAttr streamId
            (change mode (state.chnAttr streamId))⟩) := by
  unfold setAttr
  cases currentMode streamId state.store with
  | error fault => rfl
  | ok found =>
      cases found with
      | none => rfl
      | some mode =>
          dsimp only [bind, Except.bind, State.setChnAttr]
          cases setInts streamId params state.store <;> rfl

theorem setAttr_some {mode : RcMode}
    (current : currentMode streamId state.store = .ok (some mode)) :
    setAttr streamId change params state = (setInts streamId params state.store).map
      fun store => (0, ⟨store, Function.update state.chnAttr streamId
        (change mode (state.chnAttr streamId))⟩) := by
  rw [setAttr_eq, current]
  rfl

theorem setAttr_none (current : currentMode streamId state.store = .ok none) :
    setAttr streamId change params state = .ok (-1, state) := by
  rw [setAttr_eq, current]
  rfl

theorem setAttr_error {fault : Fault}
    (current : currentMode streamId state.store = .error fault) :
    setAttr streamId change params state = .error fault := by
  rw [setAttr_eq, current]
  rfl

end SetAttr

theorem set_frameRate (streamId : Int32) : ∃ change,
    (Call.frameRate streamId).set layout enableJpeg value first second state =
      setAttr streamId change
        [(.dstFrameRateDen, (scanFrameRate value first second).2.toInt),
          (.dstFrameRateNum, (scanFrameRate value first second).1.toInt)] state := by
  unfold Call.set rkVideoSetFrameRate
  exact ⟨_, rfl⟩

theorem set_supported (layout : Layout) (enableJpeg : Bool) (value : Text)
    (first second : Int32) (supported : call.supported state.store = .ok true) :
    ∃ chnAttr, call.set layout enableJpeg value first second state =
      (setEntries (call.writes enableJpeg (call.form.scan value first second).1.toInt
        (call.form.scan value first second).2.toInt) state.store).map
          fun store => (0, ⟨store, chnAttr⟩) := by
  cases call with
  | frameRateIn streamId | resolution streamId | jpegResolution =>
      exact ⟨state.chnAttr, storeEntries_eq _ _⟩
  | frameRate streamId =>
      have supported : (currentMode streamId state.store).map Option.isSome = .ok true :=
        supported
      cases current : currentMode streamId state.store with
      | error fault =>
          rw [current] at supported
          cases supported
      | ok found =>
          rw [current] at supported
          cases found with
          | none => cases supported
          | some mode =>
              obtain ⟨change, isSet⟩ := set_frameRate streamId
              refine ⟨Function.update state.chnAttr streamId
                (change mode (state.chnAttr streamId)), ?_⟩
              rw [isSet, setAttr_some current, setInts_eq]
              rfl

theorem set_unsupported (unsupported : call.supported state.store = .ok false) :
    call.set layout enableJpeg value first second state = .ok (-1, state) := by
  cases call with
  | frameRateIn streamId | resolution streamId | jpegResolution => cases unsupported
  | frameRate streamId =>
      have unsupported : (currentMode streamId state.store).map Option.isSome = .ok false :=
        unsupported
      cases current : currentMode streamId state.store with
      | error fault =>
          rw [current] at unsupported
          cases unsupported
      | ok found =>
          rw [current] at unsupported
          cases found with
          | none =>
              obtain ⟨change, isSet⟩ := set_frameRate streamId
              exact isSet.trans (setAttr_none current)
          | some mode => cases unsupported

theorem set_fault {fault : Fault} (faults : call.supported state.store = .error fault) :
    call.set layout enableJpeg value first second state = .error fault := by
  cases call with
  | frameRateIn streamId | resolution streamId | jpegResolution => cases faults
  | frameRate streamId =>
      have faults : (currentMode streamId state.store).map Option.isSome = .error fault :=
        faults
      cases current : currentMode streamId state.store with
      | ok found =>
          rw [current] at faults
          cases faults
      | error other =>
          rw [current] at faults
          cases faults
          obtain ⟨change, isSet⟩ := set_frameRate streamId
          exact isSet.trans (setAttr_error current)

theorem set_cases {ret : Int} {next : State}
    (ran : call.set layout enableJpeg value first second state = .ok (ret, next)) :
    call.supported state.store = .ok false ∧ next = state ∨
      call.supported state.store = .ok true ∧ ret = 0 ∧
        setEntries (call.writes enableJpeg (call.form.scan value first second).1.toInt
          (call.form.scan value first second).2.toInt) state.store = .ok next.store := by
  cases supported : call.supported state.store with
  | error fault =>
      rw [set_fault supported] at ran
      cases ran
  | ok goesOn =>
      cases goesOn with
      | false =>
          rw [set_unsupported supported] at ran
          cases ran
          exact .inl ⟨rfl, rfl⟩
      | true =>
          obtain ⟨chnAttr, isSet⟩ :=
            set_supported layout enableJpeg value first second supported
          rw [isSet] at ran
          generalize setEntries _ state.store = set at ran ⊢
          cases set with
          | error fault => cases ran
          | ok store =>
              cases ran
              exact .inr ⟨rfl, rfl, rfl⟩

end Calls

section Results

variable {layout : Layout} {enableJpeg : Bool} {ends : Text → Prop} {call : Call}
  {value : Text} {first second : Int32} {state : State} {store next : Store} {d : Dictionary}

theorem entries_nonempty (enableJpeg : Bool) (call : Call) :
    ∃ pair, pair ∈ call.entries enableJpeg := by
  cases call <;> exact ⟨_, List.mem_cons_self⟩

theorem writes_read {left right : Int} (live : store.dict = .ok (some d)) (sound : d.Sound)
    (set : setEntries (call.writes enableJpeg left right) store = .ok next) :
    ∀ pair ∈ call.entries enableJpeg, ∀ default,
      rkParamGetInt pair.1 default next = .ok left ∧
        rkParamGetInt pair.2 default next = .ok right := by
  obtain ⟨after, isAfter, reads, _⟩ :=
    setEntries_live live sound (setEntries_short set) (writes_apart ..)
  obtain rfl : next = after := Except.ok.inj (set.symm.trans isAfter)
  intro pair member default
  obtain ⟨inLeft, inRight⟩ := writes_cover member
  exact ⟨reads _ inLeft default, reads _ inRight default⟩

theorem writes_short_iff {left right : Int} :
    (∀ write ∈ call.writes enableJpeg left right, (decimal write.2).length < 8) ↔
      (decimal left).length < 8 ∧ (decimal right).length < 8 := by
  constructor
  · intro short
    obtain ⟨pair, member⟩ := entries_nonempty enableJpeg call
    obtain ⟨inLeft, inRight⟩ := writes_cover member
    exact ⟨short _ inLeft, short _ inRight⟩
  · rintro ⟨shortLeft, shortRight⟩ write member
    obtain same | same := writes_val member
    · rwa [same]
    · rwa [same]

theorem acceptable_of_accepted {left right : Int} {state next : State}
    (live : state.store.dict = .ok (some d)) (sound : d.Sound)
    (set : setEntries (call.writes enableJpeg left right) state.store = .ok next.store)
    (accepted : Accepted enableJpeg ends call value next) : Acceptable ends call value := by
  obtain ⟨num, other, numPos, otherPos, denotes, reads, _⟩ := accepted
  obtain ⟨pair, member⟩ := entries_nonempty enableJpeg call
  obtain ⟨isLeft, isRight⟩ := writes_read live sound set pair member 0
  obtain ⟨isNum, isOther⟩ := reads pair member 0
  obtain rfl : left = num := Except.ok.inj (isLeft.symm.trans isNum)
  obtain rfl : right = other := Except.ok.inj (isRight.symm.trans isOther)
  obtain ⟨shortLeft, shortRight⟩ := writes_short_iff.mp (setEntries_short set)
  obtain ⟨_, leftLe⟩ := length_decimal_lt.mp shortLeft
  obtain ⟨_, rightLe⟩ := length_decimal_lt.mp shortRight
  exact ⟨num, other, numPos, by omega, otherPos, by omega, denotes⟩

theorem handled_iff (live : state.store.dict = .ok (some d)) (sound : d.Sound) :
    Handled layout enableJpeg ends call value first second state ↔
      call.supported state.store = .ok false ∨
        call.supported state.store = .ok true ∧ Acceptable ends call value := by
  constructor
  · rintro ⟨ret, after, ran, outcome⟩
    obtain ⟨unsupported, _⟩ | ⟨supported, isZero, set⟩ := set_cases ran
    · exact .inl unsupported
    · obtain ⟨_, accepted⟩ | ⟨notZero, _⟩ := outcome
      · exact .inr ⟨supported, acceptable_of_accepted live sound set accepted⟩
      · exact absurd isZero notZero
  · rintro (unsupported | ⟨supported, left, right, leftPos, leftLe, rightPos, rightLe, denotes⟩)
    · exact ⟨-1, state, set_unsupported unsupported, .inr ⟨by decide, rfl⟩⟩
    · obtain ⟨chnAttr, isSet⟩ :=
        set_supported layout enableJpeg value first second supported
      rw [denotes.scan, toInt_clampLong leftLe, toInt_clampLong rightLe] at isSet
      have short : (decimal left).length < 8 ∧ (decimal right).length < 8 :=
        ⟨length_decimal_lt.mpr (by omega), length_decimal_lt.mpr (by omega)⟩
      obtain ⟨next, set, _⟩ := setEntries_live live sound
        (writes_short_iff.mpr short) (writes_apart enableJpeg left right call)
      have reads := writes_read live sound set
      rw [set] at isSet
      exact ⟨0, _, isSet, .inl ⟨rfl, left, right, leftPos, rightPos, denotes, reads, _,
        get_eq reads, denotes_print _ _ _⟩⟩

theorem strtol_bounds (text : Text) :
    -2147483648 ≤ strtol text ∧ strtol text ≤ 2147483647 := by
  unfold strtol
  exact ⟨le_max_left _ _, max_le (by decide) (min_le_left _ _)⟩

theorem getInt_bounds {entry : Text} {default val : Int}
    (low : -2147483648 ≤ default) (high : default ≤ 2147483647)
    (read : rkParamGetInt entry default store = .ok val) :
    -2147483648 ≤ val ∧ val ≤ 2147483647 := by
  unfold rkParamGetInt at read
  cases isDict : store.dict with
  | error fault =>
      rw [isDict] at read
      cases read
  | ok d =>
      rw [isDict] at read
      dsimp only [bind, Except.bind] at read
      unfold iniparserGetnumber at read
      split at read
      · cases read
        exact ⟨low, high⟩
      · cases read
      · cases read
        exact strtol_bounds _

theorem length_printRate {num : Int} (den : Int) (low : -2147483648 ≤ num)
    (high : num ≤ 2147483647) :
    (printRate num den).length < 20 ↔
      den = 1 ∨ (decimal num).length + (decimal den).length ≤ 18 := by
  have short := length_decimal low high
  unfold printRate
  split
  next isOne => exact iff_of_true (by omega) (.inl isOne)
  next notOne =>
    rw [or_iff_right notOne, List.length_append, List.length_cons]
    omega

theorem resetFits_iff : ResetFits store ↔ RatesShort store := by
  apply forall_congr'
  intro streamId
  unfold resetValue rkVideoGetFrameRate getRate
  have denFault := getInt_ne_overflow (videoEntry streamId .dstFrameRateDen) (-1) store
  have numFault := getInt_ne_overflow (videoEntry streamId .dstFrameRateNum) (-1) store
  cases readDen : rkParamGetInt (videoEntry streamId .dstFrameRateDen) (-1) store with
  | error fault =>
      rw [readDen] at denFault
      dsimp only [bind, Except.bind]
      exact iff_of_true
        (fun same => denFault (congrArg Except.error (Except.error.inj same))) nofun
  | ok den =>
      dsimp only [bind, Except.bind]
      cases readNum : rkParamGetInt (videoEntry streamId .dstFrameRateNum) (-1) store with
      | error fault =>
          rw [readNum] at numFault
          dsimp only
          exact iff_of_true
            (fun same => numFault (congrArg Except.error (Except.error.inj same))) nofun
      | ok num =>
          obtain ⟨low, high⟩ := getInt_bounds (by decide) (by decide) readNum
          have printed := length_printRate den low high
          dsimp only [pure, Except.pure]
          constructor
          · rintro fits _ _ ⟨⟩ ⟨⟩
            rw [← printed]
            by_contra long
            exact fits (if_neg long)
          · intro short
            rw [if_pos (printed.mpr (short num den rfl rfl))]
            nofun

theorem mem_decimal {val : Int} {char : Char} (member : char ∈ decimal val) :
    char = '-' ∨ char.isDigit = true := by
  unfold decimal at member
  split at member
  · exact (List.mem_cons.mp member).imp_right digits_isDigit
  · exact .inr (digits_isDigit member)

theorem scanInt_decimal {val : Int} {rest : Text} (low : -2147483648 ≤ val)
    (high : val ≤ 2147483647) (stops : ∀ char ∈ rest.head?, char.isDigit = false) :
    scanInt (decimal val ++ rest) = some (Int32.ofInt val, rest) := by
  have taken := digits_decimal val.natAbs stops
  unfold decimal
  split
  next negative =>
    rw [List.cons_append, scanInt_minus, scanDigits_eq taken, Nat.ofDigitChars_ten_toDigits,
      if_pos rfl]
    congr 3
    unfold clampLong
    omega
  next nonneg =>
    rw [scanInt_digits taken, Nat.ofDigitChars_ten_toDigits]
    congr 3
    unfold clampLong
    omega

/-- The text of any rate is read as it was printed, whatever the variables held. -/
theorem scanFrameRate_print {num den : Int} (numLow : -2147483648 ≤ num)
    (numHigh : num ≤ 2147483647) (denLow : -2147483648 ≤ den) (denHigh : den ≤ 2147483647)
    (first second : Int32) :
    scanFrameRate (printRate num den) first second = (Int32.ofInt num, Int32.ofInt den) := by
  have last : ∀ val : Int, -2147483648 ≤ val → val ≤ 2147483647 →
      scanInt (decimal val) = some (Int32.ofInt val, []) := fun val low high => by
    have scanned : scanInt (decimal val ++ []) = some (Int32.ofInt val, []) :=
      scanInt_decimal low high nofun
    rwa [List.append_nil] at scanned
  unfold scanFrameRate printRate
  split
  next isOne =>
    have noSlash : '/' ∉ decimal num := fun member =>
      (mem_decimal member).elim (by decide) (by decide)
    rw [if_neg noSlash, last num numLow numHigh, isOne]
    rfl
  next =>
    have stops : ∀ char ∈ ('/' :: decimal den).head?, char.isDigit = false := by
      rintro _ ⟨⟩
      rfl
    rw [if_pos (List.mem_append_right _ List.mem_cons_self),
      scanInt_decimal numLow numHigh stops]
    simp only [last den denLow denHigh]

theorem resetValue_eq_ok {streamId : Int32} (isValue : resetValue streamId store = .ok value) :
    ∃ num den, rkParamGetInt (videoEntry streamId .dstFrameRateNum) (-1) store = .ok num ∧
      rkParamGetInt (videoEntry streamId .dstFrameRateDen) (-1) store = .ok den ∧
        value = printRate num den := by
  unfold resetValue rkVideoGetFrameRate getRate at isValue
  cases readDen : rkParamGetInt (videoEntry streamId .dstFrameRateDen) (-1) store with
  | error fault =>
      rw [readDen] at isValue
      cases isValue
  | ok den =>
      cases readNum : rkParamGetInt (videoEntry streamId .dstFrameRateNum) (-1) store with
      | error fault =>
          rw [readDen, readNum] at isValue
          cases isValue
      | ok num =>
          rw [readDen, readNum] at isValue
          dsimp only [bind, Except.bind, pure, Except.pure] at isValue
          split at isValue
          · cases isValue
            exact ⟨num, den, rfl, rfl, rfl⟩
          · cases isValue

/-- `rk_video_reset_frame_rate` leaves the rates of the stream as they were read. -/
theorem reset_reads {streamId : Int32} {ret : Int} {after : State}
    (live : state.store.dict = .ok (some d)) (sound : d.Sound)
    (ran : rkVideoResetFrameRate layout streamId first second state = .ok (ret, after)) :
    ∀ key ∈ [Key.dstFrameRateNum, Key.dstFrameRateDen],
      rkParamGetInt (videoEntry streamId key) (-1) after.store =
        rkParamGetInt (videoEntry streamId key) (-1) state.store := by
  unfold rkVideoResetFrameRate at ran
  cases isValue : resetValue streamId state.store with
  | error fault =>
      rw [isValue] at ran
      cases ran
  | ok value =>
      rw [isValue] at ran
      obtain ⟨num, den, readNum, readDen, rfl⟩ := resetValue_eq_ok isValue
      obtain ⟨numLow, numHigh⟩ := getInt_bounds (by decide) (by decide) readNum
      obtain ⟨denLow, denHigh⟩ := getInt_bounds (by decide) (by decide) readDen
      cases set : rkVideoSetFrameRate layout streamId (printRate num den) first second state with
      | error fault =>
          dsimp only [bind, Except.bind] at ran
          rw [set] at ran
          cases ran
      | ok result =>
          dsimp only [bind, Except.bind] at ran
          rw [set] at ran
          cases ran
          have isSet : (Call.frameRate streamId).set layout true (printRate num den) first second
            state = .ok result := set
          obtain ⟨_, same⟩ | ⟨_, _, wrote⟩ := set_cases isSet
          · rw [same]
            exact fun _ _ => rfl
          · have scanned : (Call.frameRate streamId).form.scan (printRate num den) first second =
                (Int32.ofInt num, Int32.ofInt den) :=
              scanFrameRate_print numLow numHigh denLow denHigh first second
            rw [scanned, Int32.toInt_ofInt_of_le (by omega) (by omega),
              Int32.toInt_ofInt_of_le (by omega) (by omega)] at wrote
            obtain ⟨isNum, isDen⟩ := writes_read live sound wrote _ List.mem_cons_self (-1)
            simp only [List.forall_mem_cons]
            exact ⟨isNum.trans readNum.symm, isDen.trans readDen.symm, nofun⟩

/-- The string is handled as it has to be, and the buffer is large enough, exactly if the
type is not supported or the string has two positive numbers of seven digits at most, and
the stored rates have 18 characters at most. -/
theorem handled_fits_iff (layout : Layout) (enableJpeg : Bool) (ends : Text → Prop)
    (call : Call) (value : Text) (first second : Int32)
    (live : state.store.dict = .ok (some d)) (sound : d.Sound) :
    Handled layout enableJpeg ends call value first second state ∧ ResetFits state.store ↔
      (call.supported state.store = .ok false ∨
        call.supported state.store = .ok true ∧ Acceptable ends call value) ∧
        RatesShort state.store :=
  and_congr (handled_iff live sound) resetFits_iff

end Results

section Examples

def oneStream : State :=
  ⟨⟨[some oneSection], some 0, none, none⟩, fun _ => .zero⟩

theorem getInt_oneStream (streamId : Int32) (key : Key) (default : Int) :
    rkParamGetInt (videoEntry streamId key) default oneStream.store = .ok default := by
  have isOther : videoEntry streamId key ≠ strlwc "video.0".toList 1025 := by
    intro same
    have colon : ':' ∈ videoEntry streamId key := by
      rw [videoEntry_eq]
      exact List.mem_append_right _ List.mem_cons_self
    rw [same] at colon
    exact absurd colon (by decide)
  have unset : dictionaryFind oneSection (videoEntry streamId key) = none := by
    unfold oneSection iniparserSet
    rw [find_set (sound_new 0), Function.update_of_ne isOther]
    rfl
  rw [getInt_live (d := oneSection) rfl]
  unfold iniparserGetnumber
  rw [Option.bind_some, strlwc_videoEntry, unset]

theorem handled_fits_iff_half :
    Handled words true (· = []) (.frameRate 0) "25/2".toList 0 0 oneStream ∧
      ResetFits oneStream.store := by
  have printed : Form.rate.print 25 2 = "25/2".toList := by decide
  have supported : (Call.frameRate 0).supported oneStream.store = .ok true := by
    decide +kernel
  refine (handled_fits_iff words true _ (.frameRate 0) _ 0 0 (d := oneSection) rfl
    sound_oneSection).mpr ⟨.inr ⟨supported, 25, 2, by decide, by decide, by decide,
      by decide, printed ▸ denotes_print .rate 25 2⟩, fun streamId num den isNum isDen => ?_⟩
  rw [getInt_oneStream] at isNum isDen
  cases isNum
  cases isDen
  exact .inr (by decide)

/-- The height is what the variable held. -/
theorem cross_is_half :
    ¬ Handled words true (fun _ => True) .jpegResolution "1920x1080".toList 0 7 oneStream := by
  rintro ⟨ret, next, ran, ⟨_, _, _, _, _, denotes, _⟩ | ⟨notZero, _⟩⟩
  · cases denotes with
    | pair left =>
        have scanned : scanInt "1920x1080".toList = some (1920, ['x', '1', '0', '8', '0']) := by
          decide
        have same := Option.some.inj (scanned.symm.trans left.scanInt)
        have char : some 'x' = some '*' := congrArg (·.2.head?) same
        exact absurd char (by decide)
  · have evaluated : (Call.jpegResolution.set words true "1920x1080".toList 0 7 oneStream).map
        Prod.fst = .ok 0 := by decide
    rw [ran] at evaluated
    exact notZero (Except.ok.inj evaluated)

end Examples

end Rkipc.Video.RateStrings

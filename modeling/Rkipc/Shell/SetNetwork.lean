import Rkipc.Shell.CommandLines

namespace Rkipc.Shell

open Ini Wifi

/-! What `set_network` tells `wpa_supplicant` of a name and a pass phrase. -/

section Source

/-- The commands that a call executes, as they stand in `cmd`, and what it returns. -/
structure Called where
  commands : List Text
  ret : Int
deriving DecidableEq

/-- `snprintf(cmd, sizeof(cmd), ..)` -/
def cmd (text : Text) : Text := text.take 127

def ssidCommand (id : Nat) (ssid : List Byte) : Text :=
  cmd (setting id ++ " ssid ".toList ++ hex ssid)

def keyMgmtCommand (id : Nat) : Text := cmd (setting id ++ " key_mgmt NONE".toList)

def pskCommand (id : Nat) (psk : Text) : Text :=
  cmd (setting id ++ " psk \\\"".toList ++ escape psk ++ "\\\"".toList)

def wepCommand (id : Nat) (psk : Text) : Text :=
  cmd (setting id ++ " wep_key0 \\\"".toList ++ psk ++ "\\\"".toList)

/-- `set_network`, nothing when `strcpy` or `format_wifiinfo` writes behind an array of 128
characters.  `answers` says which commands are answered `OK`. -/
def setNetworkCall (answers : Nat → Bool) (id : Nat) (ssid : List Byte) (psk : Text)
    (encryp : Encryp) : Option Called :=
  if 128 ≤ ssid.length ∨ 128 ≤ psk.length ∨ 128 ≤ 2 * ssid.length then .none
  else if answers 0 = false then some ⟨[ssidCommand id ssid], -1⟩
  else if psk = [] ∧ encryp = .none then
    some ⟨[ssidCommand id ssid, keyMgmtCommand id], if answers 1 then 0 else -2⟩
  else if encryp = .wep then
    if answers 1 = false then some ⟨[ssidCommand id ssid, keyMgmtCommand id], -41⟩
    else
      some ⟨[ssidCommand id ssid, keyMgmtCommand id, wepCommand id psk],
        if answers 2 then 0 else -42⟩
  else if psk ≠ [] ∨ encryp = .wpa then
    if 128 ≤ 2 * psk.length then .none
    else some ⟨[ssidCommand id ssid, pskCommand id psk], if answers 1 then 0 else -3⟩
  else some ⟨[ssidCommand id ssid], 0⟩

end Source

variable {answers : Nat → Bool} {id : Nat} {ssid : List Byte} {psk : Text} {encryp : Encryp}

theorem setNetwork_commands {lines : List CommandLine}
    (isLines : setNetwork answers id ssid psk encryp = some lines) :
    ∃ called, setNetworkCall answers id ssid psk encryp = some called ∧
      ∀ line ∈ lines, line.text.take (line.size - 1) ∈ called.commands := by
  unfold setNetwork at isLines
  unfold setNetworkCall
  split at isLines
  next => cases isLines
  next fits =>
    have inside : ¬ (128 ≤ ssid.length ∨ 128 ≤ psk.length ∨ 128 ≤ 2 * ssid.length) := by omega
    rw [if_neg inside]
    dsimp only at isLines
    split_ifs at isLines ⊢ <;> cases isLines <;>
      exact ⟨_, rfl, by simp [cmd, ssidCommand, pskCommand, wepCommand]⟩

/-- The pass phrase between its quotes, each with a backslash in front. -/
def quotedPsk (psk : Text) : Text := '\\' :: '"' :: escape psk ++ ['\\', '"']

/-- The name and, unless a command before it is refused, the pass phrase are in commands as a
whole. -/
def Delivers (answers : Nat → Bool) (id : Nat) (ssid : List Byte) (psk : Text)
    (encryp : Encryp) : Prop :=
  ∃ called, setNetworkCall answers id ssid psk encryp = some called ∧
    (∃ command ∈ called.commands, hex ssid <:+: command) ∧
      (called.ret = -1 ∨ called.ret = -41 ∨
        ∃ command ∈ called.commands, quotedPsk psk <:+: command)

/-- The call fails, and nothing is written behind an array. -/
def Fails (answers : Nat → Bool) (id : Nat) (ssid : List Byte) (psk : Text)
    (encryp : Encryp) : Prop :=
  ∃ called, setNetworkCall answers id ssid psk encryp = some called ∧ called.ret < 0

/-- A name of 1 to 32 bytes and a pass phrase of 8 to 63 printable characters. -/
def Credentials (ssid : List Byte) (psk : Text) : Prop :=
  1 ≤ ssid.length ∧ ssid.length ≤ 32 ∧ 8 ≤ psk.length ∧ psk.length ≤ 63 ∧
    ∀ char ∈ psk, ' ' ≤ char ∧ char ≤ '~'

instance (ssid : List Byte) (psk : Text) : Decidable (Credentials ssid psk) :=
  inferInstanceAs (Decidable (_ ∧ _))

def TooLong (ssid : List Byte) (psk : Text) : Prop := 32 < ssid.length ∨ 63 < psk.length

section Quoting

variable {front text : Text}

theorem length_quotedPsk : (quotedPsk psk).length = 2 * psk.length + 4 := by
  rw [quotedPsk, List.length_append, List.length_cons, List.length_cons, length_escape]
  rfl

/-- What begins with a character that the front lacks stands behind the front. -/
theorem infix_of_append {char : Char} {rest : Text} (lacks : char ∉ front)
    (isInfix : char :: rest <:+: front ++ text) : char :: rest <:+: text := by
  induction front with
  | nil => exact isInfix
  | cons first front induction =>
      obtain ⟨differs, lacks⟩ := not_or.mp (mt List.mem_cons.mpr lacks)
      rcases List.infix_cons_iff.mp isInfix with isPrefix | isInfix
      · exact absurd (List.cons_prefix_cons.mp isPrefix).1 differs
      · exact induction lacks isInfix

theorem backslash_command {name : Text} (lacks : '\\' ∉ name) : '\\' ∉ setting id ++ name := by
  have fixed : '\\' ∉ "wpa_cli -iwlan0 set_network ".toList := by
    rw [String.toList_ofList]
    decide
  intro member
  rcases List.mem_append.mp member with isSetting | isName
  · rcases List.mem_append.mp isSetting with isFixed | isDigit
    · exact fixed isFixed
    · exact absurd (Param.digits_isDigit isDigit) (by decide)
  · exact lacks isName

theorem quotedPsk_lacking {command : Text} (lacks : '\\' ∉ command) :
    ¬ quotedPsk psk <:+: command :=
  fun isInfix => lacks (isInfix.subset List.mem_cons_self)

theorem backslash_hex : '\\' ∉ hex ssid := by
  have digit : ∀ value < 16, Nat.digitChar value ≠ '\\' := by decide
  intro member
  obtain ⟨byte, _, isDigit⟩ := List.mem_flatMap.mp member
  have low := digit (byte.toNat % 16) (Nat.mod_lt _ (by decide))
  have high := digit (byte.toNat / 16) (Nat.div_lt_of_lt_mul byte.isLt)
  simp only [List.mem_cons, List.not_mem_nil, or_false] at isDigit
  exact isDigit.elim (fun same => high same.symm) fun same => low same.symm

theorem quotedPsk_ssidCommand : ¬ quotedPsk psk <:+: ssidCommand id ssid := by
  refine quotedPsk_lacking fun member => ?_
  rcases List.mem_append.mp (List.mem_of_mem_take member) with isFront | isHex
  · exact backslash_command (by rw [String.toList_ofList]; decide) isFront
  · exact backslash_hex isHex

theorem quotedPsk_keyMgmtCommand : ¬ quotedPsk psk <:+: keyMgmtCommand id :=
  quotedPsk_lacking fun member =>
    backslash_command (by rw [String.toList_ofList]; decide) (List.mem_of_mem_take member)

theorem length_setting : (setting id).length = 28 + (number id).length := by
  have fixed : "wpa_cli -iwlan0 set_network ".toList.length = 28 := by
    rw [String.toList_ofList]
    exact rfl
  exact List.length_append.trans (congrArg (· + (number id).length) fixed)

theorem pskCommand_eq :
    pskCommand id psk = cmd (setting id ++ " psk ".toList ++ quotedPsk psk) := by
  unfold pskCommand quotedPsk
  repeat rw [String.toList_ofList]
  simp only [List.append_assoc, List.cons_append, List.nil_append]

theorem wepCommand_eq : wepCommand id psk =
    cmd (setting id ++ " wep_key0 ".toList ++ '\\' :: '"' :: psk ++ ['\\', '"']) := by
  unfold wepCommand
  repeat rw [String.toList_ofList]
  simp only [List.append_assoc, List.cons_append, List.nil_append]

theorem quotedPsk_pskCommand : quotedPsk psk <:+: pskCommand id psk ↔
    (number id).length + 2 * psk.length ≤ 90 := by
  have name : " psk ".toList.length = 5 := by
    rw [String.toList_ofList]
    exact rfl
  have lacks : '\\' ∉ setting id ++ " psk ".toList :=
    backslash_command (by rw [String.toList_ofList]; decide)
  have front : (setting id ++ " psk ".toList).length = (number id).length + 33 := by
    rw [List.length_append, length_setting, name]
    omega
  rw [pskCommand_eq, cmd]
  generalize setting id ++ " psk ".toList = text at lacks front ⊢
  constructor
  · intro isInfix
    rw [List.take_append] at isInfix
    have behind : quotedPsk psk <:+: (quotedPsk psk).take (127 - text.length) :=
      infix_of_append (fun member => lacks (List.mem_of_mem_take member)) isInfix
    have fits := behind.length_le
    rw [List.length_take, length_quotedPsk] at fits
    omega
  · intro fits
    rw [List.take_of_length_le]
    · exact (List.suffix_append _ _).isInfix
    · rw [List.length_append, length_quotedPsk]
      omega

theorem quotedPsk_wepCommand (notNil : psk ≠ []) : ¬ quotedPsk psk <:+: wepCommand id psk := by
  have lacks : '\\' ∉ setting id ++ " wep_key0 ".toList :=
    backslash_command (by rw [String.toList_ofList]; decide)
  intro isInfix
  rw [wepCommand_eq, cmd, List.append_assoc, List.take_append] at isInfix
  have behind : quotedPsk psk <:+: ('\\' :: '"' :: psk ++ ['\\', '"']).take _ :=
    infix_of_append (fun member => lacks (List.mem_of_mem_take member)) isInfix
  have fits := behind.length_le.trans (List.length_take_le' _ _)
  have pos := List.length_pos_iff.mpr notNil
  rw [length_quotedPsk] at fits
  simp only [List.length_append, List.length_cons, List.length_nil] at fits
  omega

end Quoting

section Delivery

theorem hex_length : (hex ssid).length = 2 * ssid.length := by
  induction ssid with
  | nil => rfl
  | cons byte rest induction =>
      have isCons : hex (byte :: rest) = Nat.digitChar (byte.toNat / 16) ::
          Nat.digitChar (byte.toNat % 16) :: hex rest := rfl
      rw [isCons, List.length_cons, List.length_cons, List.length_cons, induction]
      omega

theorem number_length (isInt : id < 2 ^ 31) : (number id).length ≤ 10 := by
  refine (Nat.length_toDigits_le_iff (by decide) (by decide)).mpr ?_
  omega

/-- The command for a name of no more than 63 bytes is never cut. -/
theorem hex_ssidCommand (isInt : id < 2 ^ 31) (short : ssid.length ≤ 32) :
    hex ssid <:+: ssidCommand id ssid := by
  have name : " ssid ".toList.length = 6 := by
    rw [String.toList_ofList]
    exact rfl
  have digits := number_length isInt
  rw [ssidCommand, cmd, List.take_of_length_le]
  · exact (List.suffix_append _ _).isInfix
  · rw [List.length_append, List.length_append, length_setting, name, hex_length]
    omega

/-- The pass phrase arrives unless it goes to WEP or has too many characters for the digits of
the network. -/
theorem delivers_iff (isInt : id < 2 ^ 31) (credentials : Credentials ssid psk) :
    Delivers answers id ssid psk encryp ↔
      (answers 0 = true →
        if encryp = .wep then answers 1 = false else (number id).length + 2 * psk.length ≤ 90) := by
  obtain ⟨_, ssidShort, pskLong, pskShort, _⟩ := credentials
  have notNil : psk ≠ [] := by
    rintro rfl
    exact absurd pskLong (by decide)
  have named := hex_ssidCommand isInt ssidShort
  unfold Delivers setNetworkCall
  rw [if_neg (by omega)]
  by_cases refused : answers 0 = false
  · rw [if_pos refused]
    refine iff_of_true ⟨_, rfl, ⟨_, List.mem_cons_self, named⟩, .inl rfl⟩ fun accepted => ?_
    rw [refused] at accepted
    cases accepted
  · rw [if_neg refused, if_neg fun both => notNil both.1]
    have accepted : answers 0 = true := Bool.eq_true_of_not_eq_false refused
    rw [forall_prop_of_true accepted]
    by_cases isWep : encryp = .wep
    · rw [if_pos isWep, if_pos isWep]
      cases answers 1 with
      | false =>
          rw [if_pos rfl]
          exact iff_of_true ⟨_, rfl, ⟨_, List.mem_cons_self, named⟩, .inr (.inl rfl)⟩ rfl
      | true =>
          rw [if_neg Bool.noConfusion]
          refine iff_of_false ?_ Bool.noConfusion
          have codes : ∀ answer : Bool, (if answer = true then (0 : Int) else -42) ≠ -1 ∧
              (if answer = true then (0 : Int) else -42) ≠ -41 := by decide
          rintro ⟨called, isCalled, _, outcome⟩
          cases isCalled
          obtain refusedName | refusedKey | ⟨command, member, whole⟩ := outcome
          · exact (codes _).1 refusedName
          · exact (codes _).2 refusedKey
          · simp only [List.mem_cons, List.not_mem_nil, or_false] at member
            obtain rfl | rfl | rfl := member
            · exact quotedPsk_ssidCommand whole
            · exact quotedPsk_keyMgmtCommand whole
            · exact quotedPsk_wepCommand notNil whole
    · rw [if_neg isWep, if_pos (.inl notNil), if_neg (by omega), if_neg isWep]
      rw [← quotedPsk_pskCommand]
      constructor
      · have codes : ∀ answer : Bool, (if answer = true then (0 : Int) else -3) ≠ -1 ∧
            (if answer = true then (0 : Int) else -3) ≠ -41 := by decide
        rintro ⟨called, isCalled, _, outcome⟩
        cases isCalled
        obtain refusedName | refusedKey | ⟨command, member, whole⟩ := outcome
        · exact absurd refusedName (codes _).1
        · exact absurd refusedKey (codes _).2
        · simp only [List.mem_cons, List.not_mem_nil, or_false] at member
          obtain rfl | rfl := member
          · exact absurd whole quotedPsk_ssidCommand
          · exact whole
      · intro whole
        exact ⟨_, rfl, ⟨_, List.mem_cons_self, named⟩,
          .inr (.inr ⟨_, List.mem_cons_of_mem _ List.mem_cons_self, whole⟩)⟩

theorem fails_iff :
    Fails answers id ssid psk encryp ↔
      ssid.length < 64 ∧ psk.length < 128 ∧
        (answers 0 = false ∨
          if encryp = .wep then answers 1 = false ∨ answers 2 = false
          else psk.length < 64 ∧ answers 1 = false) := by
  unfold Fails setNetworkCall
  by_cases overflows : 128 ≤ ssid.length ∨ 128 ≤ psk.length ∨ 128 ≤ 2 * ssid.length
  · rw [if_pos overflows]
    refine iff_of_false ?_ fun ⟨ssidFits, pskFits, _⟩ => by omega
    rintro ⟨_, killed, _⟩
    cases killed
  · rw [if_neg overflows]
    have ssidFits : ssid.length < 64 := by omega
    have pskFits : psk.length < 128 := by omega
    have failing : ∀ (answer : Bool) (code : Int), code < 0 →
        ((if answer = true then 0 else code) < 0 ↔ answer = false) := by
      intro answer code negative
      cases answer with
      | false => exact iff_of_true negative rfl
      | true => exact iff_of_false (Int.lt_irrefl 0) Bool.noConfusion
    rw [iff_true_intro ssidFits, iff_true_intro pskFits, true_and, true_and]
    by_cases refused : answers 0 = false
    · rw [if_pos refused]
      exact iff_of_true ⟨_, rfl, Int.negSucc_lt_zero 0⟩ (.inl refused)
    · rw [if_neg refused, or_iff_right refused]
      have returns (called : Called) : (∃ other, some called = some other ∧ other.ret < 0) ↔
          called.ret < 0 :=
        ⟨fun ⟨_, same, negative⟩ => Option.some_inj.mp same ▸ negative,
          fun negative => ⟨called, rfl, negative⟩⟩
      by_cases open' : psk = [] ∧ encryp = .none
      · have notWep : encryp ≠ .wep := open'.2 ▸ Encryp.noConfusion
        rw [if_pos open', returns, if_neg notWep, failing _ _ (by decide), open'.1]
        exact (and_iff_right (by decide)).symm
      · rw [if_neg open']
        by_cases isWep : encryp = .wep
        · rw [if_pos isWep, if_pos isWep]
          by_cases refusedKey : answers 1 = false
          · rw [if_pos refusedKey, returns]
            exact iff_of_true (Int.negSucc_lt_zero 40) (.inl refusedKey)
          · rw [if_neg refusedKey, returns, failing _ _ (by decide), or_iff_right refusedKey]
        · have sends : psk ≠ [] ∨ encryp = .wpa := by
            cases encryp with
            | none => exact .inl fun empty => open' ⟨empty, rfl⟩
            | wpa => exact .inr rfl
            | wep => exact absurd rfl isWep
          rw [if_neg isWep, if_neg isWep, if_pos sends]
          by_cases escaped : 128 ≤ 2 * psk.length
          · rw [if_pos escaped]
            refine iff_of_false ?_ fun both => by omega
            rintro ⟨_, killed, _⟩
            cases killed
          · rw [if_neg escaped, returns, failing _ _ (by decide)]
            exact (and_iff_right (by omega)).symm

/-- What a call does with a name and a pass phrase of the promised lengths, and with longer
ones. -/
theorem setNetwork_iff (answers : Nat → Bool) (ssid : List Byte) (psk : Text) (encryp : Encryp)
    (isInt : id < 2 ^ 31) :
    ((Credentials ssid psk → Delivers answers id ssid psk encryp) ∧
        (TooLong ssid psk → Fails answers id ssid psk encryp)) ↔
      (Credentials ssid psk → answers 0 = true →
        if encryp = .wep then answers 1 = false else (number id).length + 2 * psk.length ≤ 90) ∧
      (TooLong ssid psk → ssid.length < 64 ∧ psk.length < 128 ∧
        (answers 0 = false ∨
          if encryp = .wep then answers 1 = false ∨ answers 2 = false
          else psk.length < 64 ∧ answers 1 = false)) :=
  and_congr (forall_congr' fun credentials => delivers_iff isInt credentials)
    (forall_congr' fun _ => fails_iff)

theorem setNetwork_iff_first :
    0 < 2 ^ 31 ∧
      (((Credentials [0x61] "password".toList →
          Delivers (fun _ => true) 0 [0x61] "password".toList .wpa) ∧
        (TooLong [0x61] "password".toList →
          Fails (fun _ => true) 0 [0x61] "password".toList .wpa)) ↔
      (Credentials [0x61] "password".toList → true = true →
        if Encryp.wpa = .wep then true = false
        else (number 0).length + 2 * "password".toList.length ≤ 90) ∧
      (TooLong [0x61] "password".toList → [(0x61 : Byte)].length < 64 ∧
        "password".toList.length < 128 ∧
        (true = false ∨
          if Encryp.wpa = .wep then true = false ∨ true = false
          else "password".toList.length < 64 ∧ true = false))) :=
  ⟨by decide, setNetwork_iff (fun _ => true) [0x61] "password".toList .wpa (by decide)⟩

/-- Of a pass phrase of 63 characters the end is cut off. -/
theorem set_network_cuts :
    ¬ ∀ (answers : Nat → Bool) (id : Nat) (ssid : List Byte) (psk : Text) (encryp : Encryp),
      id < 2 ^ 31 →
        (Credentials ssid psk → Delivers answers id ssid psk encryp) ∧
          (TooLong ssid psk → Fails answers id ssid psk encryp) := by
  intro general
  have credentials : Credentials [0x61] (List.replicate 63 'a') := by decide
  obtain ⟨called, isCalled, _, outcome⟩ :=
    (general (fun _ => true) 0 [0x61] (List.replicate 63 'a') .wpa (by decide)).1 credentials
  cases isCalled
  obtain refusedName | refusedKey | ⟨command, member, whole⟩ := outcome
  · exact absurd refusedName (by decide)
  · exact absurd refusedKey (by decide)
  · have fits := whole.length_le
    rw [length_quotedPsk, List.length_replicate] at fits
    simp only [List.mem_cons, List.not_mem_nil, or_false] at member
    obtain rfl | rfl := member
    · have short : (ssidCommand 0 [0x61]).length ≤ 127 := List.length_take_le _ _
      omega
    · have short : (pskCommand 0 (List.replicate 63 'a')).length ≤ 127 := List.length_take_le _ _
      omega

end Delivery

end Rkipc.Shell

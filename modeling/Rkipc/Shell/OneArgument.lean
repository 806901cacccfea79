import Rkipc.Shell.CommandLines

namespace Rkipc.Shell

open Ini Wifi

/-! When the strings of a client stay one argument each. -/

def fixedWords : List Text :=
  ["ifconfig", "netmask", "route", "add", "-net", "default", "gw", "down", "hw", "ether", "up",
    "rm", "-f", "cp", "/userdata/rkipc.ini", "updateEngine", "--misc=update", "--reboot",
    "wpa_cli", "-iwlan0", "set_network", "ssid", "psk"].map String.toList

theorem plain_fixed : ∀ word ∈ fixedWords, plainText word = true := by
  decide

theorem runs_joined {size : Nat} {text : Text} {words args : List Text} (array : 0 < size)
    (isText : text = joined words) (notEmpty : words ≠ [])
    (plain : (∀ word ∈ words, plainText word = true) ↔ ∀ arg ∈ args, plainText arg = true) :
    (CommandLine.mk size text (words.map .argument)).Runs ↔
      (∀ arg ∈ args, plainText arg = true) ∧
        (CommandLine.mk size text (words.map .argument)).Fits := by
  subst isText
  rw [CommandLine.Runs, read_take_joined notEmpty, plain, CommandLine.Fits]
  exact and_congr_right fun _ => Nat.le_sub_one_iff_lt array

/-- A line of words, all of which are always the same but for some. -/
theorem runs_words {size : Nat} {text : Text} {words args : List Text} (array : 0 < size)
    (isText : text = joined words) (notEmpty : words ≠ []) (used : args ⊆ words)
    (known : ∀ word ∈ words, word ∈ args ∨ word ∈ fixedWords) :
    (CommandLine.mk size text (words.map .argument)).Runs ↔
      (∀ arg ∈ args, plainText arg = true) ∧
        (CommandLine.mk size text (words.map .argument)).Fits :=
  runs_joined array isText notEmpty ⟨fun all arg member => all arg (used member),
    fun all word member => (known word member).elim (all word) (plain_fixed word)⟩

section Network

theorem ipv4Set_runs (interface : Text) (method address netmask gateway : Option Text) :
    (∀ line ∈ rkNetworkIpv4Set interface method address netmask gateway, line.Runs) ↔
      (isStatic method = true → ∀ text ∈ [interface, shown address, shown netmask, shown gateway],
        plainText text = true) ∧
      ∀ line ∈ rkNetworkIpv4Set interface method address netmask gateway, line.Fits := by
  have address := @runs_words 512 ("ifconfig ".toList ++ interface ++ " ".toList ++
      shown address ++ " netmask ".toList ++ shown netmask)
    ["ifconfig".toList, interface, shown address, "netmask".toList, shown netmask]
    [interface, shown address, shown netmask] (by decide) (by simp [joined])
    (List.cons_ne_nil _ _) (by simp) (by simp [fixedWords])
  have gateway := @runs_words 512 ("route add -net default gw ".toList ++ shown gateway)
    ["route".toList, "add".toList, "-net".toList, "default".toList, "gw".toList, shown gateway]
    [shown gateway] (by decide) (by simp [joined])
    (List.cons_ne_nil _ _) (by simp) (by simp [fixedWords])
  unfold rkNetworkIpv4Set
  split
  next static =>
    simp only [List.forall_mem_cons, List.not_mem_nil, false_imp_iff, implies_true,
      and_true] at address gateway ⊢
    rw [address, gateway]
    constructor
    · rintro ⟨⟨⟨isInterface, isAddress, isNetmask⟩, fits⟩, isGateway, gatewayFits⟩
      exact ⟨fun _ => ⟨isInterface, isAddress, isNetmask, isGateway⟩, fits, gatewayFits⟩
    · rintro ⟨plain, fits, gatewayFits⟩
      obtain ⟨isInterface, isAddress, isNetmask, isGateway⟩ := plain static
      exact ⟨⟨⟨isInterface, isAddress, isNetmask⟩, fits⟩, isGateway, gatewayFits⟩
  next other => simp [other]

theorem setMac_runs (ifname mac : Text) :
    (∀ line ∈ rkNetworkSetMac ifname mac, line.Runs) ↔
      (plainText ifname = true ∧ plainText mac = true) ∧
        ∀ line ∈ rkNetworkSetMac ifname mac, line.Fits := by
  have down := @runs_words 128 ("ifconfig ".toList ++ ifname ++ " down".toList)
    ["ifconfig".toList, ifname, "down".toList] [ifname] (by decide) (by simp [joined])
    (List.cons_ne_nil _ _) (by simp) (by simp [fixedWords])
  have ether := @runs_words 128 ("ifconfig ".toList ++ ifname ++ " hw ether ".toList ++ mac)
    ["ifconfig".toList, ifname, "hw".toList, "ether".toList, mac] [ifname, mac] (by decide)
    (by simp [joined])
    (List.cons_ne_nil _ _) (by simp) (by simp [fixedWords])
  have up := @runs_words 128 ("ifconfig ".toList ++ ifname ++ " up".toList)
    ["ifconfig".toList, ifname, "up".toList] [ifname] (by decide) (by simp [joined])
    (List.cons_ne_nil _ _) (by simp) (by simp [fixedWords])
  simp only [List.forall_mem_cons, List.not_mem_nil, false_imp_iff, implies_true,
    and_true] at down ether up
  simp only [rkNetworkSetMac, List.forall_mem_cons, List.not_mem_nil, false_imp_iff, implies_true,
    and_true, down, ether, up]
  constructor
  · rintro ⟨⟨plain, downFits⟩, ⟨both, etherFits⟩, _, upFits⟩
    exact ⟨both, downFits, etherFits, upFits⟩
  · rintro ⟨both, downFits, etherFits, upFits⟩
    exact ⟨⟨both.1, downFits⟩, ⟨both, etherFits⟩, both.1, upFits⟩

end Network

section System

variable {path : Text}

theorem exportDb_runs (path : Text) : (∀ line ∈ rkSystemExportDb path, line.Runs) ↔
    plainText path = true ∧ ∀ line ∈ rkSystemExportDb path, line.Fits := by
  have line := @runs_words 127 ("cp /userdata/rkipc.ini ".toList ++ path)
    ["cp".toList, "/userdata/rkipc.ini".toList, path] [path] (by decide) (by simp [joined])
    (List.cons_ne_nil _ _) (by simp) (by simp [fixedWords])
  simpa only [rkSystemExportDb, List.forall_mem_singleton] using line

theorem importDb_runs (path : Text) : (∀ line ∈ rkSystemImportDb path, line.Runs) ↔
    plainText path = true ∧ ∀ line ∈ rkSystemImportDb path, line.Fits := by
  have line := @runs_words 127 ("cp ".toList ++ path ++ " /userdata/rkipc.ini".toList)
    ["cp".toList, path, "/userdata/rkipc.ini".toList] [path] (by decide) (by simp [joined])
    (List.cons_ne_nil _ _) (by simp) (by simp [fixedWords])
  simpa only [rkSystemImportDb, List.forall_mem_singleton] using line

/-- A string behind a fixed part of a word may be empty. -/
def plainTail (text : Text) : Bool := text.all fun char => char ∉ special ∧ char ∉ patterns

theorem plainText_append {first : Text} (fixed : plainText first = true) (text : Text) :
    plainText (first ++ text) = true ↔ plainTail text = true := by
  obtain ⟨bare, noPattern⟩ := plainText_iff.mp fixed
  obtain ⟨notEmpty, ordinary, head⟩ := bareText_iff.mp bare
  obtain ⟨char, rest, rfl⟩ := List.exists_cons_of_ne_nil notEmpty
  simp only [plainText_iff, bareText_iff, plainTail, List.all_eq_true, decide_eq_true_eq,
    List.forall_mem_append]
  constructor
  · rintro ⟨⟨_, ⟨_, ordinary⟩, _⟩, _, noPattern⟩ char member
    exact ⟨ordinary char member, noPattern char member⟩
  · intro tail
    exact ⟨⟨List.cons_ne_nil _ _, ⟨ordinary, fun char member => (tail char member).1⟩, head⟩,
      noPattern, fun char member => (tail char member).2⟩

theorem upgrade_runs (path : Text) : (∀ line ∈ rkSystemUpgrade path, line.Runs) ↔
    plainTail path = true ∧ ∀ line ∈ rkSystemUpgrade path, line.Fits := by
  have words := @read_take_background ["updateEngine".toList, "--image_url=".toList ++ path,
    "--misc=update".toList, "--savepath=".toList ++ path] "--reboot".toList (by decide) 126
  have image : plainText ("--image_url=".toList ++ path) = true ↔ plainTail path = true :=
    plainText_append (by decide) path
  have save : plainText ("--savepath=".toList ++ path) = true ↔ plainTail path = true :=
    plainText_append (by decide) path
  have isText : "updateEngine --image_url=".toList ++ path ++
      " --misc=update --savepath=".toList ++ path ++ " --reboot &".toList =
        joined (["updateEngine".toList, "--image_url=".toList ++ path, "--misc=update".toList,
          "--savepath=".toList ++ path] ++ ["--reboot".toList]) ++ [' ', '&'] := by
    simp [joined]
  rw [rkSystemUpgrade, List.forall_mem_singleton, List.forall_mem_singleton, CommandLine.Runs,
    CommandLine.Fits, isText]
  refine words.trans ?_
  have engine := plain_fixed "updateEngine".toList (by decide)
  have misc := plain_fixed "--misc=update".toList (by decide)
  simp only [List.forall_mem_cons, List.not_mem_nil, false_imp_iff, implies_true, and_true,
    true_and, engine, misc, image, save, and_self]
  refine and_congr_right fun _ => ?_
  rw [List.length_append]
  exact Nat.lt_succ_iff.symm

/-- Every fixed command consists of words that are read as they stand. -/
theorem cmdList_words : ∀ cmd ∈ cmdList, joined (cmd.splitOn ' ') = cmd ∧
    cmd.splitOn ' ' ≠ [] ∧ (cmd.splitOn ' ').all bareText = true ∧ cmd.length ≤ 100 := by
  unfold cmdList
  simp only [List.map_cons, List.map_nil]
  repeat rw [String.toList_ofList]
  decide

theorem command_words {cmd command : Text} (listed : cmd ∈ cmdList)
    (isCommand : command ∈ ["echo ".toList ++ cmd, cmd]) :
    ∃ words, command = joined words ∧ words ≠ [] ∧ (∀ word ∈ words, bareText word = true) ∧
      (command ++ " >> ".toList).length ≤ 126 := by
  obtain ⟨isJoined, notEmpty, bare, short⟩ := cmdList_words cmd listed
  have bare := List.all_eq_true.mp bare
  simp only [List.mem_cons, List.not_mem_nil, or_false] at isCommand
  rcases isCommand with rfl | rfl
  · obtain ⟨first, rest, isCons⟩ := List.exists_cons_of_ne_nil notEmpty
    refine ⟨"echo".toList :: cmd.splitOn ' ', ?_, List.cons_ne_nil _ _, ?_, ?_⟩
    · rw [isCons, joined, ← isCons, isJoined]
      · rfl
      · exact List.cons_ne_nil first rest
    · exact List.forall_mem_cons.mpr ⟨by decide, bare⟩
    · simp
      omega
  · refine ⟨command.splitOn ' ', isJoined.symm, notEmpty, bare, ?_⟩
    simp
    omega

theorem appended_runs {cmd command : Text} (listed : cmd ∈ cmdList)
    (isCommand : command ∈ ["echo ".toList ++ cmd, cmd]) (path : Text) :
    (appended command path).Runs ↔ bareText path = true ∧ (appended command path).Fits := by
  obtain ⟨words, rfl, notEmpty, bare, short⟩ := command_words listed isCommand
  have isRead : read (joined words) = some (words.map Token.ofText) :=
    ends_joined notEmpty bare []
  have allBare : (words.map Token.ofText).all Token.bare = true :=
    List.all_map.trans (List.all_eq_true.mpr bare)
  change read ((joined words ++ " >> ".toList ++ path).take 126) =
      some ((read (joined words)).getD [] ++ [Token.append path]) ↔
    _ ∧ (joined words ++ " >> ".toList ++ path).length < 127
  have ran : Reading.start.run (joined words ++ " >> ".toList) =
      some ⟨words.map Token.ofText, none, true, .unquoted⟩ := run_append_words notEmpty bare
  rw [isRead, List.take_append, List.take_of_length_le short, read, ← Reading.ends,
    Reading.ends_append ran, Option.getD_some, ends_file_iff allBare]
  have whole : (joined words ++ " >> ".toList ++ path).length =
      (joined words ++ " >> ".toList).length + path.length := List.length_append
  exact and_congr_right fun _ => by omega

def appendLines (path : Text) : List CommandLine :=
  cmdList.flatMap fun cmd => [appended ("echo ".toList ++ cmd) path, appended cmd path]

theorem appendLines_runs (path : Text) : (∀ line ∈ appendLines path, line.Runs) ↔
    bareText path = true ∧ ∀ line ∈ appendLines path, line.Fits := by
  have each : ∀ line ∈ appendLines path, line.Runs ↔ bareText path = true ∧ line.Fits := by
    intro line member
    obtain ⟨cmd, listed, inPair⟩ := List.mem_flatMap.mp member
    simp only [List.mem_cons, List.not_mem_nil, or_false] at inPair
    rcases inPair with rfl | rfl
    · exact appended_runs listed List.mem_cons_self path
    · exact appended_runs listed (List.mem_cons_of_mem _ List.mem_cons_self) path
  have first : appended "echo cat /tmp/messages".toList path ∈ appendLines path :=
    List.mem_flatMap.mpr ⟨"cat /tmp/messages".toList, List.mem_cons_self, List.mem_cons_self⟩
  constructor
  · intro runs
    refine ⟨((each _ first).mp (runs _ first)).1, ?_⟩
    intro line member
    exact ((each line member).mp (runs line member)).2
  · rintro ⟨bare, fits⟩ line member
    exact (each line member).mpr ⟨bare, fits line member⟩

theorem exportLog_runs (pathExists : Bool) (path : Text) :
    (∀ line ∈ rkSystemExportLog pathExists path, line.Runs) ↔
      (bareText path = true ∧ (pathExists = true → plainText path = true)) ∧
        ∀ line ∈ rkSystemExportLog pathExists path, line.Fits := by
  have rm := @runs_words 127 ("rm -f ".toList ++ path) ["rm".toList, "-f".toList, path] [path]
    (by decide) (by simp [joined])
    (List.cons_ne_nil _ _) (by simp) (by simp [fixedWords])
  rw [List.forall_mem_singleton] at rm
  have commands := appendLines_runs path
  rw [appendLines] at commands
  rw [rkSystemExportLog, List.forall_mem_append, List.forall_mem_append, commands]
  cases pathExists with
  | false => simp
  | true =>
      rw [if_pos rfl, List.forall_mem_singleton, List.forall_mem_singleton, rm]
      constructor
      · rintro ⟨⟨plain, fits⟩, bare, others⟩
        exact ⟨⟨bare, fun _ => plain⟩, fits, others⟩
      · rintro ⟨⟨bare, plain⟩, fits, others⟩
        exact ⟨⟨plain rfl, fits⟩, bare, others⟩

end System

section Connect

variable {answers : Nat → Bool} {id : Nat} {ssid : List Byte} {psk : Text}

theorem plainText_of_all {text : Text} (notEmpty : text ≠ [])
    (all : ∀ char ∈ text, char ∉ special ∧ char ∉ patterns ∧ char ∉ ['#', '~']) :
    plainText text = true := by
  obtain ⟨first, rest, rfl⟩ := List.exists_cons_of_ne_nil notEmpty
  refine plainText_iff.mpr ⟨bareText_iff.mpr ⟨notEmpty, fun char member => (all char member).1,
    ?_⟩, fun char member => (all char member).2.1⟩
  exact decide_eq_true (all first List.mem_cons_self).2.2

theorem plain_number (id : Nat) : plainText (number id) = true := by
  have digits : ∀ char ∈ ['0', '1', '2', '3', '4', '5', '6', '7', '8', '9'],
      char ∉ special ∧ char ∉ patterns ∧ char ∉ ['#', '~'] := by decide
  refine plainText_of_all Nat.toDigits_ne_nil fun char member => ?_
  exact digits char (Param.digit_listed (Param.digits_isDigit member))

theorem plain_hex (ssid : List Byte) : plainText (hex ssid) = true ↔ ssid ≠ [] := by
  have digits : ∀ value < 16, Nat.digitChar value ∉ special ∧ Nat.digitChar value ∉ patterns ∧
      Nat.digitChar value ∉ ['#', '~'] := by decide
  constructor
  · rintro plain rfl
    exact absurd plain (by decide)
  · intro notEmpty
    obtain ⟨first, rest, rfl⟩ := List.exists_cons_of_ne_nil notEmpty
    refine plainText_of_all (List.cons_ne_nil _ _) fun char member => ?_
    obtain ⟨byte, _, isDigit⟩ := List.mem_flatMap.mp member
    have small : byte.toNat < 256 := byte.isLt
    simp only [List.mem_cons, List.not_mem_nil, or_false] at isDigit
    rcases isDigit with rfl | rfl
    · exact digits _ (by omega)
    · exact digits _ (by omega)

def ssidLine (id : Nat) (ssid : List Byte) : CommandLine :=
  ⟨128, setting id ++ " ssid ".toList ++ hex ssid,
    (settingWords id ++ ["ssid".toList, hex ssid]).map .argument⟩

theorem plain_setting (id : Nat) : ∀ word ∈ settingWords id, plainText word = true := by
  rw [settingWords, List.forall_mem_cons, List.forall_mem_cons, List.forall_mem_cons,
    List.forall_mem_singleton]
  exact ⟨plain_fixed _ (by decide), plain_fixed _ (by decide), plain_fixed _ (by decide),
    plain_number id⟩

theorem ssidLine_runs : (ssidLine id ssid).Runs ↔ ssid ≠ [] ∧ (ssidLine id ssid).Fits := by
  have plain : (∀ word ∈ settingWords id ++ ["ssid".toList, hex ssid],
      plainText word = true) ↔ ∀ arg ∈ [hex ssid], plainText arg = true := by
    rw [List.forall_mem_append, List.forall_mem_cons]
    constructor
    · rintro ⟨_, _, all⟩
      exact all
    · intro all
      exact ⟨plain_setting id, by decide, all⟩
  have isText : setting id ++ " ssid ".toList ++ hex ssid =
      joined (settingWords id ++ ["ssid".toList, hex ssid]) := by
    unfold setting settingWords
    simp [joined]
  have notEmpty : settingWords id ++ ["ssid".toList, hex ssid] ≠ [] :=
    List.append_ne_nil_of_right_ne_nil _ (List.cons_ne_nil _ _)
  have line := @runs_joined 128 _ _ _ (by decide) isText notEmpty plain
  rwa [List.forall_mem_singleton, plain_hex] at line

def pskLine (id : Nat) (psk : Text) : CommandLine :=
  ⟨128, setting id ++ " psk \\\"".toList ++ escape psk ++ "\\\"".toList,
    (settingWords id ++ ["psk".toList, '"' :: psk ++ ['"']]).map .argument⟩

theorem pskLine_runs : (pskLine id psk).Runs ↔ '\n' ∉ psk ∧ (pskLine id psk).Fits := by
  have plain : ∀ word ∈ settingWords id ++ ["psk".toList], plainText word = true :=
    List.forall_mem_append.mpr ⟨plain_setting id, List.forall_mem_singleton.mpr (by decide)⟩
  have isText : (pskLine id psk).text =
      blanked (settingWords id ++ ["psk".toList]) ++ escape ('"' :: (psk ++ ['"'])) := by
    unfold pskLine setting settingWords
    simp [blanked, escape]
  have isMeant : (pskLine id psk).meant = (settingWords id ++ ["psk".toList]).map Token.argument ++
      [Token.argument ('"' :: (psk ++ ['"']))] := by
    simp [pskLine]
  have line := read_take_escape plain (show '"' ≠ '\n' by decide) (psk ++ ['"']) 127
  have isSize : (pskLine id psk).size = 128 := rfl
  have noNewline : '\n' ∉ psk ++ ['"'] ↔ '\n' ∉ psk := by simp
  have whole : (blanked (settingWords id ++ ["psk".toList]) ++
      escape ('"' :: (psk ++ ['"']))).length =
        (blanked (settingWords id ++ ["psk".toList])).length +
          2 * ((psk ++ ['"']).length + 1) := by
    rw [List.length_append, length_escape, List.length_cons]
  rw [CommandLine.Runs, CommandLine.Fits, isText, isMeant, isSize, line, noNewline, whole]
  exact and_congr_right fun _ => Nat.lt_succ_iff.symm

section SetNetwork

theorem setNetwork_none : (∃ lines, setNetwork answers id ssid [] .none = some lines ∧
      ∀ line ∈ lines, line.Runs) ↔
    ssid ≠ [] ∧ ∃ lines, setNetwork answers id ssid [] .none = some lines ∧
      ∀ line ∈ lines, line.Fits := by
  have isLines : setNetwork answers id ssid [] .none =
      if 128 ≤ 2 * ssid.length then none else some [ssidLine id ssid] := by
    simp [setNetwork, ssidLine]
  rw [isLines]
  split
  · simp
  · simp [ssidLine_runs]

/-- With WPA the pass phrase is in the second line, whether it is empty or not. -/
theorem setNetwork_wpa : (∃ lines, setNetwork answers id ssid psk .wpa = some lines ∧
      ∀ line ∈ lines, line.Runs) ↔
    (ssid ≠ [] ∧ (answers 0 = true → '\n' ∉ psk)) ∧
      ∃ lines, setNetwork answers id ssid psk .wpa = some lines ∧ ∀ line ∈ lines, line.Fits := by
  have isLines : setNetwork answers id ssid psk .wpa =
      if 128 ≤ 2 * ssid.length ∨ 128 ≤ psk.length then none
      else if answers 0 = false then some [ssidLine id ssid]
      else if 128 ≤ 2 * psk.length then none
      else some [ssidLine id ssid, pskLine id psk] := by
    simp [setNetwork, ssidLine, pskLine]
  rw [isLines]
  split
  · simp
  split
  next notAnswered => simp [ssidLine_runs, notAnswered]
  next answered =>
    rw [Bool.not_eq_false] at answered
    split
    · simp
    · simp only [Option.some.injEq, exists_eq_left', List.forall_mem_cons, List.not_mem_nil,
        false_imp_iff, implies_true, and_true, ssidLine_runs, pskLine_runs, answered, true_imp_iff]
      exact and_and_and_comm

end SetNetwork

theorem rkWifiConnect_runs (outside : Outside) (ssid : List Byte) (psk : Text) :
    (∃ lines, rkWifiConnect outside ssid psk = some lines ∧ ∀ line ∈ lines, line.Runs) ↔
      (outside.connecting = false → outside.network ssid ≠ none →
        outside.original ssid ≠ [] ∧
          (outside.answers 0 = true → outside.isNonPsk ssid = false → '\n' ∉ psk)) ∧
        ∃ lines, rkWifiConnect outside ssid psk = some lines ∧ ∀ line ∈ lines, line.Fits := by
  unfold rkWifiConnect
  split
  next connecting => simp [connecting]
  next free =>
    rw [Bool.not_eq_true] at free
    cases found : outside.network ssid with
    | none => simp
    | some id =>
        have isFound : some id ≠ none := Option.some_ne_none id
        simp only [free, isFound, not_false_eq_true, true_imp_iff, ne_eq]
        split
        · simp
        split
        next isNonPsk =>
          rw [setNetwork_none]
          simp [isNonPsk]
        next hasPsk =>
          rw [setNetwork_wpa]
          simp [hasPsk]

end Connect

/-- The strings of a request are such that each is one word, or one file, as it stands. -/
def Request.Strings (outside : Outside) : Request → Prop
  | ipv4Set interface method address netmask gateway =>
      isStatic method = true → ∀ text ∈ [interface, shown address, shown netmask, shown gateway],
        plainText text = true
  | setMac ifname mac => plainText ifname = true ∧ plainText mac = true
  | exportLog path =>
      bareText path = true ∧ (outside.pathExists path = true → plainText path = true)
  | exportDb path | importDb path => plainText path = true
  | upgrade path => plainTail path = true
  | wifiConnect ssid psk =>
      outside.connecting = false → outside.network ssid ≠ none →
        outside.original ssid ≠ [] ∧
          (outside.answers 0 = true → outside.isNonPsk ssid = false → '\n' ∉ psk)

/-- Every line is as long as its array allows, and no other array overflows. -/
def Request.Fits (outside : Outside) (request : Request) : Prop :=
  ∃ lines, request.lines outside = some lines ∧ ∀ line ∈ lines, line.Fits

theorem some_runs {lines : List CommandLine} {strings : Prop}
    (runs : (∀ line ∈ lines, line.Runs) ↔ strings ∧ ∀ line ∈ lines, line.Fits) :
    (∃ given, some lines = some given ∧ ∀ line ∈ given, line.Runs) ↔
      strings ∧ ∃ given, some lines = some given ∧ ∀ line ∈ given, line.Fits := by
  simpa only [Option.some.injEq, exists_eq_left'] using runs

theorem oneArgument_iff (outside : Outside) (request : Request) :
    request.OneArgument outside ↔ request.Strings outside ∧ request.Fits outside := by
  cases request with
  | ipv4Set interface method address netmask gateway =>
      exact some_runs (ipv4Set_runs interface method address netmask gateway)
  | setMac ifname mac => exact some_runs (setMac_runs ifname mac)
  | exportLog path => exact some_runs (exportLog_runs (outside.pathExists path) path)
  | exportDb path => exact some_runs (exportDb_runs path)
  | importDb path => exact some_runs (importDb_runs path)
  | upgrade path => exact some_runs (upgrade_runs path)
  | wifiConnect ssid psk => exact rkWifiConnect_runs outside ssid psk

section Blank

/-- No other connection is made, every network is known and `wpa_cli` always answers. -/
def quiet : Outside where
  pathExists _ := false
  connecting := false
  network _ := some 0
  original ssid := ssid
  isNonPsk _ := false
  answers _ := true

/-- A path with a blank in it is two arguments. -/
theorem path_split :
    (rkSystemExportDb "/mnt/my disk".toList).map (fun line => read line.text) =
        [some (["cp".toList, "/userdata/rkipc.ini".toList, "/mnt/my".toList,
          "disk".toList].map .argument)] ∧
      ¬ Request.OneArgument quiet (.exportDb "/mnt/my disk".toList) := by
  constructor
  · unfold rkSystemExportDb
    repeat rw [String.toList_ofList]
    decide
  · rintro ⟨lines, isLines, runs⟩
    cases isLines
    exact absurd (runs _ List.mem_cons_self) (by decide)

end Blank

end Rkipc.Shell

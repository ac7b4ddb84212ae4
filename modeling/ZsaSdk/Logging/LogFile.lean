import ZsaSdk.Logging.Model
import Mathlib.Data.List.Infix

/-!
# The log file

`zsatypes.h` says which log file a value of the variable asks for: none for 0, the value itself if
it ends in `.log`, the default one otherwise.

*The offset.*  It is the distance of the last four characters from the start of the string, reduced
to the range of `char` (`extensionOffset_eq`).  If `char` is signed, it may be negative, and then
`strncmp` starts in front of the string.  If it is not, the comparison stays inside, and it looks at
the last four characters precisely if they are no further away than a `char` can say.

*The value 0.*  `logger_init_once` does not compare the value with 0, so this is a value like any
other that does not end in `.log`.
-/

namespace ZsaSdk

/-! ## What is documented -/

/-- The log file that a value of the variable asks for. -/
def documentedLogFile : Option CString → Option CString
  | none => none
  | some v =>
      if v.strlen = 0 ∨ v.chars = [48] then none
      else if 5 ≤ v.strlen ∧ logFileExtension.chars <:+ v.chars then some v
      else some zsaLogFileName

/-- The choice is the documented one and looks at nothing outside the value. -/
structure FollowsRule (v : Option CString) (choice : LogFileChoice) : Prop where
  logFile : choice.logFile = documentedLogFile v
  inside : ∀ s, v = some s → ∀ position ∈ choice.inspected, s.Inside position

/-- The value is not 0, its suffix is no further away than a `char` can say, and the offset, if it
is used, is not negative. -/
structure SuffixInReach (p : LogPlatform) (s : CString) : Prop where
  not_zero : s.chars ≠ [48]
  near : 5 ≤ s.strlen → logFileExtension.chars <:+ s.chars → (s.strlen : Int) - 4 ≤ p.charType.max
  nonneg : p.charSigned → 5 < (s.strlen + 1) % 2 ^ 32 → (s.strlen - 4) % 256 < 128

/-! ## The offset -/

variable {p : LogPlatform} {s : CString}

theorem pathLength_toNat (s : CString) : (pathLength s).toNat = (s.strlen + 1) % 2 ^ 32 := by
  rw [pathLength, UInt32.toNat_add, UInt32.toNat_ofNat', Nat.mod_add_mod]
  rfl

theorem extensionSz_lt_iff : extensionSz < pathLength s ↔ 5 < (s.strlen + 1) % 2 ^ 32 := by
  rw [UInt32.lt_iff_toNat_lt, pathLength_toNat]
  rfl

theorem four_lt_strlen (h : extensionSz < pathLength s) : 4 < s.strlen := by
  rw [extensionSz_lt_iff] at h
  have hmod := Nat.mod_le (s.strlen + 1) (2 ^ 32)
  omega

/-- The suffix of a path shorter than a `uint32_t` can count is looked for. -/
theorem extensionSz_lt_of_strlen (h : 4 < s.strlen) (hlt : s.strlen + 1 < 2 ^ 32) :
    extensionSz < pathLength s := by
  rw [extensionSz_lt_iff, Nat.mod_eq_of_lt hlt]
  omega

/-- The distance, less a multiple of the range of `char`. -/
theorem pathLength_sub_mod (h : extensionSz < pathLength s) :
    (pathLength s - extensionSz).toNat % 256 = (s.strlen - 4) % 256 := by
  have hlt := extensionSz_lt_iff.mp h
  have hsub := UInt32.toNat_sub_of_le (pathLength s) extensionSz (UInt32.le_of_lt h)
  have hsize : extensionSz.toNat = 5 := rfl
  rw [hsub, hsize, pathLength_toNat]
  omega

theorem LogPlatform.charType_max (p : LogPlatform) :
    p.charType.max = if p.charSigned then 127 else 255 := by
  rw [IntType.max, LogPlatform.charType]
  rfl

theorem LogPlatform.charType_max_bounds (p : LogPlatform) :
    127 ≤ p.charType.max ∧ p.charType.max ≤ 255 := by
  rw [p.charType_max]
  split
  · exact ⟨Int.le_refl 127, by decide⟩
  · exact ⟨by decide, Int.le_refl 255⟩

theorem extensionOffset_eq (h : extensionSz < pathLength s) :
    p.extensionOffset s =
      if p.charSigned ∧ 128 ≤ (s.strlen - 4) % 256 then ((s.strlen : Int) - 4) % 256 - 256
      else ((s.strlen : Int) - 4) % 256 := by
  have hlong := four_lt_strlen h
  have hresidue := pathLength_sub_mod h
  rw [LogPlatform.extensionOffset, IntType.cast_val]
  refine IntType.convert_eq ?_ ?_
  · rw [IntType.Holds, IntType.min, p.charType_max, LogPlatform.charType]
    cases p.charSigned with
    | true =>
        simp only [true_and, if_true]
        split <;> omega
    | false =>
        simp only [Bool.false_eq_true, false_and, if_false]
        omega
  · have hdvd : (2 : Int) ^ p.charType.bits = 256 := rfl
    rw [hdvd]
    split <;> omega

/-- The offset is negative if the distance is in the upper half of what a signed `char` wraps. -/
theorem extensionOffset_neg (h : extensionSz < pathLength s) (hsigned : p.charSigned)
    (hupper : 128 ≤ (s.strlen - 4) % 256) : p.extensionOffset s < 0 := by
  rw [extensionOffset_eq h, if_pos ⟨hsigned, hupper⟩]
  omega

/-- Otherwise it is a position of the string, with at least four characters behind it. -/
theorem extensionOffset_eq_natCast (h : extensionSz < pathLength s)
    (hnonneg : p.charSigned → (s.strlen - 4) % 256 < 128) :
    p.extensionOffset s = ((s.strlen - 4) % 256 : Nat) ∧ (s.strlen - 4) % 256 + 4 ≤ s.strlen := by
  have hlong := four_lt_strlen h
  have hmod := Nat.mod_le (s.strlen - 4) 256
  constructor
  · rw [extensionOffset_eq h, if_neg fun hneg => Nat.not_lt.mpr hneg.2 (hnonneg hneg.1)]
    omega
  · omega

/-- The position is that of the last four characters if they are near enough. -/
theorem mod_eq_distance_iff (hlong : 4 < s.strlen)
    (hnonneg : p.charSigned → (s.strlen - 4) % 256 < 128) :
    (s.strlen - 4) % 256 = s.strlen - 4 ↔ (s.strlen : Int) - 4 ≤ p.charType.max := by
  rw [p.charType_max]
  cases hsigned : p.charSigned with
  | true =>
      have hlt := hnonneg hsigned
      simp only [if_true]
      omega
  | false =>
      simp only [Bool.false_eq_true, if_false]
      omega

/-! ## The suffix -/

theorem drop_eq_extension_iff {k : Nat} (hk : k + 4 ≤ s.strlen) :
    s.chars.drop k = logFileExtension.chars ↔
      k = s.strlen - 4 ∧ logFileExtension.chars <:+ s.chars := by
  have hfour : logFileExtension.chars.length = 4 := rfl
  constructor
  · intro hdrop
    have hlength : (s.chars.drop k).length = 4 := by rw [hdrop, hfour]
    rw [List.length_drop] at hlength
    have hstrlen : s.strlen = s.chars.length := rfl
    exact ⟨by omega, hdrop ▸ List.drop_suffix k s.chars⟩
  · rintro ⟨hk, hsuffix⟩
    rw [List.suffix_iff_eq_drop, hfour] at hsuffix
    rw [hk, hsuffix]
    rfl

/-! ## The choice -/

theorem charAt_zero_eq_zero_iff : s.charAt 0 = 0 ↔ s.strlen = 0 := by
  constructor
  · intro hzero
    exact Nat.eq_zero_of_not_pos fun hpos => CString.charAt_ne_zero hpos hzero
  · intro hempty
    rw [← hempty, s.charAt_strlen]

theorem chooseLogFile_empty (hempty : s.strlen = 0) : chooseLogFile p (some s) = ⟨none, [0]⟩ := by
  rw [chooseLogFile, if_pos (charAt_zero_eq_zero_iff.mpr hempty)]

theorem chooseLogFile_short (hne : s.strlen ≠ 0) (h : ¬ extensionSz < pathLength s) :
    chooseLogFile p (some s) =
      ⟨some zsaLogFileName, 0 :: (List.range (s.strlen + 1)).map Int.ofNat⟩ := by
  rw [chooseLogFile, if_neg (mt charAt_zero_eq_zero_iff.mp hne)]
  simp only [if_neg h]

/-- The comparison of the suffix. -/
def comparedExtension (p : LogPlatform) (s : CString) : Int × Nat :=
  CString.strncmp (fun j => s.readAt p.around (p.extensionOffset s + j)) logFileExtension.charAt 5

theorem chooseLogFile_long (hne : s.strlen ≠ 0) (h : extensionSz < pathLength s) :
    chooseLogFile p (some s) =
      ⟨some (if (comparedExtension p s).1 = 0 then s else zsaLogFileName),
        0 :: (List.range (s.strlen + 1)).map Int.ofNat ++
          (List.range (comparedExtension p s).2).map
            fun j => p.extensionOffset s + Int.ofNat j⟩ := by
  rw [chooseLogFile, if_neg (mt charAt_zero_eq_zero_iff.mp hne)]
  simp only [if_pos h]
  rfl

/-! ### What is looked at -/

/-- The length of a string is found inside of it. -/
theorem inside_of_mem_strlen :
    ∀ position ∈ 0 :: (List.range (s.strlen + 1)).map Int.ofNat, s.Inside position := by
  intro position hmem
  cases hmem with
  | head => exact ⟨Int.le_refl 0, Int.natCast_nonneg s.strlen⟩
  | tail _ hmem =>
      obtain ⟨i, hi, rfl⟩ := List.mem_map.mp hmem
      exact ⟨Int.natCast_nonneg i, Int.ofNat_le.mpr (Nat.le_of_lt_succ (List.mem_range.mp hi))⟩

/-- Everything that is looked at is inside unless the offset is negative. -/
theorem inspected_inside_iff (hne : s.strlen ≠ 0) :
    (∀ position ∈ (chooseLogFile p (some s)).inspected, s.Inside position) ↔
      (p.charSigned → 5 < (s.strlen + 1) % 2 ^ 32 → (s.strlen - 4) % 256 < 128) := by
  rw [← extensionSz_lt_iff]
  constructor
  · intro hinside hsigned h
    refine Nat.lt_of_not_le fun hupper => ?_
    rw [chooseLogFile_long hne h] at hinside
    -- The first position that is compared is in front of the string.
    have hfirst : p.extensionOffset s + Int.ofNat 0 ∈
        (List.range (comparedExtension p s).2).map fun j => p.extensionOffset s + Int.ofNat j :=
      List.mem_map_of_mem (List.mem_range.mpr (CString.lt_compareFrom_snd 4 0))
    have hstart := (hinside _ (List.mem_append_right _ hfirst)).1
    have hneg := extensionOffset_neg h hsigned hupper
    rw [Int.ofNat_eq_natCast] at hstart
    omega
  · intro hnonneg
    by_cases h : extensionSz < pathLength s
    · obtain ⟨hoffset, hbound⟩ := extensionOffset_eq_natCast h fun hsigned => hnonneg hsigned h
      rw [chooseLogFile_long hne h]
      intro position hmem
      cases List.mem_append.mp hmem with
      | inl hlength => exact inside_of_mem_strlen position hlength
      | inr hcompared =>
          obtain ⟨j, hj, rfl⟩ := List.mem_map.mp hcompared
          have hlimit : j < 5 :=
            Nat.lt_of_lt_of_le (List.mem_range.mp hj) (CString.compareFrom_snd_le 5 0)
          rw [hoffset, Int.ofNat_eq_natCast, CString.Inside]
          omega
    · rw [chooseLogFile_short hne h]
      exact inside_of_mem_strlen

/-! ### The file that is chosen -/

/-- If everything that is looked at is inside, a value is its own log file precisely if it has a
suffix that is near enough. -/
theorem chooseLogFile_logFile (hne : s.strlen ≠ 0)
    (hnonneg : p.charSigned → 5 < (s.strlen + 1) % 2 ^ 32 → (s.strlen - 4) % 256 < 128) :
    (chooseLogFile p (some s)).logFile =
      some (if (5 ≤ s.strlen ∧ logFileExtension.chars <:+ s.chars) ∧
          (s.strlen : Int) - 4 ≤ p.charType.max then s else zsaLogFileName) := by
  by_cases h : extensionSz < pathLength s
  · have hlong := four_lt_strlen h
    have hnonneg := fun hsigned => hnonneg hsigned (extensionSz_lt_iff.mp h)
    obtain ⟨hoffset, hbound⟩ := extensionOffset_eq_natCast h hnonneg
    have hmatch : (comparedExtension p s).1 = 0 ↔
        (5 ≤ s.strlen ∧ logFileExtension.chars <:+ s.chars) ∧
          (s.strlen : Int) - 4 ≤ p.charType.max := by
      rw [comparedExtension, hoffset]
      refine (CString.strncmp_readAt_eq_zero_iff logFileExtension p.around hbound).trans ?_
      rw [drop_eq_extension_iff hbound, mod_eq_distance_iff hlong hnonneg]
      exact ⟨fun ⟨hnear, hsuffix⟩ => ⟨⟨hlong, hsuffix⟩, hnear⟩,
        fun ⟨⟨_, hsuffix⟩, hnear⟩ => ⟨hnear, hsuffix⟩⟩
    rw [chooseLogFile_long hne h]
    simp only [hmatch]
  · -- The path is shorter than a suffix needs, or longer than a `uint32_t` can count.
    have hfar : ¬ ((5 ≤ s.strlen ∧ logFileExtension.chars <:+ s.chars) ∧
        (s.strlen : Int) - 4 ≤ p.charType.max) := by
      rintro ⟨⟨hlong, _⟩, hnear⟩
      refine h (extensionSz_lt_of_strlen hlong ?_)
      have hmax := p.charType_max_bounds.2
      omega
    rw [chooseLogFile_short hne h, if_neg hfar]

/-- A value with a suffix that is not near enough is not the default name. -/
theorem ne_zsaLogFileName_of_far (hfar : ¬ (s.strlen : Int) - 4 ≤ p.charType.max) :
    s ≠ zsaLogFileName := by
  rintro rfl
  have hstrlen : zsaLogFileName.strlen = 7 := rfl
  have hmax := p.charType_max_bounds.1
  rw [hstrlen] at hfar
  omega

theorem logFile_documented_iff (hne : s.strlen ≠ 0) :
    some (if (5 ≤ s.strlen ∧ logFileExtension.chars <:+ s.chars) ∧
        (s.strlen : Int) - 4 ≤ p.charType.max then s else zsaLogFileName) =
      documentedLogFile (some s) ↔
    s.chars ≠ [48] ∧ (5 ≤ s.strlen → logFileExtension.chars <:+ s.chars →
      (s.strlen : Int) - 4 ≤ p.charType.max) := by
  rw [documentedLogFile]
  by_cases hzero : s.chars = [48]
  · rw [if_pos (Or.inr hzero)]
    exact ⟨fun h => absurd h nofun, fun h => absurd hzero h.1⟩
  · rw [if_neg (not_or.mpr ⟨hne, hzero⟩)]
    by_cases hsuffix : 5 ≤ s.strlen ∧ logFileExtension.chars <:+ s.chars
    · rw [if_pos hsuffix]
      by_cases hnear : (s.strlen : Int) - 4 ≤ p.charType.max
      · rw [if_pos ⟨hsuffix, hnear⟩]
        exact ⟨fun _ => ⟨hzero, fun _ _ => hnear⟩, fun _ => rfl⟩
      · rw [if_neg fun h => hnear h.2]
        refine ⟨fun h => ?_, fun h => absurd (h.2 hsuffix.1 hsuffix.2) hnear⟩
        exact absurd (Option.some.inj h).symm (ne_zsaLogFileName_of_far hnear)
    · rw [if_neg hsuffix, if_neg fun h => hsuffix h.1]
      exact ⟨fun _ => ⟨hzero, fun hlong hend => absurd ⟨hlong, hend⟩ hsuffix⟩, fun _ => rfl⟩

/-! ## The rule -/

theorem suffixInReach_of_empty (hempty : s.strlen = 0) : SuffixInReach p s where
  not_zero hzero := by
    rw [CString.strlen, hzero] at hempty
    exact Nat.one_ne_zero hempty
  near hlong := by
    rw [hempty] at hlong
    exact absurd hlong (by decide)
  nonneg _ hlong := by
    rw [hempty] at hlong
    exact absurd hlong (by decide)

theorem followsRule_some_iff (p : LogPlatform) (s : CString) :
    FollowsRule (some s) (chooseLogFile p (some s)) ↔ SuffixInReach p s := by
  by_cases hempty : s.strlen = 0
  · refine ⟨fun _ => suffixInReach_of_empty hempty, fun _ => ⟨?_, ?_⟩⟩
    · rw [chooseLogFile_empty hempty, documentedLogFile, if_pos (Or.inl hempty)]
    · rintro _ ⟨⟩ position hmem
      rw [chooseLogFile_empty hempty, List.mem_singleton] at hmem
      rw [hmem]
      exact ⟨Int.le_refl 0, Int.natCast_nonneg s.strlen⟩
  · constructor
    · rintro ⟨hlogFile, hinside⟩
      have hnonneg := (inspected_inside_iff hempty).mp (hinside s rfl)
      rw [chooseLogFile_logFile hempty hnonneg] at hlogFile
      obtain ⟨hzero, hnear⟩ := (logFile_documented_iff hempty).mp hlogFile
      exact ⟨hzero, hnear, hnonneg⟩
    · rintro ⟨hzero, hnear, hnonneg⟩
      refine ⟨?_, ?_⟩
      · rw [chooseLogFile_logFile hempty hnonneg]
        exact (logFile_documented_iff hempty).mpr ⟨hzero, hnear⟩
      · rintro _ ⟨⟩
        exact (inspected_inside_iff hempty).mpr hnonneg

/-- The log file is the documented one, and nothing outside the value is looked at, precisely if
the value is not 0 and its suffix is in reach. -/
theorem log_file_follows_rule_iff (p : LogPlatform) (opens : CString → Bool)
    (env : LoggerEnvironment) (global : LoggerContext) :
    FollowsRule env.enableFileLogging (loggerInitOnce p opens env global).choice ↔
      ∀ s, env.enableFileLogging = some s → SuffixInReach p s := by
  rw [loggerInitOnce]
  cases env.enableFileLogging with
  | none => exact ⟨fun _ _ h => absurd h nofun, fun _ => ⟨rfl, fun _ h => absurd h nofun⟩⟩
  | some v =>
      rw [followsRule_some_iff]
      exact ⟨fun h s hs => Option.some.inj hs ▸ h, fun h => h v rfl⟩

/-- `0` -/
def zeroValue : CString := ⟨[48], by simp⟩

/-- A path of 132 characters that ends in `.log`. -/
def longPath : CString where
  chars := List.replicate 128 97 ++ logFileExtension.chars
  ne_zero c hc := by
    cases List.mem_append.mp hc with
    | inl ha =>
        rw [List.eq_of_mem_replicate ha]
        decide
    | inr hextension => exact logFileExtension.ne_zero c hextension

/-- The value 0 enables the default log file, and the long path is compared with the suffix from 128
positions in front of its start on. -/
theorem log_file_breaks_rule :
    ¬ FollowsRule (some zeroValue) (loggerInitOnce ⟨true, fun _ => 0⟩ (fun _ => true)
        ⟨some zeroValue, none, none⟩ .zeroed).choice ∧
      ¬ FollowsRule (some longPath) (loggerInitOnce ⟨true, fun _ => 0⟩ (fun _ => true)
        ⟨some longPath, none, none⟩ .zeroed).choice := by
  constructor
  · intro h
    have hchosen : some zsaLogFileName = documentedLogFile (some zeroValue) := h.logFile
    exact absurd hchosen (by decide)
  · intro h
    have hinspected : -128 ∈ (chooseLogFile ⟨true, fun _ => 0⟩ (some longPath)).inspected := by
      decide +kernel
    exact absurd (h.inside longPath rfl (-128) hinspected).1 (by decide)

/-! ## The logger -/

namespace LoggerContext

variable {global : LoggerContext} {opens : CString → Bool}

@[simp] theorem envLogger_setLevel (loggingLevel : Option CString) :
    (global.setLevel loggingLevel).envLogger = global.envLogger := by
  rw [setLevel]
  split
  · rfl
  · rfl

/-- The standard output never takes the place of a file, nor is it one. -/
theorem openStdout_file_iff (enableStdoutLogging : Option CString) (f : CString) :
    (global.openStdout enableStdoutLogging).envLogger = some (.file f) ↔
      global.envLogger = some (.file f) := by
  rw [openStdout]
  split
  · next hnone =>
    split
    · rw [hnone]
      exact ⟨fun h => absurd h nofun, fun h => absurd h nofun⟩
    · rfl
  · rfl

theorem openLogFile_file_iff (hnone : global.envLogger = none) (logFile : Option CString)
    (f : CString) :
    (global.openLogFile opens logFile).envLogger = some (.file f) ↔
      logFile = some f ∧ opens f := by
  cases logFile with
  | none =>
      rw [openLogFile, hnone]
      exact ⟨fun h => absurd h nofun, fun h => absurd h.1 nofun⟩
  | some chosen =>
      rw [openLogFile]
      split
      · next hopens =>
        constructor
        · rintro ⟨⟩
          exact ⟨rfl, hopens⟩
        · rintro ⟨⟨⟩, _⟩
          rfl
      · next hfails =>
        refine ⟨fun h => absurd h nofun, ?_⟩
        rintro ⟨⟨⟩, hopens⟩
        exact absurd hopens hfails

end LoggerContext

/-- The logger writes to the file that was chosen if it can be opened, whatever the variable for the
standard output says. -/
theorem loggerInitOnce_file_iff {p : LogPlatform} {opens : CString → Bool} {env : LoggerEnvironment}
    {global : LoggerContext} (hnone : global.envLogger = none) (f : CString) :
    (loggerInitOnce p opens env global).global.envLogger = some (.file f) ↔
      (loggerInitOnce p opens env global).choice.logFile = some f ∧ opens f := by
  simp only [loggerInitOnce, LoggerContext.envLogger_setLevel, LoggerContext.openStdout_file_iff]
  refine LoggerContext.openLogFile_file_iff ?_ _ f
  exact hnone

end ZsaSdk

import ZsaSdk.Color.Model
import ZsaSdk.Lib.Steps

/-!
# The cache of control capabilities

`color_get_control_capabilities` asks the camera once for each command and keeps the answer.
What a query returns depends on the fixed registers, and for the exposure time also on the
powerline frequency in force, which `color_set_control` can change.  The cache does not follow
such a change, so its entry for the exposure time goes stale, unless the limits the camera
reports fall on the same entries of both columns of the table.
-/

namespace ZsaSdk

/-! ## Queries -/

section Queries

variable {α : Type} {answers : UvcRequest → Bool}

/-- A query that is answered in full. -/
theorem uvcGetRange_all (control : UvcControl) (range : UvcRange α) :
    uvcGetRange (fun _ => true) control range = some range := rfl

theorem uvcGet_some {request : UvcRequest} {register x : α}
    (h : uvcGet answers request register = some x) : register = x := by
  simp only [uvcGet] at h
  split at h
  · exact Option.some.inj h
  · cases h

/-- A range that could be read is the range of the camera. -/
theorem uvcGetRange_some {control : UvcControl} {range range' : UvcRange α}
    (h : uvcGetRange answers control range = some range') : range' = range := by
  simp only [uvcGetRange, Option.bind_eq_bind, Option.pure_def, Option.bind_eq_some_iff,
    Option.some.injEq] at h
  obtain ⟨min, hmin, max, hmax, res, hres, defaultValue, hdef, he⟩ := h
  rw [← he, ← uvcGet_some hmin, ← uvcGet_some hmax, ← uvcGet_some hres, ← uvcGet_some hdef]

variable {control autoControl : UvcControl} {range : UvcRange α} {f g : α → Int32}
  {mode : Option ColorControlMode} {old entry : ColorControlCap}

theorem manualCapabilities_succeeded
    (h : manualCapabilities answers control range f old = (entry, .succeeded)) :
    entry.valid = true ∧ ∀ old', manualCapabilities (fun _ => true) control range f old' =
      (entry, .succeeded) := by
  simp only [manualCapabilities] at h
  cases hr : uvcGetRange answers control range with
  | none =>
      rw [hr] at h
      cases h
  | some range' =>
      rw [hr] at h
      obtain rfl := uvcGetRange_some hr
      obtain rfl := (Prod.mk.inj h).1
      exact ⟨rfl, fun _ => rfl⟩

theorem manualCapabilities_failed
    (h : manualCapabilities answers control range f old = (entry, .failed)) :
    entry.valid = old.valid := by
  simp only [manualCapabilities] at h
  cases hr : uvcGetRange answers control range with
  | none =>
      rw [hr] at h
      rw [(Prod.mk.inj h).1]
  | some range' =>
      rw [hr] at h
      cases h

theorem autoCapabilities_succeeded
    (h : autoCapabilities answers autoControl mode control range f g old = (entry, .succeeded)) :
    entry.valid = true ∧ ∀ old', autoCapabilities (fun _ => true) autoControl mode control range f
      g old' = (entry, .succeeded) := by
  simp only [autoCapabilities] at h
  cases hm : (uvcGet answers (.getDef autoControl) mode).join with
  | none =>
      rw [hm] at h
      cases h
  | some defaultMode =>
      rw [hm] at h
      obtain rfl := uvcGet_some (Option.join_eq_some_iff.mp hm)
      cases hr : uvcGetRange answers control range with
      | none =>
          rw [hr] at h
          cases h
      | some range' =>
          rw [hr] at h
          obtain rfl := uvcGetRange_some hr
          obtain rfl := (Prod.mk.inj h).1
          exact ⟨rfl, fun _ => rfl⟩

/-- A default mode that was stored does not make the entry valid. -/
theorem autoCapabilities_failed
    (h : autoCapabilities answers autoControl mode control range f g old = (entry, .failed)) :
    entry.valid = old.valid := by
  simp only [autoCapabilities] at h
  cases hm : (uvcGet answers (.getDef autoControl) mode).join with
  | none =>
      rw [hm] at h
      rw [(Prod.mk.inj h).1]
  | some defaultMode =>
      rw [hm] at h
      cases hr : uvcGetRange answers control range with
      | none =>
          rw [hr] at h
          rw [← (Prod.mk.inj h).1]
      | some range' =>
          rw [hr] at h
          cases h

end Queries

/-- What a query of the camera returns that is answered in full. -/
def freshCapabilities (ranges : UvcRanges) (r : UvcCameraReader) (command : ColorControlCommand)
    (capabilities : ColorControlCap) : ColorControlCap × Result :=
  getCameraControlCapabilities (fun _ => true) r ranges command capabilities

section Queries

variable {ranges : UvcRanges} {answers : UvcRequest → Bool} {r r' : UvcCameraReader}
  {command : ColorControlCommand} {old entry : ColorControlCap}

/-- A query that succeeds makes the entry valid, and returns what any other query that
succeeds does. -/
theorem getCameraControlCapabilities_succeeded
    (h : getCameraControlCapabilities answers r ranges command old = (entry, .succeeded)) :
    entry.valid = true ∧
      ∀ old', freshCapabilities ranges r command old' = (entry, .succeeded) := by
  unfold freshCapabilities
  unfold getCameraControlCapabilities at h ⊢
  cases command with
  | exposureTimeAbsolute => exact autoCapabilities_succeeded h
  | autoExposurePriority =>
      obtain rfl := (Prod.mk.inj h).1
      exact ⟨rfl, fun _ => rfl⟩
  | brightness => exact manualCapabilities_succeeded h
  | contrast => exact manualCapabilities_succeeded h
  | saturation => exact manualCapabilities_succeeded h
  | sharpness => exact manualCapabilities_succeeded h
  | whitebalance => exact autoCapabilities_succeeded h
  | backlightCompensation => exact manualCapabilities_succeeded h
  | gain => exact manualCapabilities_succeeded h
  | powerlineFrequency => exact manualCapabilities_succeeded h
  | unknown value => cases h

/-- A query that fails leaves the entry as valid as it was. -/
theorem getCameraControlCapabilities_failed
    (h : getCameraControlCapabilities answers r ranges command old = (entry, .failed)) :
    entry.valid = old.valid := by
  unfold getCameraControlCapabilities at h
  cases command with
  | exposureTimeAbsolute => exact autoCapabilities_failed h
  | autoExposurePriority => cases h
  | brightness => exact manualCapabilities_failed h
  | contrast => exact manualCapabilities_failed h
  | saturation => exact manualCapabilities_failed h
  | sharpness => exact manualCapabilities_failed h
  | whitebalance => exact autoCapabilities_failed h
  | backlightCompensation => exact manualCapabilities_failed h
  | gain => exact manualCapabilities_failed h
  | powerlineFrequency => exact manualCapabilities_failed h
  | unknown value => rw [(Prod.mk.inj h).1]

/-- The limits of the exposure time fall on the same entries of the table. -/
def SameExposure (ranges : UvcRanges) (using60hzPower using60hzPower' : Bool) : Prop :=
  ∀ x ∈ [ranges.exposureAbs.min, ranges.exposureAbs.max, ranges.exposureAbs.defaultValue],
    mapLinuxExposureToK4a using60hzPower' x.toInt32 = mapLinuxExposureToK4a using60hzPower x.toInt32

/-- Of the state of the reader, a query depends on the powerline frequency alone, and only for
the exposure time. -/
theorem freshCapabilities_ne (h : command ≠ .exposureTimeAbsolute) :
    freshCapabilities ranges r' command = freshCapabilities ranges r command := by
  cases command with
  | exposureTimeAbsolute => exact absurd rfl h
  | _ => rfl

theorem freshCapabilities_exposure
    (h : freshCapabilities ranges r .exposureTimeAbsolute old = (entry, .succeeded)) :
    freshCapabilities ranges r' .exposureTimeAbsolute old = (entry, .succeeded) ↔
      SameExposure ranges r.using60hzPower r'.using60hzPower := by
  simp only [freshCapabilities, getCameraControlCapabilities, autoCapabilities] at h ⊢
  cases hm : (uvcGet (fun _ => true) (.getDef .aeMode) (aeModeOf ranges.aeModeDefault)).join with
  | none =>
      rw [hm] at h
      cases h
  | some defaultMode =>
      rw [hm] at h
      obtain rfl := (Prod.mk.inj h).1
      simp only [uvcGetRange_all, SameExposure, Prod.mk.injEq, ColorControlCap.mk.injEq,
        List.mem_cons, List.not_mem_nil, or_false, forall_eq_or_imp, forall_eq, and_true, true_and]

end Queries

/-! ## Runs of control calls -/

/-- A colour module and the current values of the controls of its camera. -/
structure ControlRun where
  color : ColorContext
  current : UvcCurrent

/-- A call on the module, with the requests that the camera answers, or a change of the current
values by the camera itself. -/
inductive ControlCall where
  | setControl (command : ColorControlCommand) (mode : ColorControlMode) (value : Int32)
      (answers : UvcRequest → Bool)
  | getControl (command : ColorControlCommand) (answers : UvcRequest → Bool)
  | getControlCapabilities (command : ColorControlCommand) (answers : UvcRequest → Bool)
  | cameraChanges (current : UvcCurrent)

namespace ControlRun

/-- One call.  `color_get_control` changes nothing. -/
def step (ranges : UvcRanges) (s : ControlRun) : ControlCall → Option ControlRun
  | .setControl command mode value answers =>
      let r := s.color.colorSetControl answers s.current command mode value
      some ⟨r.1, r.2.1⟩
  | .getControl _ _ => some s
  | .getControlCapabilities command answers =>
      some { s with color := (s.color.colorGetControlCapabilities answers ranges command).1 }
  | .cameraChanges current => some { s with current }

/-- Whatever the camera answers, `color_get_control_capabilities` returns nothing but what a
fresh query would. -/
def Coherent (ranges : UvcRanges) (s : ControlRun) : Prop :=
  ∀ command answers entry,
    (s.color.colorGetControlCapabilities answers ranges command).2 = some entry →
      ∀ old, freshCapabilities ranges s.color.cameraReader command old = (entry, .succeeded)

/-- A call of `color_get_control_capabilities` that fails leaves the entry of its command
invalid, so the next one queries the camera again. -/
def Requeried (ranges : UvcRanges) (s : ControlRun) : Prop :=
  ∀ command answers, command.known = true →
    (s.color.colorGetControlCapabilities answers ranges command).2 = none →
      ((s.color.colorGetControlCapabilities answers ranges command).1.controlCap
        command).valid = false

/-- The call does not change the powerline frequency while the capabilities of the exposure
time are cached, or the limits of the exposure time are the same at both frequencies. -/
def KeepsExposure (ranges : UvcRanges) (s : ControlRun) : ControlCall → Prop
  | .setControl .powerlineFrequency .manual value answers =>
      value ≠ 0 → answers (.setCur .powerLineFrequency) = true →
        (s.color.controlCap .exposureTimeAbsolute).valid = true →
          SameExposure ranges s.color.cameraReader.using60hzPower (value == 2)
  | _ => True

end ControlRun

namespace ColorContext

variable {ranges : UvcRanges} {answers : UvcRequest → Bool} {color : ColorContext}
  {command : ColorControlCommand}

/-! ## The cache -/

/-- Store an entry of the cache. -/
def setControlCap (color : ColorContext) (command : ColorControlCommand)
    (entry : ColorControlCap) : ColorContext :=
  { color with controlCap := fun c => if c = command then entry else color.controlCap c }

/-- A valid entry is returned without asking the camera. -/
theorem colorGetControlCapabilities_valid (hk : command.known = true)
    (hv : (color.controlCap command).valid = true) :
    color.colorGetControlCapabilities answers ranges command =
      (color, some (color.controlCap command)) := by
  have hsame : (fun c => if c = command then color.controlCap command else color.controlCap c) =
      color.controlCap := by
    funext c
    split
    · next hc => rw [hc]
    · rfl
  simp only [colorGetControlCapabilities, hk, hv, Bool.true_eq_false, if_false, hsame]

/-- Otherwise the camera is asked, and what comes back is stored whatever the result. -/
theorem colorGetControlCapabilities_invalid (hk : command.known = true)
    (hv : (color.controlCap command).valid = false) {entry : ColorControlCap} {result : Result}
    (hq : getCameraControlCapabilities answers color.cameraReader ranges command
      (color.controlCap command) = (entry, result)) :
    color.colorGetControlCapabilities answers ranges command =
      (color.setControlCap command entry, if result = .succeeded then some entry else none) := by
  simp only [colorGetControlCapabilities, hk, hv, Bool.true_eq_false, if_false, if_true, hq]
  cases result with
  | succeeded => rfl
  | failed => rfl

theorem colorGetControlCapabilities_unknown (hk : command.known = false) :
    color.colorGetControlCapabilities answers ranges command = (color, none) := by
  rw [colorGetControlCapabilities, if_pos hk]

end ColorContext

namespace ControlRun

open ColorContext

variable {ranges : UvcRanges} {s s' : ControlRun} {call : ControlCall}

/-- Coherence is a property of the valid entries. -/
theorem coherent_iff : Coherent ranges s ↔
    ∀ command, command.known = true → (s.color.controlCap command).valid = true →
      ∀ old, freshCapabilities ranges s.color.cameraReader command old =
        (s.color.controlCap command, .succeeded) := by
  constructor
  · intro h command hk hv
    refine h command (fun _ => true) _ ?_
    rw [colorGetControlCapabilities_valid hk hv]
  · intro h command answers entry hget
    cases hk : command.known with
    | false =>
        rw [colorGetControlCapabilities_unknown hk] at hget
        cases hget
    | true =>
        cases hv : (s.color.controlCap command).valid with
        | true =>
            rw [colorGetControlCapabilities_valid hk hv] at hget
            obtain rfl := Option.some.inj hget
            exact h command hk hv
        | false =>
            cases hq : getCameraControlCapabilities answers s.color.cameraReader ranges command
                (s.color.controlCap command) with
            | mk entry' result =>
                rw [colorGetControlCapabilities_invalid hk hv hq] at hget
                cases result with
                | failed => cases hget
                | succeeded =>
                    obtain rfl := Option.some.inj hget
                    exact (getCameraControlCapabilities_succeeded hq).2

/-- Every state re-queries after a failure. -/
theorem requeried (ranges : UvcRanges) (s : ControlRun) : Requeried ranges s := by
  intro command answers hk hget
  cases hv : (s.color.controlCap command).valid with
  | true =>
      rw [colorGetControlCapabilities_valid hk hv] at hget
      cases hget
  | false =>
      cases hq : getCameraControlCapabilities answers s.color.cameraReader ranges command
          (s.color.controlCap command) with
      | mk entry result =>
          rw [colorGetControlCapabilities_invalid hk hv hq] at hget ⊢
          cases result with
          | succeeded => cases hget
          | failed =>
              simp only [setControlCap, if_true]
              exact (getCameraControlCapabilities_failed hq).trans hv

/-- A query keeps the cache coherent: what it stores is fresh, or not valid. -/
theorem Coherent.getControlCapabilities (h : Coherent ranges s) (command : ColorControlCommand)
    (answers : UvcRequest → Bool) : Coherent ranges
      { s with color := (s.color.colorGetControlCapabilities answers ranges command).1 } := by
  cases hk : command.known with
  | false =>
      rw [colorGetControlCapabilities_unknown hk]
      exact h
  | true =>
      cases hv : (s.color.controlCap command).valid with
      | true =>
          rw [colorGetControlCapabilities_valid hk hv]
          exact h
      | false =>
          cases hq : getCameraControlCapabilities answers s.color.cameraReader ranges command
              (s.color.controlCap command) with
          | mk entry result =>
              rw [colorGetControlCapabilities_invalid hk hv hq]
              rw [coherent_iff] at h ⊢
              intro c hc hvalid
              simp only [setControlCap] at hvalid ⊢
              split
              · next he =>
                subst he
                rw [if_pos rfl] at hvalid
                cases result with
                | succeeded => exact (getCameraControlCapabilities_succeeded hq).2
                | failed =>
                    rw [getCameraControlCapabilities_failed hq, hv] at hvalid
                    cases hvalid
              · next he =>
                rw [if_neg he] at hvalid
                exact h c hc hvalid

/-- If the reader changes under a coherent cache, all depends on the entry for the exposure
time. -/
theorem Coherent.reader_iff (h : Coherent ranges s)
    (hcap : s'.color.controlCap = s.color.controlCap) :
    Coherent ranges s' ↔ ((s.color.controlCap .exposureTimeAbsolute).valid = true →
      SameExposure ranges s.color.cameraReader.using60hzPower
        s'.color.cameraReader.using60hzPower) := by
  rw [coherent_iff] at h ⊢
  rw [hcap]
  constructor
  · intro h' hv
    have hold := h .exposureTimeAbsolute rfl hv .zero
    exact (freshCapabilities_exposure hold).mp (h' .exposureTimeAbsolute rfl hv .zero)
  · intro hsame command hk hv old
    by_cases hc : command = .exposureTimeAbsolute
    · subst hc
      exact (freshCapabilities_exposure (h _ hk hv old)).mpr (hsame hv)
    · rw [freshCapabilities_ne hc]
      exact h command hk hv old

end ControlRun

/-! ## Setting a control -/

section Set

variable {answers : UvcRequest → Bool} {r : UvcCameraReader} {current : UvcCurrent}
  {command : ColorControlCommand} {mode : ColorControlMode} {value : Int32}

theorem initialized_setCameraControl :
    (setCameraControl answers r current command mode value).1.initialized = r.initialized := by
  simp only [setCameraControl]
  split
  · rfl
  · cases command with
    | powerlineFrequency =>
        simp only [setPowerlineFrequency]
        split
        · split
          · rfl
          · split <;> rfl
        · rfl
    | _ => rfl

/-- The reader itself changes in one case only. -/
theorem setCameraControl_reader :
    (setCameraControl answers r current command mode value).1 = r ∨
      command = .powerlineFrequency ∧ mode = .manual := by
  simp only [setCameraControl]
  split
  · exact Or.inl rfl
  · cases command with
    | powerlineFrequency =>
        cases mode with
        | manual => exact Or.inr ⟨rfl, rfl⟩
        | auto => exact Or.inl rfl
        | unknown n => exact Or.inl rfl
    | _ => exact Or.inl rfl

theorem setPowerlineFrequency_reader (hi : r.initialized = true) :
    (setCameraControl answers r current .powerlineFrequency .manual value).1 =
      if value ≠ 0 ∧ answers (.setCur .powerLineFrequency) = true
      then { r with using60hzPower := value == 2 } else r := by
  simp only [setCameraControl, hi, Bool.true_eq_false, if_false, setPowerlineFrequency, uvcSet]
  by_cases hv : value = 0
  · simp [hv]
  · cases ha : answers (.setCur .powerLineFrequency) with
    | false => simp [hv]
    | true => simp [hv]

end Set

namespace ColorContext

variable (color : ColorContext) (answers : UvcRequest → Bool) (ranges : UvcRanges)
  (current : UvcCurrent) (command : ColorControlCommand) (mode : ColorControlMode) (value : Int32)

theorem controlCap_colorSetControl :
    (color.colorSetControl answers current command mode value).1.controlCap = color.controlCap := by
  simp only [colorSetControl]
  split
  · rfl
  · split <;> rfl

theorem cameraReader_colorSetControl :
    (color.colorSetControl answers current command mode value).1.cameraReader =
        color.cameraReader ∨
      (color.colorSetControl answers current command mode value).1.cameraReader =
        (setCameraControl answers color.cameraReader current command mode value).1 := by
  simp only [colorSetControl]
  split
  · exact Or.inl rfl
  · split
    · exact Or.inl rfl
    · exact Or.inr rfl

/-- The reader changes only with the powerline frequency. -/
theorem cameraReader_colorSetControl_of_ne
    (hne : ¬ (command = .powerlineFrequency ∧ mode = .manual)) :
    (color.colorSetControl answers current command mode value).1.cameraReader =
      color.cameraReader := by
  rcases color.cameraReader_colorSetControl answers current command mode value with he | he
  · exact he
  · exact he.trans (setCameraControl_reader.resolve_right hne)

theorem cameraReader_colorGetControlCapabilities :
    (color.colorGetControlCapabilities answers ranges command).1.cameraReader =
      color.cameraReader := by
  simp only [colorGetControlCapabilities]
  split
  · rfl
  · split <;> rfl

end ColorContext

namespace ControlRun

open ColorContext

variable {ranges : UvcRanges} {s s' : ControlRun} {call : ControlCall}

theorem step_initialized (h : s.color.cameraReader.initialized = true)
    (hstep : s.step ranges call = some s') : s'.color.cameraReader.initialized = true := by
  cases call with
  | setControl command mode value answers =>
      obtain rfl := Option.some.inj hstep
      rcases cameraReader_colorSetControl s.color answers s.current command mode value with he | he
      · exact (congrArg UvcCameraReader.initialized he).trans h
      · exact (congrArg UvcCameraReader.initialized he).trans (initialized_setCameraControl.trans h)
  | getControl command answers =>
      obtain rfl := Option.some.inj hstep
      exact h
  | getControlCapabilities command answers =>
      obtain rfl := Option.some.inj hstep
      have he := cameraReader_colorGetControlCapabilities s.color answers ranges command
      exact (congrArg UvcCameraReader.initialized he).trans h
  | cameraChanges current =>
      obtain rfl := Option.some.inj hstep
      exact h

/-- A call that leaves the reader alone leaves a coherent cache coherent. -/
theorem Coherent.setControl_reader (h : Coherent ranges s) {command : ColorControlCommand}
    {mode : ColorControlMode} (hne : ¬ (command = .powerlineFrequency ∧ mode = .manual))
    (value : Int32) (answers : UvcRequest → Bool) (current : UvcCurrent) : Coherent ranges
      ⟨(s.color.colorSetControl answers s.current command mode value).1, current⟩ := by
  have hreader := s.color.cameraReader_colorSetControl_of_ne answers s.current command mode value
    hne
  refine (h.reader_iff (controlCap_colorSetControl ..)).mpr fun _ => ?_
  rw [hreader]
  exact fun _ _ => rfl

/-- A change of the powerline frequency keeps the cache coherent exactly if the entry for the
exposure time is not valid or remains right. -/
theorem Coherent.setPowerline_iff (h : Coherent ranges s)
    (hi : s.color.cameraReader.initialized = true) (value : Int32) (answers : UvcRequest → Bool)
    (current : UvcCurrent) : Coherent ranges
      ⟨(s.color.colorSetControl answers s.current .powerlineFrequency .manual value).1, current⟩ ↔
        s.KeepsExposure ranges (.setControl .powerlineFrequency .manual value answers) := by
  have hreader :
      (s.color.colorSetControl answers s.current .powerlineFrequency .manual value).1.cameraReader =
        if value ≠ 0 ∧ answers (.setCur .powerLineFrequency) = true
        then { s.color.cameraReader with using60hzPower := value == 2 } else s.color.cameraReader :=
    setPowerlineFrequency_reader hi
  rw [h.reader_iff (controlCap_colorSetControl ..), hreader, KeepsExposure]
  split
  · next hset => exact ⟨fun hs _ _ => hs, fun hs => hs hset.1 hset.2⟩
  · next hset => exact ⟨fun _ hv ha => absurd ⟨hv, ha⟩ hset, fun _ _ _ _ => rfl⟩

/-- One call keeps a coherent cache coherent exactly under the condition. -/
theorem Coherent.step_iff (h : Coherent ranges s) (hi : s.color.cameraReader.initialized = true)
    (call : ControlCall) :
    (∀ s', s.step ranges call = some s' → Coherent ranges s') ↔ s.KeepsExposure ranges call := by
  have hsome : ∀ v : ControlRun, (∀ s', some v = some s' → Coherent ranges s') ↔
      Coherent ranges v :=
    fun v => ⟨fun hv => hv v rfl, fun hv s' he => Option.some.inj he ▸ hv⟩
  cases call with
  | setControl command mode value answers =>
      refine (hsome _).trans ?_
      by_cases hne : command = .powerlineFrequency ∧ mode = .manual
      · obtain ⟨rfl, rfl⟩ := hne
        exact h.setPowerline_iff hi value answers _
      · refine iff_of_true (h.setControl_reader hne value answers _) ?_
        unfold KeepsExposure
        split
        · next heq =>
          obtain ⟨rfl, rfl, -⟩ := ControlCall.setControl.inj heq
          exact absurd ⟨rfl, rfl⟩ hne
        · trivial
  | getControl command answers => exact (hsome _).trans (iff_of_true h trivial)
  | getControlCapabilities command answers =>
      exact (hsome _).trans (iff_of_true (h.getControlCapabilities command answers) trivial)
  | cameraChanges current =>
      refine (hsome _).trans (iff_of_true ?_ trivial)
      exact h

end ControlRun

/-- For every run of control calls on a colour module: `color_get_control_capabilities` returns
what a fresh query would, in every state of the run, if and only if no call of the run changes
the powerline frequency while the capabilities of the exposure time are cached and the change
moves one of its limits.  A failed query leaves its entry to be queried again, without
condition. -/
theorem cached_capabilities_fresh_iff (ranges : UvcRanges) {containerId : Option Guid}
    {o : ColorContext.CreateOutcome} {color : ColorContext}
    (hcreate : ColorContext.colorCreate containerId o = some color) (current : UvcCurrent)
    (calls : List ControlCall) :
    (Steps.Always (ControlRun.step ranges) (ControlRun.Coherent ranges) ⟨color, current⟩ calls ↔
      Steps.Along (ControlRun.step ranges) (ControlRun.KeepsExposure ranges) ⟨color, current⟩
        calls) ∧
    Steps.Always (ControlRun.step ranges) (ControlRun.Requeried ranges) ⟨color, current⟩ calls := by
  obtain ⟨hi, -, hcap⟩ := ColorContext.colorCreate_spec hcreate
  have hcoherent : ControlRun.Coherent ranges ⟨color, current⟩ := by
    refine ControlRun.coherent_iff.mpr fun command _ hv => ?_
    rw [hcap command] at hv
    cases hv
  constructor
  · exact Steps.always_iff_along (I := fun s => s.color.cameraReader.initialized = true)
      (fun s call s' h hstep => ControlRun.step_initialized h hstep)
      (fun s call hinit h => h.step_iff hinit call) calls hi hcoherent
  · exact Steps.Always.of_invariant (fun _ _ s' _ _ => ControlRun.requeried ranges s') calls
      (ControlRun.requeried ranges _)

/-- A camera with exposure times from 0.5 ms to 130 ms. -/
def exampleRanges : UvcRanges where
  aeModeDefault := 8
  exposureAbs := ⟨5, 1300, 1, 83⟩
  brightness := ⟨0, 255, 1, 128⟩
  contrast := ⟨0, 10, 1, 5⟩
  saturation := ⟨0, 63, 1, 32⟩
  sharpness := ⟨0, 4, 1, 2⟩
  whiteBalanceTemperatureAutoDefault := 1
  whiteBalanceTemperature := ⟨2500, 12500, 10, 4500⟩
  backlightCompensation := ⟨0, 1, 1, 0⟩
  gain := ⟨0, 255, 1, 128⟩
  powerLineFrequency := ⟨1, 2, 1, 2⟩

/-- The registers of `exampleRanges` at their defaults. -/
def exampleCurrent : UvcCurrent := ⟨8, 83, 128, 5, 32, 2, 1, 4500, 0, 128, 2⟩

/-- A creation that goes through. -/
def createdOutcome : ColorContext.CreateOutcome := ⟨true, true, ⟨true, true, true⟩⟩

/-- The frequency is set before the capabilities are first asked for, and the camera does not
answer the second time. -/
theorem cached_capabilities_fresh_frequency_first :
    ∃ color, ColorContext.colorCreate (some Guid.zero) createdOutcome = some color ∧
      Steps.Always (ControlRun.step exampleRanges) (ControlRun.Coherent exampleRanges)
        ⟨color, exampleCurrent⟩
        [.setControl .powerlineFrequency .manual 1 (fun _ => true),
          .getControlCapabilities .exposureTimeAbsolute (fun _ => true),
          .getControlCapabilities .exposureTimeAbsolute (fun _ => false)] := by
  obtain ⟨color, hcolor⟩ : ∃ color,
      ColorContext.colorCreate (some Guid.zero) createdOutcome = some color := ⟨_, rfl⟩
  refine ⟨color, hcolor,
    (cached_capabilities_fresh_iff exampleRanges hcolor exampleCurrent _).1.mpr ?_⟩
  refine ⟨?_, fun _ _ => ⟨trivial, fun _ _ => ⟨trivial, fun _ _ => trivial⟩⟩⟩
  intro _ _ hv
  rw [(ColorContext.colorCreate_spec hcolor).2.2 .exposureTimeAbsolute] at hv
  cases hv

/-- The capabilities of the exposure time are read at 60 Hz, and the frequency is set to 50 Hz.
From then on the maximum that is returned is that of 60 Hz, while the camera's is another. -/
theorem stale_exposure_after_frequency_change :
    ∃ color, ColorContext.colorCreate (some Guid.zero) createdOutcome = some color ∧
      ∃ s entry fresh, Steps.run (ControlRun.step exampleRanges) ⟨color, exampleCurrent⟩
          [.getControlCapabilities .exposureTimeAbsolute (fun _ => true),
            .setControl .powerlineFrequency .manual 1 (fun _ => true)] = some s ∧
        (s.color.colorGetControlCapabilities (fun _ => true) exampleRanges
          .exposureTimeAbsolute).2 = some entry ∧
        freshCapabilities exampleRanges s.color.cameraReader .exposureTimeAbsolute .zero =
          (fresh, .succeeded) ∧
        entry.maxValue = 133330 ∧ fresh.maxValue = 130000 := by
  refine ⟨_, rfl, _, _, _, rfl, rfl, rfl, ?_, ?_⟩
  · rfl
  · rfl

end ZsaSdk

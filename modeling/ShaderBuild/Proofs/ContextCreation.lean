import Mathlib.Tactic.SplitIfs
import ShaderBuild.Context.Basic
import ShaderBuild.Proofs.QueryTrails

/-!
How a context is made, and what is tried where it cannot be. The trail of making one is laid out by
what the platform answered, from the list of devices to the search for GL functions. Every way out
has its own form: no display, no version that works, or a version that works, with or without the
functions that are needed (`Context.create_falls_back`).
-/

set_option autoImplicit false
set_option relaxedAutoImplicit false

namespace ShaderBuild

variable {γ α : Type} {machine : Machine γ}

/-- The failure of a context that a failure of the platform is taken for. -/
def ContextFailure.dueTo (failure : ContextFailure) (fault : EglFault) : Error :=
  .context failure (some (.egl fault))

theorem conducts_requestOrFail (failure : ContextFailure) (request : Egl.Request) :
    machine.Conducts (requestOrFail machine.egl failure request).run fun result trail ↦
      ∃ answer : request.Answer, result = answer.mapError failure.dueTo ∧
        trail = [.egl request answer] := by
  unfold requestOrFail
  refine Machine.conducts_run_egl_bind fun answer ↦ ?_
  cases answer with
  | ok result => exact Machine.conducts_pure ⟨.ok result, rfl, rfl⟩
  | error fault => exact Machine.conducts_pure ⟨.error fault, rfl, rfl⟩

theorem conducts_requestOrFail_bind {failure : ContextFailure} {request : Egl.Request}
    {next : request.Result → Attempt Deed γ α} {spec : Except Error α → List Deed → Prop}
    (herror : ∀ fault, spec (.error (failure.dueTo fault)) [.egl request (.error fault)])
    (hnext : ∀ result, machine.Conducts (next result).run fun a rest ↦
      spec a (.egl request (.ok result) :: rest)) :
    machine.Conducts (requestOrFail machine.egl failure request >>= next).run spec := by
  refine Machine.conducts_run_bind (conducts_requestOrFail failure request) ?_ ?_
  · rintro error trail ⟨answer, hanswer, rfl⟩
    cases answer with
    | ok result => cases hanswer
    | error fault =>
      cases hanswer
      exact herror fault
  · rintro result trail ⟨answer, hanswer, rfl⟩
    cases answer with
    | ok result =>
      cases hanswer
      exact hnext _
    | error fault => cases hanswer

/-- The EGL requests among the deeds, in order. -/
def requests (deeds : List Deed) : List Egl.Request :=
  deeds.filterMap fun
    | .egl request _ => some request
    | _ => none

@[simp]
theorem requests_nil : requests [] = [] := rfl

@[simp]
theorem requests_gl_cons (call : Gl.Call) (answer : call.Answer) (rest : List Deed) :
    requests (.gl call answer :: rest) = requests rest := rfl

@[simp]
theorem requests_egl_cons (request : Egl.Request) (answer : request.Answer) (rest : List Deed) :
    requests (.egl request answer :: rest) = request :: requests rest := rfl

@[simp]
theorem requests_logged_cons (record : Log.Record) (rest : List Deed) :
    requests (.logged record :: rest) = requests rest := rfl

@[simp]
theorem requests_append (first rest : List Deed) :
    requests (first ++ rest) = requests first ++ requests rest := List.filterMap_append

theorem Gl.RequireTrail.requests_eq_nil {names : List String} {result : Except Error Unit}
    {trail : List Deed} (h : Gl.RequireTrail names result trail) : requests trail = [] := by
  induction h with
  | complete => rfl
  | missing name rest => rfl
  | present name rest result later hlater ih => exact ih

theorem Gl.FindTrail.requests_eq_nil {major : Nat} {result : Except Error Gl.Functions}
    {trail : List Deed} (h : Gl.FindTrail major result trail) : requests trail = [] := by
  cases h with
  | missing error required hrequired => exact hrequired.requests_eq_nil
  | found binary required searched hrequired hsearched =>
    have hsearch : requests searched = [] := by cases hsearched <;> rfl
    rw [requests_append, hrequired.requests_eq_nil, hsearch, List.append_nil]

/-! ### A display -/

/-- The number of devices, and the trail of asking for it. Devices that cannot be listed count as
none. -/
inductive CountTrail : Nat → List Deed → Prop
  | listed (found : Nat) : CountTrail found [.egl .queryDevices (.ok found)]
  | unlisted (fault : EglFault) :
    CountTrail 0 [.egl .queryDevices (.error fault), .logged (.noEnumeration fault)]

theorem conducts_countDevices :
    machine.Conducts (countDevices machine.egl) CountTrail := by
  unfold countDevices
  refine Machine.conducts_bind (Machine.conducts_egl .queryDevices) fun answer _ hfirst ↦ ?_
  subst hfirst
  cases answer with
  | ok found => exact Machine.conducts_pure (.listed found)
  | error fault => exact Machine.conducts_log_bind (Machine.conducts_pure (.unlisted fault))

/-- Whether a display was opened, and the trail of opening it. Where there are devices it is the
requested one or none, and the default display is opened only where there is no device. -/
inductive DisplayTrail (requested : Nat) : Except Error Unit → List Deed → Prop
  | device (found : Nat) (counted : List Deed) (description : Option String)
      (answer : Except EglFault Unit) (hcounted : CountTrail found counted)
      (hfound : requested < found) :
    DisplayTrail requested (answer.mapError ContextFailure.display.dueTo)
      (counted ++ [.logged (.usingDevice requested description),
        .egl (.openDisplay (.device requested)) answer])
  | outOfRange (found : Nat) (counted : List Deed) (hcounted : CountTrail found counted)
      (hpos : 0 < found) (hfound : found ≤ requested) :
    DisplayTrail requested (.error (.context (.noDevice requested found) none)) counted
  | fallback (counted : List Deed) (answer : Except EglFault Unit)
      (hcounted : CountTrail 0 counted) :
    DisplayTrail requested (answer.mapError ContextFailure.display.dueTo)
      (counted ++ [.logged .usingDefaultDisplay, .egl (.openDisplay .fallback) answer])

theorem conducts_logDisplay_device (index : Nat) :
    machine.Conducts (logDisplay machine.egl (.device index)) fun _ trail ↦
      ∃ description, trail = [.logged (.usingDevice index description)] :=
  fun s ↦ ⟨rfl, machine.egl.describe? index s, rfl⟩

theorem conducts_connect (requested : Nat) :
    machine.Conducts (connect machine.egl requested).run (DisplayTrail requested) := by
  unfold connect
  refine Machine.conducts_run_lift_bind conducts_countDevices fun found counted hcounted ↦ ?_
  refine Machine.conducts_run_mk_bind (fun error hselect ↦ ?_) fun origin hselect ↦ ?_
  · rw [List.append_nil]
    unfold Egl.DisplayOrigin.select at hselect
    split_ifs at hselect with hnone hfound
    cases hselect
    exact .outOfRange found counted hcounted (by omega) (by omega)
  · unfold Egl.DisplayOrigin.select at hselect
    split_ifs at hselect with hnone hfound
    · cases hselect
      refine Machine.conducts_run_log_bind ((conducts_requestOrFail _ _).mono ?_)
      rintro result trail ⟨answer, rfl, rfl⟩
      exact .fallback counted answer (hnone ▸ hcounted)
    · cases hselect
      refine Machine.conducts_run_lift_bind (conducts_logDisplay_device requested)
        fun _ logged hlogged ↦ (conducts_requestOrFail _ _).mono ?_
      obtain ⟨description, rfl⟩ := hlogged
      rintro result trail ⟨answer, rfl, rfl⟩
      exact .device found counted description answer hcounted hfound

theorem CountTrail.requests_eq {found : Nat} {counted : List Deed} (h : CountTrail found counted) :
    requests counted = [.queryDevices] := by
  cases h <;> rfl

/-- No device is opened that was not listed. -/
theorem DisplayTrail.lt_of_device {requested index : Nat} {result : Except Error Unit}
    {opened : List Deed} (h : DisplayTrail requested result opened)
    (hdevice : .openDisplay (.device index) ∈ requests opened) :
    index = requested ∧ ∃ found, .egl .queryDevices (.ok found) ∈ opened ∧ index < found := by
  cases h with
  | device found counted description answer hcounted hfound =>
    obtain rfl : index = requested := by simpa [hcounted.requests_eq] using hdevice
    cases hcounted with
    | listed found => exact ⟨rfl, found, List.mem_cons_self, hfound⟩
    | unlisted fault => exact absurd hfound (Nat.not_lt_zero index)
  | outOfRange found counted hcounted hpos hfound => simp [hcounted.requests_eq] at hdevice
  | fallback counted answer hcounted => simp [hcounted.requests_eq] at hdevice

theorem DisplayTrail.lt_of_device_append {requested index : Nat} {result : Except Error Unit}
    {opened later : List Deed} (h : DisplayTrail requested result opened)
    (hlater : .openDisplay (.device index) ∉ requests later)
    (hdevice : .openDisplay (.device index) ∈ requests (opened ++ later)) :
    index = requested ∧ ∃ found, .egl .queryDevices (.ok found) ∈ opened ++ later ∧
      index < found := by
  rw [requests_append, List.mem_append, or_iff_left hlater] at hdevice
  obtain ⟨hindex, found, hfound, hlt⟩ := h.lt_of_device hdevice
  exact ⟨hindex, found, List.mem_append_left later hfound, hlt⟩

theorem DisplayTrail.error_ne_unstated {requested : Nat} {error : Error} {opened : List Deed}
    (h : DisplayTrail requested (.error error) opened) : error ≠ .context .creation none := by
  generalize hresult : (.error error : Except Error Unit) = result at h
  cases h with
  | device found counted description answer hcounted hfound =>
    cases answer with
    | ok opened => cases hresult
    | error fault =>
      cases hresult
      exact nofun
  | outOfRange found counted hcounted hpos hfound =>
    cases hresult
    exact nofun
  | fallback counted answer hcounted =>
    cases answer with
    | ok opened => cases hresult
    | error fault =>
      cases hresult
      exact nofun

/-! ### A version -/

namespace Context

/-- The configuration that is used, and the trail of choosing it. The first that is listed is taken.
A failure ends the search; only where none is listed is the search made for pixel buffers too. -/
inductive ConfigTrail (major : Nat) : Except Error Nat → List Deed → Prop
  | any (config : Nat) (others : List Nat) :
    ConfigTrail major (.ok config) [.egl (.findConfigs major .any) (.ok (config :: others))]
  | anyFailed (fault : EglFault) :
    ConfigTrail major (.error (ContextFailure.config.dueTo fault))
      [.egl (.findConfigs major .any) (.error fault)]
  | pbuffer (config : Nat) (others : List Nat) :
    ConfigTrail major (.ok config)
      [.egl (.findConfigs major .any) (.ok []),
        .egl (.findConfigs major .pbuffer) (.ok (config :: others))]
  | pbufferFailed (fault : EglFault) :
    ConfigTrail major (.error (ContextFailure.config.dueTo fault))
      [.egl (.findConfigs major .any) (.ok []), .egl (.findConfigs major .pbuffer) (.error fault)]
  | none :
    ConfigTrail major (.error (.context .config none))
      [.egl (.findConfigs major .any) (.ok []), .egl (.findConfigs major .pbuffer) (.ok [])]

theorem conducts_firstConfig_cons {major : Nat} {surface : Egl.Surface} {rest : List Egl.Surface}
    {spec : Except Error Nat → List Deed → Prop}
    (hfound : ∀ config others,
      spec (.ok config) [.egl (.findConfigs major surface) (.ok (config :: others))])
    (hfailed : ∀ fault, spec (.error (ContextFailure.config.dueTo fault))
      [.egl (.findConfigs major surface) (.error fault)])
    (hlater : machine.Conducts (firstConfig machine.egl major rest).run fun result later ↦
      spec result (.egl (.findConfigs major surface) (.ok []) :: later)) :
    machine.Conducts (firstConfig machine.egl major (surface :: rest)).run spec := by
  unfold firstConfig
  refine conducts_requestOrFail_bind hfailed fun configs ↦ ?_
  cases configs with
  | nil => exact hlater
  | cons config others => exact Machine.conducts_pure (hfound config others)

theorem conducts_firstConfig (major : Nat) :
    machine.Conducts (firstConfig machine.egl major surfaces).run (ConfigTrail major) :=
  conducts_firstConfig_cons .any .anyFailed
    (conducts_firstConfig_cons .pbuffer .pbufferFailed (Machine.conducts_pure .none))

/-- The context of one version, and the trail of making it. Each stage is reached through success
of the one before. -/
inductive ActivationTrail (major : Nat) : Except Error Nat → List Deed → Prop
  | unconfigured (error : Error) (chosen : List Deed)
      (hchosen : ConfigTrail major (.error error) chosen) :
    ActivationTrail major (.error error) chosen
  | uncreated (config : Nat) (chosen : List Deed) (fault : EglFault)
      (hchosen : ConfigTrail major (.ok config) chosen) :
    ActivationTrail major (.error (ContextFailure.creation.dueTo fault))
      (chosen ++ [.egl (.createContext config major) (.error fault)])
  | inactive (config : Nat) (chosen : List Deed) (handle : Nat) (fault : EglFault)
      (hchosen : ConfigTrail major (.ok config) chosen) :
    ActivationTrail major (.error (ContextFailure.activation.dueTo fault))
      (chosen ++ [.egl (.createContext config major) (.ok handle),
        .egl (.makeCurrent handle) (.error fault)])
  | active (config : Nat) (chosen : List Deed) (handle : Nat)
      (hchosen : ConfigTrail major (.ok config) chosen) :
    ActivationTrail major (.ok handle)
      (chosen ++ [.egl (.createContext config major) (.ok handle),
        .egl (.makeCurrent handle) (.ok ())])

theorem conducts_activate (major : Nat) :
    machine.Conducts (activate machine.egl major).run (ActivationTrail major) := by
  unfold activate
  refine Machine.conducts_run_bind (conducts_firstConfig major)
    (fun error chosen hchosen ↦ .unconfigured error chosen hchosen) fun config chosen hchosen ↦ ?_
  refine conducts_requestOrFail_bind (fun fault ↦ .uncreated config chosen fault hchosen)
    fun handle ↦ ?_
  refine conducts_requestOrFail_bind (fun fault ↦ .inactive config chosen handle fault hchosen)
    fun _ ↦ ?_
  exact Machine.conducts_pure (.active config chosen handle hchosen)

/-- The first of some versions that works, with its context, and the trail of trying them in order.
If none works the error is that of the last. -/
inductive FallbackTrail : List Nat → Except Error (Nat × Nat) → List Deed → Prop
  | active (major : Nat) (rest : List Nat) (handle : Nat) (tried : List Deed)
      (htried : ActivationTrail major (.ok handle) tried) :
    FallbackTrail (major :: rest) (.ok (major, handle)) tried
  | last (major : Nat) (error : Error) (tried : List Deed)
      (htried : ActivationTrail major (.error error) tried) :
    FallbackTrail [major] (.error error) (tried ++ [.logged (.contextUnavailable major error)])
  | abandoned (major next : Nat) (rest : List Nat) (error : Error) (tried : List Deed)
      (result : Except Error (Nat × Nat)) (later : List Deed)
      (htried : ActivationTrail major (.error error) tried)
      (hlater : FallbackTrail (next :: rest) result later) :
    FallbackTrail (major :: next :: rest) result
      (tried ++ .logged (.contextUnavailable major error) :: later)

theorem conducts_activateFirst_cons {last : Error} {major : Nat} {rest : List Nat}
    {spec : Except Error (Nat × Nat) → List Deed → Prop}
    (hactive : ∀ handle tried, ActivationTrail major (.ok handle) tried →
      spec (.ok (major, handle)) tried)
    (hlater : ∀ error tried, ActivationTrail major (.error error) tried →
      machine.Conducts (activateFirst machine.egl error rest).run fun result later ↦
        spec result (tried ++ .logged (.contextUnavailable major error) :: later)) :
    machine.Conducts (activateFirst machine.egl last (major :: rest)).run spec := by
  unfold activateFirst
  refine Machine.conducts_run_lift_bind (conducts_activate major) fun result tried htried ↦ ?_
  cases result with
  | ok handle =>
    refine Machine.conducts_pure ?_
    rw [List.append_nil]
    exact hactive handle tried htried
  | error error => exact Machine.conducts_run_log_bind (hlater error tried htried)

theorem conducts_activateFirst (last : Error) (major : Nat) (rest : List Nat) :
    machine.Conducts (activateFirst machine.egl last (major :: rest)).run
      (FallbackTrail (major :: rest)) := by
  induction rest generalizing last major with
  | nil =>
    exact conducts_activateFirst_cons
      (fun handle tried htried ↦ .active major [] handle tried htried)
      fun error tried htried ↦ Machine.conducts_pure (.last major error tried htried)
  | cons next rest ih =>
    exact conducts_activateFirst_cons
      (fun handle tried htried ↦ .active major (next :: rest) handle tried htried)
      fun error tried htried ↦ (ih error next).mono fun result later hlater ↦
        .abandoned major next rest error tried result later htried hlater

/-- A version opens no display. -/
theorem ConfigTrail.openDisplay_not_mem {major : Nat} {result : Except Error Nat}
    {chosen : List Deed} (h : ConfigTrail major result chosen) (origin : Egl.DisplayOrigin) :
    .openDisplay origin ∉ requests chosen := by
  cases h <;> simp

theorem ActivationTrail.openDisplay_not_mem {major : Nat} {result : Except Error Nat}
    {tried : List Deed} (h : ActivationTrail major result tried) (origin : Egl.DisplayOrigin) :
    .openDisplay origin ∉ requests tried := by
  cases h with
  | unconfigured error chosen hchosen => exact hchosen.openDisplay_not_mem origin
  | uncreated config chosen fault hchosen => simp [hchosen.openDisplay_not_mem origin]
  | inactive config chosen handle fault hchosen => simp [hchosen.openDisplay_not_mem origin]
  | active config chosen handle hchosen => simp [hchosen.openDisplay_not_mem origin]

theorem FallbackTrail.openDisplay_not_mem {versions : List Nat} {result : Except Error (Nat × Nat)}
    {tried : List Deed} (h : FallbackTrail versions result tried) (origin : Egl.DisplayOrigin) :
    .openDisplay origin ∉ requests tried := by
  induction h with
  | active major rest handle tried htried => exact htried.openDisplay_not_mem origin
  | last major error tried htried => simp [htried.openDisplay_not_mem origin]
  | abandoned major next rest error tried result later htried hlater ih =>
    simp [htried.openDisplay_not_mem origin, ih]

/-- The error of a version tells which stage failed. -/
theorem ActivationTrail.error_ne_unstated {major : Nat} {error : Error} {tried : List Deed}
    (h : ActivationTrail major (.error error) tried) : error ≠ .context .creation none := by
  cases h with
  | unconfigured error chosen hchosen => cases hchosen <;> exact nofun
  | uncreated config chosen fault hchosen => exact nofun
  | inactive config chosen handle fault hchosen => exact nofun

theorem FallbackTrail.error_ne_unstated {versions : List Nat} {error : Error} {tried : List Deed}
    (h : FallbackTrail versions (.error error) tried) : error ≠ .context .creation none := by
  generalize hresult : (.error error : Except Error (Nat × Nat)) = result at h
  induction h with
  | active major rest handle tried htried => cases hresult
  | last major error tried htried =>
    cases hresult
    exact htried.error_ne_unstated
  | abandoned major next rest error tried result later htried hlater ih => exact ih hresult

/-! ### GL functions -/

/-- A context whose functions were looked for, and the trail of preparing it. Nothing more is
requested of EGL. -/
inductive PrepareTrail (major handle : Nat) : Except Error Context → List Deed → Prop
  | missing (error : Error) (searched : List Deed)
      (hsearched : Gl.FindTrail major (.error error) searched) :
    PrepareTrail major handle (.error error) searched
  | prepared (functions : Gl.Functions) (searched introduced : List Deed)
      (hsearched : Gl.FindTrail major (.ok functions) searched)
      (hintroduced : requests introduced = []) :
    PrepareTrail major handle (.ok { handle, functions }) (searched ++ introduced)

theorem PrepareTrail.requests_eq_nil {major handle : Nat} {result : Except Error Context}
    {prepared : List Deed} (h : PrepareTrail major handle result prepared) :
    requests prepared = [] := by
  cases h with
  | missing error searched hsearched => exact hsearched.requests_eq_nil
  | prepared functions searched introduced hsearched hintroduced =>
    rw [requests_append, hsearched.requests_eq_nil, hintroduced, List.append_nil]

theorem PrepareTrail.error_ne_unstated {major handle : Nat} {error : Error} {prepared : List Deed}
    (h : PrepareTrail major handle (.error error) prepared) :
    error ≠ .context .creation none := by
  cases h with
  | missing error searched hsearched =>
    cases hsearched with
    | missing error required hrequired =>
      obtain ⟨name, -, rfl⟩ := hrequired.exists_missing
      exact nofun

theorem conducts_introduce (string : Log.GlString) :
    machine.Conducts (introduce machine.gl string) fun _ trail ↦ requests trail = [] :=
  Machine.conducts_gl_bind fun _ ↦ (Machine.conducts_log _).mono fun _ _ htrail ↦ htrail ▸ rfl

theorem conducts_hasBinaryFormats (major : Nat) :
    machine.Conducts (hasBinaryFormats machine.gl major) fun _ trail ↦ requests trail = [] := by
  have hsupports : machine.Conducts (supportsBinaries machine.gl major)
      fun _ trail ↦ requests trail = [] := by
    unfold supportsBinaries
    split_ifs
    · exact Machine.conducts_pure rfl
    · exact Machine.conducts_gl_bind fun _ ↦ Machine.conducts_pure rfl
  unfold hasBinaryFormats
  refine Machine.conducts_bind hsupports fun supported first hfirst ↦ ?_
  split_ifs
  · exact Machine.conducts_gl_bind fun _ ↦ Machine.conducts_pure (by simp [hfirst])
  · exact Machine.conducts_pure (by simp [hfirst])

theorem conducts_prepare (major handle : Nat) :
    machine.Conducts (prepare machine.gl major handle).run (PrepareTrail major handle) := by
  unfold prepare
  refine Machine.conducts_run_bind (Gl.conducts_find major)
    (fun error searched hsearched ↦ .missing error searched hsearched)
    fun functions searched hsearched ↦ ?_
  refine Machine.conducts_run_lift_bind (conducts_introduce .vendor) fun _ vendor hvendor ↦ ?_
  refine Machine.conducts_run_lift_bind (conducts_introduce .renderer) fun _ renderer hrenderer ↦ ?_
  refine Machine.conducts_run_lift_bind (conducts_introduce .version) fun _ version hversion ↦ ?_
  refine Machine.conducts_run_lift_bind (conducts_hasBinaryFormats major)
    fun known formats hformats ↦ ?_
  cases known with
  | true =>
    refine Machine.conducts_pure (.prepared functions searched _ hsearched ?_)
    simp [hvendor, hrenderer, hversion, hformats]
  | false =>
    refine Machine.conducts_run_log_bind
      (Machine.conducts_pure (.prepared functions searched _ hsearched ?_))
    simp [hvendor, hrenderer, hversion, hformats]

/-! ### The whole way -/

/-- What making a context ends with, and its trail. A context that is current but lacks a function
is not replaced by one of another version. -/
inductive CreationTrail (request : ContextRequest) : Except Error Context → List Deed → Prop
  | undisplayed (error : Error) (opened : List Deed)
      (hopened : DisplayTrail request.device (.error error) opened) :
    CreationTrail request (.error error) opened
  | unavailable (error : Error) (opened tried : List Deed)
      (hopened : DisplayTrail request.device (.ok ()) opened)
      (htried : FallbackTrail (if request.major < 3 then [2] else [3, 2]) (.error error) tried) :
    CreationTrail request (.error error) (opened ++ tried)
  | current (major handle : Nat) (result : Except Error Context) (opened tried prepared : List Deed)
      (hopened : DisplayTrail request.device (.ok ()) opened)
      (htried : FallbackTrail (if request.major < 3 then [2] else [3, 2]) (.ok (major, handle))
        tried)
      (hprepared : PrepareTrail major handle result prepared) :
    CreationTrail request result (opened ++ (tried ++ prepared))

theorem conducts_create (request : ContextRequest) :
    machine.Conducts (create machine request).run (CreationTrail request) := by
  have hfirst : machine.Conducts
      (activateFirst machine.egl (.context .creation none) (versions request.major)).run
      (FallbackTrail (if request.major < 3 then [2] else [3, 2])) := by
    unfold versions
    split_ifs with hnew hold
    · omega
    · exact conducts_activateFirst _ 3 [2]
    · exact conducts_activateFirst _ 2 []
    · omega
  unfold create
  refine Machine.conducts_run_bind (conducts_connect request.device)
    (fun error opened hopened ↦ .undisplayed error opened hopened) fun _ opened hopened ↦ ?_
  refine Machine.conducts_run_bind hfirst
    (fun error tried htried ↦ .unavailable error opened tried hopened htried)
    fun current tried htried ↦ ?_
  exact (conducts_prepare current.1 current.2).mono fun result prepared hprepared ↦
    .current current.1 current.2 result opened tried prepared hopened htried hprepared

theorem CreationTrail.lt_of_device {request : ContextRequest} {result : Except Error Context}
    {trail : List Deed} {index : Nat} (h : CreationTrail request result trail)
    (hdevice : .openDisplay (.device index) ∈ requests trail) :
    index = request.device ∧ ∃ found, .egl .queryDevices (.ok found) ∈ trail ∧ index < found := by
  cases h with
  | undisplayed error opened hopened => exact hopened.lt_of_device hdevice
  | unavailable error opened tried hopened htried =>
    exact hopened.lt_of_device_append (htried.openDisplay_not_mem _) hdevice
  | current major handle result opened tried prepared hopened htried hprepared =>
    refine hopened.lt_of_device_append ?_ hdevice
    rw [requests_append, hprepared.requests_eq_nil, List.append_nil]
    exact htried.openDisplay_not_mem _

/-- The error that is held ready for the case that no version is tried is never the outcome. -/
theorem CreationTrail.error_ne_unstated {request : ContextRequest} {error : Error}
    {trail : List Deed} (h : CreationTrail request (.error error) trail) :
    error ≠ .context .creation none := by
  cases h with
  | undisplayed error opened hopened => exact hopened.error_ne_unstated
  | unavailable error opened tried hopened htried => exact htried.error_ne_unstated
  | current major handle result opened tried prepared hopened htried hprepared =>
    exact hprepared.error_ne_unstated

/-- Whatever a platform answers, the way to a context is one of those laid out in `CreationTrail`.
No device is opened that was not listed, and every error tells what failed. -/
theorem create_falls_back (machine : Machine γ) (request : ContextRequest) (s : γ) :
    let ending := (create machine request).run s
    machine.Performs s ending.trail ending.state ∧
      CreationTrail request ending.value ending.trail ∧
      (∀ index, .openDisplay (.device index) ∈ requests ending.trail →
        index = request.device ∧
          ∃ found, .egl .queryDevices (.ok found) ∈ ending.trail ∧ index < found) ∧
      ending.value ≠ .error (.context .creation none) := by
  intro ending
  have hcreates : machine.Conducts (create machine request).run (CreationTrail request) :=
    conducts_create request
  obtain ⟨hperforms, hcreation⟩ := hcreates s
  refine ⟨hperforms, hcreation, fun index ↦ hcreation.lt_of_device, fun herror ↦ ?_⟩
  rw [herror] at hcreation
  exact hcreation.error_ne_unstated rfl

end Context

end ShaderBuild

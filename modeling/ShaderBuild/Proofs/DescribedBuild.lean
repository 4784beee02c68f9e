import ShaderBuild.Driver.Canned
import ShaderBuild.Proofs.BuildTrails

/-!
Builds with a driver that describes a canned pair. What such a driver answers about its objects is
laid down beforehand, whatever it does to find the answers and whatever numbers it gives to the
objects. What a compilation, a link and an extraction come to is then laid down too.
-/

set_option autoImplicit false
set_option relaxedAutoImplicit false

namespace ShaderBuild

variable {σ : Type}

/-! ### What is described -/

/-- What was done to an object so far. -/
inductive Made where
  | shader (shader : ShaderId) (stage : Stage)
  | compiled (shader : ShaderId) (stage : Stage)
  | program (program : ProgramId)
  | linked (program : ProgramId)

namespace Canned

/-- The parameters of a program that a build asks for. -/
def parameters : List Gl.Code :=
  [.infoLogLength, .activeAttributes, .activeAttributeMaxLength, .activeUniforms,
    .activeUniformMaxLength, .programBinaryLength]

/-- The variable at a place, unless it is rejected there. -/
def variableAt (canned : Canned) (interface : Interface) (index : Nat) : Option ActiveVariable :=
  if canned.rejected = some (.ofNat index) then none else (canned.active interface)[index]?

/-- All variables that are not rejected. -/
def members (canned : Canned) (interface : Interface) : List Variable :=
  (List.range (canned.active interface).length).filterMap fun index ↦
    (canned.variableAt interface index).map ActiveVariable.toVariable

/-- Objects are not refused, logs do not end in terminators, and what is counted can be counted in
32 bits, terminators included. -/
structure IsRegular (canned : Canned) : Prop where
  refusesObjects_eq_false : canned.refusesObjects = false
  shaderLog_unterminated : ∀ stage, (canned.verdict stage).infoLog.toList.getLast? ≠ some '\x00'
  linkLog_unterminated : canned.link.infoLog.toList.getLast? ≠ some '\x00'
  linkLog_lt : canned.link.infoLog.utf8ByteSize < 0x7FFFFFFF
  active_lt : ∀ interface, (canned.active interface).length < 0x7FFFFFFF
  name_lt : ∀ interface, ∀ described ∈ canned.active interface,
    described.name.utf8ByteSize < 0x7FFFFFFF
  binary_lt : canned.binary.payload.length < 0x7FFFFFFF

/-- Objects are not refused, and what is counted can be counted in 32 bits, terminators included.
Logs may end in anything. -/
structure IsCountable (canned : Canned) : Prop where
  refusesObjects_eq_false : canned.refusesObjects = false
  linkLog_lt : canned.link.infoLog.utf8ByteSize < 0x7FFFFFFF
  active_lt : ∀ interface, (canned.active interface).length < 0x7FFFFFFF
  name_lt : ∀ interface, ∀ described ∈ canned.active interface,
    described.name.utf8ByteSize < 0x7FFFFFFF
  binary_lt : canned.binary.payload.length < 0x7FFFFFFF

theorem IsRegular.isCountable {canned : Canned} (h : canned.IsRegular) : canned.IsCountable where
  refusesObjects_eq_false := h.refusesObjects_eq_false
  linkLog_lt := h.linkLog_lt
  active_lt := h.active_lt
  name_lt := h.name_lt
  binary_lt := h.binary_lt

/-! ### Parameters -/

theorem countParameter_mem (interface : Interface) :
    interface.countParameter ∈ parameters := by
  cases interface <;> decide

theorem maxLengthParameter_mem (interface : Interface) :
    interface.maxLengthParameter ∈ parameters := by
  cases interface <;> decide

theorem parameter_countParameter (canned : Canned) (interface : Interface) :
    canned.parameter interface.countParameter =
      Int32.ofNat (canned.active interface).length := by
  cases interface <;> rfl

theorem parameter_maxLengthParameter (canned : Canned) (interface : Interface) :
    canned.parameter interface.maxLengthParameter = longestName (canned.active interface) := by
  cases interface <;> rfl

theorem parameter_programBinaryLength (canned : Canned) :
    canned.parameter .programBinaryLength = Int32.ofNat canned.binary.payload.length := rfl

/-! ### The longest name -/

/-- The size of the longest name, terminator included; zero if there is no variable. -/
def maxNameLength (listed : List ActiveVariable) : Nat :=
  (listed.map fun described ↦ described.name.utf8ByteSize + 1).foldl max 0

theorem foldl_max_le_iff (sizes : List Nat) (start bound : Nat) :
    sizes.foldl max start ≤ bound ↔ start ≤ bound ∧ ∀ size ∈ sizes, size ≤ bound := by
  induction sizes generalizing start with
  | nil => simp
  | cons size rest ih =>
    rw [List.foldl_cons, ih, Nat.max_le, List.forall_mem_cons, and_assoc]

theorem maxNameLength_le_iff (listed : List ActiveVariable) (bound : Nat) :
    maxNameLength listed ≤ bound ↔
      ∀ described ∈ listed, described.name.utf8ByteSize + 1 ≤ bound := by
  simp [maxNameLength, foldl_max_le_iff]

theorem lt_maxNameLength {listed : List ActiveVariable} {described : ActiveVariable}
    (h : described ∈ listed) : described.name.utf8ByteSize < maxNameLength listed :=
  (maxNameLength_le_iff listed _).mp (Nat.le_refl _) described h

theorem max_ofNat {a b : Nat} (ha : a < 0x80000000) (hb : b < 0x80000000) :
    max (Int32.ofNat a) (Int32.ofNat b) = Int32.ofNat (max a b) := by
  show (if Int32.ofNat a ≤ Int32.ofNat b then Int32.ofNat b else Int32.ofNat a) = _
  rw [Nat.max_def, apply_ite Int32.ofNat]
  simp only [Int32.ofNat_le_iff_le ha hb]

theorem foldl_max_map_ofNat {sizes : List Nat} {start : Nat} (hstart : start < 0x80000000)
    (hsizes : ∀ size ∈ sizes, size < 0x80000000) :
    (sizes.map Int32.ofNat).foldl max (Int32.ofNat start) =
      Int32.ofNat (sizes.foldl max start) := by
  induction sizes generalizing start with
  | nil => rfl
  | cons size rest ih =>
    obtain ⟨hsize, hrest⟩ := List.forall_mem_cons.mp hsizes
    rw [List.map_cons, List.foldl_cons, List.foldl_cons, max_ofNat hstart hsize]
    exact ih (Nat.max_lt.mpr ⟨hstart, hsize⟩) hrest

/-- Where every size fits into 32 bits it makes no difference that they are cut. -/
theorem longestName_eq_ofNat {listed : List ActiveVariable}
    (h : ∀ described ∈ listed, described.name.utf8ByteSize < 0x7FFFFFFF) :
    longestName listed = Int32.ofNat (maxNameLength listed) := by
  have hsizes : (listed.map fun described ↦ Int32.ofNat described.name.utf8ByteSize + 1) =
      (listed.map fun described ↦ described.name.utf8ByteSize + 1).map Int32.ofNat := by
    rw [List.map_map]
    exact List.map_congr_left fun described _ ↦ (Int32.ofNat_add _ 1).symm
  rw [longestName, hsizes, maxNameLength]
  cases listed with
  | nil => rfl
  | cons described rest =>
    obtain ⟨hdescribed, hrest⟩ := List.forall_mem_cons.mp h
    rw [List.map_cons, List.map_cons, List.max?_cons', Option.getD_some, List.foldl_cons,
      Nat.zero_max]
    refine foldl_max_map_ofNat (by omega) fun size hsize ↦ ?_
    obtain ⟨other, hother, rfl⟩ := List.mem_map.mp hsize
    have hlt := hrest other hother
    omega

/-! ### Countable answers -/

theorem IsCountable.toNat_ofNat_index {canned : Canned} (h : canned.IsCountable)
    {interface : Interface} {index : Nat} (hindex : index < (canned.active interface).length) :
    (UInt32.ofNat index).toNat = index := by
  have hlt := h.active_lt interface
  refine UInt32.toNat_ofNat_of_lt' ?_
  rw [UInt32.size]
  omega

theorem IsCountable.maxNameLength_lt {canned : Canned} (h : canned.IsCountable)
    (interface : Interface) : maxNameLength (canned.active interface) < 0x80000000 := by
  have hle : maxNameLength (canned.active interface) ≤ 0x7FFFFFFF := by
    refine (maxNameLength_le_iff _ _).mpr fun described hmem ↦ ?_
    have hname := h.name_lt interface described hmem
    omega
  omega

/-- The link log has a length exactly if there is one. -/
theorem IsCountable.parameter_infoLogLength_pos_iff {canned : Canned} (h : canned.IsCountable) :
    canned.parameter .infoLogLength > 0 ↔ canned.link.infoLog ≠ "" := by
  have hparameter : canned.parameter .infoLogLength =
      if canned.link.infoLog.isEmpty then 0
      else Int32.ofNat (canned.link.infoLog.utf8ByteSize + 1) := rfl
  have hlog := h.linkLog_lt
  rw [hparameter]
  by_cases hempty : canned.link.infoLog = ""
  · simp [hempty]
  · have hpos : (0 : Int32) < Int32.ofNat (canned.link.infoLog.utf8ByteSize + 1) :=
      (@Int32.ofNat_lt_iff_lt 0 _ (by decide) (by omega)).mpr (Nat.succ_pos _)
    simpa [hempty] using hpos

end Canned

/-- A state that follows another: it is as steady, and what was made is still there. -/
structure Keeps (steady : σ → Prop) (made : σ → Made → Prop) (s t : σ) : Prop where
  steady : steady t
  made : ∀ fact, made s fact → made t fact

theorem Keeps.refl {steady : σ → Prop} {made : σ → Made → Prop} {s : σ} (h : steady s) :
    Keeps steady made s s := ⟨h, fun _ hfact ↦ hfact⟩

theorem Keeps.trans {steady : σ → Prop} {made : σ → Made → Prop} {s t u : σ}
    (hfirst : Keeps steady made s t) (hrest : Keeps steady made t u) : Keeps steady made s u :=
  ⟨hrest.steady, fun fact hfact ↦ hrest.made fact (hfirst.made fact hfact)⟩

/-- The driver describes what the canned driver describes: from a steady state on, its answers about
objects that were made are the canned ones. -/
structure Driver.Description (driver : Driver σ) (canned : Canned) where
  steady : σ → Prop
  made : σ → Made → Prop
  createShader : ∀ stage s, steady s →
    ∃ id, (driver.answer (.createShader stage) s).value = .ok id ∧
    Keeps steady made s (driver.answer (.createShader stage) s).state ∧
    made (driver.answer (.createShader stage) s).state (.shader id stage)
  compileShader : ∀ id stage source s, steady s → made s (.shader id stage) →
    Keeps steady made s (driver.answer (.compileShader id source) s).state ∧
    made (driver.answer (.compileShader id source) s).state (.compiled id stage)
  compileStatus : ∀ id stage s, steady s → made s (.compiled id stage) →
    (driver.answer (.compileStatus id) s).value = (canned.verdict stage).status ∧
    Keeps steady made s (driver.answer (.compileStatus id) s).state
  shaderLog : ∀ id stage s, steady s → made s (.compiled id stage) →
    (driver.answer (.shaderLog id) s).value = (canned.verdict stage).infoLog ∧
    Keeps steady made s (driver.answer (.shaderLog id) s).state
  createProgram : ∀ s, steady s → ∃ id, (driver.answer .createProgram s).value = .ok id ∧
    Keeps steady made s (driver.answer .createProgram s).state ∧
    made (driver.answer .createProgram s).state (.program id)
  attachShader : ∀ id shader s, steady s →
    Keeps steady made s (driver.answer (.attachShader id shader) s).state
  linkProgram : ∀ id s, steady s → made s (.program id) →
    Keeps steady made s (driver.answer (.linkProgram id) s).state ∧
    made (driver.answer (.linkProgram id) s).state (.linked id)
  linkStatus : ∀ id s, steady s → made s (.linked id) →
    (driver.answer (.linkStatus id) s).value = canned.link.status ∧
    Keeps steady made s (driver.answer (.linkStatus id) s).state
  parameter : ∀ id code s, steady s → made s (.linked id) → code ∈ Canned.parameters →
    (driver.answer (.parameter id code) s).value = canned.parameter code ∧
    Keeps steady made s (driver.answer (.parameter id code) s).state
  programLog : ∀ id s, steady s → made s (.linked id) →
    (driver.answer (.programLog id) s).value = canned.link.infoLog ∧
    Keeps steady made s (driver.answer (.programLog id) s).state
  /-- Described are the variables that there are, in a buffer that has room for every name. -/
  activeVariable : ∀ interface id index maxLength s, steady s → made s (.linked id) →
    index < (canned.active interface).length →
    Canned.maxNameLength (canned.active interface) = maxLength →
    (driver.answer (.activeVariable interface id (.ofNat index) maxLength) s).value =
      canned.variableAt interface index ∧
    Keeps steady made s
      (driver.answer (.activeVariable interface id (.ofNat index) maxLength) s).state
  binary : ∀ id length s, steady s → made s (.linked id) →
    canned.binary.payload.length = length →
    (driver.answer (.binary id length) s).value = canned.binary ∧
    Keeps steady made s (driver.answer (.binary id length) s).state

namespace Driver

theorem Replies.of_append {driver : Driver σ} {s u : σ} {first rest : List Exchange}
    (h : driver.Replies s (first ++ rest) u) :
    ∃ t, driver.Replies s first t ∧ driver.Replies t rest u := by
  induction first generalizing s with
  | nil => exact ⟨s, rfl, h⟩
  | cons exchange first ih =>
    obtain ⟨t, hfirst, hrest⟩ := ih h.2
    exact ⟨t, ⟨h.1, hfirst⟩, hrest⟩

namespace Description

variable {driver : Driver σ} {canned : Canned}

/-- A later state of a driver that describes its objects. -/
abbrev Later (d : driver.Description canned) (s t : σ) : Prop := Keeps d.steady d.made s t

/-! ### Compiling -/

theorem compile_eq (d : driver.Description canned) (stage : Stage) (source : String) {s : σ}
    (hs : d.steady s) :
    ∃ id, ((compile driver stage source).run s).value =
        .ok { stage, source, status := (canned.verdict stage).status,
              infoLog := (canned.verdict stage).infoLog, id } ∧
      d.Later s ((compile driver stage source).run s).state := by
  obtain ⟨hreplies, htrail⟩ := (@conducts_compile σ driver stage source).apply s
  obtain ⟨shader, hcreated, hlater, hmade⟩ := d.createShader stage s hs
  generalize ((compile driver stage source).run s).state = t at hreplies ⊢
  generalize ((compile driver stage source).run s).value = result at htrail ⊢
  generalize ((compile driver stage source).run s).trail = trail at htrail hreplies
  cases htrail with
  | refused error created =>
    simp only [exchanges_append, exchanges_when_logged, List.nil_append] at hreplies
    obtain ⟨hvalue, -⟩ := hreplies
    rw [hcreated] at hvalue
    cases hvalue
  | compiled id status infoLog created submitted judged read =>
    simp only [exchanges_append, exchanges_when_logged, List.nil_append] at hreplies
    obtain ⟨hvalue, -, hstatus, hlog, rfl⟩ := hreplies
    rw [hcreated] at hvalue
    obtain rfl : shader = id := Except.ok.inj hvalue
    obtain ⟨hsubmitted, hcompiled⟩ := d.compileShader shader stage source _ hlater.steady hmade
    obtain ⟨hstatus', hjudged⟩ := d.compileStatus shader stage _ hsubmitted.steady hcompiled
    obtain ⟨hlog', hread⟩ :=
      d.shaderLog shader stage _ hjudged.steady (hjudged.made _ hcompiled)
    refine ⟨shader, ?_, ((hlater.trans hsubmitted).trans hjudged).trans hread⟩
    rw [← hstatus', ← hlog', ← hstatus, ← hlog]

/-! ### Describing variables -/

theorem members_of_replies (d : driver.Description canned) {interface : Interface}
    {program : ProgramId} {maxLength index : Nat} {answers : List MemberAnswer} {s t : σ}
    (hs : d.steady s) (hlinked : d.made s (.linked program))
    (hcount : index + answers.length ≤ (canned.active interface).length)
    (hlongest : Canned.maxNameLength (canned.active interface) = maxLength)
    (h : driver.Replies s (exchanges (membersTrail interface program maxLength index answers)) t) :
    answers.map Prod.fst = (List.range' index answers.length).map (canned.variableAt interface) ∧
      d.Later s t := by
  -- The index rises as the answers get fewer, which keeps the places within the list.
  induction answers generalizing index s with
  | nil => exact ⟨rfl, (show s = t from h) ▸ .refl hs⟩
  | cons answer rest ih =>
    obtain ⟨described, within⟩ := answer
    rw [List.length_cons] at hcount
    simp only [membersTrail, exchanges_asked_cons, exchanges_append,
      exchanges_unless_logged, List.nil_append] at h
    obtain ⟨hanswer, hrest⟩ := h
    obtain ⟨hvariable, hlater⟩ := d.activeVariable interface program index maxLength s hs hlinked
      (by omega) hlongest
    obtain ⟨hothers, hlast⟩ := ih hlater.steady (hlater.made _ hlinked) (by omega) hrest
    refine ⟨?_, hlater.trans hlast⟩
    rw [List.map_cons, hothers, ← hanswer, hvariable, List.length_cons, List.range'_succ,
      List.map_cons]

theorem interface_of_replies (d : driver.Description canned) (hcountable : canned.IsCountable)
    {interface : Interface} {program : ProgramId} {members : List Variable} {trail : List Event}
    {s t : σ} (hs : d.steady s) (hlinked : d.made s (.linked program))
    (htrail : InterfaceTrail interface program members trail)
    (h : driver.Replies s (exchanges trail) t) :
    members = canned.members interface ∧ d.Later s t := by
  have hcanned := canned.parameter_countParameter interface
  have hlt := hcountable.active_lt interface
  obtain ⟨hanswer, hlater⟩ := d.parameter program interface.countParameter s hs hlinked
    (Canned.countParameter_mem interface)
  cases htrail with
  | absent count counted hcount =>
    obtain ⟨hvalue, rfl⟩ := h
    rw [← hvalue, hanswer, hcanned] at hcount
    have hnone : (canned.active interface).length ≤ 0 :=
      (Int32.ofNat_le_iff_le (by omega) (by omega)).mp hcount
    refine ⟨?_, hlater⟩
    rw [Canned.members, Nat.le_zero.mp hnone]
    rfl
  | present count longest counted measured answers hcount hlength =>
    obtain ⟨hvalue, hmeasure, hrest⟩ := h
    obtain ⟨hanswer', hlater'⟩ := d.parameter program interface.maxLengthParameter _ hlater.steady
      (hlater.made _ hlinked) (Canned.maxLengthParameter_mem interface)
    rw [← hvalue, hanswer, hcanned, Int32.toNatClampNeg_ofNat_of_lt (by omega)] at hlength
    have hlongest : Canned.maxNameLength (canned.active interface) = longest.toNatClampNeg := by
      rw [← hmeasure, hanswer', Canned.parameter_maxLengthParameter,
        Canned.longestName_eq_ofNat (hcountable.name_lt interface),
        Int32.toNatClampNeg_ofNat_of_lt (hcountable.maxNameLength_lt interface)]
    have hsteady := hlater.trans hlater'
    obtain ⟨hanswers, hlast⟩ := d.members_of_replies hsteady.steady (hsteady.made _ hlinked)
      (by omega) hlongest hrest
    refine ⟨?_, hsteady.trans hlast⟩
    rw [Canned.members, List.range_eq_range', ← hlength]
    have hfilter := congrArg (List.filterMap (Option.map ActiveVariable.toVariable)) hanswers
    rw [List.filterMap_map, List.filterMap_map] at hfilter
    exact hfilter

/-! ### Linking -/

theorem linkLog_of_replies (d : driver.Description canned) (hcountable : canned.IsCountable)
    {program : ProgramId} {infoLog : String} {trail : List Event} {s t : σ} (hs : d.steady s)
    (hlinked : d.made s (.linked program)) (htrail : LinkLogTrail program infoLog trail)
    (h : driver.Replies s (exchanges trail) t) :
    infoLog = canned.link.infoLog ∧ d.Later s t := by
  obtain ⟨hanswer, hlater⟩ := d.parameter program .infoLogLength s hs hlinked (by decide)
  have hpos := hcountable.parameter_infoLogLength_pos_iff
  cases htrail with
  | absent length measured hlength =>
    obtain ⟨hvalue, rfl⟩ := h
    rw [← hvalue, hanswer, hpos, Decidable.not_not] at hlength
    exact ⟨hlength.symm, hlater⟩
  | present length _ measured read hlength =>
    obtain ⟨-, hread, rfl⟩ := h
    obtain ⟨hlog, hlast⟩ := d.programLog program _ hlater.steady (hlater.made _ hlinked)
    exact ⟨by rw [← hlog, ← hread], hlater.trans hlast⟩

theorem link_eq (d : driver.Description canned) (hcountable : canned.IsCountable)
    (vertex fragment : CompiledShader) {s : σ} (hs : d.steady s) :
    ∃ id, ((link driver vertex fragment).run s).value =
        .ok { status := canned.link.status, infoLog := canned.link.infoLog,
              attributes := canned.members .attributes, uniforms := canned.members .uniforms,
              id } ∧
      d.Later s ((link driver vertex fragment).run s).state ∧
      d.made ((link driver vertex fragment).run s).state (.linked id) := by
  obtain ⟨hreplies, htrail⟩ := (@conducts_link σ driver vertex fragment).apply s
  obtain ⟨program, hcreated, hlater, hmade⟩ := d.createProgram s hs
  generalize ((link driver vertex fragment).run s).state = t at hreplies ⊢
  generalize ((link driver vertex fragment).run s).value = result at htrail ⊢
  generalize ((link driver vertex fragment).run s).trail = trail at htrail hreplies
  cases htrail with
  | refused error created =>
    obtain ⟨hvalue, -⟩ := hreplies
    rw [hcreated] at hvalue
    cases hvalue
  | linked id status infoLog attributes uniforms created first second joined judged logTrail
      attributesTrail uniformsTrail hlog hattributes huniforms =>
    simp only [exchanges_append, exchanges_asked_cons, exchanges_nil, exchanges_unless_logged,
      List.append_nil] at hreplies
    obtain ⟨afterAttributes, hreplies, huniformsReplies⟩ := hreplies.of_append
    obtain ⟨afterLog, hreplies, hattributesReplies⟩ := hreplies.of_append
    obtain ⟨afterLink, hreplies, hlogReplies⟩ := hreplies.of_append
    obtain ⟨hvalue, -, -, -, hstatus, rfl⟩ := hreplies
    rw [hcreated] at hvalue
    obtain rfl : program = id := Except.ok.inj hvalue
    have hfirst := d.attachShader program vertex.id _ hlater.steady
    have hsecond := d.attachShader program fragment.id _ hfirst.steady
    have hattached := hfirst.trans hsecond
    obtain ⟨hjoined, hlinked⟩ := d.linkProgram program _ hattached.steady (hattached.made _ hmade)
    obtain ⟨hstatus', hjudged⟩ := d.linkStatus program _ hjoined.steady hlinked
    have hlinked := hjudged.made _ hlinked
    obtain ⟨rfl, hlogged⟩ := d.linkLog_of_replies hcountable hjudged.steady hlinked hlog hlogReplies
    have hlinked := hlogged.made _ hlinked
    obtain ⟨rfl, hdescribed⟩ :=
      d.interface_of_replies hcountable hlogged.steady hlinked hattributes hattributesReplies
    have hlinked := hdescribed.made _ hlinked
    obtain ⟨rfl, hlast⟩ :=
      d.interface_of_replies hcountable hdescribed.steady hlinked huniforms huniformsReplies
    have hall := ((((hlater.trans hattached).trans hjoined).trans hjudged).trans hlogged).trans
      (hdescribed.trans hlast)
    refine ⟨program, ?_, hall, hlast.made _ hlinked⟩
    rw [← hstatus, hstatus']

/-! ### Extracting -/

theorem extract_eq (d : driver.Description canned) (hcountable : canned.IsCountable)
    (program : LinkedProgram) {s : σ} (hs : d.steady s) (hlinked : d.made s (.linked program.id)) :
    (extract driver program s).value = canned.binary ∧
      d.Later s (extract driver program s).state := by
  obtain ⟨hreplies, htrail⟩ := (@conducts_extract σ driver program).apply s
  generalize (extract driver program s).state = t at hreplies ⊢
  generalize (extract driver program s).value = artifact at htrail ⊢
  generalize (extract driver program s).trail = trail at htrail hreplies
  cases htrail with
  | extracted length fetched measured read =>
    simp only [exchanges_append, exchanges_asked_cons, exchanges_logged_cons, exchanges_nil,
      exchanges_unless_logged, List.nil_append] at hreplies
    obtain ⟨hlength, hfetched, rfl⟩ := hreplies
    obtain ⟨hanswer, hlater⟩ := d.parameter program.id .programBinaryLength s hs hlinked (by decide)
    have hbound := hcountable.binary_lt
    have hsize : canned.binary.payload.length = length.toNatClampNeg := by
      rw [← hlength, hanswer, Canned.parameter_programBinaryLength,
        Int32.toNatClampNeg_ofNat_of_lt (by omega)]
    obtain ⟨hbinary, hlast⟩ := d.binary program.id length.toNatClampNeg _ hlater.steady
      (hlater.made _ hlinked) hsize
    refine ⟨?_, hlater.trans hlast⟩
    rw [← hfetched, hbinary, ← hsize, List.take_length]

end Description

end Driver

end ShaderBuild

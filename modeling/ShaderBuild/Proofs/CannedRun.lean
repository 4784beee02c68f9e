import ShaderBuild.Disk.Tree
import ShaderBuild.Proofs.CannedDescription
import ShaderBuild.Proofs.Reflection
import ShaderBuild.Proofs.RunFindings

/-!
Whole runs of the canned driver. Its answers settle what a run finds: the buffer for names has room
for the longest name of the list, terminator included, so every name comes through whole, whatever
names stand beside it; an empty log is not asked for, which leaves it empty; the binary comes in a
buffer of its own size. With a writer that fails nowhere and a path that can be written, a run
therefore ends with the canned statuses, the canned binary in its file, and a report that can be
written down line by line (`run_canned`).
-/

set_option autoImplicit false
set_option relaxedAutoImplicit false

namespace ShaderBuild

namespace Canned

variable {canned : Canned}

/-! ### Variables that are not rejected -/

/-- The variables of an interface, in the order of the list, less the one at the rejected index. -/
def accepted (canned : Canned) (interface : Interface) : List ActiveVariable :=
  match canned.rejected with
  | none => canned.active interface
  | some index => (canned.active interface).eraseIdx index.toNat

theorem filterMap_range_getElem? {α β : Type} (listed : List α) (f : α → β) :
    (List.range listed.length).filterMap (fun index ↦ listed[index]?.map f) = listed.map f := by
  induction listed with
  | nil => rfl
  | cons first others ih =>
    rw [List.length_cons, List.range_succ_eq_map, List.filterMap_cons, List.filterMap_map]
    exact congrArg (f first :: ·) ih

/-- To leave out one place of a list is to erase it. -/
theorem filterMap_range_eraseIdx {α β : Type} (listed : List α) (f : α → β) (left : Nat) :
    (List.range listed.length).filterMap
        (fun index ↦ if left = index then none else listed[index]?.map f) =
      (listed.eraseIdx left).map f := by
  induction listed generalizing left with
  | nil => rfl
  | cons first others ih =>
    rw [List.length_cons, List.range_succ_eq_map, List.filterMap_cons, List.filterMap_map]
    cases left with
    | zero => exact filterMap_range_getElem? others f
    | succ left =>
      have hothers := ih left
      simp only [Function.comp_def, Nat.succ_eq_add_one, Nat.add_right_cancel_iff] at hothers ⊢
      exact congrArg (f first :: ·) hothers

theorem IsCountable.members_eq (h : canned.IsCountable) (interface : Interface) :
    canned.members interface = (canned.accepted interface).map ActiveVariable.toVariable := by
  rw [members, accepted]
  cases hrejected : canned.rejected with
  | none =>
    rw [← filterMap_range_getElem?]
    simp [variableAt, hrejected]
  | some rejected =>
    rw [← filterMap_range_eraseIdx]
    refine List.filterMap_congr fun index hindex ↦ ?_
    have hnumber := h.toNat_ofNat_index (List.mem_range.mp hindex)
    have hsame : some rejected = some (UInt32.ofNat index) ↔ rejected.toNat = index := by
      rw [Option.some_inj, ← UInt32.toNat_inj, hnumber]
    rw [variableAt, hrejected]
    by_cases hleft : rejected.toNat = index
    · rw [if_pos (hsame.mpr hleft), if_pos hleft]
      rfl
    · rw [if_neg (mt hsame.mp hleft), if_neg hleft]

/-! ### The report line by line -/

/-- A status line, and the log under its own line. -/
def verdictLines (verdict : Verdict) (good bad : String) : List String :=
  (if verdict.status then good else bad) :: "Log:" ::
    if verdict.infoLog = "" then [] else [verdict.infoLog]

/-- A variable: its whole name, its size, which is one at least, and its type. -/
def entryLine (described : ActiveVariable) : String :=
  " * " ++ described.name ++ ": " ++ toString (max described.size.toInt 1).toNat ++ " x " ++
    (DataType.ofCode described.type).name

def interfaceLines (interface : Interface) (listed : List ActiveVariable) : List String :=
  if listed = [] then ["No active " ++ interface.name]
  else ("Active " ++ interface.name ++ ":") :: listed.map entryLine

/-- The lines of a whole report. A log may be several lines of text. -/
def reportLines (canned : Canned) : List String :=
  verdictLines canned.vertex "Compile successfull." "Compile failed" ++
    verdictLines canned.fragment "Compile successfull." "Compile failed" ++
    verdictLines canned.link "Link successfull" "Link failed" ++
    interfaceLines .attributes (canned.accepted .attributes) ++
    interfaceLines .uniforms (canned.accepted .uniforms)

/-- Lines as text, each ended by a line feed. -/
def ended (lines : List String) : String := String.join (lines.map (· ++ "\n"))

theorem ended_append (first rest : List String) :
    ended (first ++ rest) = ended first ++ ended rest := by
  rw [ended, List.map_append, String.join_append]
  rfl

theorem ended_cons (line : String) (rest : List String) :
    ended (line :: rest) = line ++ "\n" ++ ended rest := String.join_cons

theorem text_logPieces (infoLog : String) :
    Report.text (Report.logPieces infoLog) = ended (if infoLog = "" then [] else [infoLog]) := by
  by_cases hempty : infoLog = ""
  · rw [Report.logPieces, if_pos hempty, hempty]
    rfl
  · simp [Report.text, Report.logPieces, ended, hempty]

theorem ended_verdictLines (verdict : Verdict) (good bad : String) :
    ended (verdictLines verdict good bad) =
      (if verdict.status then good else bad) ++ "\nLog:\n" ++
        Report.text (Report.logPieces verdict.infoLog) := by
  have hmark : "\nLog:\n" = "\n" ++ ("Log:" ++ "\n") := rfl
  rw [verdictLines, ended_cons, ended_cons, text_logPieces, hmark]
  simp only [String.append_assoc]

theorem text_shaderPieces (unit : CompiledShader) :
    Report.text (Report.shaderPieces unit) =
      ended (verdictLines ⟨unit.status, unit.infoLog⟩ "Compile successfull." "Compile failed") := by
  rw [ended_verdictLines, Report.shaderPieces, Report.text_cons]
  cases unit.status <;> rfl

theorem text_interfacePieces (interface : Interface) (listed : List ActiveVariable) :
    Report.text
        (Report.interfacePieces interface (listed.map ActiveVariable.toVariable)) =
      ended (interfaceLines interface listed) := by
  have hentry : ∀ described : ActiveVariable,
      Report.text (Report.variablePieces described.toVariable) = entryLine described ++ "\n" := by
    intro described
    have hsize : described.toVariable.arraySize.toNat = (max described.size.toInt 1).toNat := by
      rw [← described.becomes_toVariable.arraySize_eq, Int.toNat_natCast]
    rw [Report.variablePieces, hsize]
    simp [Report.text, entryLine, ActiveVariable.toVariable, String.append_assoc]
  have hentries : ∀ listed : List ActiveVariable,
      Report.text ((listed.map ActiveVariable.toVariable).flatMap Report.variablePieces) =
        ended (listed.map entryLine) := by
    intro listed
    induction listed with
    | nil => rfl
    | cons described others ih =>
      rw [List.map_cons, List.map_cons, List.flatMap_cons, Report.text_append, hentry, ih,
        ended_cons]
  cases listed with
  | nil => cases interface <;> rfl
  | cons described others =>
    rw [interfaceLines, if_neg (List.cons_ne_nil _ _), ended_cons, ← hentries]
    simp [Report.interfacePieces, Report.text_cons, String.append_assoc]

theorem text_programPieces (unit : LinkedProgram) {attributes uniforms : List ActiveVariable}
    (hattributes : unit.attributes = attributes.map ActiveVariable.toVariable)
    (huniforms : unit.uniforms = uniforms.map ActiveVariable.toVariable) :
    Report.text (Report.programPieces unit) =
      ended (verdictLines ⟨unit.status, unit.infoLog⟩ "Link successfull" "Link failed" ++
        interfaceLines .attributes attributes ++ interfaceLines .uniforms uniforms) := by
  rw [Report.programPieces, hattributes, huniforms, Report.text_cons, Report.text_append,
    Report.text_append, text_interfacePieces, text_interfacePieces, ended_append, ended_append,
    ended_verdictLines]
  cases unit.status <;> simp only [← String.append_assoc] <;> rfl

/-! ### What a run finds -/

/-- What a run of the canned driver finds, under the numbers that its objects get. -/
def findings (canned : Canned) (sources : ShaderPair) (vertex fragment : ShaderId)
    (program : ProgramId) : Findings where
  vertex :=
    { stage := .vertex, source := sources.vertex, status := canned.vertex.status,
      infoLog := canned.vertex.infoLog, id := vertex }
  fragment :=
    { stage := .fragment, source := sources.fragment, status := canned.fragment.status,
      infoLog := canned.fragment.infoLog, id := fragment }
  program :=
    { status := canned.link.status, infoLog := canned.link.infoLog,
      attributes := canned.members .attributes, uniforms := canned.members .uniforms,
      id := program }

theorem IsCountable.exists_finds (h : canned.IsCountable) (sources : ShaderPair) :
    ∃ vertex fragment program t,
      driver.Finds sources canned (canned.findings sources vertex fragment program) t ∧
        (extract driver (canned.findings sources vertex fragment program).program t).value =
          canned.binary := by
  let d := countableDescription h
  have hsteady : d.steady canned := ⟨canned.shaders, rfl⟩
  obtain ⟨vertex, hvertex, hcompiled⟩ := d.compile_eq .vertex sources.vertex hsteady
  obtain ⟨fragment, hfragment, hboth⟩ := d.compile_eq .fragment sources.fragment hcompiled.steady
  obtain ⟨program, hprogram, hlater, hlinked⟩ := d.link_eq h
    (canned.findings sources vertex fragment ⟨0⟩).vertex
    (canned.findings sources vertex fragment ⟨0⟩).fragment hboth.steady
  refine ⟨vertex, fragment, program, _, ⟨hvertex, hfragment, hprogram, rfl⟩, ?_⟩
  exact (d.extract_eq h (canned.findings sources vertex fragment program).program hlater.steady
    hlinked).1

theorem IsCountable.text_findings (h : canned.IsCountable) (sources : ShaderPair)
    (vertex fragment : ShaderId) (program : ProgramId) :
    Report.text (canned.findings sources vertex fragment program).pieces =
      ended canned.reportLines := by
  rw [Findings.pieces, Report.text_append, Report.text_append, text_shaderPieces, text_shaderPieces,
    text_programPieces _ (h.members_eq .attributes) (h.members_eq .uniforms), reportLines]
  simp only [ended_append, String.append_assoc]
  rfl

end Canned

/-- With a writer that fails nowhere and a path that can be written, a run of a canned driver ends
with the canned statuses and leaves the canned binary, all of it, in its file. Its report has the
canned logs and, whole names in the order of the lists, all variables that are not rejected. -/
theorem run_canned {ω φ : Type} {canned : Canned} (hcountable : canned.IsCountable)
    {writer : Writer ω} (hwriter : writer.NeverRefuses) (hflushes : writer.AlwaysFlushes)
    (disk : Disk φ) (sources : ShaderPair) (output : String) (w : ω) (files : φ)
    (hwritable : (disk.write output canned.binary.payload files).1 = .ok ()) :
    let tools : Tools Canned ω φ := ⟨Canned.driver, writer, disk⟩
    let ending := (tools.run sources output).run ⟨canned, w, files⟩
    ending.value = .ok
        { vertexCompiled := canned.vertex.status, fragmentCompiled := canned.fragment.status,
          linked := canned.link.status, binaryFormat := canned.binary.format,
          binarySize := canned.binary.payload.length } ∧
      written ending.trail = Text.encode (Canned.ended canned.reportLines) ∧
      saves ending.trail = [⟨output, canned.binary.payload, .ok ()⟩] ∧
      ending.state.files = (disk.write output canned.binary.payload files).2 ∧
      (disk.ReplacesAt output files →
        disk.read output ending.state.files = .ok canned.binary.payload) := by
  intro tools ending
  obtain ⟨vertex, fragment, program, t, hfinds, hartifact⟩ := hcountable.exists_finds sources
  have hcompletes := tools.run_of_finds hwriter hflushes hfinds hartifact output w files
  have hfiles := hcompletes.files_eq
  refine ⟨?_, ?_, ?_, hfiles, fun hreplaces ↦ ?_⟩
  · rw [hcompletes.value_eq, hwritable]
    rfl
  · rw [hcompletes.written_eq, hcountable.text_findings]
  · rw [hcompletes.saves_eq, hwritable]
  · rw [hfiles]
    exact hreplaces _ _ (Prod.ext hwritable rfl)

theorem run_canned_names :
    let canned : Canned :=
      { vertex := ⟨true, "\n"⟩, link := ⟨false, "Log:"⟩
        attributes := [⟨"", 0, 0x1406⟩, ⟨"rejected", 1, 0x8B52⟩, ⟨"größe[0]", 3, 0x8B52⟩]
        uniforms := [⟨"überschrift", -2, 7⟩], rejected := some 1, binary := ⟨0x8AF0, [1, 2, 3]⟩
        shaders := [.fragment] }
    let writer := ({} : Sink).writer
    let tools : Tools Canned Sink.Content FileTree := ⟨Canned.driver, writer, FileTree.disk⟩
    let ending := (tools.run ⟨"void main() {}", ""⟩ "pair.bin").run ⟨canned, {}, FileTree.empty⟩
    canned.IsCountable ∧ writer.NeverRefuses ∧ writer.AlwaysFlushes ∧
      (FileTree.disk.write "pair.bin" [1, 2, 3] FileTree.empty).1 = .ok () ∧
      canned.reportLines = ["Compile successfull.", "Log:", "\n", "Compile failed", "Log:",
        "Link failed", "Log:", "Log:", "Active attributes:", " * : 1 x float",
        " * größe[0]: 3 x vec4f", "Active uniforms:", " * überschrift: 1 x unknown type"] ∧
      ending.value = .ok ⟨true, false, false, 0x8AF0, 3⟩ ∧
      written ending.trail = Text.encode (Canned.ended canned.reportLines) ∧
      saves ending.trail = [⟨"pair.bin", [1, 2, 3], .ok ()⟩] := by
  intro canned writer tools ending
  have hcountable : canned.IsCountable := by
    refine ⟨rfl, by decide, ?_, ?_, by decide⟩
    · intro interface
      cases interface <;> decide
    · intro interface
      cases interface <;> decide
  have hwriter : writer.NeverRefuses := Sink.neverRefuses_writer rfl
  have hflushes : writer.AlwaysFlushes := Sink.alwaysFlushes_writer rfl
  have hwritable : (FileTree.disk.write "pair.bin" [1, 2, 3] FileTree.empty).1 = .ok () := by
    decide +kernel
  obtain ⟨hvalue, hwritten, hsaves, -⟩ := run_canned hcountable hwriter hflushes FileTree.disk
    ⟨"void main() {}", ""⟩ "pair.bin" {} FileTree.empty hwritable
  exact ⟨hcountable, hwriter, hflushes, hwritable, by decide +kernel, hvalue, hwritten, hsaves⟩

end ShaderBuild

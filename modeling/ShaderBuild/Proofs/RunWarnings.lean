import Mathlib.Data.List.TakeWhile
import ShaderBuild.Proofs.Reflection

/-!
The warnings of a run. Blank sources, rejected variables and the binary of a program that was not
linked are warned of, each where it comes up, and nothing else is. So the warnings of a run can be
told from its sources and from what the driver replied, and a run that ends with a refused object
has those that were due until then (`run_warnings`).
-/

set_option autoImplicit false
set_option relaxedAutoImplicit false

namespace ShaderBuild

variable {σ ω φ : Type}

/-! ### Blank sources -/

/-- White space at both ends is all that there is of a blank text, and of no other. -/
theorem Text.isEmpty_trim (text : String) : (Text.trim text).isEmpty = Text.isBlank text := by
  have hfront : (∀ c ∈ text.toList.dropWhile isWhiteSpace, isWhiteSpace c = true) ↔
      ∀ c ∈ text.toList, isWhiteSpace c = true := by
    refine ⟨fun h c hc ↦ ?_, fun h c hc ↦ h c ((List.dropWhile_sublist _).mem hc)⟩
    rw [← List.takeWhile_append_dropWhile (p := isWhiteSpace) (l := text.toList)] at hc
    rcases List.mem_append.mp hc with htaken | hdropped
    · exact List.mem_takeWhile_imp htaken
    · exact h c hdropped
  rw [Bool.eq_iff_iff, isBlank_iff, ← hfront, trim]
  simp [List.dropWhile_eq_nil_iff]

/-- The warning of a source that is blank. -/
def blankWarning (stage : Stage) (source : String) : List Log.Record :=
  if Text.isBlank source then [.emptySource stage] else []

/-! ### Warnings of a trail -/

/-- The warnings of a trail that the driver had no part in, in order. -/
def warningsOf (trail : List Event) : List Log.Record :=
  (recordsOf trail).filter fun record ↦ record.level = .warn

@[simp]
theorem warningsOf_append (first rest : List Event) :
    warningsOf (first ++ rest) = warningsOf first ++ warningsOf rest := by
  rw [warningsOf, recordsOf_append, List.filter_append, warningsOf, warningsOf]

theorem warningsOf_compileTrail {stage : Stage} {source : String}
    {result : Except Error CompiledShader} {trail : List Event}
    (h : CompileTrail stage source result trail) :
    warningsOf trail = blankWarning stage source := by
  cases h <;> rw [warningsOf_append, blankWarning] <;> split_ifs <;> rfl

theorem OnlyWrites.warningsOf_eq_nil {trail : List Event} (h : OnlyWrites trail) :
    warningsOf trail = [] := by
  have hnone : recordsOf trail = [] := by
    refine List.filterMap_eq_nil_iff.mpr fun event hevent ↦ ?_
    have hwrite := h event hevent
    cases event <;> first | rfl | simp [Event.isWrite] at hwrite
  rw [warningsOf, hnone, List.filter_nil]

theorem SaveTrail.warningsOf_eq_nil {artifact : Artifact} {output : String}
    {result : Except Error Unit} {trail : List Event} (h : SaveTrail artifact output result trail) :
    warningsOf trail = [] := by
  cases h <;> rfl

/-- The warnings of the indexes that were rejected, in order. -/
def InterfaceReplies.warnings (replies : InterfaceReplies) (interface : Interface) :
    List Log.Record :=
  replies.rejected.map (rejection interface)

theorem InterfaceReplies.Reflected.exchanges_eq {replies : InterfaceReplies}
    {interface : Interface} {program : ProgramId} {members : List Variable} {trail : List Event}
    (h : replies.Reflected interface program members trail) :
    exchanges trail = replies.dialogue interface program := by
  rw [InterfaceReplies.dialogue]
  split_ifs with hcount
  · rw [h.present hcount, ← toNatClampNeg_eq_toNat_max]
    rfl
  · exact (h.absent (Int32.not_lt.mp hcount)).2

theorem InterfaceReplies.Reflected.warningsOf_eq {replies : InterfaceReplies}
    {interface : Interface} {program : ProgramId} {members : List Variable} {trail : List Event}
    (h : replies.Reflected interface program members trail) :
    warningsOf trail = replies.warnings interface := by
  rw [warningsOf, h.records_eq, InterfaceReplies.warnings]
  refine List.filter_eq_self.mpr fun record hrecord ↦ ?_
  obtain ⟨index, -, rfl⟩ := List.mem_map.mp hrecord
  rfl

theorem warningsOf_linkTrail_of_error {vertex fragment : CompiledShader} {error : Error}
    {trail : List Event} (h : LinkTrail vertex fragment (.error error) trail) :
    warningsOf trail = [] := by
  cases h
  rfl

theorem LinkLogTrail.warningsOf_eq_nil {program : ProgramId} {infoLog : String}
    {trail : List Event} (h : LinkLogTrail program infoLog trail) : warningsOf trail = [] := by
  cases h <;> rfl

/-- What a driver replied when it linked a program settles the status and the warnings of it. -/
theorem LinkTrail.exists_warnings {vertex fragment : CompiledShader} {unit : LinkedProgram}
    {trail : List Event} (h : LinkTrail vertex fragment (.ok unit) trail) :
    ∃ replies : ProgramReplies, replies.id = unit.id ∧ replies.status = unit.status ∧
      exchanges trail = replies.dialogue vertex.id fragment.id ∧
      warningsOf trail =
        replies.attributes.warnings .attributes ++ replies.uniforms.warnings .uniforms := by
  cases h with
  | linked id status infoLog attributes uniforms created first second joined judged logTrail
      attributesTrail uniformsTrail hlog hattributes huniforms =>
    obtain ⟨attributes, hattributes⟩ := hattributes.exists_reflected
    obtain ⟨uniforms, huniforms⟩ := huniforms.exists_reflected
    obtain ⟨length, text, hasked⟩ : ∃ (length : Int32) (text : String), exchanges logTrail =
        ⟨.parameter id .infoLogLength, length⟩ ::
          if length > 0 then [⟨.programLog id, text⟩] else [] := by
      cases hlog with
      | absent length measured hlength => exact ⟨length, "", by rw [if_neg hlength]; rfl⟩
      | present length _ measured read hlength =>
        exact ⟨length, infoLog, by rw [if_pos hlength]; rfl⟩
    refine ⟨⟨id, status, length, text, attributes, uniforms⟩, rfl, rfl, ?_, ?_⟩
    · simp [ProgramReplies.dialogue, hasked, hattributes.exchanges_eq, huniforms.exchanges_eq]
    · have huncompiled : warningsOf (if vertex.status && fragment.status then []
          else [.logged (.linkedUncompiled status)]) = [] := by
        split_ifs <;> rfl
      simp only [warningsOf_append, hlog.warningsOf_eq_nil, huncompiled,
        hattributes.warningsOf_eq, huniforms.warningsOf_eq, List.append_nil]
      rfl

/-- The warning of the binary of a program that was not linked. -/
def unlinkedWarning (linked : Bool) : List Log.Record := if linked then [] else [.unlinkedBinary]

theorem ExtractTrail.warningsOf_eq {program : LinkedProgram} {artifact : Artifact}
    {trail : List Event} (h : ExtractTrail program artifact trail) :
    warningsOf trail = unlinkedWarning program.status := by
  cases h
  rw [warningsOf_append, unlinkedWarning]
  split_ifs <;> rfl

/-! ### Warnings of a run -/

/-- The warnings that are due until a program is created. -/
def blankWarnings (sources : ShaderPair) : List Log.Record :=
  blankWarning .vertex sources.vertex ++ blankWarning .fragment sources.fragment

/-- The warnings that are due over a whole run. -/
def dueWarnings (sources : ShaderPair) (attributes uniforms : InterfaceReplies) (linked : Bool) :
    List Log.Record :=
  blankWarnings sources ++ attributes.warnings .attributes ++ uniforms.warnings .uniforms ++
    unlinkedWarning linked

/-- The warnings of a run, by the dialogue with its driver and the error with which an object was
refused, if one was: then nothing is due any more. -/
inductive Warned (sources : ShaderPair) : Option Error → List Exchange → List Log.Record → Prop
  | vertexRefused (error : Error) :
    Warned sources (some error) [⟨.createShader .vertex, .error error⟩]
      (blankWarning .vertex sources.vertex)
  | fragmentRefused (vertex : ShaderReplies) (error : Error) :
    Warned sources (some error)
      (vertex.dialogue .vertex sources.vertex ++ [⟨.createShader .fragment, .error error⟩])
      (blankWarnings sources)
  | programRefused (vertex fragment : ShaderReplies) (error : Error) :
    Warned sources (some error)
      (vertex.dialogue .vertex sources.vertex ++ fragment.dialogue .fragment sources.fragment ++
        [⟨.createProgram, .error error⟩])
      (blankWarnings sources)
  | complete (vertex fragment : ShaderReplies) (program : ProgramReplies)
      (binary : BinaryReplies) :
    Warned sources none
      (vertex.dialogue .vertex sources.vertex ++ fragment.dialogue .fragment sources.fragment ++
        program.dialogue vertex.id fragment.id ++ binary.dialogue program.id)
      (dueWarnings sources program.attributes program.uniforms program.status)

theorem warned_of_runTrail {sources : ShaderPair} {output : String}
    {result : Except Error Summary} {trail : List Event}
    (h : RunTrail sources output result trail) :
    ∃ refusal, Warned sources refusal (exchanges trail) (warningsOf trail) ∧
      ∀ error ∈ refusal, result = .error error := by
  cases h with
  | vertexRefused error trail hvertex =>
    refine ⟨some error, ?_, fun other hother ↦ by rw [Option.mem_some.mp hother]⟩
    rw [exchanges_compileTrail_of_error hvertex, warningsOf_compileTrail hvertex]
    exact .vertexRefused error
  | fragmentRefused vertex error vertexTrail vertexBlock fragmentTrail hvertex hvertexBlock
      hfragment =>
    obtain ⟨vertexReplies, -, hdialogue⟩ := exchanges_compileTrail hvertex
    have hwarned : warningsOf (vertexTrail ++ vertexBlock ++ fragmentTrail) =
        blankWarnings sources := by
      simp [blankWarnings, warningsOf_compileTrail hvertex, warningsOf_compileTrail hfragment,
        hvertexBlock.onlyWrites.warningsOf_eq_nil]
    refine ⟨some error, ?_, fun other hother ↦ by rw [Option.mem_some.mp hother]⟩
    rw [hwarned, exchanges_append, exchanges_append, hdialogue,
      hvertexBlock.onlyWrites.exchanges_eq_nil, exchanges_compileTrail_of_error hfragment,
      List.append_nil]
    exact .fragmentRefused vertexReplies error
  | programRefused vertex fragment error vertexTrail vertexBlock fragmentTrail fragmentBlock
      programTrail hvertex hvertexBlock hfragment hfragmentBlock hprogram =>
    obtain ⟨vertexReplies, -, hvertexDialogue⟩ := exchanges_compileTrail hvertex
    obtain ⟨fragmentReplies, -, hfragmentDialogue⟩ := exchanges_compileTrail hfragment
    have hwarned : warningsOf (vertexTrail ++ vertexBlock ++
        (fragmentTrail ++ fragmentBlock ++ programTrail)) = blankWarnings sources := by
      simp [blankWarnings, warningsOf_compileTrail hvertex, warningsOf_compileTrail hfragment,
        hvertexBlock.onlyWrites.warningsOf_eq_nil, hfragmentBlock.onlyWrites.warningsOf_eq_nil,
        warningsOf_linkTrail_of_error hprogram]
    refine ⟨some error, ?_, fun other hother ↦ by rw [Option.mem_some.mp hother]⟩
    rw [hwarned]
    have hdialogue := @Warned.programRefused sources vertexReplies fragmentReplies error
    simpa [hvertexDialogue, hfragmentDialogue, hvertexBlock.onlyWrites.exchanges_eq_nil,
      hfragmentBlock.onlyWrites.exchanges_eq_nil, exchanges_linkTrail_of_error hprogram]
      using hdialogue
  | finished vertex fragment program _ vertexTrail vertexBlock fragmentTrail fragmentBlock
      programTrail programBlock finishTrail hvertex hvertexBlock hfragment hfragmentBlock hprogram
      hprogramBlock hfinish =>
    obtain ⟨artifact, saved, extractTrail, saveTrail, hextract, hsave⟩ := hfinish
    obtain ⟨vertexReplies, hvertexId, hvertexDialogue⟩ := exchanges_compileTrail hvertex
    obtain ⟨fragmentReplies, hfragmentId, hfragmentDialogue⟩ := exchanges_compileTrail hfragment
    obtain ⟨programReplies, hprogramId, hstatus, hprogramDialogue, hrejected⟩ :=
      hprogram.exists_warnings
    obtain ⟨binaryReplies, hextractDialogue⟩ := exchanges_extractTrail hextract
    have hflushed : warningsOf (.flushed (.ok ()) :: (extractTrail ++ saveTrail)) =
        unlinkedWarning program.status := by
      show warningsOf (extractTrail ++ saveTrail) = _
      rw [warningsOf_append, hextract.warningsOf_eq, hsave.warningsOf_eq_nil, List.append_nil]
    have hwarned : warningsOf (vertexTrail ++ vertexBlock ++ (fragmentTrail ++ fragmentBlock ++
        (programTrail ++ programBlock ++ .flushed (.ok ()) :: (extractTrail ++ saveTrail)))) =
        dueWarnings sources programReplies.attributes programReplies.uniforms
          programReplies.status := by
      simp only [warningsOf_append, warningsOf_compileTrail hvertex,
        warningsOf_compileTrail hfragment, hvertexBlock.onlyWrites.warningsOf_eq_nil,
        hfragmentBlock.onlyWrites.warningsOf_eq_nil, hprogramBlock.onlyWrites.warningsOf_eq_nil,
        hrejected, hflushed, hstatus, dueWarnings, blankWarnings, List.nil_append,
        List.append_assoc]
    refine ⟨none, ?_, fun error herror ↦ absurd herror (Option.not_mem_none error)⟩
    rw [hwarned]
    have hdialogue := @Warned.complete sources vertexReplies fragmentReplies programReplies
      binaryReplies
    rw [hvertexId, hfragmentId, hprogramId] at hdialogue
    simpa [hvertexDialogue, hfragmentDialogue, hprogramDialogue, hextractDialogue,
      hvertexBlock.onlyWrites.exchanges_eq_nil, hfragmentBlock.onlyWrites.exchanges_eq_nil,
      hprogramBlock.onlyWrites.exchanges_eq_nil, hsave.exchanges_eq_nil] using hdialogue

/-! ### Exact warnings -/

/-- The error with which an object is refused in the exchange. -/
def Exchange.refusal? : Exchange → Option Error
  | ⟨.createShader _, .error error⟩ => some error
  | ⟨.createProgram, .error error⟩ => some error
  | _ => none

/-- Whatever the driver is asked from state `s` on, it refuses no object. -/
def Driver.RefusesNothing (driver : Driver σ) (s : σ) : Prop :=
  ∀ dialogue t, driver.Replies s dialogue t → ∀ exchange ∈ dialogue, exchange.refusal? = none

/-- A driver that refuses nothing has no refusal in its dialogues. -/
theorem Warned.refusal_eq_none {sources : ShaderPair} {refusal : Option Error}
    {dialogue : List Exchange} {warnings : List Log.Record}
    (h : Warned sources refusal dialogue warnings)
    (hnone : ∀ exchange ∈ dialogue, exchange.refusal? = none) : refusal = none := by
  cases h with
  | vertexRefused error => cases hnone _ List.mem_cons_self
  | fragmentRefused vertex error => cases hnone _ (List.mem_append_right _ List.mem_cons_self)
  | programRefused vertex fragment error =>
    cases hnone _ (List.mem_append_right _ List.mem_cons_self)
  | complete vertex fragment program binary => rfl

/-- Of what is due over a whole run, whatever the driver would have replied, a run in which an
object was refused has the first part. -/
theorem Warned.isPrefix {sources : ShaderPair} {error : Error} {dialogue : List Exchange}
    {warnings : List Log.Record} (h : Warned sources (some error) dialogue warnings)
    (attributes uniforms : InterfaceReplies) (linked : Bool) :
    warnings <+: dueWarnings sources attributes uniforms linked := by
  have hblank : blankWarnings sources <+: dueWarnings sources attributes uniforms linked := by
    rw [dueWarnings, List.append_assoc, List.append_assoc]
    exact List.prefix_append _ _
  cases h with
  | vertexRefused => exact (List.prefix_append _ _).trans hblank
  | fragmentRefused => exact hblank
  | programRefused => exact hblank

/-- There is one warning of a source if all of its characters are white space, and else none. -/
theorem blankWarning_cases (stage : Stage) (source : String) :
    (∀ c ∈ source.toList, Text.isWhiteSpace c = true) ∧
        blankWarning stage source = [.emptySource stage] ∨
      (∃ c ∈ source.toList, Text.isWhiteSpace c = false) ∧ blankWarning stage source = [] := by
  by_cases hblank : Text.isBlank source = true
  · exact .inl ⟨(Text.isBlank_iff source).mp hblank, if_pos hblank⟩
  · refine .inr ⟨?_, if_neg hblank⟩
    rw [Text.isBlank_iff] at hblank
    simpa using hblank

/-- There is one warning of each index that was rejected, in increasing order. -/
structure InterfaceReplies.WarnsExactly (replies : InterfaceReplies) (interface : Interface) :
    Prop where
  warnings_eq : replies.warnings interface =
    replies.rejected.map fun index ↦ .rejectedVariable interface (.ofNat index)
  increasing : replies.rejected.Pairwise (· < ·)
  mem_rejected_iff : ∀ index, index ∈ replies.rejected ↔ replies.members[index]? = some none
  toNat_index : ∀ index ∈ replies.rejected, (UInt32.ofNat index).toNat = index

theorem InterfaceReplies.warnsExactly (replies : InterfaceReplies) (interface : Interface) :
    replies.WarnsExactly interface where
  warnings_eq := rfl
  increasing := pairwise_rejectedFrom 0 replies.members
  mem_rejected_iff := mem_rejectedFrom_zero_iff replies.members
  toNat_index _ hindex := toNat_ofNat (lt_of_mem_rejected hindex)

/-- With a writer that fails nowhere, the warnings of a run are those that its sources and the
replies of its driver give rise to, each once and in its turn: of blank sources, of rejected indexes
and of a program that was not linked. If an object is refused, those due until then are all there
are, the one of a blank source of the refused shader among them. -/
theorem run_warnings {tools : Tools σ ω φ} (hwriter : tools.writer.NeverRefuses)
    (hflush : tools.writer.AlwaysFlushes) (sources : ShaderPair) (output : String)
    (world : World σ ω φ) :
    let ending := (tools.run sources output).run world
    tools.driver.Replies world.driver (exchanges ending.trail) ending.state.driver ∧
      (∃ refusal, Warned sources refusal (exchanges ending.trail) (warningsOf ending.trail) ∧
        (∀ error ∈ refusal, ending.value = .error error) ∧
        (tools.driver.RefusesNothing world.driver → refusal = none) ∧
        (refusal ≠ none → ∀ attributes uniforms linked,
          warningsOf ending.trail <+: dueWarnings sources attributes uniforms linked)) ∧
      (∀ stage source, (Text.trim source).isEmpty = Text.isBlank source ∧
        ((∀ c ∈ source.toList, Text.isWhiteSpace c = true) ∧
            blankWarning stage source = [.emptySource stage] ∨
          (∃ c ∈ source.toList, Text.isWhiteSpace c = false) ∧
            blankWarning stage source = [])) ∧
      ∀ (replies : InterfaceReplies) (interface : Interface), replies.WarnsExactly interface := by
  intro ending
  obtain ⟨hreplies, htrail⟩ := conducts_run hwriter hflush sources output world
  obtain ⟨refusal, hwarned, hvalue⟩ := warned_of_runTrail htrail
  refine ⟨hreplies, ⟨refusal, hwarned, hvalue, fun hdriver ↦ ?_, fun hrefused ↦ ?_⟩,
    fun stage source ↦ ⟨Text.isEmpty_trim source, blankWarning_cases stage source⟩,
    InterfaceReplies.warnsExactly⟩
  · exact hwarned.refusal_eq_none (hdriver _ _ hreplies)
  · obtain ⟨error, rfl⟩ := Option.ne_none_iff_exists'.mp hrefused
    exact hwarned.isPrefix

theorem Canned.refusesNothing {canned : Canned} (h : canned.refusesObjects = false) :
    driver.RefusesNothing canned := by
  intro dialogue t hreplies
  induction dialogue generalizing canned with
  | nil => exact fun exchange hexchange ↦ absurd hexchange List.not_mem_nil
  | cons first rest ih =>
    obtain ⟨call, answer⟩ := first
    obtain ⟨rfl, hlater⟩ := hreplies
    refine List.forall_mem_cons.mpr ⟨?_, @ih (driver.answer call canned).state h hlater⟩
    cases call with
    | createShader stage => simp [driver, Canned.answer, Exchange.refusal?, h]
    | createProgram => simp [driver, Canned.answer, Exchange.refusal?, h]
    | _ => rfl

/-- Of a pair that does not link, the second attribute and the second uniform are rejected. -/
theorem run_warnings_unlinked :
    let tools : Tools Canned Sink.Content FileTree :=
      ⟨Canned.driver, ({} : Sink).writer, FileTree.disk⟩
    let described : List ActiveVariable := [⟨"a", 1, 0x8B52⟩, ⟨"b", 1, 0x8B52⟩]
    let canned : Canned := { attributes := described, uniforms := described, rejected := some 1 }
    let ending := (tools.run ⟨"void main() {}", "\r\n"⟩ "pair.bin").run
      ⟨canned, {}, FileTree.empty⟩
    tools.writer.NeverRefuses ∧ tools.writer.AlwaysFlushes ∧
      tools.driver.RefusesNothing canned ∧
      Warned ⟨"void main() {}", "\r\n"⟩ none (exchanges ending.trail) (warningsOf ending.trail) ∧
      warningsOf ending.trail =
        [.emptySource .fragment, .rejectedVariable .attributes 1, .rejectedVariable .uniforms 1,
          .unlinkedBinary] := by
  intro tools described canned ending
  have hwriter : tools.writer.NeverRefuses := Sink.neverRefuses_writer rfl
  have hflush : tools.writer.AlwaysFlushes := Sink.alwaysFlushes_writer rfl
  have hdriver : tools.driver.RefusesNothing canned := Canned.refusesNothing rfl
  obtain ⟨-, ⟨refusal, hwarned, -, hnone, -⟩, -⟩ :=
    run_warnings hwriter hflush ⟨"void main() {}", "\r\n"⟩ "pair.bin"
      ⟨canned, {}, FileTree.empty⟩
  rw [hnone hdriver] at hwarned
  exact ⟨hwriter, hflush, hdriver, hwarned, by decide +kernel⟩

end ShaderBuild

import ShaderBuild.Proofs.CannedDescription
import ShaderBuild.Proofs.CannedGl
import ShaderBuild.Proofs.DriverAgreement
import ShaderBuild.Proofs.GlesDescription

/-!
The canned driver in the place of a real one. Behind a GL that says the same of its objects, the
driver of a context builds what the canned driver builds, although one cuts texts and fills buffers
itself and the other reads them back from GL. The GL that was made for a canned driver is such a GL,
so there is one for every canned driver.
-/

set_option autoImplicit false
set_option relaxedAutoImplicit false

namespace ShaderBuild

variable {ω φ : Type}

/-! ### The GL made for a canned driver -/

namespace CannedGl

/-- The name of a shader tells its stage. Every program is linked. -/
def HasMade (_ : CannedGl) : Made → Prop
  | .shader shader stage => stageOf (Gles.shaderName shader) = stage
  | .compiled shader stage => stageOf (Gles.shaderName shader) = stage
  | .program _ => True
  | .linked _ => True

theorem toNat_ofNat_mod_four (count : Nat) : (UInt32.ofNat count).toNat % 4 = count % 4 := by
  rw [UInt32.toNat_ofNat', Nat.mod_mod_of_dvd _ (by decide)]

theorem ofNat_ne_zero {count : Nat} (h : count % 4 ≠ 0) : UInt32.ofNat count ≠ 0 := by
  intro hzero
  have hmod := toNat_ofNat_mod_four count
  rw [hzero] at hmod
  exact h hmod.symm

theorem isTerminated_append (log : String) : Text.IsTerminated log (log ++ "\x00") := ⟨1, rfl⟩

theorem copies_describe (described : ActiveVariable) {size : Nat} (hsize : size < 0x80000000) :
    (describe described (Int32.ofNat size)).Copies described size := by
  have hroom := Int32.toNatClampNeg_ofNat_of_lt hsize
  refine ⟨?_, rfl, rfl, ?_⟩
  · simp only [describe, hroom]
    rw [List.length_take, Text.length_encode, Nat.min_comm]
  · simp only [describe, hroom]
    exact List.prefix_append _ _

theorem copies_fetch {binary : Artifact} (hlt : binary.payload.length < 0x80000000) :
    (fetch binary (Int32.ofNat binary.payload.length)).Copies binary := by
  have hroom := Int32.toNatClampNeg_ofNat_of_lt hlt
  refine ⟨?_, rfl, ?_⟩
  · simp only [fetch, hroom, List.take_length]
  · simp only [fetch, hroom, List.take_length]
    exact List.prefix_refl _

theorem stageOf_shaderName (s : CannedGl) (stage : Stage) :
    stageOf (s.shaderName stage.code) = stage := by
  have hmod := toNat_ofNat_mod_four (4 * s.objects + 1)
  have hmod' := toNat_ofNat_mod_four (4 * s.objects + 2)
  cases stage
  · show stageOf (UInt32.ofNat (4 * s.objects + 1)) = .vertex
    rw [stageOf, if_neg (by omega)]
  · show stageOf (UInt32.ofNat (4 * s.objects + 2)) = .fragment
    rw [stageOf, if_pos (by omega)]

theorem shaderName_ne_zero (s : CannedGl) (kind : Gl.Code) : s.shaderName kind ≠ 0 := by
  rw [shaderName]
  split_ifs <;> exact ofNat_ne_zero (by omega)

theorem status_beq_one (good : Bool) : (status good == (1 : Int32)) = good := by
  cases good <;> rfl

theorem logLength_pos {log : String} (hlog : log ≠ "") (hlt : log.utf8ByteSize < 0x7FFFFFFF) :
    logLength log > 0 := by
  have hpos : (0 : Int32) < Int32.ofNat (log.utf8ByteSize + 1) :=
    (@Int32.ofNat_lt_iff_lt 0 _ (by decide) (by omega)).mpr (Nat.succ_pos _)
  simpa [logLength, hlog] using hpos

theorem programParameter_of_mem (canned : Canned) {code : Gl.Code}
    (h : code ∈ Canned.parameters) : programParameter canned code = canned.parameter code := by
  have hne : code ≠ Gl.Code.linkStatus := by
    rintro rfl
    exact absurd h (by decide)
  rw [programParameter, if_neg hne]

/-- The GL that was made for a canned driver is like it. -/
def likeness {canned : Canned} (hregular : canned.IsRegular)
    (hlogs : ∀ stage, (canned.verdict stage).infoLog.utf8ByteSize < 0x7FFFFFFF)
    (function : Gl.BinaryFunction) :
    Gl.Likeness (implementation canned) canned function where
  queue := errorQueue canned
  made := HasMade
  made_answer call s fact h := h
  raised_eq_nil call s hquiet := by
    cases call <;> first | rfl | cases hquiet
  createShader stage s name t h := by
    obtain ⟨rfl, rfl⟩ := Prod.mk.inj h
    refine ⟨shaderName_ne_zero s stage.code, ?_⟩
    show stageOf (Gles.shaderName ⟨(s.shaderName stage.code).toNat⟩) = stage
    rw [Gles.shaderName_toNat, stageOf_shaderName]
  compileShader id stage s h := h
  compileStatus id stage s h := by
    show (status (canned.verdict (stageOf (Gles.shaderName id))).status == (1 : Int32)) = _
    rw [status_beq_one, show stageOf (Gles.shaderName id) = stage from h]
  shaderLog_pos id stage s h hlog := by
    show logLength (canned.verdict (stageOf (Gles.shaderName id))).infoLog > 0
    rw [show stageOf (Gles.shaderName id) = stage from h]
    exact logLength_pos hlog (hlogs stage)
  shaderLog id stage s length t h _ _ := by
    have hstage : stageOf (Gles.shaderName id) = stage := h
    rw [← hstage]
    exact isTerminated_append _
  createProgram s name t h := by
    obtain ⟨rfl, rfl⟩ := Prod.mk.inj h
    exact ⟨ofNat_ne_zero (by omega), trivial⟩
  linkProgram id s h := h
  linkStatus id s h := status_beq_one canned.link.status
  parameter id code s h hcode := programParameter_of_mem canned hcode
  programLog id s h hpos := isTerminated_append canned.link.infoLog
  rejected interface id index size s h hrejected := by
    have hnone : active? canned interface index = none := if_pos hrejected
    simp [errorQueue, raised, hnone]
  active interface id index size s described h hrejected hdescribed hpos hsize := by
    have hsome : active? canned interface index = some described := by
      rw [active?, if_neg hrejected, hdescribed]
    refine ⟨by simp [errorQueue, raised, hsome], ?_⟩
    simpa [implementation, answer, hsome] using copies_describe described hsize
  binary id s h := copies_fetch (Nat.lt_of_lt_of_le hregular.binary_lt (by decide))

end CannedGl

/-! ### The driver of a context -/

section Gles

variable {γ : Type} {gl : Gl.Implementation γ} {canned : Canned} {function : Gl.BinaryFunction}
  {context : Context}

/-- With a GL that is like a canned driver, and with no more stale errors than can be discarded,
everything on a workbench comes out as with the canned driver itself: every compilation, link and
extraction, in any order and number. -/
theorem gles_agrees_with_canned (likeness : Gl.Likeness gl canned function)
    (hregular : canned.IsRegular) (hfunction : context.functions.binary = some function)
    (writer : Writer ω) (disk : Disk φ) (steps : List Workbench.Step) {s : γ}
    (hpending : (likeness.queue.pending s).length ≤ Gl.maxPending) (w : ω) (files : φ) :
    let ending := Workbench.performEach ⟨Canned.driver, writer, disk⟩ steps {} ⟨canned, w, files⟩
    let ending' :=
      Workbench.performEach ⟨Gles.driver gl context, writer, disk⟩ steps {} ⟨s, w, files⟩
    ending'.value.map (Except.map Workbench.Yield.unnumbered) =
        ending.value.map (Except.map Workbench.Yield.unnumbered) ∧
      ending'.state.writer = ending.state.writer ∧ ending'.state.files = ending.state.files := by
  intro ending ending'
  have hworlds : Alongside (Canned.description hregular)
      (Gles.description likeness hregular hfunction) ⟨canned, w, files⟩ ⟨s, w, files⟩ :=
    ⟨⟨canned.shaders, rfl⟩, hpending, rfl, rfl⟩
  have hbench : Workbench.SameBench (Canned.description hregular)
      (Gles.description likeness hregular hfunction) canned s {} {} := ⟨.nil, .nil, rfl⟩
  obtain ⟨hyields, hlast⟩ := @Workbench.performEach_agree _ _ _ _ _ _ _ _ _ _ _
    ⟨Canned.driver, writer, disk⟩ ⟨Gles.driver gl context, writer, disk⟩ rfl rfl rfl rfl hregular
    steps _ _ hbench hworlds
  exact ⟨hyields, hlast.writer_eq, hlast.files_eq⟩

end Gles

theorem isRegular_simplePair : Canned.simplePair.IsRegular where
  refusesObjects_eq_false := rfl
  shaderLog_unterminated stage := by
    cases stage <;> decide
  linkLog_unterminated := by decide
  linkLog_lt := by decide
  active_lt interface := by
    cases interface <;> decide
  name_lt interface := by
    cases interface <;> decide
  binary_lt := by decide

theorem gles_agrees_with_simplePair :
    let context : Context := { handle := 0, functions := { binary := some .core } }
    let stale : CannedGl := { pending := [Gl.Code.invalidValue], noError_not_mem := by decide }
    let steps : List Workbench.Step :=
      [.compile .vertex "void main() {}", .compile .fragment "", .link 0 1, .extract 0]
    let writer := ({} : Sink).writer
    Canned.simplePair.IsRegular ∧ context.functions.binary = some .core ∧
      stale.pending.length ≤ Gl.maxPending ∧
      let ending := Workbench.performEach ⟨Canned.driver, writer, FileTree.disk⟩ steps {}
        ⟨Canned.simplePair, {}, FileTree.empty⟩
      let ending' := Workbench.performEach
        ⟨Gles.driver (CannedGl.implementation Canned.simplePair) context, writer, FileTree.disk⟩
        steps {} ⟨stale, {}, FileTree.empty⟩
      ending'.value.map (Except.map Workbench.Yield.unnumbered) =
          ending.value.map (Except.map Workbench.Yield.unnumbered) ∧
        ending'.state.writer = ending.state.writer ∧
        ending'.state.files = ending.state.files := by
  intro context stale steps writer
  have hlogs : ∀ stage, (Canned.simplePair.verdict stage).infoLog.utf8ByteSize < 0x7FFFFFFF := by
    intro stage
    cases stage <;> decide
  have hfunction : context.functions.binary = some .core := rfl
  have hpending : stale.pending.length ≤ Gl.maxPending := by decide
  exact ⟨isRegular_simplePair, hfunction, hpending,
    gles_agrees_with_canned (s := stale)
      (CannedGl.likeness isRegular_simplePair hlogs .core) isRegular_simplePair hfunction writer
      FileTree.disk steps hpending {} FileTree.empty⟩

end ShaderBuild

import Mathlib.Algebra.Group.Nat.Defs
import ShaderBuild.Driver.Gles
import ShaderBuild.Proofs.CannedGl
import ShaderBuild.Proofs.QueryTrails
import ShaderBuild.Proofs.RunOutcome
import ShaderBuild.Proofs.TreeWrites

/-!
Binaries as GL hands them out. Behind a context the binary of a program is fetched with the function
that the context found, into a buffer of zeros whose length is the one that GL reported. Whatever GL
then writes, counts and flags, the artifact is a front of that buffer as GL left it, or it is empty:
no byte is made up, and none is cut off twice (`Gles.extract_fetches`).
-/

set_option autoImplicit false
set_option relaxedAutoImplicit false

namespace ShaderBuild

variable {γ : Type} {machine : Machine γ}

namespace Gl

/-- The binary of a program in a buffer of `length` bytes, and the trail of fetching it. GL is told
the length exactly. An artifact is empty if there is no function or GL flags the query, and else it
is as much of the buffer as GL says that it wrote. -/
inductive FetchTrail (functions : Functions) (program : UInt32) (length : Nat) :
    Artifact → List Deed → Prop
  | unavailable (hfunction : functions.binary = none) :
    FetchTrail functions program length ⟨0, []⟩ [.logged .emptyPayload]
  | flagged (function : BinaryFunction) (size : Int32) (discarded : List Deed)
      (answer : BinaryAnswer) (code : Code) (hfunction : functions.binary = some function)
      (hsize : size.toInt = length) (hdiscarded : DiscardTrail maxPending discarded)
      (hcode : code ≠ .noError) :
    FetchTrail functions program length ⟨0, []⟩
      (discarded ++ [.gl (.getProgramBinary function program size) answer, .gl .getError code,
        .logged (.binaryFailed code)])
  | fetched (function : BinaryFunction) (size : Int32) (buffer : Buffer) (discarded : List Deed)
      (answer : BinaryAnswer) (hfunction : functions.binary = some function)
      (hsize : size.toInt = length) (hbuffer : buffer = ⟨length, answer.payload⟩)
      (hdiscarded : DiscardTrail maxPending discarded) :
    FetchTrail functions program length
      ⟨answer.format, buffer.toList.take (min (max answer.written.toInt 0) length).toNat⟩
      (discarded ++ [.gl (.getProgramBinary function program size) answer,
        .gl .getError .noError])

theorem believed_eq_toNat_min_of_toInt {size : Int32} {length : Nat} (h : size.toInt = length)
    (written : Int32) : believed written size = (min (max written.toInt 0) length).toNat := by
  rw [believed, h]
  omega

theorem conducts_fetchBinary (functions : Functions) (program : UInt32) {length : Nat}
    (hlength : length < 2 ^ 31) :
    machine.Conducts (fetchBinary machine.gl functions program length) fun reply trail ↦
      FetchTrail functions program length ⟨reply.1, reply.2⟩ trail := by
  cases hfunction : functions.binary with
  | none =>
    simp only [fetchBinary, hfunction]
    exact Machine.conducts_log_bind (Machine.conducts_pure (.unavailable hfunction))
  | some function =>
    let query := Query.binary program length
    have hsize := Int32.toInt_ofNat_of_lt hlength
    have hmake : fetchBinary machine.gl functions program length = checked machine.gl
        (query.call function) (query.accepted function) query.rejected query.failed :=
      query.make_eq_checked machine.gl hfunction
    rw [hmake]
    refine (conducts_checked _ _ _ _).mono fun reply trail htrail ↦ ?_
    cases htrail with
    | accepted discarded hdiscarded answer =>
      show FetchTrail functions program length ⟨answer.format,
        (Buffer.mk length answer.payload).front (believed answer.written (Int32.ofNat length))⟩ _
      rw [Buffer.front_eq_take, believed_eq_toNat_min_of_toInt hsize]
      exact .fetched function _ _ discarded answer hfunction hsize rfl hdiscarded
    | rejected discarded hdiscarded answer code hcode =>
      exact .flagged function _ discarded answer code hfunction hsize hdiscarded hcode

theorem FetchTrail.length_payload_le {functions : Functions} {program : UInt32} {length : Nat}
    {artifact : Artifact} {trail : List Deed}
    (h : FetchTrail functions program length artifact trail) :
    artifact.payload.length ≤ length := by
  cases h with
  | unavailable hfunction => exact Nat.zero_le length
  | flagged function size discarded answer code hfunction hsize hdiscarded hcode =>
    exact Nat.zero_le length
  | fetched function size buffer discarded answer hfunction hsize hbuffer hdiscarded =>
    rw [List.length_take]
    omega

/-- Nothing comes out of a buffer that GL does not say it wrote to. -/
theorem FetchTrail.payload_eq_nil {functions : Functions} {program : UInt32} {length : Nat}
    {artifact : Artifact} {trail : List Deed}
    (h : FetchTrail functions program length artifact trail)
    (hunwritten : ∀ function size answer,
      .gl (.getProgramBinary function program size) answer ∈ trail → answer.written.toInt ≤ 0) :
    artifact.payload = [] := by
  cases h with
  | unavailable hfunction => rfl
  | flagged function size discarded answer code hfunction hsize hdiscarded hcode => rfl
  | fetched function size buffer discarded answer hfunction hsize hbuffer hdiscarded =>
    have hwritten := hunwritten function size answer
      (List.mem_append_right _ List.mem_cons_self)
    have hnone : (min (max answer.written.toInt 0) length).toNat = 0 := by omega
    rw [hnone, List.take_zero]

end Gl

/-! ### Extraction -/

/-- What was saved reads back as the payload. -/
theorem Disk.read_of_save {φ : Type} {disk : Disk φ} {artifact : Artifact} {path : String}
    {files : φ} (hreplaces : disk.ReplacesAt path files)
    (hsaved : ((disk.save artifact path).run files).value = .ok ()) :
    disk.read path ((disk.save artifact path).run files).state = .ok artifact.payload := by
  obtain ⟨records, -, hsave⟩ := disk.run_save artifact path files
  rw [hsave] at hsaved ⊢
  cases hwrite : (disk.write path artifact.payload files).1 with
  | error cause => simp [hwrite, Except.mapError] at hsaved
  | ok _ => exact hreplaces artifact.payload _ (Prod.ext hwrite rfl)

namespace Gles

/-- How the binary of a program is extracted where GL reports a length for it. -/
structure Extraction (machine : Machine γ) (functions : Gl.Functions) (program : LinkedProgram)
    (s : γ) (ending : Ending Event γ Artifact) (reported : Int32) (length : Nat)
    (within : List Deed) : Prop where
  length_eq : (length : Int) = max reported.toInt 0
  /-- The artifact is the answer of the driver as it is. -/
  trail_eq : ending.trail =
    (if program.status then [] else [.logged .unlinkedBinary]) ++
      [.asked (.parameter program.id .programBinaryLength) reported
        [.gl (.getProgram (programName program.id) .programBinaryLength) reported],
      .asked (.binary program.id length) ending.value within,
      .logged (.binaryFetched length ending.value.format)]
  performs : machine.Performs s (ending.trail.flatMap Event.deeds) ending.state
  fetch : Gl.FetchTrail functions (programName program.id) length ending.value within
  length_payload_le : ending.value.payload.length ≤ length
  payload_eq_nil : (∀ function size answer,
    .gl (.getProgramBinary function (programName program.id) size) answer ∈ within →
      answer.written.toInt ≤ 0) → ending.value.payload = []
  read_of_save : ∀ {φ : Type} (disk : Disk φ) (path : String) (files : φ),
    disk.ReplacesAt path files → ((disk.save ending.value path).run files).value = .ok () →
      disk.read path ((disk.save ending.value path).run files).state = .ok ending.value.payload

theorem conducts_binary (context : Context) (program : ProgramId) {length : Nat}
    (hlength : length < 2 ^ 31) :
    machine.Conducts (answer machine.gl context (.binary program length))
      (Gl.FetchTrail context.functions (programName program) length) := by
  refine Machine.conducts_bind (Gl.conducts_fetchBinary context.functions (programName program)
    hlength) fun reply trail htrail ↦ Machine.conducts_pure ?_
  rw [List.append_nil]
  exact htrail

theorem exists_extraction (context : Context) (program : LinkedProgram) (s : γ) :
    ∃ reported length within, Extraction machine context.functions program s
      (extract (driver machine.gl context) program s) reported length within := by
  suffices hbacks : machine.Backs (extract (driver machine.gl context) program)
      fun artifact trail ↦ ∃ (reported : Int32) (length : Nat) (within : List Deed),
        (length : Int) = max reported.toInt 0 ∧
        Gl.FetchTrail context.functions (programName program.id) length artifact within ∧
        trail = (if program.status then [] else [.logged .unlinkedBinary]) ++
          [.asked (.parameter program.id .programBinaryLength) reported
            [.gl (.getProgram (programName program.id) .programBinaryLength) reported],
          .asked (.binary program.id length) artifact within,
          .logged (.binaryFetched length artifact.format)] by
    obtain ⟨hperforms, reported, length, within, hlength, hfetch, htrail⟩ := hbacks s
    exact ⟨reported, length, within, hlength, htrail, hperforms, hfetch, hfetch.length_payload_le,
      hfetch.payload_eq_nil, fun disk path files ↦ Disk.read_of_save⟩
  unfold extract
  refine Machine.backs_unless_log_bind ?_
  refine Machine.backs_ask_bind (Machine.conducts_gl _) fun reported measured hmeasured ↦ ?_
  subst hmeasured
  have hreported := reported.toInt_lt
  have hlength := toNatClampNeg_eq_toNat_max reported
  refine Machine.backs_ask_bind (conducts_binary context program.id (by omega))
    fun artifact within hfetch ↦ Machine.backs_log_bind (Machine.backs_pure ?_)
  have hwhole : artifact.payload.take reported.toNatClampNeg = artifact.payload :=
    List.take_of_length_le hfetch.length_payload_le
  rw [hwhole]
  exact ⟨reported, reported.toNatClampNeg, within, by omega, hfetch, rfl⟩

/-- A binary is extracted with the function that was found for the context, and nothing but what GL
says that it wrote is taken from the buffer. -/
theorem extract_fetches (machine : Machine γ) (major handle : Nat) (functions : Gl.Functions)
    (program : LinkedProgram) (loaded s : γ)
    (hfound : ((Gl.Functions.find machine.gl major).run loaded).value = .ok functions) :
    ∃ searched, ((Gl.Functions.find machine.gl major).run loaded).trail =
        Gl.requiredFunctions.map Gl.offered ++ searched ∧
      Gl.BinarySearchTrail major functions.binary searched ∧
      ∃ reported length within, Extraction machine functions program s
        (extract (driver machine.gl ⟨handle, functions⟩) program s) reported length within := by
  have hfind : Gl.FindTrail major ((Gl.Functions.find machine.gl major).run loaded).value
      ((Gl.Functions.find machine.gl major).run loaded).trail := (Gl.conducts_find major loaded).2
  rw [hfound] at hfind
  generalize ((Gl.Functions.find machine.gl major).run loaded).trail = trail at hfind ⊢
  cases hfind with
  | found binary required searched hrequired hsearched =>
    rw [hrequired.eq_of_ok]
    exact ⟨searched, rfl, hsearched, exists_extraction ⟨handle, ⟨binary⟩⟩ program s⟩

theorem extract_fetches_cannedGl :
    let machine : Machine CannedGl :=
      ⟨CannedGl.implementation Canned.simplePair,
        ⟨fun _ s ↦ (.error .libraryNotFound, s), fun _ _ ↦ none⟩⟩
    let s : CannedGl := { pending := [], noError_not_mem := List.not_mem_nil }
    let functions : Gl.Functions := { binary := some .core }
    let program : LinkedProgram :=
      { status := true, infoLog := "", attributes := [], uniforms := [], id := ⟨3⟩ }
    ((Gl.Functions.find machine.gl 3).run s).value = .ok functions ∧
      ∃ searched, ((Gl.Functions.find machine.gl 3).run s).trail =
          Gl.requiredFunctions.map Gl.offered ++ searched ∧
        Gl.BinarySearchTrail 3 functions.binary searched ∧
        ∃ reported length within, Extraction machine functions program s
          (extract (driver machine.gl ⟨0, functions⟩) program s) reported length within := by
  intro machine s functions program
  exact ⟨rfl, extract_fetches machine 3 0 functions program s s rfl⟩

end Gles

end ShaderBuild

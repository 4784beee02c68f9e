import Mathlib.Data.List.TakeWhile
import ShaderBuild.Proofs.GlesDescription
import ShaderBuild.Report

/-!
Logs as GL hands them back, and what is kept of them. A text has one front that it ends in NULs
behind and that does not end in one itself, and this is what is left when terminators are taken off
(`Text.isLogOf_dropTerminators`). Whatever GL is, the logs of compiled shaders and of linked
programs come about in this way (`compile_log`, `link_log`).
-/

set_option autoImplicit false
set_option relaxedAutoImplicit false

namespace ShaderBuild

/-! ### Taking terminators off -/

namespace Text

/-- The log is what stands in the text before the NULs that the text ends in. -/
structure IsLogOf (handed log : String) : Prop where
  isTerminated : IsTerminated log handed
  unterminated : log.toList.getLast? ≠ some '\x00'
  unique : ∀ other, IsTerminated other handed → other.toList.getLast? ≠ some '\x00' → other = log
  isPrefix : log.toList <+: handed.toList
  eq_empty_iff : log = "" ↔ ∀ c ∈ handed.toList, c = '\x00'

theorem isTerminated_dropTerminators (text : String) :
    IsTerminated (dropTerminators text) text := by
  have hnuls : text.toList.reverse.takeWhile (· == '\x00') =
      List.replicate (text.toList.reverse.takeWhile (· == '\x00')).length '\x00' :=
    List.eq_replicate_of_mem fun c hc ↦ by simpa using List.mem_takeWhile_imp hc
  refine ⟨(text.toList.reverse.takeWhile (· == '\x00')).length, ?_⟩
  rw [← List.reverse_replicate, ← hnuls, dropTerminators, ← String.ofList_append,
    ← List.reverse_append, List.takeWhile_append_dropWhile, List.reverse_reverse,
    String.ofList_toList]

theorem getLast?_dropTerminators (text : String) :
    (dropTerminators text).toList.getLast? ≠ some '\x00' := by
  intro hlast
  rw [dropTerminators, String.toList_ofList, List.getLast?_reverse] at hlast
  have hnot := List.head?_dropWhile_not (· == '\x00') text.toList.reverse
  rw [hlast] at hnot
  simp at hnot

theorem IsTerminated.isPrefix {log text : String} (h : IsTerminated log text) :
    log.toList <+: text.toList := by
  obtain ⟨count, rfl⟩ := h
  rw [String.toList_append]
  exact List.prefix_append _ _

theorem isLogOf_dropTerminators (text : String) : IsLogOf text (dropTerminators text) where
  isTerminated := isTerminated_dropTerminators text
  unterminated := getLast?_dropTerminators text
  unique other hother hunterminated := (hother.dropTerminators_eq hunterminated).symm
  isPrefix := (isTerminated_dropTerminators text).isPrefix
  eq_empty_iff := by
    rw [dropTerminators, ← String.toList_inj, String.toList_ofList]
    simp [List.dropWhile_eq_nil_iff]

/-- Terminators make no difference to what is left when they are taken off, however many the log had
of its own. -/
theorem IsTerminated.dropTerminators_eq_dropTerminators {log text : String}
    (h : IsTerminated log text) : dropTerminators text = dropTerminators log := by
  obtain ⟨own, hown⟩ := isTerminated_dropTerminators log
  obtain ⟨count, rfl⟩ := h
  refine IsTerminated.dropTerminators_eq ⟨own + count, ?_⟩ (getLast?_dropTerminators log)
  calc log ++ String.ofList (List.replicate count '\x00')
    _ = dropTerminators log ++ String.ofList (List.replicate own '\x00') ++
          String.ofList (List.replicate count '\x00') := by rw [← hown]
    _ = dropTerminators log ++ String.ofList (List.replicate (own + count) '\x00') := by
      rw [String.append_assoc, ← String.ofList_append, List.replicate_append_replicate]

theorem dropTerminators_empty : dropTerminators "" = "" := rfl

end Text

/-- A log is shown in a report if it is left with a character. -/
theorem Report.logPieces_eq_nil_iff {handed log : String} (h : Text.IsLogOf handed log) :
    Report.logPieces log = [] ↔ ∀ c ∈ handed.toList, c = '\x00' := by
  rw [← h.eq_empty_iff, ← String.isEmpty_iff, Report.logPieces]
  split_ifs with hempty <;> simp [hempty]

/-! ### Reading a log -/

namespace Gl

variable {γ : Type}

/-- What is read at a length; where there is no length, nothing is read. -/
def readAt (read : Int32 → Activity Deed γ String) (length : Int32) : Activity Deed γ String :=
  if length > 0 then read length else pure ""

/-- The log of a shader as GL hands it back. -/
def shaderInfoLog (gl : Implementation γ) (shader : UInt32) : Activity Deed γ String :=
  gl.ask (.getShader shader .infoLogLength) >>=
    readAt fun length ↦ gl.ask (.getShaderInfoLog shader length)

/-- The log of a program as GL hands it back. -/
def programInfoLog (gl : Implementation γ) (program : UInt32) : Activity Deed γ String :=
  gl.ask (.getProgram program .infoLogLength) >>=
    readAt fun length ↦ gl.ask (.getProgramInfoLog program length)

/-- Terminators are taken off a log that is read, and there are none on a log that is not. -/
theorem dropTerminators_readAt (measure : Activity Deed γ Int32)
    (read : Int32 → Activity Deed γ String) :
    Text.dropTerminators <$> (measure >>= readAt read) = (do
      let length ← measure
      if length > 0 then
        return Text.dropTerminators (← read length)
      else
        return "") := by
  refine Activity.ext fun s ↦ ?_
  by_cases hlength : (measure s).value > 0 <;>
    simp [readAt, hlength, Text.dropTerminators_empty]

/-- There is no log of a program to be read where there was no length of it. -/
def MeasuresLogs (gl : Implementation γ) : Prop :=
  ∀ program s, (gl.answer (.getProgram program .infoLogLength) s).1 ≤ 0 →
    (programInfoLog gl program (gl.answer (.getProgram program .infoLogLength) s).2).value = ""

end Gl

namespace Gles

variable {γ : Type} {gl : Gl.Implementation γ} {context : Context}

theorem shaderLog_eq (shader : UInt32) :
    shaderLog gl shader = Text.dropTerminators <$> Gl.shaderInfoLog gl shader :=
  (Gl.dropTerminators_readAt _ _).symm

theorem programLog_eq (program : UInt32) :
    programLog gl program = Text.dropTerminators <$> Gl.programInfoLog gl program :=
  (Gl.dropTerminators_readAt _ _).symm

/-- A compiled shader keeps the log that GL hands back after the calls before, less terminators. -/
theorem compile_log {stage : Stage} {source : String} {s : γ} {unit : CompiledShader}
    (h : ((compile (driver gl context) stage source).run s).value = .ok unit) :
    ∃ before t, exchanges ((compile (driver gl context) stage source).run s).trail =
        before ++ [⟨.shaderLog unit.id, unit.infoLog⟩] ∧
      (driver gl context).Replies s before t ∧
      Text.IsLogOf (Gl.shaderInfoLog gl (shaderName unit.id) t).value unit.infoLog := by
  obtain ⟨hreplies, htrail⟩ :=
    (@conducts_compile γ (driver gl context) stage source).apply s
  rw [h] at htrail
  generalize ((compile (driver gl context) stage source).run s).trail = trail at hreplies htrail ⊢
  cases htrail with
  | compiled id status infoLog created submitted judged read =>
    have hexchanges : exchanges ((if Text.isBlank source then [.logged (.emptySource stage)]
        else []) ++ [.asked (.createShader stage) (.ok id) created,
          .asked (.compileShader id source) () submitted,
          .asked (.compileStatus id) status judged, .asked (.shaderLog id) infoLog read,
          .logged (.compiled stage status infoLog.utf8ByteSize)]) =
        [⟨.createShader stage, .ok id⟩, ⟨.compileShader id source, ()⟩,
          ⟨.compileStatus id, status⟩] ++ [⟨.shaderLog id, infoLog⟩] := by
      rw [exchanges_append, exchanges_when_logged]
      rfl
    rw [hexchanges] at hreplies
    obtain ⟨t, hbefore, hread, -⟩ := hreplies.of_append
    refine ⟨_, t, hexchanges, hbefore, ?_⟩
    have hlog : (shaderLog gl (shaderName id) t).value = infoLog := hread
    rw [shaderLog_eq, Activity.map_apply] at hlog
    exact hlog ▸ Text.isLogOf_dropTerminators _

/-- The log of a linked program, by the length that was asked for in state `s` before. -/
inductive LinkLog (gl : Gl.Implementation γ) (program : ProgramId) (length : Int32) (s : γ) :
    String → List Exchange → Prop
  | skipped (hlength : length ≤ 0) : LinkLog gl program length s "" []
  | read (infoLog : String) (hlength : 0 < length)
      (hlog : Text.IsLogOf (Gl.programInfoLog gl (programName program) s).value infoLog) :
    LinkLog gl program length s infoLog [⟨.programLog program, infoLog⟩]

theorem exists_linkLog {program : ProgramId} {infoLog : String} {trail : List Event}
    (h : LinkLogTrail program infoLog trail) {s u : γ}
    (hreplies : (driver gl context).Replies s (exchanges trail) u) :
    ∃ length t read,
      exchanges trail = ⟨.parameter program .infoLogLength, length⟩ :: read ∧
      (driver gl context).Replies s [⟨.parameter program .infoLogLength, length⟩] t ∧
      LinkLog gl program length t infoLog read := by
  cases h with
  | absent length measured hlength =>
    exact ⟨length, u, [], rfl, hreplies, .skipped (Int32.not_lt.mp hlength)⟩
  | present length _ measured read hlength =>
    obtain ⟨t, hmeasured, hread, -⟩ := @Driver.Replies.of_append _ _ _ _
      [⟨.parameter program .infoLogLength, length⟩] [⟨.programLog program, infoLog⟩] hreplies
    have hlog : (programLog gl (programName program) t).value = infoLog := hread
    rw [programLog_eq, Activity.map_apply] at hlog
    exact ⟨length, t, _, rfl, hmeasured,
      .read infoLog hlength (hlog ▸ Text.isLogOf_dropTerminators _)⟩

/-- A linked program keeps the log that GL hands back after the calls before, less terminators, if
it has a length by then, and else no log. -/
theorem link_log {vertex fragment : CompiledShader} {s : γ} {unit : LinkedProgram}
    (h : ((link (driver gl context) vertex fragment).run s).value = .ok unit) :
    ∃ before length t read later,
      exchanges ((link (driver gl context) vertex fragment).run s).trail =
        before ++ [⟨.parameter unit.id .infoLogLength, length⟩] ++ read ++ later ∧
      (driver gl context).Replies s
        (before ++ [⟨.parameter unit.id .infoLogLength, length⟩]) t ∧
      LinkLog gl unit.id length t unit.infoLog read := by
  obtain ⟨hreplies, htrail⟩ := (@conducts_link γ (driver gl context) vertex fragment).apply s
  rw [h] at htrail
  generalize ((link (driver gl context) vertex fragment).run s).trail = trail at hreplies htrail ⊢
  cases htrail with
  | linked id status infoLog attributes uniforms created first second joined judged logTrail
      attributesTrail uniformsTrail hlog hattributes huniforms =>
    simp only [exchanges_append, exchanges_unless_logged, List.append_nil] at hreplies ⊢
    obtain ⟨afterAttributes, hreplies, -⟩ := hreplies.of_append
    obtain ⟨afterLog, hreplies, -⟩ := hreplies.of_append
    obtain ⟨afterLink, hbefore, hlogReplies⟩ := hreplies.of_append
    obtain ⟨length, t, read, hexchanges, hmeasured, hlinkLog⟩ := exists_linkLog hlog hlogReplies
    refine ⟨_, length, t, read, exchanges attributesTrail ++ exchanges uniformsTrail, ?_,
      hbefore.append hmeasured, hlinkLog⟩
    rw [hexchanges]
    simp

/-- Whether or not it was read, it is the log that GL would hand back, less terminators. -/
theorem LinkLog.isLogOf {program : ProgramId} {length : Int32} {s : γ} {infoLog : String}
    {read : List Exchange} (h : LinkLog gl program length s infoLog read)
    (hnone : length ≤ 0 → (Gl.programInfoLog gl (programName program) s).value = "") :
    Text.IsLogOf (Gl.programInfoLog gl (programName program) s).value infoLog := by
  cases h with
  | skipped hlength =>
    rw [hnone hlength]
    exact Text.isLogOf_dropTerminators ""
  | read _ hlength hlog => exact hlog

variable (gl context) in
/-- All units keep the logs that GL hands back after the calls before, less terminators. -/
structure KeepsLogs : Prop where
  compile : ∀ stage source s unit, ((compile (driver gl context) stage source).run s).value =
      .ok unit →
    ∃ before t, exchanges ((compile (driver gl context) stage source).run s).trail =
        before ++ [⟨.shaderLog unit.id, unit.infoLog⟩] ∧
      (driver gl context).Replies s before t ∧
      Text.IsLogOf (Gl.shaderInfoLog gl (shaderName unit.id) t).value unit.infoLog
  link : ∀ vertex fragment s unit, ((link (driver gl context) vertex fragment).run s).value =
      .ok unit →
    ∃ before length t read later,
      exchanges ((link (driver gl context) vertex fragment).run s).trail =
        before ++ [⟨.parameter unit.id .infoLogLength, length⟩] ++ read ++ later ∧
      (driver gl context).Replies s
        (before ++ [⟨.parameter unit.id .infoLogLength, length⟩]) t ∧
      LinkLog gl unit.id length t unit.infoLog read ∧
      Text.IsLogOf (Gl.programInfoLog gl (programName unit.id) t).value unit.infoLog

theorem keepsLogs (h : Gl.MeasuresLogs gl) : KeepsLogs gl context where
  compile _ _ _ _ hunit := compile_log hunit
  link vertex fragment s unit hunit := by
    obtain ⟨before, length, t, read, later, hexchanges, hreplies, hlog⟩ := link_log hunit
    refine ⟨before, length, t, read, later, hexchanges, hreplies, hlog, hlog.isLogOf ?_⟩
    obtain ⟨u, -, hlength, hlast⟩ := hreplies.of_append
    rw [← hlength, ← show _ = t from hlast]
    exact h (programName unit.id) u

end Gles

end ShaderBuild

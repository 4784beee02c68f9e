import ShaderBuild.Disk.Tree
import ShaderBuild.Driver.Canned
import ShaderBuild.Proofs.ReportLines
import ShaderBuild.Proofs.RunFindings

/-!
The report of a whole run as lines. Nothing says where a block ends: the status line of the next one
may stand in a log just as well. But each block has its mark, the line `Log:`, right below its
status line. As long as no log of a shader has that line, the first three marks in a report are
those of its blocks, and the line above a mark is a status. The log of the program comes behind the
last mark and may have any line. The complete reports of two runs are therefore the same bytes just
if the runs have found the same (`run_report_decodable`).
-/

set_option autoImplicit false
set_option relaxedAutoImplicit false

namespace ShaderBuild

namespace Report

/-! ### Blocks of lines -/

def compileLine (status : Bool) : Line :=
  if status then "Compile successfull.".toList else "Compile failed".toList

/-- The line below the status of a block. -/
def mark : Line := "Log:".toList

def shaderLines (unit : CompiledShader) : List Line :=
  compileLine unit.status :: mark :: logLines unit.infoLog

/-- No line of the log is the mark of a block. -/
def LogUnmarked (infoLog : String) : Prop := mark ∉ infoLog.toList.splitOn '\n'

instance (infoLog : String) : Decidable (LogUnmarked infoLog) :=
  inferInstanceAs (Decidable (mark ∉ infoLog.toList.splitOn '\n'))

theorem compileLine_injective : Function.Injective compileLine := by
  show ∀ status status' : Bool, compileLine status = compileLine status' → status = status'
  decide

/-- The lines are those of a block, or of several blocks: a status line that is no mark, and a mark
below it. -/
def BeginsBlock (lines : List Line) : Prop :=
  ∃ status rest, status ≠ mark ∧ lines = status :: mark :: rest

theorem beginsBlock_shaderLines_append (unit : CompiledShader) (rest : List Line) :
    BeginsBlock (shaderLines unit ++ rest) := by
  refine ⟨compileLine unit.status, logLines unit.infoLog ++ rest, ?_, rfl⟩
  cases unit.status <;> decide

theorem beginsBlock_programLines (unit : LinkedProgram) : BeginsBlock (programLines unit) := by
  refine ⟨linkLine unit.status, _, ?_, rfl⟩
  cases unit.status <;> decide

theorem LogUnmarked.not_mem_logLines {infoLog : String} (h : LogUnmarked infoLog) :
    mark ∉ logLines infoLog := by
  by_cases hempty : infoLog = ""
  · rw [logLines, if_pos hempty]
    exact List.not_mem_nil
  · rw [logLines, if_neg hempty]
    exact h

/-- The text of a shader, with any text behind it, begins with the lines of the shader. -/
theorem splitOn_shaderPieces (unit : CompiledShader) (rest : List Char) :
    ((shaderPieces unit).flatMap String.toList ++ rest).splitOn '\n' =
      shaderLines unit ++ rest.splitOn '\n' := by
  have hstatus : '\n' ∉ compileLine unit.status := by
    cases unit.status <;> decide
  have htext : (shaderPieces unit).flatMap String.toList ++ rest =
      compileLine unit.status ++ '\n' :: (mark ++ '\n' ::
        ((logPieces unit.infoLog).flatMap String.toList ++ rest)) := by
    cases hvalue : unit.status <;> simp [shaderPieces, compileLine, mark, hvalue]
  rw [htext, List.splitOn_append_cons_self_of_not_mem hstatus,
    List.splitOn_append_cons_self_of_not_mem (by decide), splitOn_logPieces]
  rfl

end Report

/-- The same shader as far as a report shows it. -/
structure CompiledShader.ShownAlike (unit unit' : CompiledShader) : Prop where
  status_eq : unit.status = unit'.status
  infoLog_eq : unit.infoLog = unit'.infoLog

namespace Report

/-- The block of a shader is told from the block behind it: the first mark behind the log is that of
the next block, and the line above that mark is no longer of the log. -/
theorem shaderLines_append_eq_iff {unit unit' : CompiledShader} {behind behind' : List Line}
    (hlog : LogUnmarked unit.infoLog) (hlog' : LogUnmarked unit'.infoLog)
    (hbehind : BeginsBlock behind) (hbehind' : BeginsBlock behind') :
    shaderLines unit ++ behind = shaderLines unit' ++ behind' ↔
      unit.ShownAlike unit' ∧ behind = behind' := by
  constructor
  · intro h
    obtain ⟨next, rest, hnext, rfl⟩ := hbehind
    obtain ⟨next', rest', hnext', rfl⟩ := hbehind'
    have hfront : ∀ {infoLog : String} {next : Line}, LogUnmarked infoLog → next ≠ mark →
        mark ∉ logLines infoLog ++ [next] := by
      intro infoLog next hlog hnext
      rw [List.mem_append, List.mem_singleton]
      rintro (hmem | hmark)
      · exact hlog.not_mem_logLines hmem
      · exact hnext hmark.symm
    have hcut : ∀ (unit : CompiledShader) (next : Line) (rest : List Line),
        shaderLines unit ++ next :: mark :: rest =
          compileLine unit.status :: mark ::
            ((logLines unit.infoLog ++ [next]) ++ mark :: rest) := by
      intro unit next rest
      simp [shaderLines]
    rw [hcut unit, hcut unit'] at h
    obtain ⟨hstatus, hbelow⟩ := List.cons.inj h
    obtain ⟨hbefore, hrest⟩ := append_cons_inj_of_not_mem_front (hfront hlog hnext)
      (hfront hlog' hnext') (List.cons.inj hbelow).2
    obtain ⟨hlines, hline⟩ := List.append_inj' hbefore rfl
    constructor
    · exact ⟨compileLine_injective hstatus, logLines_injective hlines⟩
    · rw [(List.cons.inj hline).1, hrest]
  · rintro ⟨⟨hstatus, hinfoLog⟩, hbehind⟩
    rw [shaderLines, shaderLines, hstatus, hinfoLog, hbehind]

end Report

namespace Findings

/-- The same findings as far as a report shows them. -/
structure ShownAlike (found found' : Findings) : Prop where
  vertex : found.vertex.ShownAlike found'.vertex
  fragment : found.fragment.ShownAlike found'.fragment
  program : found.program.ShownAlike found'.program

/-- The blocks of the report can be told apart: no log of a shader has a line that marks a block,
and no name breaks the line that it stands in. -/
structure Separable (found : Findings) : Prop where
  vertexLog : Report.LogUnmarked found.vertex.infoLog
  fragmentLog : Report.LogUnmarked found.fragment.infoLog
  names : found.program.NamesFitLines

def lines (found : Findings) : List Report.Line :=
  Report.shaderLines found.vertex ++
    (Report.shaderLines found.fragment ++ Report.programLines found.program)

theorem splitOn_pieces {found : Findings} (hnames : found.program.NamesFitLines) :
    (Report.text found.pieces).toList.splitOn '\n' = found.lines ++ [[]] := by
  have hprogram := Report.splitOn_programPieces hnames.attributes hnames.uniforms
  rw [Report.toList_text] at hprogram ⊢
  have htext : found.pieces.flatMap String.toList =
      (Report.shaderPieces found.vertex).flatMap String.toList ++
        ((Report.shaderPieces found.fragment).flatMap String.toList ++
          (Report.programPieces found.program).flatMap String.toList) := by
    simp [pieces]
  rw [htext, Report.splitOn_shaderPieces, Report.splitOn_shaderPieces, hprogram]
  simp [lines]

theorem lines_eq_iff {found found' : Findings} (hfound : found.Separable)
    (hfound' : found'.Separable) : found.lines = found'.lines ↔ found.ShownAlike found' := by
  have hvertex := Report.shaderLines_append_eq_iff hfound.vertexLog hfound'.vertexLog
    (Report.beginsBlock_shaderLines_append found.fragment (Report.programLines found.program))
    (Report.beginsBlock_shaderLines_append found'.fragment (Report.programLines found'.program))
  have hfragment := Report.shaderLines_append_eq_iff hfound.fragmentLog hfound'.fragmentLog
    (Report.beginsBlock_programLines found.program)
    (Report.beginsBlock_programLines found'.program)
  rw [lines, lines, hvertex, hfragment, Report.programLines_eq_iff]
  constructor
  · rintro ⟨hvertexAlike, hfragmentAlike, hprogramAlike⟩
    exact ⟨hvertexAlike, hfragmentAlike, hprogramAlike⟩
  · rintro ⟨hvertexAlike, hfragmentAlike, hprogramAlike⟩
    exact ⟨hvertexAlike, hfragmentAlike, hprogramAlike⟩

theorem text_pieces_eq_iff {found found' : Findings} (hfound : found.Separable)
    (hfound' : found'.Separable) :
    Report.text found.pieces = Report.text found'.pieces ↔ found.ShownAlike found' := by
  have hlines := splitOn_pieces hfound.names
  have hlines' := splitOn_pieces hfound'.names
  rw [← lines_eq_iff hfound hfound', ← Report.splitOn_injective.eq_iff]
  show _ = (Report.text found'.pieces).toList.splitOn '\n' ↔ _
  rw [hlines', hlines, List.append_cancel_right_eq]

end Findings

/-! ### Reports of runs -/

section Runs

variable {σ ω φ σ' ω' φ' : Type}

/-- Of two runs that got to flush their reports, each to its own writer, both have written the same
bytes just if both have found the same statuses, the same logs and the same variables. Apart from a
line that marks a block in the log of a shader, the logs may be any texts. -/
theorem run_report_decodable (tools : Tools σ ω φ) (tools' : Tools σ' ω' φ')
    (sources sources' : ShaderPair) (output output' : String) (world : World σ ω φ)
    (world' : World σ' ω' φ') {found found' : Findings} {t : σ} {t' : σ'}
    (hflushed : flushes ((tools.run sources output).run world).trail ≠ [])
    (hflushed' : flushes ((tools'.run sources' output').run world').trail ≠ [])
    (hfinds : tools.driver.Finds sources world.driver found t)
    (hfinds' : tools'.driver.Finds sources' world'.driver found' t')
    (hfound : found.Separable) (hfound' : found'.Separable) :
    written ((tools.run sources output).run world).trail =
        written ((tools'.run sources' output').run world').trail ↔
      found.ShownAlike found' := by
  rw [hfinds.written_of_flushed hflushed, hfinds'.written_of_flushed hflushed',
    Text.encode_injective.eq_iff]
  exact Findings.text_pieces_eq_iff hfound hfound'

theorem run_report_decodable_statusLines :
    let tools : Tools Canned Sink.Content FileTree :=
      ⟨Canned.driver, ({} : Sink).writer, FileTree.disk⟩
    let canned : Canned :=
      { vertex := ⟨true, "Compile failed\nLog\n"⟩, fragment := ⟨false, "\n"⟩
        link := ⟨false, "Log:\nLink successfull"⟩, attributes := [⟨"position", 0, 7⟩] }
    let canned' : Canned := { canned with attributes := [⟨"position", 1, 9⟩] }
    let found : Findings :=
      { vertex := ⟨.vertex, "void main() {}", true, "Compile failed\nLog\n", ⟨0⟩⟩
        fragment := ⟨.fragment, "", false, "\n", ⟨1⟩⟩
        program := ⟨false, "Log:\nLink successfull", [⟨"position", 1, .unknown 7⟩], [], ⟨1⟩⟩ }
    let found' : Findings :=
      { found with
        program := ⟨false, "Log:\nLink successfull", [⟨"position", 1, .unknown 9⟩], [], ⟨1⟩⟩ }
    let sources : ShaderPair := ⟨"void main() {}", ""⟩
    let ending := fun canned ↦ (tools.run sources "pair.bin").run ⟨canned, {}, FileTree.empty⟩
    flushes (ending canned).trail ≠ [] ∧ flushes (ending canned').trail ≠ [] ∧
      tools.driver.Finds sources canned found { canned with shaders := [.vertex, .fragment] } ∧
      tools.driver.Finds sources canned' found' { canned' with shaders := [.vertex, .fragment] } ∧
      found.Separable ∧ found'.Separable ∧
      (written (ending canned).trail = written (ending canned').trail ↔
        found.ShownAlike found') := by
  intro tools canned canned' found found' sources ending
  have hflushed : flushes (ending canned).trail ≠ [] := by decide +kernel
  have hflushed' : flushes (ending canned').trail ≠ [] := by decide +kernel
  have hfinds : tools.driver.Finds sources canned found
      { canned with shaders := [.vertex, .fragment] } := by
    constructor <;> decide +kernel
  have hfinds' : tools.driver.Finds sources canned' found'
      { canned' with shaders := [.vertex, .fragment] } := by
    constructor <;> decide +kernel
  have hseparable : found.Separable := by
    refine ⟨by decide, by decide, ?_⟩
    constructor <;> simp [found, Report.NamesFitLines]
  have hseparable' : found'.Separable := by
    refine ⟨by decide, by decide, ?_⟩
    constructor <;> simp [found', Report.NamesFitLines]
  exact ⟨hflushed, hflushed', hfinds, hfinds', hseparable, hseparable',
    run_report_decodable tools tools sources sources "pair.bin" "pair.bin"
      ⟨canned, {}, FileTree.empty⟩ ⟨canned', {}, FileTree.empty⟩ hflushed hflushed' hfinds hfinds'
      hseparable hseparable'⟩

end Runs

end ShaderBuild

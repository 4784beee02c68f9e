import Mathlib.Data.List.Basic
import Mathlib.Data.List.Forall2
import ShaderBuild.Proofs.ReportWriting

/-!
The report of a program as lines, and what can be read off it. Logs and names stand in a report as
they are, so a line by itself may be anything. But an interface comes last in its block, and its
heading is the last line that is not the line of a variable; a line of a variable ends in a type,
which has no `x` in it, and before that in a size, which has no blank. Read from its end, a report
therefore shows the status, the log and both interfaces, whatever the log says
(`program_report_decodable`).
-/

set_option autoImplicit false
set_option relaxedAutoImplicit false

namespace ShaderBuild

/-! ### The last and the first place where something holds -/

/-- A list is cut in one way only at the last of its elements that does not meet `p`. -/
theorem append_cons_inj_of_forall {α : Type} {p : α → Prop} {front front' rest rest' : List α}
    {last last' : α} (hlast : ¬ p last) (hlast' : ¬ p last') (hrest : ∀ a ∈ rest, p a)
    (hrest' : ∀ a ∈ rest', p a) (h : front ++ last :: rest = front' ++ last' :: rest') :
    front = front' ∧ last = last' ∧ rest = rest' := by
  rcases List.append_eq_append_iff.mp h with ⟨between, rfl, heq⟩ | ⟨between, rfl, heq⟩
  · cases between with
    | nil =>
      have hcons := List.cons.inj heq
      exact ⟨(List.append_nil front).symm, hcons.1, hcons.2⟩
    | cons first others =>
      have hmem : last' ∈ rest := by
        rw [(List.cons.inj heq).2]
        exact List.mem_append_right others List.mem_cons_self
      exact absurd (hrest last' hmem) hlast'
  · cases between with
    | nil =>
      have hcons := List.cons.inj heq
      exact ⟨List.append_nil front', hcons.1.symm, hcons.2.symm⟩
    | cons first others =>
      have hmem : last ∈ rest' := by
        rw [(List.cons.inj heq).2]
        exact List.mem_append_right others List.mem_cons_self
      exact absurd (hrest' last hmem) hlast

/-- A list is cut in one way only at the last place of an element. -/
theorem append_cons_inj_of_not_mem {α : Type} {a : α} {front front' rest rest' : List α}
    (hrest : a ∉ rest) (hrest' : a ∉ rest') (h : front ++ a :: rest = front' ++ a :: rest') :
    front = front' ∧ rest = rest' := by
  have hcut := append_cons_inj_of_forall (p := (· ≠ a)) (fun hne ↦ hne rfl) (fun hne ↦ hne rfl)
    (fun b hb heq ↦ hrest (heq ▸ hb)) (fun b hb heq ↦ hrest' (heq ▸ hb)) h
  exact ⟨hcut.1, hcut.2.2⟩

/-- A list is cut in one way only at the first place of an element. -/
theorem append_cons_inj_of_not_mem_front {α : Type} {a : α} {front front' rest rest' : List α}
    (hfront : a ∉ front) (hfront' : a ∉ front') (h : front ++ a :: rest = front' ++ a :: rest') :
    front = front' ∧ rest = rest' := by
  have hreverse : rest.reverse ++ a :: front.reverse = rest'.reverse ++ a :: front'.reverse := by
    simpa using congrArg List.reverse h
  have hcut := append_cons_inj_of_not_mem (mt List.mem_reverse.mp hfront)
    (mt List.mem_reverse.mp hfront') hreverse
  exact ⟨List.reverse_injective hcut.2, List.reverse_injective hcut.1⟩

/-! ### Types by their names -/

namespace DataType

theorem name_of_isUnknown {type : DataType} (h : type.IsUnknown) : type.name = "unknown type" := by
  cases type with
  | unknown code => rfl
  | _ => exact h.elim

/-- The known type of a name. -/
def ofName? (name : String) : Option DataType :=
  (codes.map fun entry ↦ (entry.2.name, entry.2)).lookup name

theorem ofName?_name_of_isUnknown {type : DataType} (h : type.IsUnknown) :
    ofName? type.name = none := by
  rw [name_of_isUnknown h]
  rfl

theorem ofName?_name_of_not_isUnknown {type : DataType} (h : ¬ type.IsUnknown) :
    ofName? type.name = some type := by
  cases type with
  | unknown code => exact absurd trivial h
  | _ => rfl

/-- Types with the same name: the same type, or two unknown ones. -/
theorem name_eq_name_iff (type type' : DataType) :
    type.name = type'.name ↔ type = type' ∨ type.IsUnknown ∧ type'.IsUnknown := by
  constructor
  · intro h
    have hread := congrArg ofName? h
    by_cases hunknown : type.IsUnknown <;> by_cases hunknown' : type'.IsUnknown
    · exact .inr ⟨hunknown, hunknown'⟩
    · rw [ofName?_name_of_isUnknown hunknown, ofName?_name_of_not_isUnknown hunknown'] at hread
      cases hread
    · rw [ofName?_name_of_not_isUnknown hunknown, ofName?_name_of_isUnknown hunknown'] at hread
      cases hread
    · rw [ofName?_name_of_not_isUnknown hunknown, ofName?_name_of_not_isUnknown hunknown'] at hread
      exact .inl (Option.some.inj hread)
  · rintro (rfl | ⟨hunknown, hunknown'⟩)
    · rfl
    · rw [name_of_isUnknown hunknown, name_of_isUnknown hunknown']

theorem x_not_mem_name (type : DataType) : 'x' ∉ type.name.toList := by
  cases type <;> simp [name]

theorem lineFeed_not_mem_name (type : DataType) : '\n' ∉ type.name.toList := by
  cases type <;> simp [name]

end DataType

theorem toDigits_injective : Function.Injective (Nat.toDigits 10) :=
  Function.LeftInverse.injective fun _ ↦ Nat.ofDigitChars_ten_toDigits

theorem not_mem_toDigits {c : Char} (hc : c.isDigit = false) (n : Nat) :
    c ∉ Nat.toDigits 10 n := by
  intro hmem
  have hdigit := Nat.isDigit_of_mem_toDigits (by decide) (by decide) hmem
  exact absurd (hc.symm.trans hdigit) Bool.false_ne_true

namespace Report

/-! ### The lines of a program -/

/-- A line without the line feed that ends it. -/
abbrev Line := List Char

/-- The lines of a log. An empty log has none. -/
def logLines (infoLog : String) : List Line :=
  if infoLog = "" then [] else infoLog.toList.splitOn '\n'

/-- The line of one variable. -/
def variableLine (member : Variable) : Line :=
  (" * " ++ member.name ++ ": " ++ toString member.arraySize.toNat ++ " x " ++
    member.type.name).toList

/-- The line above the variables of an interface, or in the place of them. -/
def heading (interface : Interface) (members : List Variable) : Line :=
  if members.isEmpty then ("No active " ++ interface.name).toList
  else ("Active " ++ interface.name ++ ":").toList

def interfaceLines (interface : Interface) (members : List Variable) : List Line :=
  heading interface members :: members.map variableLine

def linkLine (status : Bool) : Line :=
  if status then "Link successfull".toList else "Link failed".toList

def programLines (unit : LinkedProgram) : List Line :=
  linkLine unit.status :: "Log:".toList ::
    (logLines unit.infoLog ++ interfaceLines .attributes unit.attributes ++
      interfaceLines .uniforms unit.uniforms)

/-- No name breaks the line that it stands in. -/
def NamesFitLines (members : List Variable) : Prop :=
  ∀ member ∈ members, '\n' ∉ member.name.toList

/-! ### Lines in a text -/

theorem toList_text (pieces : List String) :
    (text pieces).toList = pieces.flatMap String.toList := String.toList_join

theorem splitOn_injective : Function.Injective fun shown : String ↦ shown.toList.splitOn '\n' := by
  intro shown shown' h
  have hjoin := congrArg (['\n'].intercalate ·) h
  simp only [List.intercalate_splitOn] at hjoin
  exact String.toList_inj.mp hjoin

theorem splitOn_logPieces (infoLog : String) (rest : List Char) :
    ((logPieces infoLog).flatMap String.toList ++ rest).splitOn '\n' =
      logLines infoLog ++ rest.splitOn '\n' := by
  by_cases hempty : infoLog = ""
  · simp [logPieces, logLines, hempty]
  · have htext : (logPieces infoLog).flatMap String.toList ++ rest =
        infoLog.toList ++ '\n' :: rest := by
      simp [logPieces, hempty]
    rw [htext, List.splitOn_append_cons_self, logLines, if_neg hempty]

theorem lineFeed_not_mem_variableLine {member : Variable} (hname : '\n' ∉ member.name.toList) :
    '\n' ∉ variableLine member := by
  have hsize : '\n' ∉ Nat.toDigits 10 member.arraySize.toNat := not_mem_toDigits (by decide) _
  have htype := member.type.lineFeed_not_mem_name
  simp [variableLine, hname, hsize, htype]

theorem splitOn_variablePieces {members : List Variable} (hnames : NamesFitLines members)
    (rest : List Char) :
    ((members.flatMap variablePieces).flatMap String.toList ++ rest).splitOn '\n' =
      members.map variableLine ++ rest.splitOn '\n' := by
  induction members with
  | nil => rfl
  | cons member others ih =>
    obtain ⟨hname, hothers⟩ := List.forall_mem_cons.mp hnames
    have htext : ((member :: others).flatMap variablePieces).flatMap String.toList ++ rest =
        variableLine member ++
          '\n' :: ((others.flatMap variablePieces).flatMap String.toList ++ rest) := by
      simp [variablePieces, variableLine]
    rw [htext, List.splitOn_append_cons_self_of_not_mem (lineFeed_not_mem_variableLine hname),
      ih hothers]
    rfl

theorem splitOn_interfacePieces (interface : Interface) {members : List Variable}
    (hnames : NamesFitLines members) (rest : List Char) :
    ((interfacePieces interface members).flatMap String.toList ++ rest).splitOn '\n' =
      interfaceLines interface members ++ rest.splitOn '\n' := by
  have hheading : '\n' ∉ heading interface members := by
    by_cases hempty : members.isEmpty <;> cases interface <;>
      simp [heading, hempty, Interface.name]
  have htext : (interfacePieces interface members).flatMap String.toList ++ rest =
      heading interface members ++
        '\n' :: ((members.flatMap variablePieces).flatMap String.toList ++ rest) := by
    cases members <;> simp [interfacePieces, heading]
  rw [htext, List.splitOn_append_cons_self_of_not_mem hheading, splitOn_variablePieces hnames]
  rfl

/-- The text of a program, cut at its line feeds, is made of the lines of the program. -/
theorem splitOn_programPieces {unit : LinkedProgram} (hattributes : NamesFitLines unit.attributes)
    (huniforms : NamesFitLines unit.uniforms) :
    (text (programPieces unit)).toList.splitOn '\n' = programLines unit ++ [[]] := by
  have hstatus : '\n' ∉ linkLine unit.status := by
    cases unit.status <;> decide
  have htext : (text (programPieces unit)).toList =
      linkLine unit.status ++ '\n' :: ("Log:".toList ++ '\n' ::
        ((logPieces unit.infoLog).flatMap String.toList ++
          ((interfacePieces .attributes unit.attributes).flatMap String.toList ++
            ((interfacePieces .uniforms unit.uniforms).flatMap String.toList ++ [])))) := by
    rw [toList_text]
    cases hvalue : unit.status <;> simp [programPieces, linkLine, hvalue]
  rw [htext, List.splitOn_append_cons_self_of_not_mem hstatus,
    List.splitOn_append_cons_self_of_not_mem (by decide), splitOn_logPieces,
    splitOn_interfacePieces .attributes hattributes, splitOn_interfacePieces .uniforms huniforms]
  simp [programLines]

/-! ### What lines show -/

theorem linkLine_injective : Function.Injective linkLine := by
  show ∀ status status' : Bool, linkLine status = linkLine status' → status = status'
  decide

theorem logLines_injective : Function.Injective logLines := by
  intro infoLog infoLog' h
  by_cases hempty : infoLog = "" <;> by_cases hempty' : infoLog' = "" <;>
    simp only [logLines, hempty, hempty', if_true, if_false] at h
  · rw [hempty, hempty']
  · exact absurd h.symm (List.splitOn_ne_nil _ _)
  · exact absurd h (List.splitOn_ne_nil _ _)
  · exact splitOn_injective h

end Report

/-- The same variable as far as a report shows it. Unknown types are not told apart. -/
structure Variable.ShownAlike (member member' : Variable) : Prop where
  name_eq : member.name = member'.name
  arraySize_eq : member.arraySize = member'.arraySize
  type_eq : member.type = member'.type ∨ member.type.IsUnknown ∧ member'.type.IsUnknown

/-- The same program as far as a report shows it. -/
structure LinkedProgram.ShownAlike (unit unit' : LinkedProgram) : Prop where
  status_eq : unit.status = unit'.status
  infoLog_eq : unit.infoLog = unit'.infoLog
  attributes : List.Forall₂ Variable.ShownAlike unit.attributes unit'.attributes
  uniforms : List.Forall₂ Variable.ShownAlike unit.uniforms unit'.uniforms

namespace Report

/-- Read from its end, the line of a variable shows the type behind the last `x`, the size behind
the last blank before that, and the name in front of both. -/
theorem variableLine_eq_iff (member member' : Variable) :
    variableLine member = variableLine member' ↔ member.ShownAlike member' := by
  constructor
  · intro h
    have hcut : ∀ member : Variable, variableLine member =
        ((" * ".toList ++ member.name.toList ++ [':']) ++
          ' ' :: Nat.toDigits 10 member.arraySize.toNat ++ [' ']) ++
            'x' :: (' ' :: member.type.name.toList) := by
      intro member
      simp [variableLine]
    have hx : ∀ member : Variable, 'x' ∉ ' ' :: member.type.name.toList := by
      intro member
      simp [member.type.x_not_mem_name]
    have hblank : ∀ member : Variable, ' ' ∉ Nat.toDigits 10 member.arraySize.toNat :=
      fun member ↦ not_mem_toDigits (by decide) _
    rw [hcut member, hcut member'] at h
    obtain ⟨hfront, htype⟩ := append_cons_inj_of_not_mem (hx member) (hx member') h
    obtain ⟨hnamed, hsize⟩ := append_cons_inj_of_not_mem (hblank member) (hblank member')
      (List.append_cancel_right hfront)
    have hname := List.append_cancel_left (List.append_cancel_right hnamed)
    constructor
    · exact String.toList_inj.mp hname
    · exact UInt32.toNat_inj.mp (toDigits_injective hsize)
    · exact (DataType.name_eq_name_iff _ _).mp (String.toList_inj.mp (List.cons.inj htype).2)
  · rintro ⟨hname, hsize, htype⟩
    rw [variableLine, variableLine, hname, hsize, (DataType.name_eq_name_iff _ _).mpr htype]

theorem map_variableLine_eq_iff (members members' : List Variable) :
    members.map variableLine = members'.map variableLine ↔
      List.Forall₂ Variable.ShownAlike members members' := by
  have hlines : (fun member member' ↦ variableLine member = variableLine member') =
      Variable.ShownAlike := by
    funext member member'
    exact propext (variableLine_eq_iff member member')
  rw [← hlines, ← List.forall₂_map_right_iff, ← List.forall₂_map_left_iff, List.forall₂_eq_eq_eq]

/-! ### Interfaces from the end of a text -/

/-- Whether the line could be that of a variable. -/
def IsEntry (line : Line) : Prop := line.head? = some ' '

theorem isEntry_variableLine (member : Variable) : IsEntry (variableLine member) := by
  simp [IsEntry, variableLine]

theorem not_isEntry_heading (interface : Interface) (members : List Variable) :
    ¬ IsEntry (heading interface members) := by
  cases members <;> simp [IsEntry, heading]

/-- The lines of the variables go back to the last line that is none of them, so an interface at
the end of a text is told from what stands before it. -/
theorem append_interfaceLines_inj {interface : Interface} {front front' : List Line}
    {members members' : List Variable}
    (h : front ++ interfaceLines interface members = front' ++ interfaceLines interface members') :
    front = front' ∧ members.map variableLine = members'.map variableLine := by
  have hentries : ∀ members : List Variable, ∀ line ∈ members.map variableLine, IsEntry line := by
    intro members line hline
    obtain ⟨member, -, rfl⟩ := List.mem_map.mp hline
    exact isEntry_variableLine member
  obtain ⟨hfront, -, hlines⟩ := append_cons_inj_of_forall (not_isEntry_heading interface members)
    (not_isEntry_heading interface members') (hentries members) (hentries members') h
  exact ⟨hfront, hlines⟩

theorem programLines_eq_iff (unit unit' : LinkedProgram) :
    programLines unit = programLines unit' ↔ unit.ShownAlike unit' := by
  constructor
  · intro h
    have hcut : ∀ unit : LinkedProgram, programLines unit =
        (linkLine unit.status :: "Log:".toList :: logLines unit.infoLog ++
          interfaceLines .attributes unit.attributes) ++
          interfaceLines .uniforms unit.uniforms := by
      intro unit
      simp [programLines]
    rw [hcut unit, hcut unit'] at h
    obtain ⟨hfront, huniforms⟩ := append_interfaceLines_inj h
    obtain ⟨hhead, hattributes⟩ := append_interfaceLines_inj hfront
    obtain ⟨hstatus, hlog⟩ := List.cons.inj hhead
    constructor
    · exact linkLine_injective hstatus
    · exact logLines_injective (List.cons.inj hlog).2
    · exact (map_variableLine_eq_iff _ _).mp hattributes
    · exact (map_variableLine_eq_iff _ _).mp huniforms
  · rintro ⟨hstatus, hlog, hattributes, huniforms⟩
    have hheading : ∀ (interface : Interface) {members members' : List Variable},
        List.Forall₂ Variable.ShownAlike members members' →
          interfaceLines interface members = interfaceLines interface members' := by
      intro interface members members' halike
      have hlines := (map_variableLine_eq_iff _ _).mpr halike
      have hempty : members.isEmpty = members'.isEmpty := by
        cases halike <;> rfl
      rw [interfaceLines, interfaceLines, hlines, heading, heading, hempty]
    rw [programLines, programLines, hstatus, hlog, hheading .attributes hattributes,
      hheading .uniforms huniforms]

theorem text_programPieces_eq_iff {unit unit' : LinkedProgram}
    (hattributes : NamesFitLines unit.attributes) (huniforms : NamesFitLines unit.uniforms)
    (hattributes' : NamesFitLines unit'.attributes) (huniforms' : NamesFitLines unit'.uniforms) :
    text (programPieces unit) = text (programPieces unit') ↔ unit.ShownAlike unit' := by
  have hlines := splitOn_programPieces hattributes huniforms
  have hlines' := splitOn_programPieces hattributes' huniforms'
  rw [← programLines_eq_iff]
  constructor
  · intro h
    rw [h, hlines'] at hlines
    exact (List.append_cancel_right hlines).symm
  · intro h
    rw [← h, ← hlines] at hlines'
    exact (splitOn_injective hlines').symm

end Report

theorem Text.encode_injective : Function.Injective Text.encode := by
  intro text text' h
  have hdata := Array.toList_inj.mp h
  exact String.toByteArray_inj.mp (ByteArray.ext hdata)

/-- No name in the program breaks the line that it stands in. -/
structure LinkedProgram.NamesFitLines (unit : LinkedProgram) : Prop where
  attributes : Report.NamesFitLines unit.attributes
  uniforms : Report.NamesFitLines unit.uniforms

/-- Two reports of programs are the same bytes just if they show the same status, the same log and
the same variables. The logs may be any texts. -/
theorem program_report_decodable {ω ω' : Type} {writer : Writer ω} {writer' : Writer ω'}
    (hwriter : writer.NeverRefuses) (hwriter' : writer'.NeverRefuses) {unit unit' : LinkedProgram}
    (hnames : unit.NamesFitLines) (hnames' : unit'.NamesFitLines) (s : ω) (s' : ω') :
    written (writer.writePieces (Report.programPieces unit) s).trail =
        written (writer'.writePieces (Report.programPieces unit') s').trail ↔
      unit.ShownAlike unit' := by
  rw [(hwriter.writePieces _ s).2, (hwriter'.writePieces _ s').2, Text.encode_injective.eq_iff]
  exact Report.text_programPieces_eq_iff hnames.attributes hnames.uniforms hnames'.attributes
    hnames'.uniforms

theorem program_report_decodable_unknown :
    let writer : Writer Sink.Content := ({} : Sink).writer
    let unit : LinkedProgram :=
      { status := true, infoLog := "No active attributes\n * a: 1 x float\n", attributes := []
        uniforms := [⟨"b: 2 x int", 3, .unknown 7⟩], id := ⟨1⟩ }
    let unit' : LinkedProgram := { unit with uniforms := [⟨"b: 2 x int", 3, .unknown 9⟩] }
    writer.NeverRefuses ∧ unit.NamesFitLines ∧ unit'.NamesFitLines ∧
      (written (writer.writePieces (Report.programPieces unit) {}).trail =
          written (writer.writePieces (Report.programPieces unit') {}).trail ↔
        unit.ShownAlike unit') := by
  intro writer unit unit'
  have hwriter : writer.NeverRefuses := Sink.neverRefuses_writer rfl
  have hnames : unit.NamesFitLines := by
    constructor <;> simp [unit, Report.NamesFitLines]
  have hnames' : unit'.NamesFitLines := by
    constructor <;> simp [unit', unit, Report.NamesFitLines]
  exact ⟨hwriter, hnames, hnames', program_report_decodable hwriter hwriter hnames hnames' {} {}⟩

end ShaderBuild

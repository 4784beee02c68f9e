/-!
The GL version that a version text names. The text of GL ES has its number behind the last ` ES `,
that of desktop GL at the front, and that of WebGL behind `WebGL`, where the number is one below
that of the GL ES it stands for. A text that names the shading language has its number behind that
name, and there the number of WebGL is that of GL ES.
-/

set_option autoImplicit false
set_option relaxedAutoImplicit false

namespace ShaderBuild.Gl

/-- What stands behind the first place where a text has a mark. -/
def behindFirst? (mark : List Char) : List Char → Option (List Char)
  | [] => none
  | c :: rest =>
    if mark.isPrefixOf (c :: rest) then some ((c :: rest).drop mark.length)
    else behindFirst? mark rest

/-- What stands behind the last place where a text has a mark. -/
def behindLast? (mark : List Char) : List Char → Option (List Char)
  | [] => none
  | c :: rest =>
    match behindLast? mark rest with
    | some found => some found
    | none =>
      if mark.isPrefixOf (c :: rest) then some ((c :: rest).drop mark.length) else none

/-- The number in front of the first point. -/
def leadingNumber (text : List Char) : Nat :=
  ((text.takeWhile (· != '.')).filter Char.isDigit).foldl
    (fun number c ↦ number * 10 + (c.toNat - 48)) 0

/-- The major version of GL, or of the GL ES that WebGL stands for. -/
def majorVersion (text : String) : Nat :=
  let chars := text.toList
  let web := "WebGL ".toList
  let isWeb := web.isPrefixOf chars
  let rest := (behindLast? (if isWeb then web else " ES ".toList) chars).getD chars
  match behindFirst? "GLSL ES ".toList rest with
  | some language => leadingNumber language
  | none => if isWeb then leadingNumber rest + 1 else leadingNumber rest

end ShaderBuild.Gl

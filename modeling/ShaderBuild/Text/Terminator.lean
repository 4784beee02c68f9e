/-!
The NUL characters that a driver may leave at the end of a log. They end the log and are no part
of it; a NUL with other characters behind it is.
-/

set_option autoImplicit false
set_option relaxedAutoImplicit false

namespace ShaderBuild.Text

/-- The text without the NULs it ends in. -/
def dropTerminators (text : String) : String :=
  String.ofList (text.toList.reverse.dropWhile (· == '\x00')).reverse

end ShaderBuild.Text

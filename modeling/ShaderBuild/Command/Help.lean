/-!
What the command says about itself.
-/

set_option autoImplicit false
set_option relaxedAutoImplicit false

namespace ShaderBuild.Command

def programName : String := "shader_compiler"

def versionText : String := programName ++ " 0.1.0\n"

def helpText : String :=
  "Pre-compile a GL ES shader pair into a driver program binary\n" ++
  "\n" ++
  "Usage: shader_compiler [OPTIONS] <VERTEX_FILE> <FRAGMENT_FILE> <OUTPUT_FILE>\n" ++
  "\n" ++
  "Arguments:\n" ++
  "  <VERTEX_FILE>    \n" ++
  "  <FRAGMENT_FILE>  \n" ++
  "  <OUTPUT_FILE>    \n" ++
  "\n" ++
  "Options:\n" ++
  "      --device <DEVICE>              EGL device index [default: 0]\n" ++
  "      --gles-version <GLES_VERSION>  [default: 3]\n" ++
  "  -h, --help                         Print help\n" ++
  "  -V, --version                      Print version\n"

end ShaderBuild.Command

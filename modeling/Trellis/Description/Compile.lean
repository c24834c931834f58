/-
Compiling templates from their text.
-/
import Trellis.Description.Build
import Trellis.Markup.Reader

namespace Trellis.Description

/-- How a template is compiled. -/
structure CompileOptions extends Options where
  /-- the file that faults name -/
  file : String := ""
  /-- plain text is to be translated -/
  promoteText : Bool := false

/-- The description of a template. -/
def compile (o : CompileOptions) (source : String) : Except Fault Description := do
  let nodes ← Markup.read { file := o.file, promoteText := o.promoteText } source
  let a : Annotated Unit ← Annotated.ofNodes o.module nodes
  ofAnnotated o.toOptions a

end Trellis.Description

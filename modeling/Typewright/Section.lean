import Typewright.Config
import Typewright.Layout

/-!
# Sections of generated files

A generated file is made of sections with an empty line between each two, and ends with one line
feed. The header comment and code from the configuration are sections of any file that has them;
what is not configured is no section.
-/

namespace Typewright

/-- The text of a file made of sections. -/
def fileText (sections : List String) : String := String.intercalate "\n\n" sections ++ "\n"

/-- The header comment as a section, if there is one. -/
def headerSection (c : Config) : List String :=
  if c.flag .headerComment then [Layout.comment "//" (c.value .headerComment).display] else []

/-- Code from the configuration as a section, if there is any, without line feeds around it. -/
def codeSection (c : Config) (s : Setting) : Outcome (List String) :=
  let v := c.value s
  if v.truthy then
    (Outcome.ofMisuse (v.withOperation "strip")).map fun code => [Layout.stripNewlines code]
  else .ok []

end Typewright

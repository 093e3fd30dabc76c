import Typewright.Config
import Typewright.Misuse
import Typewright.Path

/-!
# Where the model types are imported from

The data-access file imports the types of the models from the file of the declarations. The
specifier is the path of that file without its suffix, relative to the directory of the data-access
file. It starts with a point, so that it is not read as the name of a package.
-/

namespace Typewright.Pg

/-- The specifier when no file of declarations is configured. -/
def defaultModule : String := "./types"

/-- A specifier that starts with a point. -/
def dotted (s : String) : String := if s.toList.head? = some '.' then s else "./" ++ s

/-- The specifier of a file of declarations for a data-access file, both taken from a working
directory. -/
def specifier (directory : List String) (declarations dataAccess : Path) : String :=
  dotted (Path.relativeText
    (Path.between (Path.resolve directory dataAccess.parent) (Path.resolve directory declarations)))

/-- The specifier that a configuration gives, seen from a working directory. -/
def typesModule (directory : List String) (c : Config) : Except Misuse String := do
  if !c.flag .output then return defaultModule
  let output := Path.ofString (← (c.value .output).path)
  match output.withoutSuffix? with
  | none => throw (.noFileName output.text)
  | some declarations =>
    if !c.flag .pgOutput then return "./" ++ declarations.name
    let dataAccess := Path.ofString (← (c.value .pgOutput).path)
    return specifier directory declarations dataAccess

end Typewright.Pg

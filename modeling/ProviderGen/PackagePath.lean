import ProviderGen.Text.Split

/-!
Import paths of packages. A path is a text whose segments stand between slashes; joining drops
empty segments and lone dots, so a joined path has one spelling.
-/

namespace ProviderGen.PackagePath

def segments (path : String) : List String :=
  (Text.split '/' path).filter fun segment => segment != "" && segment != "."

def isAbsolute (path : String) : Bool := Text.startsWith '/' path

/-- The segments of all parts in order. Whether the path is absolute is decided by its base
alone. -/
def join (base : String) (parts : List String) : String :=
  (if isAbsolute base then "/" else "") ++ Text.joined '/' ((base :: parts).flatMap segments)

end ProviderGen.PackagePath

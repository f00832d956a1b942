import ProviderGen.Emit.Naming
import ProviderGen.Text.Quoted

/-!
What all generated source files share: they are written line by line and begin with a header that
marks them as generated.
-/

namespace ProviderGen.Emit

def sourceText (lines : List String) : String := String.join (lines.map (· ++ "\n"))

def generatedHeader : String := "// Code generated by upforge. DO NOT EDIT."

def fileStart (package : String) : List String := [generatedHeader, "", "package " ++ package]

def constant (text : String) : String := Text.quoted text

def importLines (imports : List (String × String)) : List String :=
  (if imports.isEmpty then [] else [""]) ++
    imports.map fun (name, package) => "\t" ++ name ++ " " ++ constant package

end ProviderGen.Emit

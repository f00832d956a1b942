import ProviderGen.Text.Split

/-!
Names in generated sources: the package clause of a directory, and the aliases under which a file
imports packages.
-/

namespace ProviderGen.Emit

def isNameChar (c : Char) : Bool := c.isAlphanum || c == '_'

/-- The package name of a directory: what a name keeps, in lowercase. A leading digit gets a
letter before it, and a name that keeps nothing has a name of its own. -/
def packageName (name : String) : String :=
  match (name.toList.filter isNameChar).map Char.toLower with
  | [] => "generated"
  | first :: rest =>
    String.ofList (if first.isDigit then 'p' :: first :: rest else first :: rest)

def aliasBase (package : String) : String :=
  let segments := Text.split '/' package
  packageName (String.join (segments.drop (segments.length - 2)))

def aliasCandidate (base : String) : Nat → String
  | 0 => base
  | n + 1 => base ++ toString (n + 2)

/-- The name that an attempt tries. The number after the base name is a signed one of 32 bits; it
counts up from 1, which is not written. -/
def aliasAttempt (base : String) (suffix : Int32) : String :=
  if suffix = 1 then base else base ++ toString suffix

/-- Makes a number of attempts, from a suffix on, until a name is not taken. Behind the largest
suffix there is none to count up to. -/
def searchAlias (base : String) (taken : List String) : (attempts : Nat) → Int32 → Option String
  | 0, _ => none
  | attempts + 1, suffix =>
    if aliasAttempt base suffix ∉ taken then some (aliasAttempt base suffix)
    else if suffix = Int32.maxValue then none
    else searchAlias base taken attempts (suffix + 1)

/-- The first name that is not taken; one attempt more than there are taken names always meets one.
Only where more names are taken than there are suffixes can a search fail, and the larger numbers
stand in for what has no name. -/
def importAlias (taken : List String) (package : String) : String :=
  let base := aliasBase package
  (searchAlias base taken (taken.length + 1) 1).getD (aliasCandidate base
    (((List.range (taken.length + 1)).find? fun n => aliasCandidate base n ∉ taken).getD 0))

def withAliases (taken : List String) : List String → List (String × String)
  | [] => []
  | package :: rest =>
    let name := importAlias taken package
    (name, package) :: withAliases (name :: taken) rest

end ProviderGen.Emit

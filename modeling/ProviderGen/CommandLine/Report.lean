/-!
How a failed command is reported: what was being done, then every cause, each below the one it
caused.
-/

namespace ProviderGen.CommandLine

structure FailureChain where
  failure : String
  causes : List String
deriving DecidableEq, Repr

def numberColumn (n : Nat) : String :=
  let digits := toString n
  String.ofList (List.replicate (5 - digits.length) ' ') ++ digits ++ ": "

def indented (start indentation cause : String) : String :=
  start ++ String.ofList (cause.toList.flatMap fun c =>
    if c = '\n' then '\n' :: indentation.toList else [c])

def numbered : Nat → List String → List String
  | _, [] => []
  | n, cause :: rest => indented (numberColumn n) "       " cause :: numbered (n + 1) rest

def causeLines : List String → List String
  | [cause] => [indented "    " "    " cause]
  | causes => numbered 0 causes

def FailureChain.report (chain : FailureChain) : String :=
  "Error: " ++ chain.failure ++
    (if chain.causes.isEmpty then "" else "\n\nCaused by:") ++
    String.join ((causeLines chain.causes).map ("\n" ++ ·)) ++ "\n"

end ProviderGen.CommandLine

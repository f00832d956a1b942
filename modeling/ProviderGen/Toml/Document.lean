import ProviderGen.Toml.Node
import ProviderGen.Toml.Quotation

/-!
Reading a TOML document. The result is the table of the whole document, or nothing if the text is
not a document.
-/

namespace ProviderGen.Toml

/-- Values nest, and keys have parts, up to this depth. -/
def depthLimit : Nat := 80

def skipBlanks (input : List Char) : List Char := input.dropWhile isBlankChar

def isBareKeyChar (c : Char) : Bool := c.isAlphanum || c == '_' || c == '-'

def keyPart (input : List Char) : Option (String × List Char) :=
  match input with
  | '"' :: _ => lineString input
  | '\'' :: _ => lineString input
  | _ =>
    let part := input.takeWhile isBareKeyChar
    if part.isEmpty then none else some (String.ofList part, input.dropWhile isBareKeyChar)

def keyParts : Nat → List Char → Option (List String × List Char)
  | 0, _ => none
  | fuel + 1, input => do
    let (part, rest) ← keyPart (skipBlanks input)
    match skipBlanks rest with
    | '.' :: rest => do
      let (parts, rest) ← keyParts fuel rest
      return (part :: parts, rest)
    | rest => return ([part], rest)

def key (input : List Char) : Option (List String × List Char) := keyParts (depthLimit - 1) input

def skipComment : List Char → List Char
  | '#' :: rest => rest.dropWhile isLineChar
  | rest => rest

def lineEnd? : List Char → Option (List Char)
  | [] => some []
  | input => lineBreak? input

def restOfLine? (input : List Char) : Option (List Char) :=
  lineEnd? (skipComment (skipBlanks input))

def skipFiller : Nat → List Char → List Char
  | 0, input => input
  | fuel + 1, input =>
    let rest := skipBlanks input
    match lineBreak? (skipComment rest) with
    | some rest => skipFiller fuel rest
    | none => rest

/-- The items of an array after its opening bracket; a comma may follow the last one. -/
def arrayItems (item : List Char → Option (Value × List Char)) :
    Nat → List Char → Option (List Value × List Char)
  | 0, _ => none
  | fuel + 1, input =>
    match skipFiller input.length input with
    | ']' :: rest => some ([], rest)
    | input => do
      let (value, rest) ← item input
      match skipFiller rest.length rest with
      | ']' :: rest => return ([value], rest)
      | ',' :: rest => do
        let (values, rest) ← arrayItems item fuel rest
        return (value :: values, rest)
      | _ => none

def pair (item : List Char → Option (Value × List Char)) (input : List Char) :
    Option (List String × Value × List Char) := do
  let (parts, rest) ← key input
  let rest ← character '=' rest
  let (value, rest) ← item (skipBlanks rest)
  return (parts, value, rest)

/-- The last part of a key names the entry, the others lead to its table. -/
def defineParts {α : Type} (define : List String → String → Value → Option α)
    (parts : List String) (value : Value) : Option α := do
  let key ← parts.getLast?
  define parts.dropLast key value

def inlineEntries (item : List Char → Option (Value × List Char)) :
    Nat → Entries → List Char → Option (Entries × List Char)
  | 0, _, _ => none
  | fuel + 1, entries, input => do
    let (parts, value, rest) ← pair item input
    let entries ← defineParts entries.define parts value
    match skipBlanks rest with
    | '\x7d' :: rest => return (entries, rest)
    | ',' :: rest => inlineEntries item fuel entries rest
    | _ => none

def word (letters : List Char) (value : Value) (input : List Char) : Option (Value × List Char) :=
  if letters.isPrefixOf input then some (value, input.drop letters.length) else none

def value : Nat → List Char → Option (Value × List Char)
  | _, [] => none
  | depth, first :: rest =>
    match first with
    | '"' | '\'' => (string (first :: rest)).map fun (s, rest) => (.text s, rest)
    | 't' => word ['t', 'r', 'u', 'e'] (.boolean true) (first :: rest)
    | 'f' => word ['f', 'a', 'l', 's', 'e'] (.boolean false) (first :: rest)
    | 'i' | 'n' => specialFloat (first :: rest)
    | '[' =>
      match depth with
      | 0 => none
      | depth + 1 =>
        (arrayItems (value depth) (rest.length + 1) rest).map fun (items, rest) =>
          (.array items, rest)
    | '\x7b' =>
      match depth with
      | 0 => none
      | depth + 1 =>
        match skipBlanks rest with
        | '\x7d' :: rest => some (.table [], rest)
        | _ =>
          (inlineEntries (value depth) (rest.length + 1) [] rest).map fun (entries, rest) =>
            (.table (entryValues entries), rest)
    | _ =>
      if first.isDigit || first = '+' || first = '-' then number (first :: rest) else none

def header (closing : List Char) (input : List Char) : Option (List String × List Char) := do
  let (parts, rest) ← key input
  if closing.isPrefixOf rest then
    let rest ← restOfLine? (rest.drop closing.length)
    return (parts, rest)
  else none

def lines : Nat → Draft → List Char → Option Entries
  | 0, _, _ => none
  | fuel + 1, draft, input =>
    match skipBlanks input with
    | [] => draft.finish
    | '#' :: rest => do
      let rest ← lineEnd? (skipComment ('#' :: rest))
      lines fuel draft rest
    | '[' :: '[' :: rest => do
      let (path, rest) ← header [']', ']'] rest
      let draft ← draft.startSeries path
      lines fuel draft rest
    | '[' :: rest => do
      let (path, rest) ← header [']'] rest
      let draft ← draft.startTable path
      lines fuel draft rest
    | input =>
      match lineBreak? input with
      | some rest => lines fuel draft rest
      | none => do
        let (parts, value, rest) ← pair (value (depthLimit - 1)) input
        let rest ← restOfLine? rest
        let draft ← defineParts draft.define parts value
        lines fuel draft rest

def withoutMark : List Char → List Char
  | '\uFEFF' :: rest => rest
  | input => input

def read? (text : String) : Option (List (String × Value)) :=
  let input := withoutMark text.toList
  (lines (input.length + 1) {} input).map entryValues

end ProviderGen.Toml

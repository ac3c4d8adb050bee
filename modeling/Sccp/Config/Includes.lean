/-
  Sccp.Config.Includes

  Reading a configuration file with the files it includes.

  A line that starts with `#include` stands for the file it names, one that starts with
  `#tryinclude` for the file it names if there is one.  The files being read form a stack, which
  bounds the nesting and shows a file that includes itself.
-/

import Sccp.Message.Codec
import Sccp.State.Features

namespace Sccp.Includes

open Sccp.Features (stripPrefix)

/-! ## Files -/

/-- `io::ErrorKind`, as far as the reading tells kinds apart. -/
inductive ErrorKind where
  | notFound
  | other
  deriving DecidableEq

/-- The file system and its paths.  `includePath` is the path a file names: itself if it is
    absolute, and otherwise joined to the directory of the file. -/
structure FileSystem (P : Type) where
  canonicalize : P → Option P
  readToString : P → Except ErrorKind String
  includePath : P → String → P
  display : P → String

/-- `ConfigurationProviderError`, the cases of the reading. -/
inductive ReadError (P : Type) where
  | unavailable (provider message : String)
  | read (path : P) (source : ErrorKind)
  deriving DecidableEq

/-! ## Lines -/

/-- The lines of a text, after the characters of the current one in reverse. -/
def linesFrom : List Char → List Char → List String
  | [], [] => []
  | [], current => [String.ofList current.reverse]
  | '\n' :: rest, '\r' :: current => String.ofList current.reverse :: linesFrom rest []
  | '\n' :: rest, current => String.ofList current.reverse :: linesFrom rest []
  | c :: rest, current => linesFrom rest (c :: current)

/-- `str::lines`. -/
def lines (text : String) : List String := linesFrom text.toList []

/-- `str::strip_suffix`. -/
def stripSuffix (stop value : String) : Option String :=
  if stop.toList <:+ value.toList then
    some (String.ofList (value.toList.take (value.toList.length - stop.toList.length)))
  else none

/-- Whether the directive of a line is optional, and its argument.  Proofs tell lines apart and
    do not compute with their characters. -/
@[irreducible] def includeDirective (line : String) : Option (Bool × String) :=
  let trimmed := trim line
  match stripPrefix "#include" trimmed with
  | some argument => some (false, argument)
  | none => (stripPrefix "#tryinclude" trimmed).map fun argument => (true, argument)

/-- The file an argument names, out of its quotes or angle brackets. -/
@[irreducible] def includeTarget (argument : String) : String :=
  let argument := trim argument
  (((stripPrefix "\"" argument).bind (stripSuffix "\"")).or
    ((stripPrefix "<" argument).bind (stripSuffix ">"))).getD argument

/-! ## Reading -/

namespace FileSystem

variable {P : Type} [DecidableEq P] (fs : FileSystem P)

/-- What the stack knows a file by. -/
def identity (path : P) : P := (fs.canonicalize path).getD path

def nestingError (path : P) : ReadError P :=
  .unavailable "file" ("include nesting exceeds 32 files at " ++ fs.display path)

def cycleError (stack : List P) (identity : P) : ReadError P :=
  .unavailable "file" ("configuration include cycle: " ++ " -> ".intercalate
    ((stack.drop (stack.idxOf identity)).map fs.display ++ [fs.display identity]))

def emptyError (path : P) : ReadError P :=
  .unavailable "file" (fs.display path ++ " contains an empty include directive")

/-- The error of an optional include that is passed over. -/
def passesOver (optional : Bool) : ReadError P → Bool
  | .read _ .notFound => optional
  | _ => false

/-- The loop over the lines of a file, with the text expanded so far; `read` reads a file. -/
def expandLines (read : P → List P → Option (Except (ReadError P) String × List P)) (path : P) :
    List String → String → List P → Option (Except (ReadError P) String × List P)
  | [], expanded, stack => some (.ok expanded, stack.dropLast)
  | line :: rest, expanded, stack =>
    match includeDirective line with
    | none => expandLines read path rest (expanded ++ line ++ "\n") stack
    | some (optional, argument) =>
      if includeTarget argument = "" then some (.error (fs.emptyError path), stack.dropLast)
      else
        match read (fs.includePath path (includeTarget argument)) stack with
        | none => none
        | some (.ok source, stack) => expandLines read path rest (expanded ++ source) stack
        | some (.error error, stack) =>
          if passesOver optional error then expandLines read path rest expanded stack
          else some (.error error, stack.dropLast)

/-- The result and the stack the reading leaves; `none` is a reading that is cut off. -/
def readWithIncludes : Nat → P → List P → Option (Except (ReadError P) String × List P)
  | 0, _, _ => none
  | fuel + 1, path, stack =>
    if 32 ≤ stack.length then some (.error (fs.nestingError path), stack)
    else if fs.identity path ∈ stack then
      some (.error (fs.cycleError stack (fs.identity path)), stack)
    else
      match fs.readToString path with
      | .error source => some (.error (.read path source), stack)
      | .ok source =>
        fs.expandLines (readWithIncludes fuel) path (lines source) "" (stack ++ [fs.identity path])

end FileSystem

end Sccp.Includes

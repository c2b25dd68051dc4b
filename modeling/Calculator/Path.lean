import Calculator.Text.Quoted

/-! Paths of files, and why a file cannot be read. -/

namespace Calculator

namespace Path

/-- The slashes that a path starts with.  Two of them are kept, and any other number counts as one.
-/
def root (path : List Char) : List Char :=
  match (path.takeWhile (· = '/')).length with
  | 0 => []
  | 2 => ['/', '/']
  | _ => ['/']

/-- The steps of a path between its slashes.  An empty step and a single point lead nowhere. -/
def steps (path : List Char) : List (List Char) :=
  (path.splitOn '/').filter fun step => step ≠ [] && step ≠ ['.']

/-- The plain form of a path: its root and the steps that lead somewhere.  If there are none, it is
a point. -/
def plain (path : String) : String :=
  let s := root path.toList ++ List.intercalate ['/'] (steps path.toList)
  if s = [] then "." else String.ofList s

end Path

/-- Why a file cannot be read. -/
inductive FileFault where
  | missing
  | directory
  /-- A step of the path before the last one leads to a file. -/
  | notADirectory
  | nameTooLong
  | nullCharacter
  deriving DecidableEq, Repr

def FileFault.message (path : String) : FileFault → String
  | .missing => "[Errno 2] No such file or directory: " ++ Text.quoted path
  | .directory => "[Errno 21] Is a directory: " ++ Text.quoted path
  | .notADirectory => "[Errno 20] Not a directory: " ++ Text.quoted path
  | .nameTooLong => "[Errno 36] File name too long: " ++ Text.quoted path
  | .nullCharacter => "embedded null byte"

end Calculator

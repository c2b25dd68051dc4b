/-! Templates: texts with tags between delimiters.  A tag names a value to put in its place, or
opens or closes a section, which is shown when its value is there, or an inverted section, which is
shown when it is not. -/

namespace Calculator.Template

structure Delimiters where
  opening : List Char
  closing : List Char
  deriving DecidableEq, Repr

def Delimiters.standard : Delimiters := ⟨['\x7b', '\x7b'], ['\x7d', '\x7d']⟩

inductive Part where
  | text (s : List Char)
  | variable (key : List Char)
  | block (key : List Char) (parts : List Part)
  | inverse (key : List Char) (parts : List Part)

/-- Why a text is no template.  The position is the number of characters up to the end of the tag at
fault. -/
inductive Fault where
  /-- A section is closed under another name than it was opened with, or none is open. -/
  | sectionEnd (position : Nat) (found : List Char) (opened : Option (List Char))
  /-- A tag that changes the delimiters names fewer than two. -/
  | delimiters
  deriving DecidableEq, Repr

/-- The tag that should have come instead or before: the end of the open section, or the start of
the one that is closed. -/
def expectedTag (found : List Char) : Option (List Char) → List Char
  | some key => '/' :: key
  | none => '#' :: found

def Fault.message : Fault → String
  | .sectionEnd position found opened =>
      "Section end tag mismatch at position " ++ toString position ++ ". Found \x7b\x7b/"
        ++ String.ofList found ++ "\x7d\x7d, expected \x7b\x7b"
        ++ String.ofList (expectedTag found opened) ++ "\x7d\x7d"
  | .delimiters => "list index out of range"

end Calculator.Template

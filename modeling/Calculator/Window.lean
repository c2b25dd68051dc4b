import Calculator.Failure

/-! Window scans.  A scan moves tokens one after the other to an output; whenever the last ones of
the output fit the tests of a window, what the window is replaced by takes their place.  Each token
is tested once, as it arrives, so a replacement takes part in later windows with the tokens after it
only. -/

namespace Calculator.Window

/-- Whether some tokens pass some tests, one by one. -/
def fits : List (Token → Bool) → List Token → Bool
  | [], [] => true
  | test :: tests, t :: tokens => test t && fits tests tokens
  | _, _ => false

/-- The scan of `tokens` with the output so far, the last token first. -/
def scanOnto {m : Type → Type} [Monad m] (tests : List (Token → Bool))
    (combine : List Token → m (List Token)) : List Token → List Token → m (List Token)
  | output, [] => pure output.reverse
  | output, t :: tokens =>
      let window := ((t :: output).take tests.length).reverse
      if fits tests window then do
        let replacement ← combine window
        scanOnto tests combine (replacement.reverse ++ (t :: output).drop tests.length) tokens
      else scanOnto tests combine (t :: output) tokens

/-- Replaces every window that fits.  A window without tests fits nowhere. -/
def scan {m : Type → Type} [Monad m] (tests : List (Token → Bool))
    (combine : List Token → m (List Token)) (tokens : List Token) : m (List Token) :=
  if tests.isEmpty then pure tokens else scanOnto tests combine [] tokens

def anything : Token → Bool := fun _ => true

def isCharOf (chars : List Char) : Token → Bool
  | .char c _ => chars.contains c
  | _ => false

/-- One place of a pattern: a token to be equal to, or any token. -/
inductive Place where
  | any
  | literal (t : Token)

def Place.test : Place → Token → Bool
  | .any => anything
  | .literal t => t.same

/-- The scan for windows that equal a pattern. -/
def scanPattern {m : Type → Type} [Monad m] (pattern : List Place)
    (combine : List Token → m (List Token)) (tokens : List Token) : m (List Token) :=
  scan (pattern.map Place.test) combine tokens

/-- Joins the texts of a window to one keyword. -/
def collapse (window : List Token) : Except Failure (List Token) := do
  let texts ← window.mapM Token.written
  pure [.symbol (String.join texts)]

theorem length_eq_of_fits {tests : List (Token → Bool)} {window : List Token}
    (h : fits tests window = true) : window.length = tests.length := by
  induction tests generalizing window with
  | nil =>
    cases window with
    | nil => rfl
    | cons t window => simp [fits] at h
  | cons test tests ih =>
    cases window with
    | nil => simp [fits] at h
    | cons t window =>
      simp only [fits, Bool.and_eq_true] at h
      simp [ih h.2]

theorem fits_append {tests tests' : List (Token → Bool)} {window window' : List Token}
    (h : window.length = tests.length) :
    fits (tests ++ tests') (window ++ window') = (fits tests window && fits tests' window') := by
  induction tests generalizing window with
  | nil =>
    cases window with
    | nil => simp [fits]
    | cons t window => simp at h
  | cons test tests ih =>
    cases window with
    | nil => simp at h
    | cons t window =>
      simp only [List.cons_append, fits, Bool.and_assoc]
      rw [ih (by simpa using h)]

@[simp] theorem scan_nil {m : Type → Type} [Monad m] (combine : List Token → m (List Token))
    (tokens : List Token) : scan [] combine tokens = pure tokens := rfl

end Calculator.Window

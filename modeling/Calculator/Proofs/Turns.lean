import Calculator.CommandLine

/-! Turns.  A file and a dialogue skip, answer and report their lines each in its own way.  Both are
described by the turns of one session: what each line comes to, up to one that ends the program. -/

namespace Calculator

/-- What a line comes to.  What is traced goes before the rest. -/
inductive Turn where
  /-- There is nothing to evaluate. -/
  | blank
  | value (traced text : String)
  | error (traced text : String)
  /-- The value has too many digits to be written. -/
  | unwritable (traced : String)
  /-- The evaluation has failed, and with no evaluation error. -/
  | stopped (traced : String) (f : Failure)

namespace Turn

def ofHandled (handled : Handled) : Turn :=
  match handled.report with
  | .error f => .stopped handled.log.output f
  | .ok report =>
      match report.verdict with
      | .error e => .error handled.log.output (e.format report.source)
      | .value n =>
          if n.isWritable then .value handled.log.output n.text else .unwritable handled.log.output

/-- What is written at a turn. -/
def output : Turn → Output
  | blank => {}
  | value traced text => { err := traced } ++ .line text
  | error traced text => { err := traced } ++ .errorLine text
  | unwritable traced | stopped traced _ => { err := traced }

def isError : Turn → Bool
  | error .. => true
  | _ => false

/-- What ends the program at a turn that is neither a value nor an error. -/
def failure? : Turn → Option Failure
  | unwritable _ => some .unwritable
  | stopped _ f => some f
  | _ => none

end Turn

/-- Whether a value is reported at a turn, unless something ends the program. -/
def Turn.hasValue (t : Turn) : Except Failure Bool :=
  match t.failure? with
  | some f => .error f
  | none => .ok (!t.isError)

namespace Session

/-- The turn of a session with a line that is not empty. -/
def turn (s : Session) (line : String) (limit : Option Nat := none) : Turn :=
  .ofHandled (s.handle line limit)

/-- The turns of a session with some lines, up to one that ends the program. -/
def turns (s : Session) (lines : List String) (limit : Option Nat := none) : List Turn :=
  match lines with
  | [] => []
  | line :: rest =>
      if line = "" then .blank :: turns s rest limit
      else
        match (s.turn line limit).failure? with
        | some _ => [s.turn line limit]
        | none => s.turn line limit :: turns (s.handle line limit).session rest limit

variable {s : Session} {line : String} {limit : Option Nat}

theorem turns_blank (s : Session) (rest : List String) (limit : Option Nat) :
    s.turns ("" :: rest) limit = .blank :: s.turns rest limit := by
  rw [turns, if_pos rfl]

theorem turns_of_failure {f : Failure} (hline : line ≠ "")
    (hf : (s.turn line limit).failure? = some f) (rest : List String) :
    s.turns (line :: rest) limit = [s.turn line limit] := by
  rw [turns, if_neg hline]
  simp only [hf]

theorem turns_of_no_failure (hline : line ≠ "") (hf : (s.turn line limit).failure? = none)
    (rest : List String) :
    s.turns (line :: rest) limit =
      s.turn line limit :: (s.handle line limit).session.turns rest limit := by
  rw [turns, if_neg hline]
  simp only [hf]

end Session

theorem Report.show_error {r : Report} {e : EvaluationError} (h : r.verdict = .error e) :
    r.show = .ok (.errorLine (e.format r.source), false) := by
  rw [Report.show, h]
  rfl

theorem Report.show_value {r : Report} {n : Number} (h : r.verdict = .value n) :
    r.show = if n.isWritable then .ok (.line n.text, true) else .error .unwritable := by
  rw [Report.show, h]
  dsimp only
  rw [Number.written]
  split <;> rfl

/-- A reply writes what is written at the turn. -/
theorem Session.reply_eq (s : Session) (line : String) (limit : Option Nat) :
    s.reply line limit = ⟨(s.turn line limit).output, (s.handle line limit).session,
      (s.turn line limit).hasValue⟩ := by
  rw [reply, turn, Turn.ofHandled]
  cases hreport : (s.handle line limit).report with
  | error f => rfl
  | ok r =>
    have hshow : (Except.ok r >>= Report.show) = r.show := rfl
    rw [hshow]
    dsimp only
    cases hverdict : r.verdict with
    | error e =>
      rw [Report.show_error hverdict]
      rfl
    | value n =>
      rw [Report.show_value hverdict]
      dsimp only
      cases n.isWritable <;> rfl

/-! ### A dialogue -/

namespace Output

/-- Outputs one after the other. -/
def join : List Output → Output
  | [] => {}
  | o :: rest => o ++ join rest

theorem empty_append (o : Output) : {} ++ o = o :=
  ext (String.empty_append) (String.empty_append)

theorem append_empty (o : Output) : o ++ {} = o :=
  ext (String.append_empty) (String.append_empty)

theorem join_cons (o : Output) (rest : List Output) : join (o :: rest) = o ++ join rest := rfl

end Output

namespace Turn

/-- How a program ends after some turns that it goes on after. -/
def endingOf (turns : List Turn) : Ending :=
  match turns.findSome? failure? with
  | some f => .stopped f
  | none => .exit 0

/-- What a dialogue writes at its end, unless something has stopped it. -/
def closing (turns : List Turn) : Output :=
  if turns.any fun t => t.failure?.isSome then {} else Dialogue.prompt ++ Dialogue.farewell

end Turn

namespace Turn

variable {t : Turn} {f : Failure}

theorem endingOf_cons (h : t.failure? = none) (rest : List Turn) :
    endingOf (t :: rest) = endingOf rest := by
  rw [endingOf, List.findSome?_cons, h, endingOf]

theorem endingOf_singleton (h : t.failure? = some f) : endingOf [t] = .stopped f := by
  rw [endingOf, List.findSome?_cons, h]

theorem closing_cons (h : t.failure? = none) (rest : List Turn) :
    closing (t :: rest) = closing rest := by
  rw [closing, List.any_cons, h, closing]
  rfl

theorem closing_singleton (h : t.failure? = some f) : closing [t] = {} := by
  rw [closing, List.any_cons, h]
  rfl

end Turn

namespace Dialogue

theorem answer_blank (s : Session) {line : List Char} (h : trimLine line = "")
    (limit : Option Nat) : answer s line limit = ({}, .inl s) := by
  rw [answer, Request.ofLine, h]
  rfl

theorem answer_eq (s : Session) {line : List Char} (hblank : trimLine line ≠ "")
    (hexit : trimLine line ≠ "exit") (limit : Option Nat) :
    answer s line limit = ((s.turn (trimLine line) limit).output,
      match (s.turn (trimLine line) limit).failure? with
      | some f => .inr (.stopped f)
      | none => .inl (s.handle (trimLine line) limit).session) := by
  rw [answer, Request.ofLine, if_neg hblank, if_neg hexit]
  dsimp only
  rw [s.reply_eq, Turn.hasValue]
  cases (s.turn (trimLine line) limit).failure? <;> rfl

/-- A dialogue prompts before each turn, and says farewell if nothing has stopped it. -/
theorem transcript_eq (s : Session) {lines : List (List Char)}
    (h : ∀ line ∈ lines, trimLine line ≠ "exit") (limit : Option Nat) :
    transcript s lines limit =
      ⟨Output.join ((s.turns (lines.map trimLine) limit).map fun t => prompt ++ t.output) ++
        Turn.closing (s.turns (lines.map trimLine) limit),
        Turn.endingOf (s.turns (lines.map trimLine) limit)⟩ := by
  induction lines generalizing s with
  | nil => exact congrArg (Transcript.mk · _) (Output.empty_append _).symm
  | cons line rest ih =>
    obtain ⟨hexit, hrest⟩ := List.forall_mem_cons.mp h
    rw [transcript, List.map_cons]
    by_cases hblank : trimLine line = ""
    · rw [answer_blank s hblank, hblank, Session.turns_blank, List.map_cons, Output.join_cons,
        Turn.closing_cons rfl, Turn.endingOf_cons rfl, Output.append_assoc]
      dsimp only
      rw [ih s hrest]
      rfl
    · -- a turn at which the program ends is the last one, and no farewell follows it
      rw [answer_eq s hblank hexit]
      cases hf : (s.turn (trimLine line) limit).failure? with
      | some f =>
        rw [Session.turns_of_failure hblank hf, Turn.closing_singleton hf,
          Turn.endingOf_singleton hf, List.map_singleton, Output.join_cons, Output.append_assoc]
        exact congrArg (Transcript.mk · _) (Output.append_empty _).symm
      | none =>
        rw [Session.turns_of_no_failure hblank hf, Turn.closing_cons hf, Turn.endingOf_cons hf,
          List.map_cons, Output.join_cons, Output.append_assoc]
        dsimp only
        rw [ih _ hrest]
        rfl

end Dialogue

/-! ### A file -/

namespace Turn

variable {t : Turn} {f : Failure}

/-- The turns before the first error. -/
def beforeError (turns : List Turn) : List Turn := turns.takeWhile fun t => !t.isError

/-- The turns up to the first error and with it. -/
def throughError : List Turn → List Turn
  | [] => []
  | t :: rest => if t.isError then [t] else t :: throughError rest

/-- How a program ends after some turns that it goes on after unless they are errors. -/
def fileEnding (turns : List Turn) : Ending :=
  if turns.any isError then .exit 1 else endingOf turns

theorem isError_of_failure (h : t.failure? = some f) : t.isError = false := by
  cases t <;> first | rfl | cases h

theorem hasValue_of_failure (h : t.failure? = some f) : t.hasValue = .error f := by
  rw [hasValue, h]

theorem hasValue_of_no_failure (h : t.failure? = none) : t.hasValue = .ok (!t.isError) := by
  rw [hasValue, h]

theorem beforeError_cons (h : t.isError = false) (rest : List Turn) :
    beforeError (t :: rest) = t :: beforeError rest :=
  List.takeWhile_cons_of_pos (by rw [h]; rfl)

theorem beforeError_error (h : t.isError = true) (rest : List Turn) :
    beforeError (t :: rest) = [] :=
  List.takeWhile_cons_of_neg (by rw [h]; decide)

theorem throughError_cons (h : t.isError = false) (rest : List Turn) :
    throughError (t :: rest) = t :: throughError rest := by
  rw [throughError, h]
  rfl

theorem throughError_error (h : t.isError = true) (rest : List Turn) :
    throughError (t :: rest) = [t] := by
  rw [throughError, if_pos h]

theorem fileEnding_cons (he : t.isError = false) (hf : t.failure? = none) (rest : List Turn) :
    fileEnding (t :: rest) = fileEnding rest := by
  rw [fileEnding, List.any_cons, he, endingOf_cons hf, fileEnding]
  rfl

theorem fileEnding_error (h : t.isError = true) (rest : List Turn) :
    fileEnding (t :: rest) = .exit 1 := by
  rw [fileEnding, List.any_cons, h]
  rfl

theorem throughError_append (first rest : List Turn) :
    throughError (first ++ rest) =
      if first.any isError then throughError first else first ++ throughError rest := by
  induction first with
  | nil => rfl
  | cons t first ih =>
    rw [List.cons_append, List.any_cons]
    cases ht : t.isError with
    | true => rw [throughError_error ht, throughError_error ht, if_pos (Bool.true_or _)]
    | false =>
      rw [throughError_cons ht, throughError_cons ht, ih, Bool.false_or]
      split <;> rfl

/-- Where there is no error, nothing is cut off behind one. -/
theorem throughError_eq_self {turns : List Turn} (h : turns.any isError = false) :
    throughError turns = turns := by
  have hcut := throughError_append turns []
  rwa [List.append_nil, h, if_neg (by decide), throughError, List.append_nil] at hcut

theorem any_throughError (turns : List Turn) :
    (throughError turns).any isError = turns.any isError := by
  induction turns with
  | nil => rfl
  | cons t rest ih =>
    cases ht : t.isError with
    | true => simp [throughError_error ht, ht]
    | false => rw [throughError_cons ht, List.any_cons, List.any_cons, ih]

/-- How a file ends is settled at the first error. -/
theorem fileEnding_throughError (turns : List Turn) :
    fileEnding (throughError turns) = fileEnding turns := by
  cases h : turns.any isError with
  | true => rw [fileEnding, fileEnding, any_throughError, h, if_pos rfl, if_pos rfl]
  | false => rw [throughError_eq_self h]

theorem beforeError_throughError (turns : List Turn) :
    beforeError (throughError turns) = beforeError turns := by
  induction turns with
  | nil => rfl
  | cons t rest ih =>
    cases ht : t.isError with
    | true => rw [throughError_error ht, beforeError_error ht, beforeError_error ht]
    | false => rw [throughError_cons ht, beforeError_cons ht, beforeError_cons ht, ih]

theorem fileEnding_singleton (h : t.failure? = some f) : fileEnding [t] = .stopped f := by
  rw [fileEnding, List.any_cons, isError_of_failure h, endingOf_singleton h]
  rfl

end Turn

namespace Session

theorem isExpressionLine_of_ne {line : String} (hblank : line ≠ "")
    (hcomment : line.toList.head? ≠ some '#') : isExpressionLine line = true := by
  simp [isExpressionLine, hblank, hcomment]

/-- A file ends with the first turn that is no value. -/
theorem fileTranscript_eq (s : Session) {lines : List String}
    (h : ∀ line ∈ lines, line.toList.head? ≠ some '#') (limit : Option Nat) :
    s.fileTranscript (lines.filter isExpressionLine) limit =
      ⟨Output.join ((Turn.throughError (s.turns lines limit)).map Turn.output),
        Turn.fileEnding (s.turns lines limit)⟩ := by
  induction lines generalizing s with
  | nil => rfl
  | cons line rest ih =>
    obtain ⟨hcomment, hrest⟩ := List.forall_mem_cons.mp h
    by_cases hblank : line = ""
    · -- the file drops the line and the turn writes nothing
      subst hblank
      rw [List.filter_cons_of_neg (by decide), turns_blank, Turn.throughError_cons rfl,
        Turn.fileEnding_cons rfl rfl, List.map_cons, Output.join_cons, ih s hrest]
      exact congrArg (Transcript.mk · _) (Output.empty_append _).symm
    · rw [List.filter_cons_of_pos (isExpressionLine_of_ne hblank hcomment), fileTranscript,
        s.reply_eq]
      dsimp only
      cases hf : (s.turn line limit).failure? with
      | some f =>
        rw [turns_of_failure hblank hf, Turn.hasValue_of_failure hf,
          Turn.throughError_cons (Turn.isError_of_failure hf), Turn.fileEnding_singleton hf,
          List.map_cons, Output.join_cons]
        exact congrArg (Transcript.mk · _) (Output.append_empty _).symm
      | none =>
        rw [turns_of_no_failure hblank hf, Turn.hasValue_of_no_failure hf]
        cases he : (s.turn line limit).isError with
        | true =>
          rw [Turn.throughError_error he, Turn.fileEnding_error he, List.map_singleton,
            Output.join_cons]
          exact congrArg (Transcript.mk · _) (Output.append_empty _).symm
        | false =>
          rw [Turn.throughError_cons he, Turn.fileEnding_cons he hf, List.map_cons,
            Output.join_cons]
          show Transcript.after _ (fileTranscript _ _ limit) = _
          rw [ih _ hrest]
          rfl

/-- What comes after the first error is not evaluated: with other lines there, the file ends alike.
-/
theorem fileTranscript_unread (s : Session) {lines others : List String}
    (h : ∀ line ∈ lines, line.toList.head? ≠ some '#') {limit : Option Nat}
    (herror : (s.turns lines limit).any Turn.isError = true)
    (hsame : others.take ((Turn.beforeError (s.turns lines limit)).length + 1) =
      lines.take ((Turn.beforeError (s.turns lines limit)).length + 1)) :
    s.fileTranscript (others.filter isExpressionLine) limit =
      s.fileTranscript (lines.filter isExpressionLine) limit := by
  induction lines generalizing s others with
  | nil => cases herror
  | cons line rest ih =>
    obtain ⟨hcomment, hrest⟩ := List.forall_mem_cons.mp h
    cases others with
    | nil => cases hsame
    | cons other others =>
      rw [List.take_succ_cons, List.take_succ_cons] at hsame
      obtain ⟨rfl, hothers⟩ := List.cons.inj hsame
      by_cases hblank : other = ""
      · subst hblank
        rw [turns_blank] at herror hothers
        rw [List.filter_cons_of_neg (by decide), List.filter_cons_of_neg (by decide)]
        exact ih s hrest herror hothers
      · have hkept := isExpressionLine_of_ne hblank hcomment
        rw [List.filter_cons_of_pos hkept, List.filter_cons_of_pos hkept, fileTranscript,
          fileTranscript, s.reply_eq]
        dsimp only
        cases hf : (s.turn other limit).failure? with
        | some f => rw [Turn.hasValue_of_failure hf]
        | none =>
          rw [Turn.hasValue_of_no_failure hf]
          cases he : (s.turn other limit).isError with
          | true => rfl
          | false =>
            rw [turns_of_no_failure hblank hf, List.any_cons, he, Bool.false_or] at herror
            rw [turns_of_no_failure hblank hf, Turn.beforeError_cons he] at hothers
            show Transcript.after _ (fileTranscript _ _ limit) =
              Transcript.after _ (fileTranscript _ _ limit)
            rw [ih _ hrest herror hothers]

end Session

end Calculator

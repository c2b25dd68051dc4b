import Calculator.Proofs.Clocks
import Calculator.Proofs.Limits
import Calculator.Proofs.Turns

/-! The two modes that evaluate lines.  On texts that they cut and read alike, a file and a dialogue
agree up to the first line that has no value. -/

namespace Calculator

namespace Turn

/-- An error is written to the second stream only. -/
theorem out_of_isError {t : Turn} (h : t.isError = true) : t.output.out = "" := by
  cases t with
  | error traced text => rfl
  | _ => cases h

theorem out_throughError (turns : List Turn) :
    (Output.join ((throughError turns).map output)).out =
      (Output.join ((beforeError turns).map output)).out := by
  induction turns with
  | nil => rfl
  | cons t rest ih =>
    cases h : t.isError with
    | true =>
      rw [throughError_error h, beforeError_error h, List.map_singleton, Output.join_cons,
        Output.out_append, out_of_isError h]
      rfl
    | false =>
      rw [throughError_cons h, beforeError_cons h, List.map_cons, List.map_cons, Output.join_cons,
        Output.join_cons, Output.out_append, Output.out_append, ih]

/-- A file and a dialogue show the same turns, the file those up to the first error.  The values
among them go to the first stream, and what is traced and the error go to the second. -/
structure Agree (turns : List Turn) (file dialogue : Transcript) : Prop where
  dialogueOutput : dialogue.output = Dialogue.greeting ++
    (Output.join (turns.map fun t => Dialogue.prompt ++ t.output) ++ closing turns)
  dialogueEnding : dialogue.ending = endingOf turns
  fileOut : file.output.out = (Output.join ((beforeError turns).map output)).out
  fileErr : file.output.err = (Output.join ((throughError turns).map output)).err
  fileEnding : file.ending = fileEnding turns

end Turn

/-! ### Instruments and limits -/

namespace Session

/-- The turns are the same with instruments that make no difference. -/
theorem turns_instruments {s : Session} {i : Instruments} (h : s.instruments.Alike s.settings i)
    (lines : List String) (limit : Option Nat) :
    ({ s with instruments := i } : Session).turns lines limit = s.turns lines limit := by
  induction lines generalizing s i with
  | nil => rfl
  | cons line rest ih =>
    obtain ⟨i', hhandle, halike⟩ := handle_instruments h line limit
    have hturn : ({ s with instruments := i } : Session).turn line limit = s.turn line limit := by
      rw [turn, turn, hhandle]
      rfl
    have hrest : ({ s with instruments := i } : Session).turns rest limit = s.turns rest limit :=
      ih h
    have hnext := ih ((settings_handle s line limit).symm ▸ halike)
    rw [turns, turns, hturn, hrest, hhandle]
    split
    · rfl
    · split
      · rfl
      · rw [hnext]

end Session

namespace Turn

/-- Turns that are the others, or begin as they do and end with one that is stopped because its runs
nest too deep. -/
def CutAs (turns whole : List Turn) : Prop :=
  turns = whole ∨ ∃ before traced,
    turns = before ++ [.stopped traced .nestedTooDeep] ∧ before <+: whole

theorem CutAs.cons {turns whole : List Turn} (h : CutAs turns whole) (t : Turn) :
    CutAs (t :: turns) (t :: whole) := by
  rcases h with rfl | ⟨before, traced, rfl, hprefix⟩
  · exact .inl rfl
  · exact .inr ⟨t :: before, traced, rfl, (List.prefix_cons_inj t).mpr hprefix⟩

end Turn

namespace Session

/-- Under a limit the turns are the same as without one, up to a line that is stopped for its depth
if there is one. -/
theorem turns_limited {s : Session} (hp : ∀ n, ∀ p ∈ s.pipeline.passes, p.Obeys (shrinking n))
    (lines : List String) (limit : Option Nat) :
    Turn.CutAs (s.turns lines limit) (s.turns lines) := by
  induction lines generalizing s with
  | nil => exact .inl rfl
  | cons line rest ih =>
    by_cases hblank : line = ""
    · rw [hblank, turns_blank, turns_blank]
      exact (ih hp).cons .blank
    · rcases s.handle_limited hp line limit with hhandle | ⟨hdeep, -⟩
      · have hturn : s.turn line limit = s.turn line := by rw [turn, turn, hhandle]
        cases hf : (s.turn line).failure? with
        | some f =>
          rw [turns_of_failure hblank hf, turns_of_failure hblank (hturn ▸ hf), hturn]
          exact .inl rfl
        | none =>
          rw [turns_of_no_failure hblank hf, turns_of_no_failure hblank (hturn ▸ hf), hturn,
            hhandle]
          have hnext : ∀ n, ∀ p ∈ (s.handle line).session.pipeline.passes,
              p.Obeys (shrinking n) := by
            rwa [pipeline_handle]
          exact (ih hnext).cons _
      · have hturn : s.turn line limit =
            .stopped (s.handle line limit).log.output .nestedTooDeep := by
          rw [turn, Turn.ofHandled, hdeep]
        have hf : (s.turn line limit).failure? = some .nestedTooDeep := by
          rw [hturn]
          rfl
        rw [turns_of_failure hblank hf, hturn]
        exact .inr ⟨[], _, rfl, List.nil_prefix⟩

end Session

namespace Turn

/-- No line is stopped because its runs nest too deep. -/
def StayWithin (turns : List Turn) : Prop := ∀ traced, .stopped traced .nestedTooDeep ∉ turns

theorem stayWithin_of_all {turns : List Turn}
    (h : turns.all (fun t => t.failure?.isNone) = true) : StayWithin turns := by
  intro traced hmem
  cases List.all_eq_true.mp h _ hmem

end Turn

namespace Session

variable {s : Session} {lines : List String} {limit : Option Nat}
  (hp : ∀ n, ∀ p ∈ s.pipeline.passes, p.Obeys (shrinking n))
include hp

theorem turns_eq_of_stayWithin (h : Turn.StayWithin (s.turns lines limit)) :
    s.turns lines limit = s.turns lines := by
  rcases turns_limited hp lines limit with hsame | ⟨before, traced, hcut, -⟩
  · exact hsame
  · exact absurd (by rw [hcut]; simp) (h traced)

/-- Only lines up to the first error count. -/
theorem throughError_eq_of_stayWithin
    (h : Turn.StayWithin (Turn.throughError (s.turns lines limit))) :
    Turn.throughError (s.turns lines limit) = Turn.throughError (s.turns lines) := by
  rcases turns_limited hp lines limit with hsame | ⟨before, traced, hcut, rest, hrest⟩
  · rw [hsame]
  · have hlimited := Turn.throughError_append before [.stopped traced .nestedTooDeep]
    cases herror : before.any Turn.isError with
    | true =>
      rw [herror, if_pos rfl] at hlimited
      rw [hcut, hlimited, ← hrest, Turn.throughError_append, herror, if_pos rfl]
    | false =>
      rw [herror, if_neg (by decide)] at hlimited
      refine absurd ?_ (h traced)
      rw [hcut, hlimited]
      exact List.mem_append_right _ List.mem_cons_self

end Session

namespace CommandLine

/-- The turns of a session in some surroundings with the lines of a text. -/
def turns (around : Surroundings) (settings : Settings) (text : List Char) : List Turn :=
  (session around settings).turns ((Text.lines text).map trimLine) around.limit

/-- A file and a dialogue in surroundings that make no difference to the lines of a text: their
instruments make none, and neither do their limits on how deep runs nest, be it because they are the
same or because no line that is evaluated is stopped by them. -/
structure GoAlike (settings : Settings) (text : List Char) (around around' : Surroundings) :
    Prop where
  instruments : around.instruments.Alike settings around'.instruments
  limit : around.limit = around'.limit ∨
    Turn.StayWithin (Turn.throughError (turns around settings text)) ∧
      Turn.StayWithin (turns around' settings text)

variable {around around' : Surroundings} {settings : Settings} {path : String}
  {args args' : List String} {text input stdin : List Char}

theorem GoAlike.throughError_eq (h : GoAlike settings text around around') :
    Turn.throughError (turns around settings text) =
      Turn.throughError (turns around' settings text) := by
  have hturns : ∀ limit,
      (session around' settings).turns ((Text.lines text).map trimLine) limit =
        (session around settings).turns ((Text.lines text).map trimLine) limit :=
    fun limit => Session.turns_instruments (s := session around settings) h.instruments _ limit
  have hshrinks : ∀ a, ∀ n, ∀ p ∈ (session a settings).pipeline.passes, p.Obeys (shrinking n) :=
    fun _ => settings.shrinks_pipeline
  rcases h.limit with hlimit | ⟨hfile, hdialogue⟩
  · rw [turns, turns, hturns, hlimit]
  · rw [turns, Session.throughError_eq_of_stayWithin (hshrinks around) hfile, turns,
      Session.turns_eq_of_stayWithin (hshrinks around') hdialogue, hturns]

theorem run_file (hargs : Mode.ofArgs args = .file path)
    (hload : Settings.load around none = .ok settings) (htext : around.text path = .ok text) :
    run around args stdin =
      (session around settings).fileTranscript (expressionLines text) around.limit := by
  rw [run, hargs]
  dsimp only
  rw [file, withSettings, hload, htext]

theorem run_dialogue (hargs : Mode.ofArgs args = .dialogue)
    (hload : Settings.load around none = .ok settings) :
    run around args input = (Dialogue.transcript (session around settings)
      (Text.inputLines (Text.unifyNewlines input)) around.limit).after Dialogue.greeting := by
  rw [run, hargs]
  dsimp only
  rw [dialogue, withSettings, hload]

/-- On a text whose lines end with newlines only, and in which no line leaves the dialogue or is a
comment, a file and a dialogue agree.  What the file holds after the first error is not evaluated:
with something else there it goes the same way. -/
theorem run_agrees (hfile : Mode.ofArgs args = .file path)
    (hdialogue : Mode.ofArgs args' = .dialogue)
    (hload : Settings.load around none = .ok settings)
    (hload' : Settings.load around' none = .ok settings) (htext : around.text path = .ok text)
    (hinput : Text.unifyNewlines input = text)
    (hboundary : ∀ c ∈ text, Text.isLineBoundary c = true → c = '\n')
    (hlines : ∀ line ∈ Text.lines text,
      trimLine line ≠ "exit" ∧ (trimLine line).toList.head? ≠ some '#')
    (halike : GoAlike settings text around around') :
    let turns := turns around' settings text
    let read := (Turn.beforeError turns).length + 1
    Turn.Agree turns (run around args stdin) (run around' args' input) ∧
    (turns.any Turn.isError = true → ∀ (other : Surroundings) (text' stdin' : List Char),
      Settings.load other none = .ok settings → other.text path = .ok text' →
      other.instruments = around.instruments → other.limit = around.limit →
      (Text.lines text').take read = (Text.lines text).take read →
      run other args stdin' = run around args stdin) := by
  intro turns read
  have hcomments : ∀ line ∈ (Text.lines text).map trimLine, line.toList.head? ≠ some '#' :=
    List.forall_mem_map.mpr fun line hline => (hlines line hline).2
  have hthrough : Turn.throughError (CommandLine.turns around settings text) =
      Turn.throughError turns := halike.throughError_eq
  constructor
  · rw [run_file hfile hload htext, run_dialogue hdialogue hload', hinput,
      ← Text.lines_eq_inputLines hboundary, expressionLines, Session.fileTranscript_eq _ hcomments,
      Dialogue.transcript_eq _ (fun line hline => (hlines line hline).1), ← CommandLine.turns,
      ← CommandLine.turns, ← Turn.fileEnding_throughError, hthrough]
    exact ⟨rfl, rfl, Turn.out_throughError turns, rfl, Turn.fileEnding_throughError turns⟩
  · intro herror other text' stdin' hload' htext' hinstruments hlimit hsame
    have hsession : session other settings = session around settings := by
      rw [session, session, hinstruments]
    rw [run_file hfile hload htext, run_file hfile hload' htext', expressionLines, expressionLines,
      hsession, hlimit]
    have herror' : (CommandLine.turns around settings text).any Turn.isError = true := by
      rw [← Turn.any_throughError, hthrough, Turn.any_throughError, herror]
    have hread : (Turn.beforeError (CommandLine.turns around settings text)).length + 1 = read := by
      rw [← Turn.beforeError_throughError, hthrough, Turn.beforeError_throughError]
    refine Session.fileTranscript_unread _ hcomments herror' ?_
    rw [← CommandLine.turns, hread, ← List.map_take, ← List.map_take, hsame]

/-- The third line of the file has an open parenthesis, and the fourth is not evaluated.  The
dialogue runs at another time, and with less room for runs inside each other. -/
theorem run_agrees_unmatched :
    let text := "1+1\n\n(2\n3\n".toList
    let around : Surroundings :=
      { file := fun _ => .ok (text.map fun c => UInt8.ofNat c.toNat)
        vars := []
        limit := some 199 }
    let clock : Nat → String := fun _ => "01 Jan 18:00:00"
    let around' : Surroundings := { around with instruments := { clock }, limit := some 190 }
    let turns := turns around' {} text
    Turn.Agree turns (run around ["sums.txt"] []) (run around' [] "1+1\r\n\r\n(2\n3\n".toList) ∧
      turns.length = 4 ∧ (run around ["sums.txt"] []).ending = .exit 1 := by
  intro text around clock around' turns
  have hall : text.all (fun c => !Text.isLineBoundary c || c == '\n') = true := by decide
  have hboundary : ∀ c ∈ text, Text.isLineBoundary c = true → c = '\n' := by
    intro c hc hc'
    simpa [hc'] using List.all_eq_true.mp hall c hc
  have halike : GoAlike {} text around around' :=
    ⟨⟨nofun, .inr (Settings.timeless_of_default rfl rfl)⟩, .inr ⟨Turn.stayWithin_of_all (by decide +kernel),
      Turn.stayWithin_of_all (by decide +kernel)⟩⟩
  obtain ⟨hagree, -⟩ := @run_agrees around around' {} "sums.txt" ["sums.txt"] [] text
    "1+1\r\n\r\n(2\n3\n".toList [] (by decide) rfl rfl rfl rfl (by decide +kernel) hboundary
    (by decide) halike
  have herror : turns.any Turn.isError = true := by decide +kernel
  refine ⟨hagree, by decide +kernel, ?_⟩
  rw [hagree.fileEnding, Turn.fileEnding, if_pos herror]

end CommandLine

/-! ### A value that cannot be written -/

/-- A number of 2200 digits. -/
def nines : Literal where
  digits := List.replicate 2200 '9'
  nonempty := List.cons_ne_nil _ _
  ascii := by
    intro c hc
    rw [List.eq_of_mem_replicate hc]
    rfl

/-- The line that multiplies a number by itself. -/
def square (a : Literal) : Expression Operand .sum :=
  .term (.scaled (.single (.plain (.atom (.literal a)))) .times (.plain (.atom (.literal a))))

theorem lineText_square (a : Literal) : (square a).lineText = a.digits ++ '*' :: a.digits := by
  simp [square, Expression.lineText, Expression.lexemes, Lexeme.spell, Operand.text, Scaling.char]

/-- The square of a number of 2200 digits.  It has 4400 digits. -/
def largeProduct : String := String.ofList (square nines).lineText

theorem eq_of_mem_largeProduct {c : Char} (h : c ∈ (square nines).lineText) :
    c = '9' ∨ c = '*' := by
  rw [lineText_square, List.mem_append, List.mem_cons] at h
  rcases h with h | rfl | h
  · exact .inl (List.eq_of_mem_replicate h)
  · exact .inr rfl
  · exact .inl (List.eq_of_mem_replicate h)

theorem compute_largeProduct :
    ∃ n, n.isWritable = false ∧
      ((Session.compute largeProduct).result (.start {})).1 = .ok n := by
  let v : Expression Numeric .sum :=
    .term (.scaled (.single (.plain (.atom (.digits nines)))) .times
      (.plain (.atom (.digits nines))))
  have hmeaning : (meaning (square nines)).run Environment.empty = some (v, .empty) := rfl
  have hreadable : v.AllReadable := by
    intro a ha
    obtain rfl : a = .digits nines := by simpa [v, Expression.lexemes] using ha
    have hnines : nines.IsReadable := by decide +kernel
    exact hnines
  have hvalue : v.numbers.value = some (.int (nines.value * nines.value)) := rfl
  have hfits : ¬v.numbers.Overflows := by
    rintro (h | h | ⟨a, b, ha, hb, -, ho⟩)
    · exact h
    · exact h
    · obtain rfl := Option.some.inj ha
      obtain rfl := Option.some.inj hb
      cases ho
  have hsource : solidChars largeProduct = (square nines).lineText := by
    rw [solidChars, largeProduct, String.toList_ofList, List.filter_eq_self]
    intro c hc
    rcases eq_of_mem_largeProduct hc with rfl | rfl <;> decide
  have hempty : Environment.empty.IsNumeric := fun name t h => by cases h
  obtain ⟨-, -, -, hdecides⟩ := compute_line (s := .start {}) rfl hempty hsource hmeaning
  exact ⟨_, by decide +kernel, (hdecides hreadable hfits).value _ hvalue⟩

theorem Session.turn_of_compute {s : Session} (ht : s.settings.tracing = false) {source : String}
    {n : Number} (hn : n.isWritable = false) (h : ((compute source).result s).1 = .ok n) :
    ∃ traced, s.turn source = .unwritable traced := by
  obtain ⟨-, hreport⟩ := handle_untraced ht source
  have hgives := reportOf_gives source [] ((evaluate source).result s).1
  rw [result_compute] at h
  dsimp only at h
  rw [← hreport, h] at hgives
  rcases hgives with ⟨r, hr, hverdict⟩ | ⟨f, -, hf, -⟩
  · have hvalue : r.verdict = .value n := hverdict
    refine ⟨(s.handle source).log.output, ?_⟩
    simp only [turn, Turn.ofHandled, hr, hvalue, hn]
    rfl
  · cases hf

theorem turn_largeProduct :
    ∃ traced, (Session.start {}).turn largeProduct = .unwritable traced := by
  obtain ⟨n, hn, hcompute⟩ := compute_largeProduct
  exact Session.turn_of_compute rfl hn hcompute

namespace CommandLine

/-- A file whose lines are evaluated without a failure, and without an error, need not end well. -/
theorem not_forall_exits :
    ¬∀ (around : Surroundings) (settings : Settings) (path : String) (args : List String)
      (text stdin : List Char), Mode.ofArgs args = .file path →
      Settings.load around none = .ok settings → around.text path = .ok text →
      (∀ c ∈ text, Text.isLineBoundary c = true → c = '\n') →
      (∀ line ∈ Text.lines text,
        trimLine line ≠ "exit" ∧ (trimLine line).toList.head? ≠ some '#') →
      let turns := turns around settings text
      (∀ traced f, Turn.stopped traced f ∉ turns) →
      (run around args stdin).ending = .exit (if turns.any Turn.isError then 1 else 0) := by
  intro h
  let text := (square nines).lineText
  let around : Surroundings :=
    { file := fun _ => .ok (text.map fun c => UInt8.ofNat c.toNat), vars := [] }
  -- nothing in the line is cut, trimmed or decoded into something else
  have hplain : ∀ c ∈ text, c.toNat < 0x80 ∧ Text.isBlank c = false ∧
      Text.isLineBoundary c = false ∧ c ≠ '\r' := by
    intro c hc
    rcases eq_of_mem_largeProduct hc with rfl | rfl <;> decide
  have htext : around.text "square.txt" = .ok text :=
    Surroundings.text_ascii rfl (fun c hc => (hplain c hc).1) fun hc => (hplain _ hc).2.2.2 rfl
  have hlines : Text.lines text = [text] :=
    Text.cutLines_whole (fun c hc => (hplain c hc).2.2.1) (by simp [text, lineText_square])
  have htrim : trimLine text = largeProduct := by
    rw [trimLine, Text.trimBlanks_eq_self fun c hc => (hplain c hc).2.1, largeProduct]
  have hhead : largeProduct.toList.head? = some '9' := by
    rw [largeProduct, String.toList_ofList, lineText_square]
    rfl
  have hexpression : largeProduct ≠ "exit" ∧ largeProduct.toList.head? ≠ some '#' := by
    refine ⟨fun hexit => ?_, by rw [hhead]; decide⟩
    rw [hexit] at hhead
    exact absurd hhead (by decide)
  have hblank : largeProduct ≠ "" := by
    intro hempty
    rw [hempty] at hhead
    exact absurd hhead (by decide)
  obtain ⟨traced, hturn⟩ := turn_largeProduct
  have hfailure : ((Session.start {}).turn largeProduct).failure? = some .unwritable := by
    rw [hturn]
    rfl
  have hturns : turns around {} text = [.unwritable traced] := by
    show (Session.start {}).turns ((Text.lines text).map trimLine) = _
    rw [hlines, List.map_singleton, htrim, Session.turns_of_failure hblank hfailure, hturn]
  have hending := h around {} "square.txt" ["square.txt"] text [] (by decide) rfl htext
    (fun c hc hboundary => by simp [(hplain c hc).2.2.1] at hboundary)
    (by rw [hlines]; simpa [htrim] using hexpression)
    (by rw [hturns]; intro traced f hmem; cases List.mem_singleton.mp hmem)
  rw [run_file (by decide) rfl htext, expressionLines, Session.fileTranscript_eq, ← turns,
    hturns] at hending
  · cases hending
  · rw [hlines]
    simpa [htrim] using hexpression.2

end CommandLine

end Calculator

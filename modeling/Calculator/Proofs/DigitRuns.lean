import Mathlib.Algebra.BigOperators.Fin
import Mathlib.Data.List.SplitBy
import Mathlib.Data.Nat.Digits.Lemmas
import Calculator.Proofs.Lexemes
import Calculator.Proofs.Measures

/-! Runs of digits.  Digits that stand side by side make runs, each as long as it can be, with every
other token between them.  Merging digits makes one token of each run wherever it stands, and
reading the numerals then gives the number that the digits of the run spell in base ten. -/

namespace Calculator

/-- Whether two tokens are digits, so that they belong together when they stand side by side. -/
def bothDigits (t u : Token) : Bool := t.isDigit && u.isDigit

/-- The tokens cut up into the longest runs of digits, with every other token alone. -/
def digitRuns (tokens : List Token) : List (List Token) := tokens.splitBy bothDigits

def IsDigitRun (run : List Token) : Prop := run ≠ [] ∧ ∀ t ∈ run, t.isDigit = true

/-- The tokens are cut up into runs of digits, of which no two stand side by side, and single tokens
that are no digits. -/
structure AreDigitRuns (runs : List (List Token)) (tokens : List Token) : Prop where
  whole : runs.flatten = tokens
  each : ∀ run ∈ runs, IsDigitRun run ∨ ∃ t, run = [t] ∧ t.isDigit = false
  longest : runs.IsChain fun run next => ¬(IsDigitRun run ∧ IsDigitRun next)

/-- What merging makes of a run. -/
def mergedRun : List Token → Token
  | [t] => t
  | run => .numeral (joined run)

/-- The number that some digits spell in base ten: each digit counts ten times as much as the one
behind it. -/
def decimalValue (digits : List Char) : Nat :=
  ∑ i : Fin digits.length, (digits[i].toNat - '0'.toNat) * 10 ^ (digits.length - 1 - i)

/-- What reading makes of a run: the number that its digits spell, or its token if that is no
digit. -/
def numberOf (run : List Token) : Token :=
  if run.all Token.isDigit then .number (.int (decimalValue (joined run).toList))
  else mergedRun run

/-! ### The runs of a list -/

section Runs

variable {run next : List Token} {runs : List (List Token)} {tokens : List Token}

theorem IsDigitRun.isChain (h : IsDigitRun run) :
    run.IsChain fun t u => bothDigits t u = true := by
  have hmem : run.IsChain fun t u => t ∈ run ∧ u ∈ run ∧ True :=
    List.IsChain.iff_mem.mp (List.isChain_iff_getElem.mpr fun _ _ => trivial)
  exact hmem.imp fun t u ⟨ht, hu, _⟩ => Bool.and_eq_true_iff.mpr ⟨h.2 t ht, h.2 u hu⟩

/-- Tokens that belong together are digits, if they are more than one. -/
theorem isDigitRun_of_isChain {t u : Token} {rest : List Token}
    (h : (t :: u :: rest).IsChain fun t u => bothDigits t u = true) :
    IsDigitRun (t :: u :: rest) := by
  refine ⟨List.cons_ne_nil _ _, ?_⟩
  induction rest generalizing t u with
  | nil =>
    have htu := Bool.and_eq_true_iff.mp (List.isChain_cons_cons.mp h).1
    exact List.forall_mem_cons.mpr ⟨htu.1, List.forall_mem_singleton.mpr htu.2⟩
  | cons v rest ih =>
    obtain ⟨htu, hrest⟩ := List.isChain_cons_cons.mp h
    exact List.forall_mem_cons.mpr ⟨(Bool.and_eq_true_iff.mp htu).1, ih hrest⟩

theorem areDigitRuns_digitRuns (tokens : List Token) : AreDigitRuns (digitRuns tokens) tokens where
  whole := List.flatten_splitBy bothDigits tokens
  each := by
    intro run hrun
    have hchain := List.isChain_of_mem_splitBy hrun
    match run with
    | [] => exact absurd hrun (List.nil_notMem_splitBy bothDigits tokens)
    | [t] =>
      cases ht : t.isDigit with
      | true => exact .inl ⟨List.cons_ne_nil _ _, List.forall_mem_singleton.mpr ht⟩
      | false => exact .inr ⟨t, rfl, ht⟩
    | t :: u :: rest => exact .inl (isDigitRun_of_isChain hchain)
  longest := by
    refine (List.isChain_getLast_head_splitBy bothDigits tokens).imp ?_
    rintro run next ⟨hrun, hnext, hapart⟩ ⟨hdigits, hdigits'⟩
    rw [bothDigits, hdigits.2 _ (List.getLast_mem hrun), hdigits'.2 _ (List.head_mem hnext)]
      at hapart
    cases hapart

/-- A list is cut up in one way only. -/
theorem areDigitRuns_iff : AreDigitRuns runs tokens ↔ runs = digitRuns tokens := by
  constructor
  · intro h
    have hne : ∀ run ∈ runs, run ≠ [] := by
      intro run hrun
      rcases h.each run hrun with hdigits | ⟨t, rfl, -⟩
      · exact hdigits.1
      · exact List.cons_ne_nil t []
    have hdigits : ∀ run ∈ runs, ∀ t ∈ run, t.isDigit = true → IsDigitRun run := by
      intro run hrun t ht hdigit
      rcases h.each run hrun with hdigits | ⟨u, rfl, hu⟩
      · exact hdigits
      · rw [List.mem_singleton.mp ht, hu] at hdigit
        cases hdigit
    refine (List.splitBy_eq_iff.mpr ⟨h.whole.symm, fun hnil => hne [] hnil rfl, ?_, ?_⟩).symm
    · intro run hrun
      rcases h.each run hrun with hdigits | ⟨t, rfl, -⟩
      · exact hdigits.isChain
      · exact List.isChain_singleton t
    · refine h.longest.imp_of_mem_imp fun run next hrun hnext hapart => ?_
      refine ⟨hne run hrun, hne next hnext, ?_⟩
      rw [← Bool.not_eq_true]
      intro hboth
      obtain ⟨hlast, hhead⟩ := Bool.and_eq_true_iff.mp hboth
      exact hapart ⟨hdigits run hrun _ (List.getLast_mem _) hlast,
        hdigits next hnext _ (List.head_mem _) hhead⟩
  · rintro rfl
    exact areDigitRuns_digitRuns tokens

end Runs

/-! ### Merging -/

section Merging

variable {run : List Token}

/-- Digits behind a numeral go on with it. -/
theorem foldl_joinDigits_numeral (h : ∀ t ∈ run, t.isDigit = true) (digits : String)
    (output : List Token) :
    run.foldl joinDigits (.numeral digits :: output) =
      .numeral (digits ++ joined run) :: output := by
  induction run generalizing digits with
  | nil => simp
  | cons t run ih =>
    obtain ⟨ht, hrest⟩ := List.forall_mem_cons.mp h
    obtain ⟨text, htext⟩ := Option.isSome_iff_exists.mp ht
    have hjoin : joinDigits (.numeral digits :: output) t =
        .numeral (digits ++ text) :: output := by
      rw [joinDigits, htext]
      rfl
    rw [List.foldl_cons, hjoin, ih hrest, joined_cons, Token.text_of_digits? htext,
      String.append_assoc]

/-- A run of digits is merged into one token on an output that takes no digits on. -/
theorem foldl_joinDigits_run (h : IsDigitRun run) {output : List Token}
    (ho : TakesNoDigits output) : run.foldl joinDigits output = mergedRun run :: output := by
  match run with
  | [] => exact absurd rfl h.1
  | [t] => exact joinDigits_of_takesNoDigits ho t
  | t :: u :: rest =>
    obtain ⟨ht, hu, hrest⟩ := List.forall_mem_cons.mp h.2 |>.imp_right List.forall_mem_cons.mp
    obtain ⟨a, ha⟩ := Option.isSome_iff_exists.mp ht
    obtain ⟨b, hb⟩ := Option.isSome_iff_exists.mp hu
    have hjoin : joinDigits (t :: output) u = .numeral (a ++ b) :: output := by
      rw [joinDigits, ha, hb]
    have hmerged : mergedRun (t :: u :: rest) = .numeral (joined (t :: u :: rest)) := rfl
    rw [List.foldl_cons, List.foldl_cons, joinDigits_of_takesNoDigits ho, hjoin,
      foldl_joinDigits_numeral hrest, hmerged, joined_cons, joined_cons,
      Token.text_of_digits? ha, Token.text_of_digits? hb, String.append_assoc]

/-- Each run becomes a token of its own. -/
theorem foldl_joinDigits_runs {runs : List (List Token)}
    (each : ∀ run ∈ runs, IsDigitRun run ∨ ∃ t, run = [t] ∧ t.isDigit = false)
    (longest : runs.IsChain fun run next => ¬(IsDigitRun run ∧ IsDigitRun next))
    {output : List Token} (ho : ∀ run ∈ runs.head?, IsDigitRun run → TakesNoDigits output) :
    runs.flatten.foldl joinDigits output = (runs.map mergedRun).reverse ++ output := by
  induction runs generalizing output with
  | nil => rfl
  | cons run runs ih =>
    obtain ⟨hrun, hrest⟩ := List.forall_mem_cons.mp each
    obtain ⟨hnext, hchain⟩ := List.isChain_cons.mp longest
    have hfirst : run.foldl joinDigits output = mergedRun run :: output := by
      rcases hrun with hdigits | ⟨t, rfl, ht⟩
      · exact foldl_joinDigits_run hdigits (ho run rfl hdigits)
      · exact joinDigits_of_not_isDigit ht output
    have hbehind : ∀ next ∈ runs.head?, IsDigitRun next →
        TakesNoDigits (mergedRun run :: output) := by
      intro next hmem hdigits
      rcases hrun with hrun | ⟨t, rfl, ht⟩
      · exact absurd ⟨hrun, hdigits⟩ (hnext next hmem)
      · intro u hu
        obtain rfl := Option.some.inj hu
        exact ht
    rw [List.flatten_cons, List.foldl_append, hfirst, ih hrest hchain hbehind, List.map_cons,
      List.reverse_cons, List.append_assoc]
    rfl

theorem mergeDigits_eq_map_mergedRun (tokens : List Token) :
    mergeDigits tokens = (digitRuns tokens).map mergedRun := by
  have hruns := areDigitRuns_digitRuns tokens
  have hnone : ∀ run ∈ (digitRuns tokens).head?, IsDigitRun run → TakesNoDigits [] :=
    fun _ _ _ => nofun
  have hfold := foldl_joinDigits_runs hruns.each hruns.longest hnone
  rw [hruns.whole, List.append_nil] at hfold
  rw [mergeDigits, hfold, List.reverse_reverse]

/-- A token that is a digit after the merge was made of a run of digits. -/
theorem isDigitRun_of_isDigit_mergedRun (h : IsDigitRun run ∨ ∃ t, run = [t] ∧ t.isDigit = false)
    (hd : (mergedRun run).isDigit = true) : IsDigitRun run := by
  rcases h with h | ⟨t, rfl, ht⟩
  · exact h
  · have hd : t.isDigit = true := hd
    rw [ht] at hd
    cases hd

theorem isChain_mergeDigits (tokens : List Token) :
    (mergeDigits tokens).IsChain fun t u => ¬(t.isDigit = true ∧ u.isDigit = true) := by
  have hruns := areDigitRuns_digitRuns tokens
  rw [mergeDigits_eq_map_mergedRun, List.isChain_map]
  refine hruns.longest.imp_of_mem_imp fun run next hrun hnext hapart hboth => hapart ?_
  exact ⟨isDigitRun_of_isDigit_mergedRun (hruns.each run hrun) hboth.1,
    isDigitRun_of_isDigit_mergedRun (hruns.each next hnext) hboth.2⟩

end Merging

/-! ### Reading -/

theorem decimalValue_cons (c : Char) (digits : List Char) :
    decimalValue (c :: digits) =
      (c.toNat - '0'.toNat) * 10 ^ digits.length + decimalValue digits := by
  have hsucc : ∀ i : Fin digits.length,
      (digits[i].toNat - '0'.toNat) * 10 ^ (digits.length + 1 - 1 - (i.succ : ℕ)) =
        (digits[i].toNat - '0'.toNat) * 10 ^ (digits.length - 1 - i) := by
    intro i
    congr 2
    rw [Fin.val_succ]
    omega
  exact (Fin.sum_univ_succ _).trans (congrArg _ (Finset.sum_congr rfl fun i _ => hsucc i))

/-- The value of a literal is the sum of its digits' values. -/
theorem value_eq_decimalValue (l : Literal) : l.value = decimalValue l.digits := by
  have h : ∀ digits : List Char,
      Nat.ofDigits 10 (digits.reverse.map fun c => c.toNat - '0'.toNat) = decimalValue digits := by
    intro digits
    induction digits with
    | nil => rfl
    | cons c digits ih =>
      rw [List.reverse_cons, List.map_append, Nat.ofDigits_append, ih, decimalValue_cons,
        List.length_map, List.length_reverse, List.map_singleton, Nat.ofDigits_singleton]
      ring
  exact h l.digits

/-- All digits of a list are ASCII digits. -/
def AreAscii (tokens : List Token) : Prop :=
  ∀ digits, .numeral digits ∈ tokens → ∀ c ∈ digits.toList, Text.isAsciiDigit c = true

/-- A run has digits to be read, and not too many. -/
def IsReadableRun (run : List Token) : Prop :=
  0 < (joined run).length ∧ (joined run).length ≤ Decimal.digitLimit

section Reading

variable {run : List Token}

theorem digits?_mergedRun (h : IsDigitRun run) : (mergedRun run).digits? = some (joined run) := by
  match run with
  | [] => exact absurd rfl h.1
  | [t] =>
    obtain ⟨digits, hdigits⟩ := Option.isSome_iff_exists.mp (h.2 t (List.mem_singleton_self t))
    rw [joined_singleton, Token.text_of_digits? hdigits]
    exact hdigits
  | _ :: _ :: _ => rfl

theorem ascii_joined (hd : IsDigitRun run) (h : AreAscii run) :
    ∀ c ∈ (joined run).toList, Text.isAsciiDigit c = true := by
  intro c hc
  rw [joined, String.toList_join, List.flatMap_map] at hc
  obtain ⟨t, ht, hc⟩ := List.mem_flatMap.mp hc
  have hdigit := hd.2 t ht
  cases t with
  | char d p =>
    rw [Token.isDigit_char] at hdigit
    have hc : c ∈ (String.singleton d).toList := hc
    rw [String.toList_singleton, List.mem_singleton] at hc
    rwa [hc]
  | numeral digits => exact h digits ht c hc
  | number n => cases hdigit
  | symbol s => cases hdigit

theorem numberOf_of_isDigitRun (h : IsDigitRun run) :
    numberOf run = .number (.int (decimalValue (joined run).toList)) := by
  rw [numberOf, if_pos (List.all_eq_true.mpr h.2)]

/-- A run of digits is read as its number when it has digits, and not too many. -/
theorem readDigits_mergedRun_eq_ok_iff
    (each : IsDigitRun run ∨ ∃ t, run = [t] ∧ t.isDigit = false) (h : AreAscii run) {u : Token} :
    readDigits (mergedRun run) = .ok u ↔
      (IsDigitRun run → IsReadableRun run) ∧ u = numberOf run := by
  rcases each with hd | ⟨t, rfl, ht⟩
  · rw [readDigits_of_digits (digits?_mergedRun hd), numberOf_of_isDigitRun hd]
    by_cases hempty : (joined run).toList = []
    · have hnone : joined run = "" := String.toList_eq_nil_iff.mp hempty
      have hread : readText "" = .error (.unreadable (.notAnInteger 10 [])) := rfl
      rw [hnone, hread]
      refine ⟨nofun, fun hu => ?_⟩
      have hlength := (hu.1 hd).1
      rw [hnone] at hlength
      cases hlength
    · let l : Literal := ⟨(joined run).toList, hempty, ascii_joined hd h⟩
      have htext : joined run = String.ofList l.digits := String.ofList_toList.symm
      have hreadable : (IsDigitRun run → IsReadableRun run) ↔ l.IsReadable := by
        rw [IsReadableRun, ← String.length_toList]
        exact ⟨fun hr => (hr hd).2, fun hr _ => ⟨List.length_pos_of_ne_nil hempty, hr⟩⟩
      rw [hreadable, htext, readText_literal, String.toList_ofList, ← value_eq_decimalValue]
      by_cases hr : l.IsReadable
      · rw [if_pos hr]
        exact ⟨fun hu => ⟨hr, (Except.ok.inj hu).symm⟩, fun hu => congrArg Except.ok hu.2.symm⟩
      · rw [if_neg hr]
        exact ⟨nofun, fun hu => absurd hu.1 hr⟩
  · have hnot : ¬IsDigitRun [t] := fun hd => by
      rw [hd.2 t (List.mem_singleton_self t)] at ht
      cases ht
    have hnumber : numberOf [t] = t := by
      rw [numberOf, if_neg (by simp [ht])]
      rfl
    have hmerged : mergedRun [t] = t := rfl
    rw [hmerged, readDigits_of_not_isDigit ht, hnumber]
    exact ⟨fun hu => ⟨fun hd => absurd hd hnot, (Except.ok.inj hu).symm⟩,
      fun hu => congrArg Except.ok hu.2.symm⟩

/-- Runs are read when each run of digits can be, and each as what it comes to on its own. -/
theorem convertNumerals_map_mergedRun_eq_ok_iff {runs : List (List Token)}
    (each : ∀ run ∈ runs, IsDigitRun run ∨ ∃ t, run = [t] ∧ t.isDigit = false)
    (h : ∀ run ∈ runs, AreAscii run) {numbers : List Token} :
    convertNumerals (runs.map mergedRun) = .ok numbers ↔
      (∀ run ∈ runs, IsDigitRun run → IsReadableRun run) ∧ numbers = runs.map numberOf := by
  induction runs generalizing numbers with
  | nil =>
    exact ⟨fun hn => ⟨nofun, (Except.ok.inj hn).symm⟩, fun hn => congrArg Except.ok hn.2.symm⟩
  | cons run runs ih =>
    obtain ⟨hrun, hrest⟩ := List.forall_mem_cons.mp each
    obtain ⟨hascii, hascii'⟩ := List.forall_mem_cons.mp h
    rw [List.map_cons, convertNumerals_cons, List.map_cons, List.forall_mem_cons]
    constructor
    · intro hn
      obtain ⟨u, hu, hn⟩ := Except.bind_eq_ok_iff.mp hn
      obtain ⟨read, hread, hn⟩ := Except.bind_eq_ok_iff.mp hn
      obtain ⟨hreadable, rfl⟩ := (readDigits_mergedRun_eq_ok_iff hrun hascii).mp hu
      obtain ⟨hreadable', rfl⟩ := (ih hrest hascii').mp hread
      exact ⟨⟨hreadable, hreadable'⟩, (Except.ok.inj hn).symm⟩
    · rintro ⟨⟨hreadable, hreadable'⟩, rfl⟩
      rw [(readDigits_mergedRun_eq_ok_iff hrun hascii).mpr ⟨hreadable, rfl⟩,
        (ih hrest hascii').mpr ⟨hreadable', rfl⟩]
      rfl

end Reading

/-- Digits are read as numbers in base ten, everywhere in a list: merging makes one token of each
run of digits, so that no two digits stand side by side any more, and reading makes it the number
that the digits of the run spell, leading zeros included.  It fails exactly when a run has no digits
or too many. -/
theorem digitRuns_read {tokens : List Token} (h : AreAscii tokens) :
    (∀ runs, AreDigitRuns runs tokens ↔ runs = digitRuns tokens) ∧
      mergeDigits tokens = (digitRuns tokens).map mergedRun ∧
      (mergeDigits tokens).IsChain (fun t u => ¬(t.isDigit = true ∧ u.isDigit = true)) ∧
      ∀ numbers, convertNumerals (mergeDigits tokens) = .ok numbers ↔
        (∀ run ∈ digitRuns tokens, IsDigitRun run → IsReadableRun run) ∧
          numbers = (digitRuns tokens).map numberOf := by
  have hruns := areDigitRuns_digitRuns tokens
  have hascii : ∀ run ∈ digitRuns tokens, AreAscii run := by
    intro run hrun digits hdigits
    refine h digits ?_
    rw [← hruns.whole]
    exact List.mem_flatten.mpr ⟨run, hrun, hdigits⟩
  refine ⟨fun runs => areDigitRuns_iff, mergeDigits_eq_map_mergedRun tokens,
    isChain_mergeDigits tokens, fun numbers => ?_⟩
  rw [mergeDigits_eq_map_mergedRun]
  exact convertNumerals_map_mergedRun_eq_ok_iff hruns.each hascii

/-- Three runs, of characters and numerals in any order: `007`, `5` and `101`. -/
theorem digitRuns_read_threeRuns :
    let tokens : List Token := [.sign '0', .sign '0', .numeral "7", .sign '+', .sign '5',
      .sign 'x', .numeral "10", .sign '1']
    AreAscii tokens ∧
      mergeDigits tokens =
        [.numeral "007", .sign '+', .sign '5', .sign 'x', .numeral "101"] ∧
      convertNumerals (mergeDigits tokens) =
        .ok [.number (.int 7), .sign '+', .number (.int 5), .sign 'x', .number (.int 101)] := by
  intro tokens
  have hascii : AreAscii tokens := by
    intro digits hdigits
    simp only [tokens, List.mem_cons, reduceCtorEq, Token.sign, Token.numeral.injEq, false_or,
      List.not_mem_nil, or_false] at hdigits
    rcases hdigits with rfl | rfl <;> exact List.all_eq_true.mp rfl
  have hruns : digitRuns tokens = [[.sign '0', .sign '0', .numeral "7"], [.sign '+'],
      [.sign '5'], [.sign 'x'], [.numeral "10", .sign '1']] := rfl
  obtain ⟨-, hmerged, -, hread⟩ := digitRuns_read hascii
  rw [hruns] at hmerged hread
  refine ⟨hascii, hmerged, (hread _).mpr ⟨?_, ?_⟩⟩
  · intro run hrun _
    simp only [List.mem_cons, List.not_mem_nil, or_false] at hrun
    rcases hrun with rfl | rfl | rfl | rfl | rfl <;> exact ⟨by decide, by decide⟩
  · decide

end Calculator

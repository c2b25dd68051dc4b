import Calculator.Proofs.Reduction

/-! What survives the passes.  Digits are joined and read, and operators and numbers are combined;
all other tokens stay, in order.  So what is taken from tokens by a function that takes nothing from
the ones that a pass works on is the same before the pass and after it. -/

namespace Calculator

theorem Token.isChar_of_isDigit {t : Token} {c : Char} (hc : Text.isAsciiDigit c = false)
    (h : t.isDigit = true) : t.isChar c = false := by
  cases t with
  | char d p =>
    rw [isDigit_char] at h
    simpa using ne_of_isAsciiDigit h hc
  | _ => rfl

/-- What is taken of a list is taken of its first token and of the rest. -/
theorem filterMap_cons_toList {β : Type} (f : Token → Option β) (t : Token) (tokens : List Token) :
    (t :: tokens).filterMap f = (f t).toList ++ tokens.filterMap f := by
  rw [List.filterMap_cons]
  cases f t <;> rfl

section Passes

variable {β : Type} {f : Token → Option β}

section Reading

variable (hd : ∀ t : Token, t.isDigit = true → f t = none)
include hd

/-- Merging digits leaves the other tokens. -/
theorem filterMap_mergeDigits (tokens : List Token) :
    (mergeDigits tokens).filterMap f = tokens.filterMap f := by
  have hpush : ∀ output t, (t :: output).reverse.filterMap f =
      output.reverse.filterMap f ++ (f t).toList := by
    intro output t
    rw [List.reverse_cons, List.filterMap_append, filterMap_cons_toList, List.filterMap_nil,
      List.append_nil]
  have hjoin : ∀ output t, (joinDigits output t).reverse.filterMap f =
      output.reverse.filterMap f ++ (f t).toList := by
    intro output t
    cases output with
    | nil => exact hpush [] t
    | cons last output =>
      simp only [joinDigits]
      split
      · rename_i a b ha hb
        have hlast : f last = none := hd last (by simp [Token.isDigit, ha])
        have ht : f t = none := hd t (by simp [Token.isDigit, hb])
        have hnumeral : f (.numeral (a ++ b)) = none := hd _ rfl
        simp only [hpush, hlast, ht, hnumeral, Option.toList_none, List.append_nil]
      · exact hpush (last :: output) t
  have hmerged : ∀ output, (tokens.foldl joinDigits output).reverse.filterMap f =
      output.reverse.filterMap f ++ tokens.filterMap f := by
    induction tokens with
    | nil => exact fun _ => (List.append_nil _).symm
    | cons t tokens ih =>
      intro output
      rw [List.foldl_cons, ih, hjoin, filterMap_cons_toList, List.append_assoc]
  exact hmerged []

/-- Reading numerals leaves the tokens that are neither digits nor numbers. -/
theorem filterMap_convertNumerals (hn : ∀ n, f (.number n) = none) {tokens numbers : List Token}
    (h : convertNumerals tokens = .ok numbers) : numbers.filterMap f = tokens.filterMap f := by
  induction tokens generalizing numbers with
  | nil =>
    obtain rfl := Except.ok.inj h
    rfl
  | cons t tokens ih =>
    rw [convertNumerals_cons] at h
    obtain ⟨u, hu, h⟩ := Except.bind_eq_ok_iff.mp h
    obtain ⟨rest, hrest, h⟩ := Except.bind_eq_ok_iff.mp h
    obtain rfl := Except.ok.inj h
    have hsame : f u = f t := by
      rw [readDigits] at hu
      split at hu
      · rw [Except.ok.inj hu]
      · rename_i digits hdigits
        rw [hd t (by simp [Token.isDigit, hdigits])]
        split at hu
        · rw [← Except.ok.inj hu, hn]
        · cases hu
    rw [filterMap_cons_toList, filterMap_cons_toList, ih hrest, hsame]

theorem filterMap_readNumbers (hn : ∀ n, f (.number n) = none) {tokens numbers : List Token}
    (h : readNumbers tokens = .ok numbers) : numbers.filterMap f = tokens.filterMap f :=
  (filterMap_convertNumerals hd hn h).trans (filterMap_mergeDigits hd tokens)

end Reading

section Reduction

variable (hp : ∀ t : Token, t.isPlain = true → f t = none)
include hp

/-- Signs are applied to numbers only, and the other tokens stay. -/
theorem filterMap_applySigns (tokens : List Token) :
    (applySigns tokens).filterMap f = tokens.filterMap f := by
  have hn : ∀ n, f (.number n) = none := fun n => hp _ rfl
  rw [applySigns]
  generalize false = afterNumber
  fun_induction signsFrom afterNumber tokens with
  | case1 => rfl
  | case2 afterNumber u n rest hu ih =>
    have hsign : f u = none := by
      obtain ⟨p, rfl⟩ := Token.isChar_iff.mp (Bool.and_eq_true_iff.mp hu).1
      exact hp _ rfl
    simp only [filterMap_cons_toList, hn, hsign, ih, Option.toList_none, List.nil_append]
  | case3 afterNumber u n rest _ ih =>
    rw [filterMap_cons_toList, ih, filterMap_cons_toList f u]
  | case4 afterNumber u tokens _ ih =>
    rw [filterMap_cons_toList, ih, filterMap_cons_toList f u]

/-- A fold combines numbers and signs, and leaves the other tokens. -/
theorem filterMap_fold {isSign : Token → Bool}
    {operation : Number → Token → Number → Except Failure Number}
    (hs : ∀ t, isSign t = true → t.isPlain = true) {tokens folded : List Token}
    (h : fold isSign operation tokens = .ok folded) :
    folded.filterMap f = tokens.filterMap f := by
  have hn : ∀ n, f (.number n) = none := fun n => hp _ rfl
  cases tokens with
  | nil =>
    obtain rfl := Except.ok.inj h
    rfl
  | cons left tokens =>
    rw [fold_cons] at h
    induction left, tokens using foldFrom.induct isSign generalizing folded with
    | case1 left =>
      obtain rfl := Except.ok.inj h
      rfl
    | case2 left u =>
      obtain rfl := Except.ok.inj h
      rfl
    | case3 left u right rest hu ih =>
      rw [foldFrom_cons_of_sign operation hu] at h
      obtain ⟨n, hcombine, hrest⟩ := Except.bind_eq_ok_iff.mp h
      obtain ⟨a, ha, hcombine⟩ := Except.bind_eq_ok_iff.mp hcombine
      obtain ⟨b, hb, -⟩ := Except.bind_eq_ok_iff.mp hcombine
      obtain rfl := operand_eq_ok_iff.mp ha
      obtain rfl := operand_eq_ok_iff.mp hb
      rw [ih n hrest]
      simp only [filterMap_cons_toList, hn, hp u (hs u hu), Option.toList_none, List.nil_append]
    | case4 left u right rest hu ih =>
      rw [foldFrom_cons_of_not_sign operation (by simpa using hu)] at h
      obtain ⟨folded', hfolded, h⟩ := Except.bind_eq_ok_iff.mp h
      obtain rfl := Except.ok.inj h
      rw [filterMap_cons_toList, ih hfolded, filterMap_cons_toList f left]

theorem filterMap_foldProducts {tokens folded : List Token} (h : foldProducts tokens = .ok folded) :
    folded.filterMap f = tokens.filterMap f := by
  rw [foldProducts_eq_fold] at h
  exact filterMap_fold hp (fun t ht => by simp [Token.isPlain, ht]) h

theorem filterMap_foldSums {tokens folded : List Token} (h : foldSums tokens = .ok folded) :
    folded.filterMap f = tokens.filterMap f := by
  rw [foldSums_eq_fold] at h
  exact filterMap_fold hp (fun t ht => by simp [Token.isPlain, ht]) h

theorem filterMap_reduce {tokens reduced : List Token} (h : reduce tokens = .ok reduced) :
    reduced.filterMap f = tokens.filterMap f := by
  obtain ⟨scaled, hscaled, hsums⟩ := Except.bind_eq_ok_iff.mp h
  exact (filterMap_foldSums hp hsums).trans
    ((filterMap_foldProducts hp hscaled).trans (filterMap_applySigns hp tokens))

end Reduction

end Passes

/-! ### Tokens that stay -/

section Members

variable {t : Token} {tokens result : List Token}

/-- A token that is taken of both lists alike is in both or in none. -/
theorem mem_of_filterMap_eq
    (h : result.filterMap (Option.guard (· = t)) = tokens.filterMap (Option.guard (· = t)))
    (ht : t ∈ tokens) : t ∈ result := by
  rw [List.filterMap_eq_filter] at h
  have hmem : t ∈ tokens.filter (· = t) := List.mem_filter.mpr ⟨ht, decide_eq_true rfl⟩
  rw [← h] at hmem
  exact (List.mem_filter.mp hmem).1

/-- A token other than `t` is not taken for it. -/
theorem guard_eq_none {test : Token → Bool} (ht : test t = false) (u : Token)
    (hu : test u = true) : Option.guard (· = t) u = none := by
  have hne : u ≠ t := by
    rintro rfl
    rw [ht] at hu
    cases hu
  simp [hne]

theorem mem_readNumbers (hd : t.isDigit = false) (hp : t.isPlain = false) (ht : t ∈ tokens)
    (h : readNumbers tokens = .ok result) : t ∈ result :=
  mem_of_filterMap_eq
    (filterMap_readNumbers (guard_eq_none hd) (fun _ => guard_eq_none hp _ rfl) h) ht

theorem mem_reduce (hp : t.isPlain = false) (ht : t ∈ tokens) (h : reduce tokens = .ok result) :
    t ∈ result :=
  mem_of_filterMap_eq (filterMap_reduce (guard_eq_none hp) h) ht

end Members

end Calculator

import Mathlib.Algebra.BigOperators.Group.List.Basic
import Mathlib.Algebra.FreeMonoid.Basic
import Calculator.Proofs.Evaluation
import Calculator.Proofs.Inheritance
import Calculator.Proofs.Windows

/-! What rewriting preserves.  A measure of tokens in a monoid gives a list the product of its
members in their order.  A scan replaces windows where they stand, so that a list keeps its product
when each window does; the text that the tokens of a list spell is one such product. -/

namespace Calculator

/-- The product of a measure over the tokens of a list, in their order. -/
def product {M : Type*} [Monoid M] (measure : Token → M) (tokens : List Token) : M :=
  (tokens.map measure).prod

/-- The texts of some tokens, joined. -/
def joined (tokens : List Token) : String := String.join (tokens.map Token.text)

section Product

variable {M : Type*} [Monoid M] (measure : Token → M)

@[simp] theorem product_append (first second : List Token) :
    product measure (first ++ second) = product measure first * product measure second := by
  rw [product, List.map_append, List.prod_append]
  rfl

/-- A list keeps its product when a part of it does. -/
theorem product_replace {part part' : List Token} (h : product measure part' = product measure part)
    (before behind : List Token) :
    product measure (before ++ part' ++ behind) = product measure (before ++ part ++ behind) := by
  simp only [product_append, h]

end Product

@[simp] theorem joined_append (first second : List Token) :
    joined (first ++ second) = joined first ++ joined second := by
  rw [joined, List.map_append, String.join_append]
  rfl

@[simp] theorem joined_nil : joined [] = "" := rfl

@[simp] theorem joined_singleton (t : Token) : joined [t] = t.text := by
  simp [joined]

theorem joined_cons (t : Token) (tokens : List Token) :
    joined (t :: tokens) = t.text ++ joined tokens := by
  rw [← List.singleton_append, joined_append, joined_singleton]

/-- The text of some tokens, as a product of characters. -/
theorem product_characters (tokens : List Token) :
    product (fun t => FreeMonoid.ofList t.text.toList) tokens =
      FreeMonoid.ofList (joined tokens).toList := by
  induction tokens with
  | nil => rfl
  | cons t tokens ih =>
    rw [← List.singleton_append, product_append, ih, List.singleton_append, joined_cons,
      String.toList_append, FreeMonoid.ofList_append]
    simp [product]

/-! ### Scans -/

namespace Window

variable {σ : Type} {tests : List (Token → Bool)}

/-- A scan keeps the product of a list when every window that fits keeps its product. -/
theorem product_scan {M : Type*} [Monoid M] (measure : Token → M)
    {combine : List Token → Action σ (List Token)}
    (h : ∀ window, fits tests window = true → ∀ s replacement,
      ((combine window).result s).1 = .ok replacement →
      product measure replacement = product measure window)
    (tokens : List Token) :
    (scan tests combine tokens).Keeps (fun _ => True)
      (fun scanned => product measure scanned = product measure tokens)
      (FailsOn tests combine) := by
  rw [scan]
  split
  · exact Action.keeps_pure rfl
  · refine keeps_scanOnto_of (fun output rest => product measure (output.reverse ++ rest) =
      product measure tokens) ?done ?push ?replace rfl
    case done =>
      intro output h
      rwa [List.append_nil] at h
    case push =>
      intro output t rest _ h
      rwa [List.reverse_cons, List.append_assoc]
    case replace =>
      intro window base output t rest hwindow hfits hproduct
      have hinput : output.reverse ++ t :: rest = base.reverse ++ window ++ rest := by
        have hreverse := congrArg List.reverse hwindow
        rw [List.reverse_append, List.reverse_reverse, List.reverse_cons] at hreverse
        rw [← hreverse, List.append_assoc]
        rfl
      rw [hinput] at hproduct
      refine keeps_combine hfits fun s replacement hr => ?_
      rw [List.reverse_append, List.reverse_reverse, product_replace measure (h _ hfits s _ hr),
        hproduct]

/-- A scan keeps the text of a list when every window that fits keeps its text. -/
theorem joined_scan {combine : List Token → Action σ (List Token)}
    (h : ∀ window, fits tests window = true → ∀ s replacement,
      ((combine window).result s).1 = .ok replacement → joined replacement = joined window)
    (tokens : List Token) :
    (scan tests combine tokens).Keeps (fun _ => True)
      (fun scanned => joined scanned = joined tokens) (FailsOn tests combine) := by
  have hscan := product_scan (fun t => FreeMonoid.ofList t.text.toList)
    (fun window hfits s replacement hr => by
      rw [product_characters, product_characters, h window hfits s replacement hr]) tokens
  simp only [product_characters, EmbeddingLike.apply_eq_iff_eq, String.toList_inj] at hscan
  exact hscan

/-- A scan that only fails where its replacements do is the same with any state. -/
theorem result_scan_ofExcept (tests : List (Token → Bool))
    (combine : List Token → Except Failure (List Token)) (tokens : List Token) (s : σ) :
    (scan tests (fun window => Action.ofExcept (combine window)) tokens).result s =
      (scan tests combine tokens, s) := by
  have honto : ∀ output, (scanOnto tests (fun window => Action.ofExcept (combine window)) output
      tokens).result s = (scanOnto tests combine output tokens, s) := by
    induction tokens with
    | nil => exact fun _ => rfl
    | cons t tokens ih =>
      intro output
      simp only [scanOnto]
      split
      · rw [Action.result_bind, Action.result_ofExcept]
        cases combine ((t :: output).take tests.length).reverse with
        | error e => rfl
        | ok replacement => exact ih _
      · exact ih _
  rw [scan, scan]
  split
  · rfl
  · exact honto []

/-! ### Joined texts -/

theorem mapM_written (window : List Token) :
    window.mapM Token.written =
      if window.all Token.isWritable then .ok (window.map Token.text) else .error .unwritable := by
  induction window with
  | nil => rfl
  | cons t window ih =>
    rw [List.mapM_cons, ih, Token.written]
    cases ht : t.isWritable with
    | false => simp [ht, bind, Except.bind]
    | true =>
      simp only [if_true, Except.ok_bind, List.all_cons, ht, Bool.true_and]
      split <;> rfl

/-- A window becomes one keyword with its text, unless the text may not be written. -/
theorem collapse_eq (window : List Token) :
    collapse window =
      if window.all Token.isWritable then .ok [.symbol (joined window)]
      else .error .unwritable := by
  rw [collapse, mapM_written]
  split <;> rfl

/-- Where every token may be written, so may every window and what it becomes. -/
theorem every_scan_collapse (tests : List (Token → Bool)) {tokens : List Token}
    (h : Every (fun t => t.isWritable = true) tokens) :
    (scan tests (fun window => (Action.ofExcept (collapse window) : Action Unit _)) tokens).Keeps
      (fun _ => True) (Every fun t => t.isWritable = true) fun _ => False := by
  rw [scan]
  split
  · exact Action.keeps_pure h
  · refine keeps_scanOnto (fun window hwindow => Action.keeps_ofExcept ?_) (List.forall_mem_nil _) h
    rw [collapse_eq, if_pos (List.all_eq_true.mpr hwindow)]
    exact List.forall_mem_singleton.mpr rfl

/-- Joining the texts of windows keeps the text of every list; it fails only on a list with a token
that may not be written. -/
theorem joined_scan_collapse (tests : List (Token → Bool)) (tokens : List Token) :
    Meets (fun scanned => joined scanned = joined tokens)
      (fun e => e = .unwritable ∧ ∃ t ∈ tokens, t.isWritable = false)
      (scan tests collapse tokens) := by
  let combine : List Token → Action Unit (List Token) := fun window =>
    Action.ofExcept (collapse window)
  have hresult := result_scan_ofExcept tests collapse tokens ()
  have hjoined : (scan tests combine tokens).Keeps (fun _ => True)
      (fun scanned => joined scanned = joined tokens) (FailsOn tests combine) := by
    refine joined_scan (fun window _ s replacement hr => ?_) tokens
    have hr : collapse window = .ok replacement := hr
    rw [collapse_eq] at hr
    split at hr
    · obtain rfl := Except.ok.inj hr
      rw [joined_singleton]
      rfl
    · cases hr
  have hscan := (hjoined () trivial).2
  rw [hresult] at hscan
  cases hs : scan tests collapse tokens with
  | ok scanned =>
    rw [hs] at hscan
    exact hscan
  | error e =>
    rw [hs] at hscan
    obtain ⟨window, s, -, hwindow⟩ := hscan
    have hwindow : collapse window = .error e := hwindow
    refine ⟨?_, ?_⟩
    · rw [collapse_eq] at hwindow
      split at hwindow
      · cases hwindow
      · exact (Except.error.inj hwindow).symm
    · by_contra hall
      have hevery : Every (fun t => t.isWritable = true) tokens := fun t ht => by
        simpa using fun hw => hall ⟨t, ht, hw⟩
      have hwritable := (every_scan_collapse tests hevery () trivial).2
      rw [hresult, hs] at hwritable
      exact hwritable

end Window

/-- The digits of a token are its text. -/
theorem Token.text_of_digits? {t : Token} {digits : String} (h : t.digits? = some digits) :
    t.text = digits := by
  cases t with
  | char c p =>
    rw [digits?] at h
    split at h
    · exact Option.some.inj h
    · cases h
  | numeral s => exact Option.some.inj h
  | number n => cases h
  | symbol s => cases h

/-- Merging digits keeps the text of every list. -/
theorem joined_mergeDigits (tokens : List Token) : joined (mergeDigits tokens) = joined tokens := by
  have hjoin : ∀ output t,
      joined (joinDigits output t).reverse = joined output.reverse ++ t.text := by
    intro output t
    cases output with
    | nil => simp [joinDigits]
    | cons last output =>
      rw [joinDigits]
      split
      · rename_i a b ha hb
        rw [List.reverse_cons, List.reverse_cons, joined_append, joined_append, joined_singleton,
          joined_singleton, Token.text_of_digits? ha, Token.text_of_digits? hb, String.append_assoc]
        rfl
      · rw [List.reverse_cons, joined_append, joined_singleton]
  have hfold : ∀ output,
      joined (tokens.foldl joinDigits output).reverse = joined (output.reverse ++ tokens) := by
    induction tokens with
    | nil => simp
    | cons t tokens ih =>
      intro output
      rw [List.foldl_cons, ih, joined_append, hjoin, ← joined_singleton, ← joined_append,
        ← joined_append, List.append_assoc]
      rfl
  exact hfold []

/-- Making keywords keeps the text of every list. -/
theorem joined_keywords (tokens : List Token) : joined (keywords tokens) = joined tokens := by
  have hwindow : ∀ window, Window.fits (keywordPattern.map Window.Place.test) window = true →
      ∀ env replacement, ((keywordWindow window).result env).1 = .ok replacement →
      joined replacement = joined window := by
    intro window hfits env replacement hr
    obtain rfl : [.symbol setKeyword] = replacement := Except.ok.inj hr
    have hl : window.length = 3 := Window.length_eq_of_fits hfits
    obtain ⟨a, b, c, rfl⟩ := List.length_eq_three.mp hl
    rw [keywordTests_letters] at hfits
    simp only [Window.fits, Bool.and_true, Bool.and_eq_true, Token.isChar_iff] at hfits
    obtain ⟨⟨_, rfl⟩, ⟨_, rfl⟩, ⟨_, rfl⟩⟩ := hfits
    rfl
  have hscan : Window.scan (keywordPattern.map Window.Place.test) keywordWindow tokens =
      pure (keywords tokens) := scanPattern_keywordPattern tokens
  have hjoined := (Window.joined_scan hwindow tokens .empty trivial).2
  rw [hscan] at hjoined
  exact hjoined

/-- Scans lose, double and reorder nothing: whatever a measure of tokens in a monoid, a scan keeps
the product of a list if each window keeps its own.  So joining the texts of windows, making
keywords and merging digits keep the text of every list. -/
theorem Window.product_of_scan {σ : Type} {M : Type*} [Monoid M] (measure : Token → M)
    (tests : List (Token → Bool)) (combine : List Token → Action σ (List Token))
    (h : ∀ window, fits tests window = true → ∀ s replacement,
      ((combine window).result s).1 = .ok replacement →
      product measure replacement = product measure window)
    (tokens : List Token) (s : σ) :
    Meets (fun scanned => product measure scanned = product measure tokens)
        (FailsOn tests combine) ((scan tests combine tokens).result s).1 ∧
      Meets (fun scanned => joined scanned = joined tokens)
        (fun e => e = .unwritable ∧ ∃ t ∈ tokens, t.isWritable = false)
        (scan tests collapse tokens) ∧
      joined (keywords tokens) = joined tokens ∧ joined (mergeDigits tokens) = joined tokens :=
  ⟨(product_scan measure h tokens s trivial).2, joined_scan_collapse tests tokens,
    joined_keywords tokens, joined_mergeDigits tokens⟩

/-- Takes a keyword at the end of a window apart, letter by letter, and counts the keywords. -/
def spellOut : List Token → Action Nat (List Token)
  | [first, .symbol name] => do
      modify (· + 1)
      pure (first :: name.toList.map Token.sign)
  | window => pure window

theorem Window.product_of_scan_spellOut :
    let tests := [isCharOf ['('], fun t => t.isSymbol "set"]
    let measure : Token → FreeMonoid Char := fun t => FreeMonoid.ofList t.text.toList
    let tokens : List Token := [.sign '(', .symbol "set", .symbol "set", .sign '(', .symbol "set"]
    let spelled : List Token := [.sign '(', .sign 's', .sign 'e', .sign 't', .symbol "set",
      .sign '(', .sign 's', .sign 'e', .sign 't']
    (scan tests spellOut tokens).result 0 = (.ok spelled, 2) ∧
      product measure spelled = product measure tokens := by
  intro tests measure tokens spelled
  have hwindow : ∀ window, fits tests window = true → ∀ s replacement,
      ((spellOut window).result s).1 = .ok replacement →
      product measure replacement = product measure window := by
    intro window hfits s replacement hr
    have hl : window.length = 2 := length_eq_of_fits hfits
    obtain ⟨t, u, rfl⟩ := List.length_eq_two.mp hl
    have hset : u.isSymbol "set" = true := by
      simp only [tests, fits, Bool.and_true, Bool.and_eq_true] at hfits
      exact hfits.2
    cases u with
    | symbol name =>
      obtain rfl : name = "set" := by simpa [Token.isSymbol] using hset
      obtain rfl := Except.ok.inj hr
      rfl
    | _ => cases hset
  have hscan : (scan tests spellOut tokens).result 0 = (.ok spelled, 2) := rfl
  exact ⟨hscan, (product_of_scan measure tests spellOut hwindow tokens 0).1.ok
    (congrArg Prod.fst hscan)⟩

end Calculator

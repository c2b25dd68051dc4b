import Mathlib.Data.List.Infix
import Calculator.Proofs.Outcomes
import Calculator.Proofs.Scanning

/-! Window scans as loops.  A step of a scan puts a token on the output or replaces the window that
the token completes, and what both kinds of steps keep holds of the whole scan.  When replacements
never end a window, a scan leaves none that fits, and another scan of what it leaves changes
nothing. -/

namespace Calculator.Window

section Loop

variable {σ : Type} {tests : List (Token → Bool)} {combine : List Token → Action σ (List Token)}

/-- A scan keeps what its two kinds of steps keep; `inv` is said of the output, the last token
first, and of the tokens that are left. -/
theorem keeps_scanOnto_of {env : σ → Prop} {post : List Token → Prop} {fails : Failure → Prop}
    (inv : List Token → List Token → Prop)
    (done : ∀ {output}, inv output [] → post output.reverse)
    (push : ∀ {output t tokens},
      fits tests ((t :: output).take tests.length).reverse = false → inv output (t :: tokens) →
      inv (t :: output) tokens)
    (replace : ∀ {window base output t tokens}, t :: output = window.reverse ++ base →
      fits tests window = true → inv output (t :: tokens) →
      (combine window).Keeps env (fun replacement => inv (replacement.reverse ++ base) tokens)
        fails)
    {output tokens : List Token} (h : inv output tokens) :
    (scanOnto tests combine output tokens).Keeps env post fails := by
  induction tokens generalizing output with
  | nil => exact Action.keeps_pure (done h)
  | cons t tokens ih =>
    simp only [scanOnto]
    split
    · rename_i hfits
      have hwindow : t :: output = ((t :: output).take tests.length).reverse.reverse ++
          (t :: output).drop tests.length := by
        rw [List.reverse_reverse, List.take_append_drop]
      exact (replace hwindow hfits h).bind fun replacement hr => ih hr
    · rename_i hfits
      exact ih (push (by simpa using hfits) h)

/-- The failure is one of a replacement of a window that fits. -/
def FailsOn (tests : List (Token → Bool)) (combine : List Token → Action σ (List Token))
    (e : Failure) : Prop :=
  ∃ window s, fits tests window = true ∧ ((combine window).result s).1 = .error e

/-- What is known of every replacement for a window is all that a scan needs to know of it. -/
theorem keeps_combine {window : List Token} (hfits : fits tests window = true)
    {post : List Token → Prop}
    (h : ∀ s replacement, ((combine window).result s).1 = .ok replacement → post replacement) :
    (combine window).Keeps (fun _ => True) post (FailsOn tests combine) := by
  intro s _
  refine ⟨trivial, ?_⟩
  cases hr : ((combine window).result s).1 with
  | error e => exact ⟨window, s, hfits, hr⟩
  | ok replacement => exact h s replacement hr

end Loop

/-! ### Lists without windows -/

/-- No consecutive tokens of a list make a window. -/
def IsFree (tests : List (Token → Bool)) (tokens : List Token) : Prop :=
  ∀ window, window <:+: tokens → fits tests window = false

namespace IsFree

variable {tests : List (Token → Bool)} {tokens output : List Token}

theorem of_infix {part : List Token} (h : IsFree tests tokens) (hpart : part <:+: tokens) :
    IsFree tests part :=
  fun window hw => h window (hw.trans hpart)

/-- The last tokens of an output make no window of a free list. -/
theorem fits_take (h : IsFree tests output.reverse) :
    fits tests (output.take tests.length).reverse = false :=
  h _ (List.reverse_infix.mpr (List.take_prefix _ _).isInfix)

/-- A token that arrives can only complete the window that it is the last token of. -/
theorem push {t : Token} (h : IsFree tests output.reverse)
    (ht : fits tests ((t :: output).take tests.length).reverse = false) :
    IsFree tests (t :: output).reverse := by
  intro window hw
  rw [List.reverse_cons, List.infix_concat_iff] at hw
  rcases hw with hw | hw
  · rw [← Bool.not_eq_true]
    intro hfits
    have hprefix : window.reverse <+: t :: output := by
      rw [← List.reverse_suffix, List.reverse_reverse, List.reverse_cons]
      exact hw
    have hlast := List.prefix_iff_eq_take.mp hprefix
    rw [List.length_reverse, length_eq_of_fits hfits] at hlast
    rw [← hlast, List.reverse_reverse, hfits] at ht
    cases ht
  · exact h window hw

/-- Tokens that never end a window can be put on the output. -/
theorem append_of_last {last : Token → Bool} {replacement : List Token}
    (hr : ∀ t ∈ replacement, last t = false) {base : List Token}
    (h : IsFree (tests ++ [last]) base.reverse) :
    IsFree (tests ++ [last]) (replacement ++ base).reverse := by
  induction replacement with
  | nil => exact h
  | cons t replacement ih =>
    obtain ⟨ht, hrest⟩ := List.forall_mem_cons.mp hr
    exact (ih hrest).push (fits_eq_false_of_last ht _)

/-- A scan leaves a free list as it is. -/
theorem scanOnto {m : Type → Type} [Monad m] (combine : List Token → m (List Token))
    (h : IsFree tests (output.reverse ++ tokens)) :
    Window.scanOnto tests combine output tokens = pure (output.reverse ++ tokens) := by
  induction tokens generalizing output with
  | nil => rw [Window.scanOnto, List.append_nil]
  | cons t tokens ih =>
    have hnext : output.reverse ++ t :: tokens = (t :: output).reverse ++ tokens := by simp
    rw [hnext] at h ⊢
    have hfits := (h.of_infix (List.prefix_append _ _).isInfix).fits_take
    rw [Window.scanOnto]
    simp only [hfits, Bool.false_eq_true, if_false]
    exact ih h

theorem scan {m : Type → Type} [Monad m] (combine : List Token → m (List Token))
    (h : IsFree tests tokens) : Window.scan tests combine tokens = pure tokens := by
  rw [Window.scan]
  split
  · rfl
  · have h' : IsFree tests (List.reverse [] ++ tokens) := h
    exact h'.scanOnto combine

end IsFree

/-- A scan whose replacements never end a window leaves a list without windows, and scanning that
list again changes nothing; the scan fails only where a replacement does. -/
theorem isFree_of_scan {σ : Type} {tests : List (Token → Bool)} {last : Token → Bool}
    {combine : List Token → Action σ (List Token)}
    (h : ∀ window, fits (tests ++ [last]) window = true → ∀ s replacement,
      ((combine window).result s).1 = .ok replacement → ∀ t ∈ replacement, last t = false)
    (tokens : List Token) (s : σ) :
    Meets
      (fun scanned => IsFree (tests ++ [last]) scanned ∧
        scan (tests ++ [last]) combine scanned = pure scanned)
      (FailsOn (tests ++ [last]) combine)
      ((scan (tests ++ [last]) combine tokens).result s).1 := by
  have hscan : (scanOnto (tests ++ [last]) combine [] tokens).Keeps (fun _ => True)
      (IsFree (tests ++ [last])) (FailsOn (tests ++ [last]) combine) := by
    refine keeps_scanOnto_of (fun output _ => IsFree (tests ++ [last]) output.reverse)
      ?done ?push ?replace ?start
    case done => exact fun h => h
    case push => exact fun hfits h => h.push hfits
    case replace =>
      intro window base output t tokens hwindow hfits hfree
      -- The window is not empty, so that what lies below it lay on the output before.
      have hbase : base.reverse <:+: output.reverse := by
        obtain ⟨u, below, hcons⟩ := List.exists_cons_of_ne_nil
          (List.ne_nil_of_length_pos (l := window.reverse) (by simp [length_eq_of_fits hfits]))
        rw [hcons, List.cons_append] at hwindow
        rw [(List.cons.inj hwindow).2]
        exact List.reverse_infix.mpr (List.suffix_append _ _).isInfix
      refine keeps_combine hfits fun s replacement hr => ?_
      exact (hfree.of_infix hbase).append_of_last fun u hu =>
        h window hfits s replacement hr u (List.mem_reverse.mp hu)
    case start =>
      intro window hw
      rw [List.reverse_nil, List.infix_nil] at hw
      cases hw
      cases tests <;> rfl
  have hempty : (tests ++ [last]).isEmpty = false := by simp
  have hfree := (hscan s trivial).2
  rw [scan, hempty, if_neg (by decide)]
  exact hfree.of_ok fun scanned hs => ⟨hfree.ok hs, (hfree.ok hs).scan combine⟩

/-- Keeps the first token of a window and counts the windows. -/
def keepFirst (window : List Token) : Action Nat (List Token) := do
  modify (· + 1)
  pure (window.take 1)

/-- In `abbxab` each `a` takes in the letters `b` behind it. -/
theorem isFree_of_scan_keepFirst :
    let tests := [isCharOf ['a'], isCharOf ['b']]
    let tokens : String → List Token := fun text => text.toList.map fun c => .char c none
    (scan tests keepFirst (tokens "abbxab")).result 0 = (.ok (tokens "axa"), 3) ∧
      IsFree tests (tokens "axa") ∧ scan tests keepFirst (tokens "axa") = pure (tokens "axa") := by
  intro tests tokens
  have hfirst : ∀ window, fits ([isCharOf ['a']] ++ [isCharOf ['b']]) window = true →
      ∀ s replacement, ((keepFirst window).result s).1 = .ok replacement →
      ∀ t ∈ replacement, isCharOf ['b'] t = false := by
    intro window hfits s replacement hr t ht
    obtain rfl : window.take 1 = replacement := Except.ok.inj hr
    cases window with
    | nil => cases ht
    | cons u window =>
      obtain rfl : t = u := by simpa using ht
      have ha : isCharOf ['a'] t = true := (Bool.and_eq_true_iff.mp hfits).1
      cases t with
      | char c p =>
        obtain rfl : c = 'a' := by simpa [isCharOf] using ha
        rfl
      | _ => cases ha
  have hscan : (scan tests keepFirst (tokens "abbxab")).result 0 = (.ok (tokens "axa"), 3) := rfl
  have h := isFree_of_scan hfirst (tokens "abbxab") 0
  exact ⟨hscan, h.ok (congrArg Prod.fst hscan)⟩

end Calculator.Window

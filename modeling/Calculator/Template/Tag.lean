import Calculator.Template.Basic
import Calculator.Text.Blank

/-! Tags.  Behind the opening mark stands a sign that says what the tag does, or none, and then a
key; blanks around both are skipped.  The key is as short as can be, at least one character long,
and where a text can be read in several ways the first in this order counts: a change of delimiters,
a key in braces, a key behind a sign, a key alone. -/

namespace Calculator.Template

inductive TagKind where
  | variable
  | comment
  | include
  | open
  | openInverse
  | close
  | delimiters
  deriving DecidableEq, Repr

/-- Tags that put a text in their place leave the line around them as it is. -/
def TagKind.isInline : TagKind → Bool
  | .variable => true
  | _ => false

structure Tag where
  kind : TagKind
  key : List Char
  deriving DecidableEq, Repr

/-- The signs that may stand before a key. -/
def TagKind.ofSign? : Char → Option TagKind
  | '!' => some .comment
  | '>' => some .include
  | '&' => some .variable
  | '/' => some .close
  | '#' => some .open
  | '^' => some .openInverse
  | _ => none

/-- What is left of a text when some of the blanks at its front are skipped, all of them first. -/
def skipBlanks : List Char → List (List Char)
  | [] => [[]]
  | c :: rest => if Text.isBlank c then skipBlanks rest ++ [c :: rest] else [c :: rest]

/-- What follows `mark` at the front of a text. -/
def behind? : List Char → List Char → Option (List Char)
  | [], s => some s
  | m :: mark, c :: s => if m = c then behind? mark s else none
  | _ :: _, [] => none

/-- What follows `marks`, each of which may have blanks before it. -/
def behindAll? : List (List Char) → List Char → Option (List Char)
  | [], s => some s
  | mark :: marks, s => (behind? mark (s.dropWhile Text.isBlank)).bind (behindAll? marks)

/-- The shortest key that `ends` can end, and what follows.  Only some keys may contain newlines. -/
def shortestKey? (newlines : Bool) (ends : List Char → Option (List Char)) :
    List Char → Option (List Char × List Char)
  | [] => none
  | c :: rest =>
      if c = '\n' ∧ !newlines then none
      else
        match ends rest with
        | some after => some ([c], after)
        | none => (shortestKey? newlines ends rest).map fun (key, after) => (c :: key, after)

/-- The key at the front of a text and what follows its end. -/
def keyTag? (kind : TagKind) (newlines : Bool) (ends : List (List Char)) (s : List Char) :
    Option (Tag × List Char) :=
  (skipBlanks s).findSome? fun s =>
    (shortestKey? newlines (behindAll? ends) s).map fun (key, after) => (⟨kind, key⟩, after)

/-- The tag whose sign or key stands at the front of a text, and what follows it. -/
def tagBody? (d : Delimiters) (s : List Char) : Option (Tag × List Char) :=
  let change :=
    match s with
    | '=' :: rest => keyTag? .delimiters false [['='], d.closing] rest
    | _ => none
  let braced :=
    match s with
    | '\x7b' :: rest => keyTag? .variable false [['\x7d'], d.closing] rest
    | _ => none
  let signed :=
    match s with
    | c :: rest => (TagKind.ofSign? c).bind fun kind => keyTag? kind true [d.closing] rest
    | [] => none
  change <|> braced <|> signed <|> keyTag? .variable true [d.closing] s

/-- The tag at the front of a text, the spaces and tabs before it, and what follows it. -/
def tagAt? (d : Delimiters) (s : List Char) : Option (List Char × Tag × List Char) :=
  let isSpace := fun c => c = ' ' || c = '\t'
  (behind? d.opening (s.dropWhile isSpace)).bind fun body =>
    ((skipBlanks body).findSome? (tagBody? d)).map fun (tag, after) =>
      (s.takeWhile isSpace, tag, after)

/-- A text up to its first tag. -/
structure Found where
  before : List Char
  /-- Whether the spaces before the tag start a line. -/
  startsLine : Bool
  spaces : List Char
  tag : Tag
  after : List Char

def isLineEnd (c : Char) : Bool := c = '\n' || c = '\r'

/-- The first tag of a text.  `startsLine` says whether the text starts a line. -/
def firstTag? (d : Delimiters) (startsLine : Bool) : List Char → Option Found
  | [] => none
  | c :: rest =>
      match tagAt? d (c :: rest) with
      | some (spaces, tag, after) => some ⟨[], startsLine, spaces, tag, after⟩
      | none =>
          (firstTag? d (isLineEnd c) rest).map fun f => { f with before := c :: f.before }

theorem length_behind?_le {mark s after : List Char} (h : behind? mark s = some after) :
    after.length + mark.length = s.length := by
  induction mark generalizing s with
  | nil => simp_all [behind?]
  | cons m mark ih =>
    cases s with
    | nil => simp [behind?] at h
    | cons c s =>
      simp only [behind?] at h
      split at h
      · have := ih h
        simp only [List.length_cons]
        omega
      · simp at h

theorem length_dropWhile_le (p : Char → Bool) (s : List Char) :
    (s.dropWhile p).length ≤ s.length :=
  (List.dropWhile_sublist p).length_le

theorem length_behindAll?_le {marks : List (List Char)} {s after : List Char}
    (h : behindAll? marks s = some after) : after.length ≤ s.length := by
  induction marks generalizing s with
  | nil => simp_all [behindAll?]
  | cons mark marks ih =>
    simp only [behindAll?, Option.bind_eq_some_iff] at h
    obtain ⟨t, ht, ha⟩ := h
    have h1 := length_behind?_le ht
    have h2 := length_dropWhile_le Text.isBlank s
    have h3 := ih ha
    omega

theorem length_shortestKey?_lt {newlines : Bool} {ends : List Char → Option (List Char)}
    (hends : ∀ {s after}, ends s = some after → after.length ≤ s.length)
    {s key after : List Char} (h : shortestKey? newlines ends s = some (key, after)) :
    after.length < s.length := by
  induction s generalizing key with
  | nil => simp [shortestKey?] at h
  | cons c rest ih =>
    simp only [shortestKey?] at h
    split at h
    · simp at h
    · split at h
      · rename_i hr
        simp only [Option.some.injEq, Prod.mk.injEq] at h
        have := hends hr
        simp only [List.length_cons, ← h.2]
        omega
      · simp only [Option.map_eq_some_iff, Prod.mk.injEq, Prod.exists] at h
        obtain ⟨k, a, hk, -, rfl⟩ := h
        have := ih hk
        simp only [List.length_cons]
        omega

theorem length_le_of_mem_skipBlanks {s t : List Char} (h : t ∈ skipBlanks s) :
    t.length ≤ s.length := by
  induction s with
  | nil => simp_all [skipBlanks]
  | cons c rest ih =>
    simp only [skipBlanks] at h
    split at h
    · rcases List.mem_append.mp h with h | h
      · have := ih h
        simp only [List.length_cons]
        omega
      · simp_all
    · simp_all

theorem length_keyTag?_lt {kind : TagKind} {newlines : Bool} {ends : List (List Char)}
    {s after : List Char} {tag : Tag} (h : keyTag? kind newlines ends s = some (tag, after)) :
    after.length < s.length := by
  obtain ⟨t, ht, hk⟩ := List.exists_of_findSome?_eq_some h
  simp only [Option.map_eq_some_iff, Prod.mk.injEq, Prod.exists] at hk
  obtain ⟨k, a, hk, -, rfl⟩ := hk
  have h1 := length_shortestKey?_lt length_behindAll?_le hk
  have h2 := length_le_of_mem_skipBlanks ht
  omega

/-- What follows a tag is shorter than the text from its sign on. -/
theorem length_tagBody?_lt {d : Delimiters} {s after : List Char} {tag : Tag}
    (h : tagBody? d s = some (tag, after)) : after.length < s.length := by
  simp only [tagBody?, Option.orElse_eq_orElse, Option.orElse_eq_or, Option.or_eq_some_iff] at h
  rcases h with h | ⟨-, h | ⟨-, h | ⟨-, h⟩⟩⟩
  · split at h
    · have := length_keyTag?_lt h
      simp only [List.length_cons]
      omega
    · simp at h
  · split at h
    · have := length_keyTag?_lt h
      simp only [List.length_cons]
      omega
    · simp at h
  · split at h
    · simp only [Option.bind_eq_some_iff] at h
      obtain ⟨kind, -, h⟩ := h
      have := length_keyTag?_lt h
      simp only [List.length_cons]
      omega
    · simp at h
  · exact length_keyTag?_lt h

theorem length_tagAt?_lt {d : Delimiters} {s spaces after : List Char} {tag : Tag}
    (h : tagAt? d s = some (spaces, tag, after)) : after.length < s.length := by
  simp only [tagAt?, Option.bind_eq_some_iff, Option.map_eq_some_iff, Prod.mk.injEq,
    Prod.exists] at h
  obtain ⟨body, hb, t, a, hf, -, -, rfl⟩ := h
  obtain ⟨u, hu, ht⟩ := List.exists_of_findSome?_eq_some hf
  have h1 := length_tagBody?_lt ht
  have h2 := length_le_of_mem_skipBlanks hu
  have h3 := length_behind?_le hb
  have h4 := length_dropWhile_le (fun c => c = ' ' || c = '\t') s
  omega

/-- What follows the first tag is shorter than the text. -/
theorem length_firstTag?_lt {d : Delimiters} {startsLine : Bool} {s : List Char} {f : Found}
    (h : firstTag? d startsLine s = some f) : f.after.length < s.length := by
  induction s generalizing startsLine f with
  | nil => simp [firstTag?] at h
  | cons c rest ih =>
    simp only [firstTag?] at h
    split at h
    · rename_i sp tag after ht
      simp only [Option.some.injEq] at h
      subst h
      exact length_tagAt?_lt ht
    · simp only [Option.map_eq_some_iff] at h
      obtain ⟨g, hg, rfl⟩ := h
      have := ih hg
      simp only [List.length_cons]
      omega

end Calculator.Template

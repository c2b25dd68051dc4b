/-! Reading UTF-8.  The first byte of a character says how many bytes follow and, for some first
bytes, narrows the range of the second one; the others lie between `80` and `BF`. -/

namespace Calculator.Text.Utf8

/-- Why bytes are not a character. -/
inductive Reason where
  | invalidStart
  | invalidContinuation
  | unexpectedEnd
  deriving DecidableEq, Repr

/-- The bytes from `start` up to `stop` that are no character; `first` is the first of them. -/
structure Fault where
  start : Nat
  stop : Nat
  first : UInt8
  reason : Reason
  deriving DecidableEq, Repr

/-- What a first byte announces: its share of the code point, the number of bytes that follow, and
the range of the second byte. -/
structure Lead where
  bits : Nat
  following : Nat
  low : Nat := 0x80
  high : Nat := 0xbf

/-- The announcement of a first byte, if a character can start with it. -/
def Lead.of? (b : UInt8) : Option Lead :=
  let n := b.toNat
  if n < 0x80 then some ⟨n, 0, 0x80, 0xbf⟩
  else if n < 0xc2 then none
  else if n < 0xe0 then some ⟨n - 0xc0, 1, 0x80, 0xbf⟩
  else if n < 0xf0 then
    some ⟨n - 0xe0, 2, if n = 0xe0 then 0xa0 else 0x80, if n = 0xed then 0x9f else 0xbf⟩
  else if n < 0xf5 then
    some ⟨n - 0xf0, 3, if n = 0xf0 then 0x90 else 0x80, if n = 0xf4 then 0x8f else 0xbf⟩
  else none

/-- Where the reader stands: `offset` bytes read, the characters in reverse, and, inside a
character, its first byte and offset, the code point so far and what is still to come. -/
structure State where
  offset : Nat := 0
  chars : List Char := []
  first : UInt8 := 0
  start : Nat := 0
  lead : Lead := ⟨0, 0, 0x80, 0xbf⟩

def State.step (s : State) (b : UInt8) : Except Fault State :=
  if s.lead.following = 0 then
    match Lead.of? b with
    | none => .error ⟨s.offset, s.offset + 1, b, .invalidStart⟩
    | some lead =>
        if lead.following = 0 then
          .ok { s with offset := s.offset + 1, chars := Char.ofNat lead.bits :: s.chars }
        else
          .ok { s with offset := s.offset + 1, first := b, start := s.offset, lead := lead }
  else if b.toNat < s.lead.low ∨ s.lead.high < b.toNat then
    .error ⟨s.start, s.offset, s.first, .invalidContinuation⟩
  else
    let bits := s.lead.bits * 64 + (b.toNat - 0x80)
    if s.lead.following = 1 then
      .ok { s with
        offset := s.offset + 1, chars := Char.ofNat bits :: s.chars, lead := ⟨0, 0, 0x80, 0xbf⟩ }
    else
      .ok { s with offset := s.offset + 1, lead := ⟨bits, s.lead.following - 1, 0x80, 0xbf⟩ }

/-- The characters of a whole text, or the first fault in it. -/
def decode (bytes : List UInt8) : Except Fault (List Char) := do
  let s ← bytes.foldlM State.step {}
  if s.lead.following = 0 then pure s.chars.reverse
  else throw ⟨s.start, s.offset, s.first, .unexpectedEnd⟩

theorem foldlM_step_ascii {chars : List Char} (h : ∀ c ∈ chars, c.toNat < 0x80) {s : State}
    (hs : s.lead.following = 0) :
    ∃ s', (chars.map fun c => UInt8.ofNat c.toNat).foldlM State.step s = .ok s' ∧
      s'.lead.following = 0 ∧ s'.chars = chars.reverse ++ s.chars := by
  induction chars generalizing s with
  | nil => exact ⟨s, rfl, hs, rfl⟩
  | cons c rest ih =>
    obtain ⟨hc, hrest⟩ := List.forall_mem_cons.mp h
    have hbyte : (UInt8.ofNat c.toNat).toNat = c.toNat := by
      rw [UInt8.toNat_ofNat']
      omega
    have hstep : s.step (UInt8.ofNat c.toNat) =
        .ok { s with offset := s.offset + 1, chars := c :: s.chars } := by
      rw [State.step, if_pos hs, Lead.of?, hbyte, if_pos hc]
      simp [Char.ofNat_toNat]
    obtain ⟨s', hrun, hlead, hchars⟩ :=
      ih hrest (s := { s with offset := s.offset + 1, chars := c :: s.chars }) hs
    refine ⟨s', ?_, hlead, ?_⟩
    · rw [List.map_cons, List.foldlM_cons, hstep]
      exact hrun
    · rw [hchars, List.reverse_cons, List.append_assoc, List.singleton_append]

/-- Bytes of ASCII are read one by one. -/
theorem decode_ascii {chars : List Char} (h : ∀ c ∈ chars, c.toNat < 0x80) :
    decode (chars.map fun c => UInt8.ofNat c.toNat) = .ok chars := by
  obtain ⟨s, hrun, hlead, hchars⟩ := foldlM_step_ascii h (s := {}) rfl
  have hend : decode (chars.map fun c => UInt8.ofNat c.toNat) = .ok s.chars.reverse := by
    rw [decode, hrun]
    exact if_pos hlead
  rw [hend, hchars, List.append_nil, List.reverse_reverse]

end Calculator.Text.Utf8

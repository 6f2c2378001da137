import Mathlib

/-! Go strings and their UTF-8 decoding.

A Go `string` is a sequence of bytes that need not be valid UTF-8, so strings are byte
lists (`GoString`) and runes are numbers. Decoding is `unicode/utf8`'s:
`decodeRuneInString` reads the rune at the front of a string, `decodeLastRuneInString` the
rune at its back, and an invalid encoding reads as `runeError` of width one; `runes` is what
`for _, r := range s` visits.

What the string functions above this rely on: a decoding step takes at least one byte
(`decodeRuneInString_width_pos`), an ASCII byte is a rune of its own
(`decodeRuneInString_ascii`), and no decoded rune passes `maxRune` (`runes_le_maxRune`). -/
namespace HealthProbe.Go

/-- A Go `string`: bytes, not necessarily valid UTF-8. -/
abbrev GoString := List UInt8

/-- A string literal of the sources (all of them are ASCII). -/
def lit (s : String) : GoString := s.toUTF8.data.toList

/-- `utf8.RuneSelf`: a byte below it is a rune by itself. -/
def runeSelf : Nat := 0x80

/-- `utf8.RuneError`, U+FFFD. -/
def runeError : Nat := 0xFFFD

/-- `utf8.MaxRune` -/
def maxRune : Nat := 0x10FFFF

/-! ### Decoding at the front -/

/-- The row of `utf8`'s `first` table for a byte at or above `runeSelf`: the width of the
encoding it starts and the range `acceptRanges` allows for the second byte, or `none` for a
byte that starts no encoding. -/
def leading (b : Nat) : Option (Nat × Nat × Nat) :=
  if 0xC2 ≤ b ∧ b ≤ 0xDF then some (2, 0x80, 0xBF)
  else if b = 0xE0 then some (3, 0xA0, 0xBF)
  else if 0xE1 ≤ b ∧ b ≤ 0xEC then some (3, 0x80, 0xBF)
  else if b = 0xED then some (3, 0x80, 0x9F)
  else if 0xEE ≤ b ∧ b ≤ 0xEF then some (3, 0x80, 0xBF)
  else if b = 0xF0 then some (4, 0x90, 0xBF)
  else if 0xF1 ≤ b ∧ b ≤ 0xF3 then some (4, 0x80, 0xBF)
  else if b = 0xF4 then some (4, 0x80, 0x8F)
  else none

/-- `utf8.DecodeRuneInString`: the first rune of `s` and its width in bytes. The masks
`0x1F`, `0x0F`, `0x07` and `0x3F` of the source are the remainders below. -/
def decodeRuneInString (s : GoString) : Nat × Nat :=
  match s with
  | [] => (runeError, 0)
  | s0 :: _ =>
    if s0.toNat < runeSelf then (s0.toNat, 1) else
    match leading s0.toNat with
    | none => (runeError, 1)
    | some (sz, lo, hi) =>
      let s1 := (s.getD 1 0).toNat
      let s2 := (s.getD 2 0).toNat
      let s3 := (s.getD 3 0).toNat
      if s.length < sz then (runeError, 1)
      else if s1 < lo ∨ hi < s1 then (runeError, 1)
      else if sz ≤ 2 then (s0.toNat % 0x20 * 0x40 + s1 % 0x40, 2)
      else if s2 < 0x80 ∨ 0xBF < s2 then (runeError, 1)
      else if sz ≤ 3 then (s0.toNat % 0x10 * 0x1000 + s1 % 0x40 * 0x40 + s2 % 0x40, 3)
      else if s3 < 0x80 ∨ 0xBF < s3 then (runeError, 1)
      else (s0.toNat % 0x8 * 0x40000 + s1 % 0x40 * 0x1000 + s2 % 0x40 * 0x40 + s3 % 0x40, 4)

theorem decodeRuneInString_ascii (b : UInt8) (s : GoString) (h : b.toNat < runeSelf) :
    decodeRuneInString (b :: s) = (b.toNat, 1) := by
  simp [decodeRuneInString, h]

theorem decodeRuneInString_width_pos (b : UInt8) (s : GoString) :
    0 < (decodeRuneInString (b :: s)).2 := by
  simp only [decodeRuneInString, apply_ite Prod.snd]
  rcases leading b.toNat with _ | ⟨sz, lo, hi⟩ <;> simp only [apply_ite Prod.snd] <;> positivity

/-- The 4-byte rows of `first` start at `0xF0`, and the one at `0xF4` caps the second byte
at `0x8F`: together they keep a rune at or below `maxRune`. -/
theorem leading_four {b sz lo hi : Nat} (h : leading b = some (sz, lo, hi)) (h4 : 3 < sz) :
    0xF0 ≤ b ∧ b ≤ 0xF4 ∧ (b = 0xF4 → hi = 0x8F) ∧ 0x80 ≤ lo := by
  unfold leading at h
  -- the five rows of widths 2 and 3 cannot have matched
  iterate 5
    rw [if_neg] at h
    swap
    intro hc
    rw [if_pos hc] at h
    cases h
    omega
  split_ifs at h <;> cases h <;> omega

/-- An upper bound of both branches, each under its condition, bounds an `if`. -/
theorem ite_le_of {c : Prop} [Decidable c] {a b m : Nat} (ha : c → a ≤ m) (hb : ¬c → b ≤ m) :
    (if c then a else b) ≤ m := by
  by_cases h : c
  · rw [if_pos h]; exact ha h
  · rw [if_neg h]; exact hb h

theorem decodeRuneInString_le (s : GoString) : (decodeRuneInString s).1 ≤ maxRune := by
  rcases s with _ | ⟨s0, rest⟩
  · decide
  simp only [decodeRuneInString, apply_ite Prod.fst]
  refine ite_le_of (fun h => ?_) fun _ => ?_
  · simp only [runeSelf, maxRune] at h ⊢
    omega
  rcases hl : leading s0.toNat with _ | ⟨sz, lo, hi⟩
  · exact (by decide : runeError ≤ maxRune)
  simp only [apply_ite Prod.fst, maxRune]
  refine ite_le_of (fun _ => by decide) fun _ => ite_le_of (fun _ => by decide) fun hs1 =>
    ite_le_of (fun _ => by omega) fun h2 => ite_le_of (fun _ => by decide) fun _ =>
    ite_le_of (fun _ => by omega) fun h3 => ite_le_of (fun _ => by decide) fun _ => ?_
  have := leading_four hl (by omega)
  omega

/-! ### Decoding at the back -/

/-- `utf8.RuneStart`: the byte is not a continuation byte (`b & 0xC0 != 0x80`). -/
def runeStart (b : UInt8) : Bool := b.toNat / 0x40 != 2

/-- `utf8.DecodeLastRuneInString`: the last rune of `s` and its width. The scan goes back at
most three bytes from the last one, to the first that can start a rune; what it finds must
decode to exactly the end of `s`, or the result is `runeError` of width one. -/
def decodeLastRuneInString (s : GoString) : Nat × Nat :=
  match s.reverse with
  | [] => (runeError, 0)
  | last :: before =>
    if last.toNat < runeSelf then (last.toNat, 1) else
    match (before.take 3).findIdx? runeStart with
    | none => (runeError, 1)
    | some j =>
      let r := decodeRuneInString (s.drop (s.length - (j + 2)))
      if r.2 = j + 2 then r else (runeError, 1)

theorem decodeLastRuneInString_ascii {s before : GoString} {last : UInt8} (hs : s.reverse = last :: before)
    (h : last.toNat < runeSelf) : decodeLastRuneInString s = (last.toNat, 1) := by
  simp [decodeLastRuneInString, hs, h]

/-! ### Ranging over a string -/

theorem length_drop_decodeRuneInString (b : UInt8) (rest : GoString) :
    ((b :: rest).drop (decodeRuneInString (b :: rest)).2).length < (b :: rest).length := by
  have := decodeRuneInString_width_pos b rest
  simp only [List.length_drop, List.length_cons]
  omega

/-- The runes `for _, r := range s` visits. -/
def runes (s : GoString) : List Nat :=
  match s with
  | [] => []
  | b :: rest =>
    (decodeRuneInString (b :: rest)).1 :: runes ((b :: rest).drop (decodeRuneInString (b :: rest)).2)
termination_by s.length
decreasing_by exact length_drop_decodeRuneInString _ _

@[simp] theorem runes_nil : runes [] = [] := by
  rw [runes]

theorem runes_cons (b : UInt8) (rest : GoString) :
    runes (b :: rest) = (decodeRuneInString (b :: rest)).1 ::
      runes ((b :: rest).drop (decodeRuneInString (b :: rest)).2) := by
  rw [runes]

theorem runes_ascii (b : UInt8) (rest : GoString) (h : b.toNat < runeSelf) :
    runes (b :: rest) = b.toNat :: runes rest := by
  rw [runes_cons, decodeRuneInString_ascii b rest h]
  rfl

@[simp] theorem runes_eq_nil (s : GoString) : runes s = [] ↔ s = [] := by
  cases s with
  | nil => simp
  | cons b rest => simp [runes_cons]

theorem runes_le_maxRune (s : GoString) : ∀ r ∈ runes s, r ≤ maxRune := by
  induction s using runes.induct with
  | case1 => simp
  | case2 b rest ih =>
    rw [runes_cons]
    intro r hr
    rcases List.mem_cons.mp hr with rfl | hr
    · exact decodeRuneInString_le _
    · exact ih r hr

end HealthProbe.Go

import HealthProbe.Go.Utf8

/-! `strings.TrimSpace` and `strings.EqualFold`.

`equalFold` follows the source of `strings.EqualFold`: an ASCII fast path over bytes, then,
from the first byte at or above `runeSelf`, a loop over the runes of one string that decodes
the other one rune at a time. Two runes match when they are equal, when they are an ASCII
letter and its other case, or when walking `unicode.SimpleFold` upward from the smaller
reaches the larger. `unicode.SimpleFold` reads a table of the Go runtime, so it is a
parameter here, and `SimpleFoldSpec` is what its documentation promises.

**`equalFold_iff`**: under that promise, two strings are equal under folding exactly when
their runes, decoded as `range` decodes them, lie pairwise in the same orbit. This covers
every string, valid UTF-8 or not (an invalid byte decodes as `runeError` on either side), so
`equalFold` is an equivalence relation (`equalFold_equivalence`). -/
namespace HealthProbe.Go

/-! ### White space -/

/-- `unicode.IsSpace`: the Latin-1 spaces, then the rest of Unicode's `White_Space`. -/
def isSpace (r : Nat) : Bool :=
  if r ≤ 0xFF then
    r == 0x09 || r == 0x0A || r == 0x0B || r == 0x0C || r == 0x0D || r == 0x20 || r == 0x85 ||
      r == 0xA0
  else
    r == 0x1680 || (0x2000 ≤ r && r ≤ 0x200A) || r == 0x2028 || r == 0x2029 || r == 0x202F ||
      r == 0x205F || r == 0x3000

/-- `strings.TrimLeftFunc(s, unicode.IsSpace)`, a rune a turn for at most `fuel` turns. -/
def trimLeftSpace : Nat → GoString → GoString
  | 0, s => s
  | _, [] => []
  | fuel + 1, b :: rest =>
    if isSpace (decodeRuneInString (b :: rest)).1 then
      trimLeftSpace fuel ((b :: rest).drop (decodeRuneInString (b :: rest)).2)
    else b :: rest

/-- `strings.TrimRightFunc(s, unicode.IsSpace)`, a rune a turn from the back. -/
def trimRightSpace : Nat → GoString → GoString
  | 0, s => s
  | fuel + 1, s =>
    if s = [] then [] else
    if isSpace (decodeLastRuneInString s).1 then
      trimRightSpace fuel (s.take (s.length - (decodeLastRuneInString s).2))
    else s

/-- `strings.TrimSpace`. Its ASCII fast path computes `TrimFunc(s, unicode.IsSpace)` too, so
that is the model; a turn of either trim drops a byte or stops, so `s.length` turns do. -/
def trimSpace (s : GoString) : GoString :=
  trimRightSpace s.length (trimLeftSpace s.length s)

/-- `TrimSpace` keeps a string of ASCII bytes none of which is a space. -/
theorem trimSpace_eq_self {s : GoString} (h : ∀ b ∈ s, b.toNat < runeSelf ∧ isSpace b.toNat = false) :
    trimSpace s = s := by
  cases s with
  | nil => rfl
  | cons b rest =>
    obtain ⟨last, before, hl⟩ := List.exists_cons_of_ne_nil (List.reverse_ne_nil_iff.2 (List.cons_ne_nil b rest))
    have hb := h b (List.mem_cons_self _ _)
    have hlast := h last (List.mem_reverse.1 (hl ▸ List.mem_cons_self _ _))
    simp only [trimSpace, List.length_cons, trimLeftSpace, decodeRuneInString_ascii _ _ hb.1, hb.2,
      trimRightSpace, decodeLastRuneInString_ascii hl hlast.1, hlast.2, reduceCtorEq, if_false, Bool.false_eq_true]

/-! ### Folding one rune pair -/

/-- What the documentation of `unicode.SimpleFold` promises, `orbit r` naming the class of `r`
under Unicode simple case folding: `SimpleFold r` stays in that class, and is the least member
above `r` when there is one. Among ASCII characters, the classes are the letters with their
other case, and single characters. -/
structure SimpleFoldSpec (simpleFold : Nat → Nat) where
  orbit : Nat → Nat
  orbit_simpleFold : ∀ r, orbit (simpleFold r) = orbit r
  simpleFold_le : ∀ r x, orbit x = orbit r → r < x → r < simpleFold r ∧ simpleFold r ≤ x
  orbit_ascii : ∀ a b, a < b → b < runeSelf → (orbit a = orbit b ↔ 65 ≤ a ∧ a ≤ 90 ∧ b = a + 32)

/-- The ASCII test of `strings.EqualFold` for `sr < tr`: `'A' <= sr && sr <= 'Z' &&
tr == sr+'a'-'A'`. -/
def asciiCasePair (sr tr : Nat) : Bool := 65 ≤ sr && sr ≤ 90 && tr == sr + 32

/-- The walk of `strings.EqualFold` for `sr < tr`: from `r = SimpleFold(sr)`, step while
`r != sr && r < tr`, then compare with `tr`; at most `fuel` steps. -/
def foldWalk (simpleFold : Nat → Nat) (sr tr : Nat) : Nat → Nat → Bool
  | 0, r => r == tr
  | fuel + 1, r => if r != sr && r < tr then foldWalk simpleFold sr tr fuel (simpleFold r) else r == tr

/-- One turn of either loop of `strings.EqualFold`: the runes are the same, or, the smaller
as `sr`, an ASCII case pair or joined by the walk. An orbit holds code points only, so
`maxRune + 1` steps of the walk are always enough. -/
def runeEqualFold (simpleFold : Nat → Nat) (sr tr : Nat) : Bool :=
  if tr == sr then true else
  let lo := min sr tr
  let hi := max sr tr
  if hi < runeSelf then asciiCasePair lo hi
  else foldWalk simpleFold lo hi (maxRune + 1) (simpleFold lo)

section Spec
variable {simpleFold : Nat → Nat} (hs : SimpleFoldSpec simpleFold)

theorem foldWalk_orbit {sr tr : Nat} (fuel r : Nat) (h : foldWalk simpleFold sr tr fuel r = true)
    (hr : hs.orbit r = hs.orbit sr) : hs.orbit tr = hs.orbit sr := by
  induction fuel generalizing r with
  | zero => simp only [foldWalk, beq_iff_eq] at h; rwa [← h]
  | succ fuel ih =>
    simp only [foldWalk] at h
    split at h
    · exact ih _ h (by rw [hs.orbit_simpleFold, hr])
    · simp only [beq_iff_eq] at h; rwa [← h]

/-- Up the orbit of `sr`, the walk reaches `tr` within `tr - r` steps. -/
theorem foldWalk_reaches {sr tr : Nat} (htr : hs.orbit tr = hs.orbit sr) (fuel r : Nat)
    (hr : hs.orbit r = hs.orbit sr) (hlt : sr < r) (hle : r ≤ tr) (hfuel : tr - r ≤ fuel) :
    foldWalk simpleFold sr tr fuel r = true := by
  induction fuel generalizing r with
  | zero => simp only [foldWalk, beq_iff_eq]; omega
  | succ fuel ih =>
    simp only [foldWalk]
    split
    · rename_i hc
      simp only [Bool.and_eq_true, bne_iff_ne, ne_eq, decide_eq_true_eq] at hc
      obtain ⟨h1, h2⟩ := hs.simpleFold_le r tr (htr.trans hr.symm) hc.2
      exact ih _ (by rw [hs.orbit_simpleFold, hr]) (by omega) h2 (by omega)
    · rename_i hc
      simp only [Bool.and_eq_true, bne_iff_ne, ne_eq, decide_eq_true_eq, not_and, not_lt] at hc
      simp only [beq_iff_eq]
      omega

theorem orbit_min_max (sr tr : Nat) :
    hs.orbit sr = hs.orbit tr ↔ hs.orbit (min sr tr) = hs.orbit (max sr tr) := by
  rcases Nat.le_total sr tr with h | h
  · rw [Nat.min_eq_left h, Nat.max_eq_right h]
  · rw [Nat.min_eq_right h, Nat.max_eq_left h, eq_comm]

theorem runeEqualFold_iff {sr tr : Nat} (hsr : sr ≤ maxRune) (htr : tr ≤ maxRune) :
    runeEqualFold simpleFold sr tr = true ↔ hs.orbit sr = hs.orbit tr := by
  unfold runeEqualFold
  by_cases heq : tr = sr
  · subst heq; simp
  have hlt : min sr tr < max sr tr := by omega
  rw [orbit_min_max hs]
  simp only [beq_iff_eq, heq, if_false]
  split
  · rw [hs.orbit_ascii _ _ hlt ‹_›]
    simp [asciiCasePair, and_assoc]
  · constructor
    · intro h
      exact (foldWalk_orbit hs _ _ h (hs.orbit_simpleFold _)).symm
    · intro h
      obtain ⟨h1, h2⟩ := hs.simpleFold_le _ _ h.symm hlt
      exact foldWalk_reaches hs h.symm _ _ (hs.orbit_simpleFold _) h1 h2 (by omega)

end Spec

/-! ### The two loops -/

/-- "Extract first rune from second string" in `strings.EqualFold`: a byte below `runeSelf`
is the rune, any other goes through `utf8.DecodeRuneInString`; the rune, and what is left. -/
def firstRune (t0 : UInt8) (t : GoString) : Nat × GoString :=
  if t0.toNat < runeSelf then (t0.toNat, t)
  else ((decodeRuneInString (t0 :: t)).1, (t0 :: t).drop (decodeRuneInString (t0 :: t)).2)

theorem runes_firstRune (t0 : UInt8) (t : GoString) :
    runes (t0 :: t) = (firstRune t0 t).1 :: runes (firstRune t0 t).2 := by
  unfold firstRune
  split
  · exact runes_ascii t0 t ‹_›
  · exact runes_cons t0 t

theorem firstRune_le (t0 : UInt8) (t : GoString) : (firstRune t0 t).1 ≤ maxRune :=
  runes_le_maxRune (t0 :: t) _ (by rw [runes_firstRune]; exact List.mem_cons_self _ _)

/-- The loop of `strings.EqualFold` after `hasUnicode:`, over the runes of `s` against `t`. -/
def equalFoldRunes (simpleFold : Nat → Nat) : List Nat → GoString → Bool
  | [], t => t.isEmpty
  | _ :: _, [] => false
  | sr :: s, t0 :: t =>
    runeEqualFold simpleFold sr (firstRune t0 t).1 && equalFoldRunes simpleFold s (firstRune t0 t).2

/-- `strings.EqualFold`: the ASCII fast path (`sr|tr >= utf8.RuneSelf` leaves it for the rune
loop, with both strings from that byte on), and the length test when a string runs out. -/
def equalFold (simpleFold : Nat → Nat) : GoString → GoString → Bool
  | sr :: s, tr :: t =>
    if runeSelf ≤ sr.toNat || runeSelf ≤ tr.toNat then
      equalFoldRunes simpleFold (runes (sr :: s)) (tr :: t)
    else runeEqualFold simpleFold sr.toNat tr.toNat && equalFold simpleFold s t
  | s, t => s.length == t.length

section Spec
variable {simpleFold : Nat → Nat} (hs : SimpleFoldSpec simpleFold)

theorem equalFoldRunes_iff (rs : List Nat) (hrs : ∀ r ∈ rs, r ≤ maxRune) (t : GoString) :
    equalFoldRunes simpleFold rs t = true ↔ rs.map hs.orbit = (runes t).map hs.orbit := by
  induction rs generalizing t with
  | nil => cases t <;> simp [equalFoldRunes, runes_cons]
  | cons sr rs ih =>
    cases t with
    | nil => simp [equalFoldRunes]
    | cons t0 t =>
      have hsr := hrs sr (List.mem_cons_self _ _)
      rw [equalFoldRunes, runes_firstRune, Bool.and_eq_true,
        runeEqualFold_iff hs hsr (firstRune_le t0 t),
        ih (fun r hr => hrs r (List.mem_cons_of_mem _ hr))]
      simp

/-- **`strings.EqualFold` compares orbits rune by rune.** -/
theorem equalFold_iff (s t : GoString) :
    equalFold simpleFold s t = true ↔ (runes s).map hs.orbit = (runes t).map hs.orbit := by
  induction s generalizing t with
  | nil => cases t <;> simp [equalFold, runes_cons]
  | cons sr s ih =>
    cases t with
    | nil => simp [equalFold, runes_cons]
    | cons tr t =>
      rw [equalFold]
      split
      · exact equalFoldRunes_iff hs _ (runes_le_maxRune _) _
      · rename_i hascii
        simp only [Bool.or_eq_true, decide_eq_true_eq, not_or, not_le] at hascii
        rw [runes_ascii sr s hascii.1, runes_ascii tr t hascii.2, Bool.and_eq_true,
          runeEqualFold_iff hs (by simp [runeSelf, maxRune] at hascii ⊢; omega)
            (by simp [runeSelf, maxRune] at hascii ⊢; omega), ih]
        simp

end Spec

theorem equalFold_equivalence {simpleFold : Nat → Nat} (hs : SimpleFoldSpec simpleFold) :
    Equivalence (fun s t => equalFold simpleFold s t = true) := by
  simp only [equalFold_iff hs]
  exact ⟨fun _ => rfl, Eq.symm, Eq.trans⟩

/-! ### A table that keeps the promise -/

/-- Simple folding of the ASCII letters only: a table `SimpleFoldSpec` admits, so the promise
can be met. -/
def asciiSimpleFold (r : Nat) : Nat :=
  if 65 ≤ r ∧ r ≤ 90 then r + 32 else if 97 ≤ r ∧ r ≤ 122 then r - 32 else r

def asciiSimpleFoldSpec : SimpleFoldSpec asciiSimpleFold where
  orbit r := if 97 ≤ r ∧ r ≤ 122 then r - 32 else r
  orbit_simpleFold r := by simp only [asciiSimpleFold]; split_ifs <;> omega
  simpleFold_le r x := by simp only [asciiSimpleFold]; split_ifs <;> omega
  orbit_ascii a b := by simp only [runeSelf]; split_ifs <;> omega

end HealthProbe.Go

import HealthProbe.Go.Utf8

/-! Go's `int32`, errors, and the decimal conversions of `strconv`.

An `int32` is a `BitVec 32` read signed (`toInt`): its product wraps as Go's does, which the
total-probe check depends on. Errors keep the structure the code gives them: a
`*strconv.NumError`, or what `fmt.Errorf` formats, around the error it wraps with `%w`.

`parseInt` is `strconv.ParseInt(s, 10, bitSize)` and `atoi` is `strconv.Atoi`. What the
probe-port code needs from them: a successful `parseInt s 32` is an `int32`, so converting it
loses nothing (`parseInt_toInt32`), and a string `atoi` reads as a number in `[0, 65535]`
reads the same through `parseInt s 32` (`parseInt_of_atoi`).

`itoa` is `%d` of `fmt`. What it writes for a value of a size, `ParseInt` of that size reads
back (`parseInt_itoa`), so two `int32`s print alike only when equal (`itoa_toInt_inj`), and
what it writes holds no byte but digits and `-` (`not_mem_itoa`). -/
namespace HealthProbe.Go

/-- Go's `int32`, two's complement. -/
abbrev Int32 := BitVec 32

/-- `int32(v)` of a value already in range is `v`. -/
theorem Int32.toInt_ofInt {v : Int} (h1 : -2 ^ 31 ≤ v) (h2 : v < 2 ^ 31) :
    (BitVec.ofInt 32 v).toInt = v := by
  rw [BitVec.toInt_ofInt, Int.bmod_def]
  split <;> omega

theorem Int32.toInt_bounds (v : Int32) : -2 ^ 31 ≤ v.toInt ∧ v.toInt < 2 ^ 31 := by
  have := v.isLt
  unfold BitVec.toInt
  split <;> omega

/-- `strconv.ErrSyntax` and `strconv.ErrRange`. -/
inductive NumErr where
  | errSyntax
  | errRange
  deriving DecidableEq, Repr

/-- A Go `error` as the code builds it. -/
inductive GoError where
  /-- `*strconv.NumError`: the function, the input and the cause. -/
  | numError (func num : GoString) (err : NumErr)
  /-- `fmt.Errorf` without `%w`: the text it formats. -/
  | errorf (text : GoString)
  /-- `fmt.Errorf` with one `%w`: the text before it, the wrapped error and the text after. -/
  | wrapf (before : GoString) (err : GoError) (after : GoString)
  deriving DecidableEq, Repr

instance decEqExcept {ε α : Type} [DecidableEq ε] [DecidableEq α] : DecidableEq (Except ε α)
  | .error a, .error b => decidable_of_iff (a = b) (by simp)
  | .ok a, .ok b => decidable_of_iff (a = b) (by simp)
  | .error _, .ok _ => isFalse (by simp)
  | .ok _, .error _ => isFalse (by simp)

@[simp] theorem mapError_eq_ok {ε ε' α : Type} {f : ε → ε'} {x : Except ε α} {a : α} :
    x.mapError f = .ok a ↔ x = .ok a := by
  cases x <;> simp [Except.mapError]

/-! ### Parsing -/

/-- The digit loop of `strconv.ParseUint` in base 10, from the value `n` read so far: the
first byte that is not a digit is a syntax error, the first digit that takes the value past
`maxVal` a range error. (The source tests overflow of `uint64` twice; for a `maxVal` below
`2 ^ 64` the two tests say exactly that.) -/
def parseDigits (maxVal : Nat) : Nat → GoString → Except NumErr Nat
  | n, [] => .ok n
  | n, c :: s =>
    if c.toNat < 48 ∨ 57 < c.toNat then .error .errSyntax
    else if maxVal < n * 10 + (c.toNat - 48) then .error .errRange
    else parseDigits maxVal (n * 10 + (c.toNat - 48)) s

/-- `strconv.ParseUint(s, 10, bitSize)`. -/
def parseUint (s : GoString) (bitSize : Nat) : Except NumErr Nat :=
  if s = [] then .error .errSyntax else parseDigits (2 ^ bitSize - 1) 0 s

/-- `strconv.ParseInt(s, 10, bitSize)`: a sign (`+` is 43, `-` is 45), then `ParseUint`,
which on a range error hands on its largest value; then the signed range. -/
def parseInt (s : GoString) (bitSize : Nat) : Except GoError Int :=
  match s with
  | [] => .error (.numError (lit "ParseInt") s .errSyntax)
  | c :: rest =>
    let neg := c.toNat = 45
    let digits := if c.toNat = 43 ∨ c.toNat = 45 then rest else c :: rest
    let cutoff := 2 ^ (bitSize - 1)
    let un : Except NumErr Nat :=
      match parseUint digits bitSize with
      | .error .errRange => .ok (2 ^ bitSize - 1)
      | r => r
    match un with
    | .error e => .error (.numError (lit "ParseInt") s e)
    | .ok un =>
      if !neg ∧ cutoff ≤ un then .error (.numError (lit "ParseInt") s .errRange)
      else if neg ∧ cutoff < un then .error (.numError (lit "ParseInt") s .errRange)
      else .ok (if neg then -(un : Int) else un)

/-- `strconv.Atoi` on a 64-bit platform. Its fast path, for fewer than 19 bytes, accepts the
strings `ParseInt(s, 10, 64)` accepts, with the same values, so the model is the slow path;
its errors are named after `Atoi`. -/
def atoi (s : GoString) : Except GoError Int :=
  (parseInt s 64).mapError fun
    | .numError _ num err => .numError (lit "Atoi") num err
    | e => e

/-- `%d` of `fmt`: decimal, `-` before a negative number. -/
def itoa (v : Int) : GoString := lit (toString v)

theorem parseDigits_ge {m n v : Nat} {s : GoString} (h : parseDigits m n s = .ok v) : n ≤ v := by
  induction s generalizing n with
  | nil => cases h; exact Nat.le_refl _
  | cons c s ih =>
    simp only [parseDigits] at h
    split_ifs at h
    exact Nat.le_trans (by omega) (ih h)

/-- A parse that ends at or below `m'` never passed `m'` on the way. -/
theorem parseDigits_mono {m m' n v : Nat} {s : GoString} (h : parseDigits m n s = .ok v)
    (hv : v ≤ m') : parseDigits m' n s = .ok v := by
  induction s generalizing n with
  | nil => exact h
  | cons c s ih =>
    simp only [parseDigits] at h ⊢
    split_ifs at h with h1 h2
    have := parseDigits_ge h
    rw [if_neg h1, if_neg (by omega)]
    exact ih h

/-- What a successful `parseInt` saw, for a size of two bits or more: a sign, then digits
that read, within `bitSize` bits, as a value inside the signed range. -/
theorem parseInt_ok {s : GoString} {w : Nat} {v : Int} (h : parseInt s (w + 2) = .ok v) :
    ∃ c rest un, s = c :: rest ∧
      parseUint (if c.toNat = 43 ∨ c.toNat = 45 then rest else c :: rest) (w + 2) = .ok un ∧
      (c.toNat = 45 → un ≤ 2 ^ (w + 1) ∧ v = -(un : Int)) ∧
      (c.toNat ≠ 45 → un < 2 ^ (w + 1) ∧ v = un) := by
  match s, h with
  | c :: rest, h =>
    simp only [parseInt, show w + 2 - 1 = w + 1 from rfl] at h
    generalize hu : parseUint (if c.toNat = 43 ∨ c.toNat = 45 then rest else c :: rest) (w + 2) = u at h
    rcases u with (_ | _) | un
    · cases h
    · -- a range error hands on `2 ^ bitSize - 1`, which the checks refuse
      exfalso
      have hpow : 2 ^ (w + 2) = 4 * 2 ^ w := by rw [Nat.pow_succ, Nat.pow_succ]; omega
      have hpos := Nat.two_pow_pos w
      by_cases hc : c.toNat = 45 <;>
        simp only [hc, decide_True, decide_False, Bool.not_true, Bool.not_false, true_and, false_and,
          Bool.false_eq_true, if_false] at h <;> split_ifs at h <;> (try cases h) <;> omega
    · refine ⟨c, rest, un, rfl, hu, fun hc => ?_, fun hc => ?_⟩ <;>
        simp only [hc, decide_True, decide_False, Bool.not_true, Bool.not_false, true_and, false_and,
          Bool.false_eq_true, if_false, if_true] at h <;> split_ifs at h <;> cases h <;> omega

theorem parseInt_bounds {s : GoString} {w : Nat} {v : Int} (h : parseInt s (w + 2) = .ok v) :
    -2 ^ (w + 1) ≤ v ∧ v < 2 ^ (w + 1) := by
  obtain ⟨c, rest, un, -, -, hneg, hpos⟩ := parseInt_ok h
  have hcast : ((2 ^ (w + 1) : Nat) : Int) = 2 ^ (w + 1) := by push_cast; rfl
  have hp : (0 : Int) < 2 ^ (w + 1) := hcast ▸ Int.ofNat_lt.mpr (Nat.two_pow_pos (w + 1))
  by_cases hc : c.toNat = 45
  · obtain ⟨h1, rfl⟩ := hneg hc
    have : (un : Int) ≤ 2 ^ (w + 1) := hcast ▸ Int.ofNat_le.mpr h1
    constructor <;> omega
  · obtain ⟨h1, rfl⟩ := hpos hc
    have : (un : Int) < 2 ^ (w + 1) := hcast ▸ Int.ofNat_lt.mpr h1
    constructor <;> omega

/-- **`ParseInt(s, 10, 32)` gives an `int32`**: `int32(port)` of its value loses nothing. -/
theorem parseInt_toInt32 {s : GoString} {v : Int} (h : parseInt s 32 = .ok v) :
    (BitVec.ofInt 32 v).toInt = v := by
  have := parseInt_bounds (w := 30) h
  exact Int32.toInt_ofInt (by simpa using this.1) (by simpa using this.2)

/-- **A port number `Atoi` accepts, `ParseInt(s, 10, 32)` reads the same.** -/
theorem parseInt_of_atoi {s : GoString} {v : Int} (h : atoi s = .ok v) (h0 : 0 ≤ v)
    (h1 : v ≤ 65535) : parseInt s 32 = .ok v := by
  obtain ⟨c, rest, un, rfl, hu, hneg, hpos⟩ := parseInt_ok (w := 62) (mapError_eq_ok.1 h)
  have hu32 : parseUint (if c.toNat = 43 ∨ c.toNat = 45 then rest else c :: rest) 32 = .ok un := by
    have hun : un ≤ 65535 := by
      by_cases hc : c.toNat = 45
      · obtain ⟨-, rfl⟩ := hneg hc; omega
      · obtain ⟨-, rfl⟩ := hpos hc; omega
    unfold parseUint at hu ⊢
    split_ifs at hu ⊢ <;> exact parseDigits_mono hu (by omega)
  simp only [parseInt, hu32]
  by_cases hc : c.toNat = 45
  · obtain ⟨-, rfl⟩ := hneg hc
    rw [if_neg (by simp [hc]), if_neg (by omega), if_pos hc]
  · obtain ⟨-, rfl⟩ := hpos hc
    rw [if_neg (by omega), if_neg (by simp [hc]), if_neg hc]

/-! ### Formatting and reading back -/

/-- A byte that is a decimal digit. -/
def IsDigit (c : UInt8) : Prop := 48 ≤ c.toNat ∧ c.toNat ≤ 57

/-- The value of the decimal digits `bs` after the value `acc` read before them. -/
def digitsValue (acc : Nat) (bs : GoString) : Nat := bs.foldl (fun a c => a * 10 + (c.toNat - 48)) acc

theorem le_digitsValue (acc : Nat) (bs : GoString) : acc ≤ digitsValue acc bs := by
  induction bs generalizing acc with
  | nil => exact Nat.le_refl _
  | cons c bs ih => exact Nat.le_trans (by omega) (ih (acc * 10 + (c.toNat - 48)))

/-- Digits whose value stays within `m` parse to that value. -/
theorem parseDigits_digits (m acc : Nat) (bs : GoString) (hd : ∀ c ∈ bs, IsDigit c)
    (hm : digitsValue acc bs ≤ m) : parseDigits m acc bs = .ok (digitsValue acc bs) := by
  induction bs generalizing acc with
  | nil => rfl
  | cons c bs ih =>
    have hc := hd c (List.mem_cons_self _ _)
    have hle := le_digitsValue (acc * 10 + (c.toNat - 48)) bs
    simp only [digitsValue, List.foldl] at hm hle ⊢
    rw [parseDigits, if_neg (by unfold IsDigit at hc; omega), if_neg (by omega)]
    exact ih _ (fun x hx => hd x (List.mem_cons_of_mem _ hx)) hm

theorem parseUint_digits {bs : GoString} {w : Nat} (hne : bs ≠ []) (hd : ∀ c ∈ bs, IsDigit c)
    (hm : digitsValue 0 bs ≤ 2 ^ w - 1) : parseUint bs w = .ok (digitsValue 0 bs) := by
  rw [parseUint, if_neg hne]
  exact parseDigits_digits _ 0 bs hd hm

theorem utf8EncodeChar_digitChar {d : Nat} (h : d < 10) :
    ∃ c, String.utf8EncodeChar (Nat.digitChar d) = [c] ∧ IsDigit c ∧ c.toNat - 48 = d := by
  interval_cases d <;> exact ⟨_, rfl, ⟨by decide, by decide⟩, rfl⟩

/-- The digit loop of `Nat.toDigits`, which `%d` prints with, puts the digits of `n` before
what it has written. -/
theorem toDigitsCore_bytes (fuel n : Nat) (cs : List Char) (h : n < fuel) :
    ∃ bs, (Nat.toDigitsCore 10 fuel n cs).flatMap String.utf8EncodeChar =
        bs ++ cs.flatMap String.utf8EncodeChar ∧
      bs ≠ [] ∧ (∀ c ∈ bs, IsDigit c) ∧ digitsValue 0 bs = n := by
  induction fuel generalizing n cs with
  | zero => omega
  | succ fuel ih =>
    obtain ⟨c, hc, hd, hv⟩ := utf8EncodeChar_digitChar (Nat.mod_lt n (by decide : 10 > 0))
    simp only [Nat.toDigitsCore]
    split
    · refine ⟨[c], by simp [hc], by simp, by simpa using hd, ?_⟩
      simp only [digitsValue, List.foldl]
      omega
    · obtain ⟨bs, hbs, hne, hdig, hval⟩ := ih (n / 10) (Nat.digitChar (n % 10) :: cs) (by omega)
      refine ⟨bs ++ [c], by simp [hbs, hc], by simp, fun x hx => ?_, ?_⟩
      · rcases List.mem_append.1 hx with hx | hx
        · exact hdig x hx
        · rw [List.mem_singleton.1 hx]; exact hd
      · simp only [digitsValue, List.foldl_append, List.foldl] at hval ⊢
        omega

/-- `%d` of a number that is not negative: digits, and their value is the number. -/
theorem itoa_ofNat (n : Nat) :
    ∃ bs, itoa n = bs ∧ bs ≠ [] ∧ (∀ c ∈ bs, IsDigit c) ∧ digitsValue 0 bs = n := by
  obtain ⟨bs, h, hne, hd, hv⟩ := toDigitsCore_bytes (n + 1) n [] (by omega)
  exact ⟨bs, by simpa [itoa, lit, String.toUTF8, Nat.toDigits] using h, hne, hd, hv⟩

/-- `%d` of a negative number: `-`, then the digits of its magnitude. -/
theorem itoa_negSucc (n : Nat) : itoa (Int.negSucc n) = 45 :: itoa ((n + 1 : Nat) : Int) := rfl

/-- **What `%d` writes, `ParseInt(s, 10, bitSize)` reads back**, for every value of the size. -/
theorem parseInt_itoa {w : Nat} {v : Int} (h1 : -2 ^ (w + 1) ≤ v) (h2 : v < 2 ^ (w + 1)) :
    parseInt (itoa v) (w + 2) = .ok v := by
  have hpow : 2 ^ (w + 2) = 2 * 2 ^ (w + 1) := by rw [Nat.pow_succ]; omega
  have hcut : w + 2 - 1 = w + 1 := rfl
  cases v with
  | ofNat n =>
    simp only [Int.ofNat_eq_coe] at h2 ⊢
    have hn : n < 2 ^ (w + 1) := by exact_mod_cast h2
    obtain ⟨bs, h, hne, hd, hv⟩ := itoa_ofNat n
    obtain ⟨c, bs', rfl⟩ := List.exists_cons_of_ne_nil hne
    have hc := hd c (List.mem_cons_self _ _)
    unfold IsDigit at hc
    have h43 : c.toNat ≠ 43 := by omega
    have h45 : c.toNat ≠ 45 := by omega
    have hm : digitsValue 0 (c :: bs') ≤ 2 ^ (w + 2) - 1 := by rw [hv, hpow]; omega
    rw [h, parseInt]
    simp only [h43, h45, or_self, if_false, hcut, parseUint_digits hne hd hm, hv, decide_False,
      Bool.not_false, true_and, false_and]
    rw [if_neg (by omega)]
  | negSucc n =>
    have hn : n + 1 ≤ 2 ^ (w + 1) := by
      rw [Int.negSucc_eq] at h1
      exact_mod_cast (by omega : (n : Int) + 1 ≤ 2 ^ (w + 1))
    obtain ⟨bs, h, hne, hd, hv⟩ := itoa_ofNat (n + 1)
    have hm : digitsValue 0 bs ≤ 2 ^ (w + 2) - 1 := by rw [hv, hpow]; omega
    rw [itoa_negSucc, h, parseInt]
    simp only [show (45 : UInt8).toNat = 45 from rfl, or_true, if_true, hcut, true_and,
      parseUint_digits hne hd hm, hv, decide_True, Bool.not_true, Bool.false_eq_true, false_and, if_false]
    rw [if_neg (Nat.not_lt.2 hn), Int.negSucc_eq]
    push_cast
    rfl

/-- `%d` of an `int32` names it: two values print alike only if they are equal. -/
theorem itoa_toInt_inj {p q : Int32} (h : itoa p.toInt = itoa q.toInt) : p = q := by
  have hp := parseInt_itoa (w := 30) (Int32.toInt_bounds p).1 (Int32.toInt_bounds p).2
  rw [h, parseInt_itoa (Int32.toInt_bounds q).1 (Int32.toInt_bounds q).2, Except.ok.injEq] at hp
  exact BitVec.toInt_inj.1 hp.symm

/-- `Atoi` reads `%d` of an `int32` back. -/
theorem atoi_itoa (v : Int32) : atoi (itoa v.toInt) = .ok v.toInt := by
  have hb := Int32.toInt_bounds v
  rw [atoi, parseInt_itoa (w := 62) (by omega) (by omega)]
  rfl

/-- `%d` writes digits and perhaps a `-`, so never the byte `c` of anything else. -/
theorem not_mem_itoa {c : UInt8} (hc : c.toNat < 45 ∨ (45 < c.toNat ∧ c.toNat < 48) ∨ 57 < c.toNat)
    (v : Int) : c ∉ itoa v := by
  have hdig : ∀ n : Nat, c ∉ itoa n := fun n hmem => by
    obtain ⟨bs, h, -, hd, -⟩ := itoa_ofNat n
    have := hd c (h ▸ hmem)
    unfold IsDigit at this
    omega
  cases v with
  | ofNat n => exact hdig n
  | negSucc n =>
    rw [itoa_negSucc, List.mem_cons, not_or]
    exact ⟨fun h => by rw [h] at hc; revert hc; decide, hdig _⟩

end HealthProbe.Go

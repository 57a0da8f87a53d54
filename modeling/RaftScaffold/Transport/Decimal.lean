import Mathlib.Data.List.Basic

set_option autoImplicit false

/-! # Decimal identifiers in a path

Printing and parsing 64-bit identifiers: `parseU64` follows Rust's `u64::from_str` (an optional `+`,
at least one decimal digit, no value above `2^64 - 1`) and `trimText` its `str::trim`. The result the
clients of this file need is that a printed identifier parses back to itself (`parseU64_toString`). -/

namespace Transport

/-- Unicode `White_Space`, the characters `str::trim` removes. -/
def isWhitespace (c : Char) : Bool :=
  (9 ≤ c.toNat && c.toNat ≤ 13) || c.toNat = 0x20 || c.toNat = 0x85 || c.toNat = 0xA0 ||
    c.toNat = 0x1680 || (0x2000 ≤ c.toNat && c.toNat ≤ 0x200A) || c.toNat = 0x2028 ||
    c.toNat = 0x2029 || c.toNat = 0x202F || c.toNat = 0x205F || c.toNat = 0x3000

/-- Remove white space at both ends. -/
def trimText (cs : List Char) : List Char :=
  ((cs.dropWhile isWhitespace).reverse.dropWhile isWhitespace).reverse

/-- Rust's `ParseIntError` for an unsigned type. -/
inductive ParseIntError where
  | empty
  | invalidDigit
  | posOverflow
  deriving DecidableEq, Repr

/-- The digits after the optional sign, accumulated from the left with overflow checks. -/
def parseDigits : List Char → Nat → Except ParseIntError UInt64
  | [], acc => .ok (UInt64.ofNat acc)
  | c :: cs, acc =>
      if c.isDigit then
        let acc' := 10 * acc + (c.toNat - '0'.toNat)
        if acc' < UInt64.size then parseDigits cs acc' else .error .posOverflow
      else .error .invalidDigit

/-- `str::parse::<u64>`. -/
def parseU64 : List Char → Except ParseIntError UInt64
  | [] => .error .empty
  | ['+'] => .error .invalidDigit
  | '+' :: cs => parseDigits cs 0
  | cs => parseDigits cs 0

/-! ## A printed identifier parses back -/

theorem isWhitespace_of_isDigit {c : Char} (h : c.isDigit = true) : isWhitespace c = false := by
  have hc : 48 ≤ c.toNat ∧ c.toNat ≤ 57 := by
    simpa [Char.isDigit, UInt32.le_iff_toNat_le] using h
  simp only [isWhitespace, Bool.or_eq_false_iff, Bool.and_eq_false_iff, decide_eq_false_iff_not]
  omega

theorem trimText_of_digits (cs : List Char) (h : ∀ c ∈ cs, c.isDigit = true) :
    trimText cs = cs := by
  have hdrop : ∀ l : List Char, (∀ c ∈ l, c.isDigit = true) → l.dropWhile isWhitespace = l := by
    intro l hl
    cases l with
    | nil => rfl
    | cons c l =>
        have hc := isWhitespace_of_isDigit (hl c (by simp))
        simp [hc]
  unfold trimText
  rw [hdrop cs h, hdrop cs.reverse (fun c hc => h c (List.mem_reverse.1 hc)), List.reverse_reverse]

theorem le_ofDigitChars (cs : List Char) (acc : Nat) : acc ≤ Nat.ofDigitChars 10 cs acc := by
  induction cs generalizing acc with
  | nil => simp [Nat.ofDigitChars_nil]
  | cons c cs ih =>
      rw [Nat.ofDigitChars_cons]
      have := ih (10 * acc + (c.toNat - '0'.toNat))
      omega

/-- On digits whose value fits, `parseDigits` computes that value: no intermediate value overflows,
    since the value only grows from left to right. -/
theorem parseDigits_eq (cs : List Char) (acc : Nat) (hdigits : ∀ c ∈ cs, c.isDigit = true)
    (hfits : Nat.ofDigitChars 10 cs acc < UInt64.size) :
    parseDigits cs acc = .ok (UInt64.ofNat (Nat.ofDigitChars 10 cs acc)) := by
  induction cs generalizing acc with
  | nil => simp [parseDigits, Nat.ofDigitChars_nil]
  | cons c cs ih =>
      rw [Nat.ofDigitChars_cons] at hfits ⊢
      have hstep := le_ofDigitChars cs (10 * acc + (c.toNat - '0'.toNat))
      have hlt : 10 * acc + (c.toNat - '0'.toNat) < UInt64.size := by omega
      rw [parseDigits, if_pos (hdigits c (by simp))]
      simp only [if_pos hlt]
      exact ih _ (fun d hd => hdigits d (by simp [hd])) hfits

/-- A parsed digit string starts with no sign, so `parseU64` reads all of it. -/
theorem parseU64_of_digits (cs : List Char) (hne : cs ≠ []) (hdigits : ∀ c ∈ cs, c.isDigit = true) :
    parseU64 cs = parseDigits cs 0 := by
  cases cs with
  | nil => exact absurd rfl hne
  | cons c cs =>
      have hc : c ≠ '+' := by
        rintro rfl
        exact absurd (hdigits '+' (by simp)) (by decide)
      unfold parseU64
      split <;> simp_all

/-! ## What parses -/

/-- `parseDigits` accepts digits whose value fits, and nothing else. -/
theorem parseDigits_converts_iff (cs : List Char) {acc : Nat} (hacc : acc < UInt64.size) :
    (∃ n, parseDigits cs acc = .ok n) ↔
      (∀ c ∈ cs, c.isDigit = true) ∧ Nat.ofDigitChars 10 cs acc < UInt64.size := by
  constructor
  · intro h
    induction cs generalizing acc with
    | nil => exact ⟨by simp, by rwa [Nat.ofDigitChars_nil]⟩
    | cons c cs ih =>
        obtain ⟨n, hn⟩ := h
        rw [parseDigits] at hn
        split at hn
        · next hdigit =>
            simp only at hn
            split at hn
            · next hlt =>
                obtain ⟨hdigits, hfits⟩ := ih hlt ⟨n, hn⟩
                rw [List.forall_mem_cons, Nat.ofDigitChars_cons]
                exact ⟨⟨hdigit, hdigits⟩, hfits⟩
            · cases hn
        · cases hn
  · rintro ⟨hdigits, hfits⟩
    exact ⟨_, parseDigits_eq cs acc hdigits hfits⟩

/-- The decimal form of a 64-bit number: an optional `+` and at least one digit, with a value that fits. -/
def IsU64 (cs : List Char) : Prop :=
  ∃ sign digits, cs = sign ++ digits ∧ (sign = [] ∨ sign = ['+']) ∧ digits ≠ [] ∧
    (∀ c ∈ digits, c.isDigit = true) ∧ Nat.ofDigitChars 10 digits 0 < UInt64.size

theorem parseU64_converts_iff (cs : List Char) : (∃ n, parseU64 cs = .ok n) ↔ IsU64 cs := by
  have hzero : 0 < UInt64.size := by decide
  constructor
  · rintro ⟨n, hn⟩
    unfold parseU64 at hn
    split at hn
    · cases hn
    · cases hn
    · next digits hsign =>
        obtain ⟨hdigits, hfits⟩ := (parseDigits_converts_iff digits hzero).1 ⟨n, hn⟩
        exact ⟨['+'], digits, rfl, .inr rfl, fun hnil => hsign hnil, hdigits, hfits⟩
    · next hnil _ _ =>
        obtain ⟨hdigits, hfits⟩ := (parseDigits_converts_iff cs hzero).1 ⟨n, hn⟩
        exact ⟨[], cs, rfl, .inl rfl, fun heq => hnil heq, hdigits, hfits⟩
  · rintro ⟨sign, digits, rfl, rfl | rfl, hne, hdigits, hfits⟩
    · rw [List.nil_append, parseU64_of_digits digits hne hdigits]
      exact (parseDigits_converts_iff digits hzero).2 ⟨hdigits, hfits⟩
    · obtain ⟨c, cs, rfl⟩ := List.exists_cons_of_ne_nil hne
      exact (parseDigits_converts_iff (c :: cs) hzero).2 ⟨hdigits, hfits⟩

/-- **A printed identifier parses back to itself**, also through `trim`. -/
theorem parseU64_toString (n : UInt64) : parseU64 (trimText (toString n).toList) = .ok n := by
  have htext : (toString n).toList = Nat.toDigits 10 n.toNat := Nat.toList_repr
  have hdigits : ∀ c ∈ Nat.toDigits 10 n.toNat, c.isDigit = true :=
    fun c hc => Nat.isDigit_of_mem_toDigits (by decide) (by decide) hc
  have hvalue : Nat.ofDigitChars 10 (Nat.toDigits 10 n.toNat) 0 = n.toNat :=
    Nat.ofDigitChars_ten_toDigits
  rw [htext, trimText_of_digits _ hdigits, parseU64_of_digits _ Nat.toDigits_ne_nil hdigits,
    parseDigits_eq _ 0 hdigits (by rw [hvalue]; exact n.toNat_lt), hvalue, UInt64.ofNat_toNat]

end Transport

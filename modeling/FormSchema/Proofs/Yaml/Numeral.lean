import FormSchema.Yaml.Value.Scalar
import Mathlib.Data.List.TakeWhile
import Mathlib.Tactic.IntervalCases

/-!
# FormSchema — numerals as plain scalars

The decimal digits of a natural number, written without quotes, are an integer and no other kind of
scalar, and they are read as that number.

* **`Number.settingInteger?_toDigits`** — the digits of a number are read as the number.
* **`Tag.ofPlain_toString`** — a number's digits have the form of an integer.
* **`readInteger_toString`** — and they are read in base ten: only zero starts with a zero.
-/

namespace FormSchema

/-! ## Decimal digits -/

namespace Number

theorem digitValue?_of_isDigit {c : Char} (h : c.isDigit = true) :
    Text.digitValue? c = some (c.toNat - '0'.toNat) := by
  have hrange : 0x30 ≤ c.toNat ∧ c.toNat ≤ 0x39 := Char.isDigit_iff_toNat.mp h
  have hfirst : Text.scriptZeros.find? (fun start => start ≤ c.toNat && c.toNat < start + 10)
      = some 0x30 := by
    unfold Text.scriptZeros
    rw [List.find?_cons_of_pos]
    simp
    omega
  unfold Text.digitValue?
  rw [hfirst]
  rfl

theorem ne_of_isDigit {c d : Char} (hc : c.isDigit = true) (hd : d.isDigit = false) : c ≠ d := by
  rintro rfl
  rw [hc] at hd
  cases hd

theorem isBlank_of_isDigit {c : Char} (h : c.isDigit = true) : Text.isBlank c = false := by
  have hrange : 0x30 ≤ c.toNat ∧ c.toNat ≤ 0x39 := Char.isDigit_iff_toNat.mp h
  simp [Text.isBlank]
  omega

/-- The digits of a number: there is one at least. -/
structure IsDigits (cs : List Char) : Prop where
  ne_nil : cs ≠ []
  isDigit : ∀ c ∈ cs, c.isDigit = true

theorem isDigits_toDigits (n : Nat) : IsDigits (Nat.toDigits 10 n) :=
  ⟨Nat.toDigits_ne_nil, fun _ => Nat.isDigit_of_mem_toDigits (by decide) (by decide)⟩

theorem IsDigits.exists_cons {cs : List Char} (h : IsDigits cs) :
    ∃ c rest, cs = c :: rest ∧ c.isDigit = true := by
  obtain ⟨c, rest, rfl⟩ := List.exists_cons_of_ne_nil h.ne_nil
  exact ⟨c, rest, rfl, h.isDigit c List.mem_cons_self⟩

theorem IsDigits.not_mem {cs : List Char} (h : IsDigits cs) {d : Char} (hd : d.isDigit = false) :
    d ∉ cs := fun hmem => ne_of_isDigit (h.isDigit d hmem) hd rfl

theorem splitSign_of_isDigits {cs : List Char} (h : IsDigits cs) : splitSign cs = (false, cs) := by
  obtain ⟨c, rest, rfl, hc⟩ := h.exists_cons
  unfold splitSign
  split
  · next heq => exact absurd (List.cons.inj heq).1 (ne_of_isDigit hc (by decide))
  · next heq => exact absurd (List.cons.inj heq).1 (ne_of_isDigit hc (by decide))
  · rfl

theorem trimChars_of_isDigits {cs : List Char} (h : IsDigits cs) :
    Text.trimChars Text.isBlank cs = cs := by
  have hkeep {ds : List Char} (hds : ∀ c ∈ ds, c.isDigit = true) :
      ds.dropWhile Text.isBlank = ds := by
    cases ds with
    | nil => rfl
    | cons d ds => simp [isBlank_of_isDigit (hds d List.mem_cons_self)]
  unfold Text.trimChars
  rw [hkeep h.isDigit, hkeep fun c hc => h.isDigit c (List.mem_reverse.mp hc), List.reverse_reverse]

/-- Digits are read one behind the other. By induction over them, from any value so far. -/
theorem go_digits (cs : List Char) (h : ∀ c ∈ cs, c.isDigit = true) (value : Nat) :
    readDigits?.go Text.digitValue? value true cs = some (Nat.ofDigitChars 10 cs value) := by
  induction cs generalizing value with
  | nil => rfl
  | cons c cs ih =>
    have hc := h c List.mem_cons_self
    rw [readDigits?.go, digitValue?_of_isDigit hc, Option.bind_some,
      ih fun d hd => h d (List.mem_cons_of_mem c hd)]
    · rfl
    · exact ne_of_isDigit hc (by decide)

theorem readDigits?_of_isDigits {cs : List Char} (h : IsDigits cs) :
    readDigits? Text.digitValue? cs = some (Nat.ofDigitChars 10 cs 0) := by
  obtain ⟨c, rest, rfl, hc⟩ := h.exists_cons
  -- the first digit is read like those behind it, as it is no underscore
  have hfirst : readDigits? Text.digitValue? (c :: rest)
      = readDigits?.go Text.digitValue? 0 true (c :: rest) := by
    rw [readDigits?, readDigits?.go, readDigits?.go] <;> exact ne_of_isDigit hc (by decide)
  rw [hfirst]
  exact go_digits _ h.isDigit 0

/-- **A number's digits are read as the number.** -/
theorem settingInteger?_toDigits (n : Nat) :
    settingInteger? (String.ofList (Nat.toDigits 10 n)) = some (n : Int) := by
  have hdigits := isDigits_toDigits n
  unfold settingInteger?
  rw [String.toList_ofList, trimChars_of_isDigits hdigits, splitSign_of_isDigits hdigits]
  show (readDigits? Text.digitValue? (Nat.toDigits 10 n)).map (signedInt false) = some (n : Int)
  rw [readDigits?_of_isDigits hdigits, Nat.ofDigitChars_ten_toDigits]
  rfl

end Number

/-! ## The form of an integer -/

namespace Yaml

open Number

namespace Tag

/-- Only the number zero starts with a zero. By strong induction, the last digit taken off. -/
theorem exists_toDigits_eq {n : Nat} (h : 0 < n) :
    ∃ c rest, Nat.toDigits 10 n = c :: rest ∧ isInteger.isLeading c = true := by
  induction n using Nat.strongRecOn with
  | ind n ih =>
    rw [Nat.toDigits_eq_if (by decide)]
    split
    · refine ⟨_, [], rfl, ?_⟩
      interval_cases n <;> decide
    · obtain ⟨c, rest, hdigits, hc⟩ := ih (n / 10) (by omega) (by omega)
      exact ⟨c, rest ++ [(n % 10).digitChar], by rw [hdigits]; rfl, hc⟩

theorem ne_zero_of_isLeading {c : Char} (h : isInteger.isLeading c = true) : c ≠ '0' := by
  rintro rfl
  cases h

theorem isInteger_of_isLeading {c : Char} {rest : List Char} (h : IsDigits (c :: rest))
    (hc : isInteger.isLeading c = true) : isInteger (c :: rest) = true := by
  have hzero := ne_zero_of_isLeading hc
  have hrest : rest.all isDigitOrLine = true := List.all_eq_true.mpr fun d hd => by
    unfold isDigitOrLine
    rw [h.isDigit d (List.mem_cons_of_mem c hd), Bool.true_or]
  unfold isInteger
  rw [splitSign_of_isDigits h]
  split
  · next heq => exact absurd (List.cons.inj heq).1 hzero
  · next heq => exact absurd (List.cons.inj heq).1 hzero
  · next heq => exact absurd (List.cons.inj heq).1 hzero
  · show ((isInteger.isLeading c && rest.all isDigitOrLine) || _) = true
    rw [hc, hrest]
    rfl

theorem isInteger_toDigits (n : Nat) : isInteger (Nat.toDigits 10 n) = true := by
  cases Nat.eq_zero_or_pos n with
  | inl h =>
    rw [h]
    decide
  | inr h =>
    obtain ⟨c, rest, hdigits, hc⟩ := exists_toDigits_eq h
    have hall := isDigits_toDigits n
    rw [hdigits] at hall ⊢
    exact isInteger_of_isLeading hall hc

theorem isFloat_of_isDigits {cs : List Char} (h : IsDigits cs) : isFloat cs = false := by
  have hpoint : cs.dropWhile (· != '.') = [] := by
    rw [List.dropWhile_eq_nil_iff]
    intro c hc
    simpa using ne_of_isDigit (h.isDigit c hc) (by decide)
  unfold isFloat
  rw [splitSign_of_isDigits h]
  simp only [hpoint]

/-- A word of a list has another first character, if none of the words there starts with a digit. -/
theorem ofList_not_mem_of_isDigits {cs : List Char} (h : IsDigits cs) {words : List String}
    (hwords : words.all fun word => !word.toList.head?.any Char.isDigit) :
    String.ofList cs ∉ words := by
  intro hmem
  obtain ⟨c, rest, rfl, hc⟩ := h.exists_cons
  have hword := List.all_eq_true.mp hwords _ hmem
  rw [String.toList_ofList] at hword
  simp [hc] at hword

theorem ofPlain_toString (n : Nat) : ofPlain (toString n) = .int := by
  have hdigits := isDigits_toDigits n
  rw [Nat.toString_eq_ofList_toDigits]
  unfold ofPlain
  rw [if_neg (ofList_not_mem_of_isDigits hdigits (by decide)),
    if_neg (ofList_not_mem_of_isDigits hdigits (by decide)), String.toList_ofList,
    isFloat_of_isDigits hdigits, isInteger_toDigits]
  rfl

end Tag

/-! ## The value of an integer -/

theorem readInBase_ten_toDigits (n : Nat) : readInBase 10 (Nat.toDigits 10 n) = .ok (n : Int) := by
  unfold readInBase
  simp only [if_pos, settingInteger?_toDigits]

/-- Digits that do not start with a zero are read in base ten. -/
theorem readInteger_of_isLeading {c : Char} {rest : List Char} (h : IsDigits (c :: rest))
    (hc : Tag.isInteger.isLeading c = true) :
    readInteger (String.ofList (c :: rest)) = readInBase 10 (c :: rest) := by
  have hzero := Tag.ne_zero_of_isLeading hc
  have hlines : withoutLines (String.ofList (c :: rest)) = c :: rest := by
    unfold withoutLines
    rw [String.toList_ofList]
    refine List.filter_eq_self.mpr fun d hd => ?_
    simpa using ne_of_isDigit (h.isDigit d hd) (by decide)
  have hcolon := h.not_mem (by decide : Char.isDigit ':' = false)
  have hmap (x : Except ScalarFault Int) : x.map (fun n => if false then -n else n) = x := by
    cases x <;> rfl
  unfold readInteger
  simp only [hlines, splitSign_of_isDigits h]
  rw [hmap]
  split
  · next heq => cases heq
  · next heq => exact absurd (List.cons.inj heq).1 hzero
  · next heq => exact absurd (List.cons.inj heq).1 hzero
  · next heq => exact absurd (List.cons.inj heq).1 hzero
  · next heq => exact absurd (List.cons.inj heq).1 hzero
  · rw [if_neg hcolon]

/-- **A numeral is read as its number.** -/
theorem readInteger_toString (n : Nat) : readInteger (toString n) = .ok (n : Int) := by
  cases Nat.eq_zero_or_pos n with
  | inl h =>
    rw [h]
    rfl
  | inr h =>
    obtain ⟨c, rest, hdigits, hc⟩ := Tag.exists_toDigits_eq h
    have hall := isDigits_toDigits n
    have hbase := readInBase_ten_toDigits n
    rw [Nat.toString_eq_ofList_toDigits]
    rw [hdigits] at hall hbase ⊢
    rw [readInteger_of_isLeading hall hc, hbase]

end Yaml

end FormSchema

import Mathlib.Data.List.Induction
import NonblockingSocket.Text.Numeral

/-!
# Hexadecimal numerals

The digits of a number tell the number, and zeros in front of them do not change it. There are no needless
zeros: the digits of a number start with a zero only if the number is zero, and padding goes only as far as
the width.

- `Numeral.value?_hexDigits`, `Numeral.value?_padLeft`: the digits read as a number;
- `Numeral.Written`: a numeral of lower-case digits of some least width without needless zeros, for a
  number;
- `Numeral.written_padLeft`: the padded digits of a number are such a numeral for it.
-/

namespace NonblockingSocket.Numeral

/-! ### Digits -/

theorem digitValue?_digitChar : ∀ d < 16, digitValue? d.digitChar = some d := by
  decide

theorem digitChar_eq_zero : ∀ d < 16, d.digitChar = '0' → d = 0 := by
  decide

/-- Each character of a hexadecimal numeral is the digit of a number below sixteen. -/
theorem mem_hexDigits {n : Nat} {c : Char} (h : c ∈ hexDigits n) : ∃ d < 16, c = d.digitChar := by
  fun_induction hexDigits n with
  | case1 n hn => exact ⟨n, hn, List.mem_singleton.mp h⟩
  | case2 n hn ih =>
    rcases List.mem_append.mp h with hfirst | hlast
    · exact ih hfirst
    · exact ⟨n % 16, Nat.mod_lt n (by decide), List.mem_singleton.mp hlast⟩

theorem hexDigits_ne_nil (n : Nat) : hexDigits n ≠ [] := by
  unfold hexDigits
  split
  · exact List.cons_ne_nil _ _
  · exact List.append_ne_nil_of_right_ne_nil _ (List.cons_ne_nil _ _)

/-- Only zero starts with a zero. -/
theorem head?_hexDigits {n : Nat} (h : (hexDigits n).head? = some '0') : n = 0 := by
  fun_induction hexDigits n with
  | case1 n hn => exact digitChar_eq_zero n hn (Option.some.inj h)
  | case2 n hn ih =>
    have hzero : n / 16 = 0 := by
      refine ih ?_
      rwa [List.head?_append, Option.or_of_isSome (by simpa using hexDigits_ne_nil (n / 16))] at h
    omega

/-! ### Reading -/

/-- One more digit. -/
theorem accumulate_digitChar {d : Nat} (hd : d < 16) (acc : Nat) :
    accumulate 16 acc [d.digitChar] = some (acc * 16 + d) := by
  simp only [accumulate, digitValue?_digitChar d hd, if_pos hd]

/-- The digits of a number are read as that number. -/
theorem accumulate_hexDigits (n : Nat) : accumulate 16 0 (hexDigits n) = some n := by
  fun_induction hexDigits n with
  | case1 n hn => rw [accumulate_digitChar hn, Nat.zero_mul, Nat.zero_add]
  | case2 n hn ih =>
    rw [accumulate_append, ih, Option.bind_some, accumulate_digitChar (Nat.mod_lt n (by decide)),
      Nat.div_add_mod' n 16]

/-- Zeros in front do not change a number. -/
theorem accumulate_replicate_zero (count : Nat) : accumulate 16 0 (List.replicate count '0') = some 0 := by
  induction count with
  | zero => rfl
  | succ count ih =>
    rw [List.replicate_succ, ← List.singleton_append, accumulate_append]
    exact ih

theorem value?_of_ne_nil {base : Nat} {digits : List Char} (h : digits ≠ []) :
    value? base digits = accumulate base 0 digits := by
  rw [value?, if_neg (by simpa using h)]

/-- **The digits of a number tell the number.** -/
theorem value?_hexDigits (n : Nat) : value? 16 (hexDigits n) = some n := by
  rw [value?_of_ne_nil (hexDigits_ne_nil n), accumulate_hexDigits]

/-- So do the padded digits. -/
theorem value?_padLeft (width n : Nat) : value? 16 (padLeft width (hexDigits n)) = some n := by
  have hne : padLeft width (hexDigits n) ≠ [] :=
    List.append_ne_nil_of_right_ne_nil _ (hexDigits_ne_nil n)
  rw [value?_of_ne_nil hne, padLeft, accumulate_append, accumulate_replicate_zero, Option.bind_some,
    accumulate_hexDigits]

/-! ### Numerals without needless zeros -/

/-- The digits in which numerals are written. -/
def lowerCaseDigits : List Char := "0123456789abcdef".toList

theorem lowerCaseDigits_eq : lowerCaseDigits = (List.range 16).map Nat.digitChar := by
  decide

/-- Each of them stands for a number below sixteen. -/
theorem mem_lowerCaseDigits {c : Char} : c ∈ lowerCaseDigits ↔ ∃ d < 16, d.digitChar = c := by
  simp only [lowerCaseDigits_eq, List.mem_map, List.mem_range]

/-- A numeral for a number, of at least so many digits. All of them are lower-case hexadecimal digits, and
there are more of them only where the first is needed. -/
structure Written (width n : Nat) (digits : List Char) : Prop where
  lowerCase : ∀ c ∈ digits, c ∈ lowerCaseDigits
  wide : width ≤ digits.length
  noNeedlessZero : width < digits.length → digits.head? ≠ some '0'
  reads : value? 16 digits = some n

theorem length_padLeft (width : Nat) (digits : List Char) :
    (padLeft width digits).length = max width digits.length := by
  rw [padLeft, List.length_append, List.length_replicate]
  omega

theorem hexDigits_of_lt {n : Nat} (h : n < 16) : hexDigits n = [n.digitChar] := by
  rw [hexDigits, if_pos h]

/-- The digits of a number with one more digit. -/
theorem hexDigits_concat {n d : Nat} (hn : 0 < n) (hd : d < 16) :
    hexDigits (n * 16 + d) = hexDigits n ++ [d.digitChar] := by
  have hgreat : ¬ n * 16 + d < 16 := by omega
  have hdiv : (n * 16 + d) / 16 = n := by omega
  have hmod : (n * 16 + d) % 16 = d := by omega
  rw [hexDigits, if_neg hgreat, hdiv, hmod]

/-- The padded digits of a number are a numeral for it. Without any width, zero would need no digit. -/
theorem written_padLeft {width : Nat} (hwidth : 0 < width) (n : Nat) :
    Written width n (padLeft width (hexDigits n)) where
  lowerCase c hc := by
    rcases List.mem_append.mp hc with hzero | hdigit
    · rw [(List.mem_replicate.mp hzero).2]
      exact mem_lowerCaseDigits.mpr ⟨0, by decide, rfl⟩
    · obtain ⟨d, hd, rfl⟩ := mem_hexDigits hdigit
      exact mem_lowerCaseDigits.mpr ⟨d, hd, rfl⟩
  wide := by
    rw [length_padLeft]
    exact Nat.le_max_left _ _
  noNeedlessZero hlonger := by
    rw [length_padLeft] at hlonger
    -- a numeral that is longer than the width was not padded
    have hnone : width - (hexDigits n).length = 0 := by omega
    rw [padLeft, hnone, List.replicate_zero, List.nil_append]
    intro hzero
    rw [head?_hexDigits hzero, hexDigits_of_lt (by decide), List.length_singleton] at hlonger
    omega
  reads := value?_padLeft width n

/-- Digits for a number are its digits after some zeros. -/
theorem eq_replicate_append {digits : List Char} (hdigits : ∀ c ∈ digits, c ∈ lowerCaseDigits)
    (hne : digits ≠ []) {n : Nat} (hn : accumulate 16 0 digits = some n) :
    ∃ count, digits = List.replicate count '0' ++ hexDigits n := by
  -- on the last digit, since that is the one that a number is taken apart by
  induction digits using List.reverseRecOn generalizing n with
  | nil => exact absurd rfl hne
  | append_singleton first last ih =>
    obtain ⟨d, hd, rfl⟩ := mem_lowerCaseDigits.mp (hdigits last (by simp))
    obtain ⟨m, hm, hlast⟩ := Option.bind_eq_some_iff.mp (accumulate_append 16 0 first _ ▸ hn)
    obtain rfl : m * 16 + d = n := Option.some.inj (accumulate_digitChar hd m ▸ hlast)
    by_cases hfirst : first = []
    · subst hfirst
      obtain rfl : 0 = m := Option.some.inj hm
      exact ⟨0, by rw [Nat.zero_mul, Nat.zero_add, hexDigits_of_lt hd]; rfl⟩
    · obtain ⟨count, hcount⟩ := ih (fun c hc => hdigits c (List.mem_append_left _ hc)) hfirst hm
      by_cases hzero : m = 0
      · -- what was the number so far is one more zero in front
        subst hzero
        refine ⟨count + 1, ?_⟩
        rw [Nat.zero_mul, Nat.zero_add, hexDigits_of_lt hd, hcount, hexDigits_of_lt (by decide),
          List.replicate_succ']
        rfl
      · refine ⟨count, ?_⟩
        rw [hexDigits_concat (Nat.pos_of_ne_zero hzero) hd, hcount, List.append_assoc]

/-- **There is one numeral only** for a number, and that is its padded digits. -/
theorem written_iff {width n : Nat} (hwidth : 0 < width) {digits : List Char} :
    Written width n digits ↔ digits = padLeft width (hexDigits n) := by
  refine ⟨fun h => ?_, fun h => h ▸ written_padLeft hwidth n⟩
  have hne : digits ≠ [] := by
    rintro rfl
    exact Nat.not_le.mpr hwidth h.wide
  have hreads : accumulate 16 0 digits = some n := value?_of_ne_nil hne ▸ h.reads
  obtain ⟨count, rfl⟩ := eq_replicate_append h.lowerCase hne hreads
  have hwide : width ≤ count + (hexDigits n).length := by simpa using h.wide
  -- zeros in front are there only to reach the width
  have hcount : count = width - (hexDigits n).length := by
    by_cases hlonger : width < count + (hexDigits n).length
    · have hhead := h.noNeedlessZero (by simpa using hlonger)
      cases count with
      | zero => omega
      | succ count => exact absurd rfl hhead
    · omega
  rw [padLeft, hcount]

end NonblockingSocket.Numeral

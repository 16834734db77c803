/-!
# Numerals

Positional numerals over lists of characters.

- `digitValue?`: the value of one digit, letters standing for ten and above in either case;
- `value? base cs`: the number that a whole run of digits denotes in a base;
- `hexDigits n`: the lower-case base-16 digits of a number, without leading zeros;
- `padLeft width cs`: the digits filled up with zeros in front;
- `splitAtEach mark cs`: the runs between the marks of a composed numeral.
-/

namespace NonblockingSocket.Numeral

/-- The value of a decimal digit, or of a letter `a` to `f` in either case. -/
def digitValue? (c : Char) : Option Nat :=
  if '0' ≤ c ∧ c ≤ '9' then some (c.toNat - '0'.toNat)
  else if 'a' ≤ c ∧ c ≤ 'f' then some (c.toNat - 'a'.toNat + 10)
  else if 'A' ≤ c ∧ c ≤ 'F' then some (c.toNat - 'A'.toNat + 10)
  else none

/-- The number read so far, continued by the digits that follow. -/
def accumulate (base : Nat) : Nat → List Char → Option Nat
  | acc, [] => some acc
  | acc, c :: rest =>
    match digitValue? c with
    | some d => if d < base then accumulate base (acc * base + d) rest else none
    | none => none

/-- Reading goes on where it has stopped. -/
theorem accumulate_append (base acc : Nat) (first second : List Char) :
    accumulate base acc (first ++ second) =
      (accumulate base acc first).bind fun acc => accumulate base acc second := by
  induction first generalizing acc with
  | nil => rfl
  | cons c rest ih =>
    simp only [List.cons_append, accumulate]
    split
    · split
      · exact ih _
      · rfl
    · rfl

/-- The number a run of digits denotes. There is none for an empty run, and none as soon as one
character is not a digit of the base. -/
def value? (base : Nat) (digits : List Char) : Option Nat :=
  if digits.isEmpty then none else accumulate base 0 digits

/-- The lower-case base-16 digits of a number, most significant first. Only zero itself has a
leading zero. -/
def hexDigits (n : Nat) : List Char :=
  if n < 16 then [n.digitChar] else hexDigits (n / 16) ++ [(n % 16).digitChar]
termination_by n
decreasing_by omega

/-- Zeros in front of the digits, up to the given width. -/
def padLeft (width : Nat) (digits : List Char) : List Char :=
  List.replicate (width - digits.length) '0' ++ digits

/-- The runs of characters between the occurrences of a mark. There is one more run than there are
marks, and a run may be empty. -/
def splitAtEach (mark : Char) : List Char → List (List Char)
  | [] => [[]]
  | c :: rest =>
    if c = mark then [] :: splitAtEach mark rest
    else
      match splitAtEach mark rest with
      | [] => [[c]]
      | run :: runs => (c :: run) :: runs

end NonblockingSocket.Numeral

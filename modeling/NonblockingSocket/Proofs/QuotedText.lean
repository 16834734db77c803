import NonblockingSocket.Proofs.HexNumerals
import NonblockingSocket.Text.Quoted

/-!
# Reading quoted text

Quoted text can be read back, and the reader finds out by itself where the text ends, whatever follows the
closing quote. It need not know which characters count as printable: a backslash stands before an escape and
nowhere else, and a double quote that stands alone is the closing one.

- `Quoted.read`: the reader, which goes through the characters once and keeps where it is;
- `Quoted.read_escape`: one character, however it was written;
- `Quoted.unquote?_quote`: a quoted text, and what follows it.
-/

namespace NonblockingSocket.Text.Quoted

/-! ### The reader -/

/-- Where a reader is in a quoted text. -/
inductive Place where
  /-- Between two characters. -/
  | between
  /-- Behind a backslash. -/
  | escaped
  /-- In front of the brace that opens a code point. -/
  | opening
  /-- Within a code point, of which these are the digits so far. -/
  | within (digits : List Char)

/-- The character that a short escape stands for. -/
def shortEscape? (c : Char) : Option Char :=
  if c = '0' then some '\x00'
  else if c = 't' then some '\t'
  else if c = 'r' then some '\r'
  else if c = 'n' then some '\n'
  else if c = '"' then some '"'
  else if c = '\\' then some '\\'
  else none

/-- The character with the code point of these digits. -/
def ofCodePoint? (digits : List Char) : Option Char :=
  (Numeral.value? 16 digits).bind fun n => if n.isValidChar then some (Char.ofNat n) else none

/-- Reads a text up to its closing quote: the text, and what follows. -/
def read : Place → List Char → Option (List Char × List Char)
  | _, [] => none
  | .between, c :: rest =>
    if c = '"' then some ([], rest)
    else if c = '\\' then read .escaped rest
    else (read .between rest).map (Prod.map (c :: ·) id)
  | .escaped, c :: rest =>
    if c = 'u' then read .opening rest
    else (shortEscape? c).bind fun c => (read .between rest).map (Prod.map (c :: ·) id)
  | .opening, c :: rest => if c = '\x7b' then read (.within []) rest else none
  | .within digits, c :: rest =>
    if c = '\x7d' then
      (ofCodePoint? digits).bind fun c => (read .between rest).map (Prod.map (c :: ·) id)
    else read (.within (digits ++ [c])) rest

/-- Reads a quoted text: the text, and what follows the closing quote. -/
def unquote? : List Char → Option (List Char × List Char)
  | [] => none
  | c :: rest => if c = '"' then read .between rest else none

/-! ### Characters -/

theorem ofCodePoint?_hexDigits (c : Char) : ofCodePoint? (Numeral.hexDigits c.toNat) = some c := by
  have hvalid : c.toNat.isValidChar := c.valid
  rw [ofCodePoint?, Numeral.value?_hexDigits, Option.bind_some, if_pos hvalid, Char.ofNat_toNat]

theorem brace_not_mem_hexDigits (n : Nat) : '\x7d' ∉ Numeral.hexDigits n := by
  intro h
  obtain ⟨d, hd, hbrace⟩ := Numeral.mem_hexDigits h
  have hne : ∀ d < 16, '\x7d' ≠ d.digitChar := by decide
  exact hne d hd hbrace

/-- The digits of a code point go up to the closing brace. -/
theorem read_within {digits : List Char} (h : '\x7d' ∉ digits) (before rest : List Char) :
    read (.within before) (digits ++ '\x7d' :: rest) =
      (ofCodePoint? (before ++ digits)).bind fun c =>
        (read .between rest).map (Prod.map (c :: ·) id) := by
  -- the digits before are a parameter, since the reader adds each new one at their end
  induction digits generalizing before with
  | nil =>
    rw [List.append_nil]
    exact if_pos rfl
  | cons c digits ih =>
    obtain ⟨hc, hdigits⟩ := not_or.mp (mt List.mem_cons.mpr h)
    rw [List.cons_append, read, if_neg (Ne.symm hc), ih hdigits, List.append_assoc]
    rfl

/-- A character that is written by its code point. -/
theorem read_codePoint (c : Char) (rest : List Char) :
    read .between (codePoint c ++ rest) = (read .between rest).map (Prod.map (c :: ·) id) := by
  have hopened : read .between (codePoint c ++ rest) =
      read (.within []) ((Numeral.hexDigits c.toNat ++ ['\x7d']) ++ rest) := rfl
  rw [hopened, List.append_assoc, List.singleton_append, read_within (brace_not_mem_hexDigits _),
    List.nil_append, ofCodePoint?_hexDigits, Option.bind_some]

/-- A character that has a short escape. -/
theorem read_short {letter c : Char} (h : shortEscape? letter = some c) (rest : List Char) :
    read .between ('\\' :: letter :: rest) = (read .between rest).map (Prod.map (c :: ·) id) := by
  have hletter : letter ≠ 'u' := by
    rintro rfl
    cases h
  have hescaped : read .between ('\\' :: letter :: rest) = read .escaped (letter :: rest) := rfl
  rw [hescaped, read, if_neg hletter, h, Option.bind_some]

/-- **A character is read as itself**, however it was written. -/
theorem read_escape (printable : Char → Bool) (c : Char) (rest : List Char) :
    read .between (escape printable c ++ rest) =
      (read .between rest).map (Prod.map (c :: ·) id) := by
  unfold escape
  -- six characters have a short escape; all others are written as they are or by number
  iterate 6
    split
    · next h =>
      subst h
      exact read_short rfl rest
  split
  · -- what stands for itself is neither of the two characters that the reader stops at
    next hquote hbackslash _ =>
    rw [List.singleton_append, read, if_neg hquote, if_neg hbackslash]
  · exact read_codePoint c rest

/-! ### Texts -/

theorem read_text (printable : Char → Bool) (text rest : List Char) :
    read .between (text.flatMap (escape printable) ++ '"' :: rest) = some (text, rest) := by
  induction text with
  | nil => rfl
  | cons c text ih =>
    rw [List.flatMap_cons, List.append_assoc, read_escape, ih]
    rfl

/-- **A quoted text is read back**, whatever follows it. -/
theorem unquote?_quote (printable : Char → Bool) (text : String) (rest : List Char) :
    unquote? ((quote printable text).toList ++ rest) = some (text.toList, rest) := by
  rw [quote, String.toList_ofList, List.cons_append, List.append_assoc]
  exact read_text printable text.toList rest

end NonblockingSocket.Text.Quoted

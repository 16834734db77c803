import NonblockingSocket.Proofs.QuotedText
import NonblockingSocket.Proofs.Sentences

/-!
# Records of errors can be read back

The record of an error is the name of its failure, a run of letters, and behind it the texts that it
carries, in quotes. The quotes keep the texts apart from all else, so that they can be anything, the record of
another error included.

- `SocketError.ofDebug?`: reads a record back;
- `SocketError.ofDebug?_debugWith`, `SocketError.debug_tells`: the error is read back from its record, so no
  two errors have the same.
-/

namespace NonblockingSocket

namespace Failure

/-- The failure without an option that has this name. -/
def ofName? (name : List Char) : Option Failure := plain.find? fun failure => failure.name.toList == name

theorem ofName?_name : ∀ failure ∈ plain, ofName? failure.name.toList = some failure := by
  decide

theorem name_ne_setOption : ∀ failure ∈ plain, failure.name.toList ≠ "SetOption".toList := by
  decide

/-- Names are made of letters. -/
theorem isAlpha_of_mem_name (failure : Failure) : ∀ c ∈ failure.name.toList, c.isAlpha = true := by
  have hall : failure.name.toList.all Char.isAlpha = true := by
    cases failure with
    | setOption option => exact (by decide : "SetOption".toList.all Char.isAlpha = true)
    | _ => decide
  exact List.all_eq_true.mp hall

theorem option?_of_mem_plain : ∀ failure ∈ plain, failure.option? = none := by
  decide

end Failure

namespace SocketError

open Text.Quoted

/-! ### The reader -/

/-- Reads the only text of a failure without an option. -/
def message? (fields : List Char) : Option String := do
  let text ← ['('].isPrefixOf? fields
  let (message, rest) ← unquote? text
  if rest = [')'] then some (String.ofList message) else none

/-- What stands between the texts of a failure that is about an option. -/
def beforeOption : List Char := " \x7b option: ".toList

def beforeMessage : List Char := ", message: ".toList

def afterMessage : List Char := " \x7d".toList

/-- Reads the two texts of a failure that is about an option. -/
def optionAndMessage? (fields : List Char) : Option (String × String) := do
  let text ← beforeOption.isPrefixOf? fields
  let (option, rest) ← unquote? text
  let text ← beforeMessage.isPrefixOf? rest
  let (message, rest) ← unquote? text
  if rest = afterMessage then some (String.ofList option, String.ofList message) else none

/-- Reads the record of an error. -/
def ofDebug? (record : String) : Option SocketError :=
  let name := record.toList.takeWhile Char.isAlpha
  let fields := record.toList.dropWhile Char.isAlpha
  if name = "SetOption".toList then
    (optionAndMessage? fields).map fun (option, message) => ⟨.setOption option, message⟩
  else do
    let failure ← Failure.ofName? name
    let message ← message? fields
    return ⟨failure, message⟩

variable (printable : Char → Bool)

/-! ### What is read -/

/-- What stands behind the name of the failure. -/
def fields (error : SocketError) : List Char :=
  match error.failure.option? with
  | some option =>
    beforeOption ++ ((quote printable option).toList ++
      (beforeMessage ++ ((quote printable error.message).toList ++ afterMessage)))
  | none => '(' :: ((quote printable error.message).toList ++ [')'])

theorem toList_debugWith (error : SocketError) :
    (error.debugWith printable).toList = error.failure.name.toList ++ error.fields printable := by
  unfold debugWith fields
  cases error.failure.option? with
  | some option =>
    show (error.failure.name ++ " \x7b option: " ++ quote printable option ++ ", message: " ++
      quote printable error.message ++ " \x7d").toList = _
    simp only [String.toList_append, List.append_assoc]
    rfl
  | none =>
    show (error.failure.name ++ "(" ++ quote printable error.message ++ ")").toList = _
    simp only [String.toList_append, List.append_assoc]
    -- unfolding the append here would unfold the quoted text as well
    exact congrArg _ List.singleton_append

/-- The name of a failure goes up to the first character that is no letter. -/
theorem span_name (error : SocketError) :
    (error.debugWith printable).toList.takeWhile Char.isAlpha = error.failure.name.toList ∧
      (error.debugWith printable).toList.dropWhile Char.isAlpha = error.fields printable := by
  have hletters := error.failure.isAlpha_of_mem_name
  -- behind the name comes a blank or a bracket, and there the letters end
  obtain ⟨c, rest, hfields, hstop⟩ :
      ∃ c rest, error.fields printable = c :: rest ∧ ¬ c.isAlpha = true := by
    unfold fields
    cases error.failure.option? with
    | some option => exact ⟨' ', _, rfl, by decide⟩
    | none => exact ⟨'(', _, rfl, by decide⟩
  rw [toList_debugWith, List.takeWhile_append_of_pos hletters, List.dropWhile_append_of_pos hletters,
    hfields, List.takeWhile_cons_of_neg hstop, List.dropWhile_cons_of_neg hstop, List.append_nil]
  exact ⟨rfl, rfl⟩

theorem message?_fields {failure : Failure} (h : failure ∈ Failure.plain) (message : String) :
    message? (fields printable ⟨failure, message⟩) = some message := by
  have hfields : fields printable ⟨failure, message⟩ =
      ['('] ++ ((quote printable message).toList ++ [')']) := by
    rw [fields, Failure.option?_of_mem_plain failure h, List.singleton_append]
  simp only [hfields, message?, isPrefixOf?_append_self, Option.bind_eq_bind, Option.bind_some,
    unquote?_quote, if_true, String.ofList_toList]

theorem optionAndMessage?_fields (option message : String) :
    optionAndMessage? (fields printable ⟨.setOption option, message⟩) = some (option, message) := by
  have hfields : fields printable ⟨.setOption option, message⟩ =
      beforeOption ++ ((quote printable option).toList ++
        (beforeMessage ++ ((quote printable message).toList ++ afterMessage))) := rfl
  simp only [hfields, optionAndMessage?, isPrefixOf?_append_self, Option.bind_eq_bind,
    Option.bind_some, unquote?_quote, if_true, String.ofList_toList]

/-- **The record of an error can be read back**, whatever its texts are and whichever of their characters
count as printable. -/
theorem ofDebug?_debugWith (error : SocketError) : ofDebug? (error.debugWith printable) = some error := by
  obtain ⟨hname, hfields⟩ := span_name printable error
  rw [ofDebug?, hname, hfields]
  obtain ⟨failure, message⟩ := error
  -- the name decides which of the two forms is read
  by_cases hoption : ∃ option, failure = .setOption option
  · obtain ⟨option, rfl⟩ := hoption
    have hsetOption : (Failure.setOption option).name = "SetOption" := rfl
    rw [if_pos (congrArg String.toList hsetOption), optionAndMessage?_fields]
    rfl
  · have hplain : failure ∈ Failure.plain :=
      Failure.mem_plain fun option heq => hoption ⟨option, heq⟩
    rw [if_neg (Failure.name_ne_setOption failure hplain), Failure.ofName?_name failure hplain,
      message?_fields printable hplain]
    rfl

/-- **No two errors have the same record.** There is one reader that gives back the failure, its option and the
text of the cause from the record of any error. The texts can be any, and which characters are left alone in
them is of no account. -/
theorem debug_tells :
    (∀ error : SocketError, ofDebug? error.debug = some error) ∧
    (∀ error error' : SocketError, error.debug = error'.debug ↔ error = error') ∧
    ∀ printable : Char → Bool,
      (∀ error : SocketError, ofDebug? (error.debugWith printable) = some error) ∧
      ∀ error error' : SocketError,
        error.debugWith printable = error'.debugWith printable ↔ error = error' := by
  have hinj (printable : Char → Bool) (error error' : SocketError) :
      error.debugWith printable = error'.debugWith printable ↔ error = error' := by
    refine ⟨fun heq => ?_, congrArg (debugWith printable)⟩
    have hread : some error = some error' := by
      rw [← ofDebug?_debugWith printable error, heq, ofDebug?_debugWith]
    exact Option.some.inj hread
  refine ⟨fun error => ?_, fun error error' => ?_,
    fun printable => ⟨ofDebug?_debugWith printable, hinj printable⟩⟩
  · exact ofDebug?_debugWith Text.isPrintable error
  · exact hinj Text.isPrintable error error'

end SocketError

end NonblockingSocket

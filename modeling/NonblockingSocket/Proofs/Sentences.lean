import Mathlib.Data.List.Basic
import NonblockingSocket.Proofs.Creation
import NonblockingSocket.Scripted.Stack

/-!
# Sentences tell errors apart

The sentence of an error starts with words that stand for the failure, and goes on with the text of the
cause. That text can be anything, the words of another failure included. Yet the sentence tells the error,
since no two failures start in words of which one goes on where the other ends; and the name of an option
ends where the first space is.

- `Departs`: two texts differ at a place that both of them have;
- `Failure.plain`, `Failure.leads_depart`: the failures without an option, and their words;
- `SocketError.ofDisplay?`: reads a sentence back, and `SocketError.ofDisplay?_display`;
- `Handle.CreateCourse.tells` and its kin: the log of an operation tells its failure;
- `SocketError.display_tells`: sentences are equal for equal errors only, and so are the error lines.
-/

namespace NonblockingSocket

variable {σ S : Type}

/-! ### Texts that depart from each other -/

/-- The texts differ at a place that both of them have. -/
def Departs (text other : List Char) : Prop :=
  (text.zip other).any (fun pair => pair.1 != pair.2) = true

instance (text other : List Char) : Decidable (Departs text other) :=
  inferInstanceAs (Decidable (_ = true))

/-- A text does not start with one that departs from it, whatever it goes on with. -/
theorem Departs.isPrefixOf?_append {text other : List Char} (h : Departs text other)
    (rest : List Char) : text.isPrefixOf? (other ++ rest) = none := by
  induction text generalizing other with
  | nil => cases h
  | cons first text ih =>
    cases other with
    | nil => cases h
    | cons first' other =>
      have hor : first ≠ first' ∨ Departs text other := by
        simpa [Departs, List.zip_cons_cons] using h
      rw [List.cons_append, List.isPrefixOf?]
      -- texts that agree so far have to depart later
      by_cases hfirst : first = first'
      · rw [if_pos (beq_iff_eq.mpr hfirst)]
        exact ih (hor.resolve_left fun hne => hne hfirst)
      · exact if_neg fun heq => hfirst (beq_iff_eq.mp heq)

theorem isPrefixOf?_append_self (text rest : List Char) :
    text.isPrefixOf? (text ++ rest) = some rest :=
  List.isPrefixOf?_eq_some_iff_append_eq.mpr rfl

/-! ### The words for a failure -/

namespace Failure

/-- The failures that are not about an option. -/
def plain : List Failure :=
  [.invalidArgument, .openSocket, .bind, .connect, .select, .connectionFailed, .send, .receive]

/-- The words for a failure that is about an option, before and after its name. -/
def beforeOption : List Char := "setsockopt ".toList

def afterOption : List Char := " failed: ".toList

/-- If the failure is about an option, the name of that is a single word. -/
def OptionIsWord (failure : Failure) : Prop :=
  ∀ option, failure.option? = some option → ' ' ∉ option.toList

/-- Two failures start in words that depart from each other. -/
theorem leads_depart : ∀ failure ∈ plain, ∀ other ∈ plain, failure ≠ other →
    Departs failure.lead.toList other.lead.toList := by
  decide

theorem lead_departs_beforeOption : ∀ failure ∈ plain, Departs failure.lead.toList beforeOption := by
  decide

theorem mem_plain {failure : Failure} (h : ∀ option, failure ≠ .setOption option) :
    failure ∈ plain := by
  cases failure with
  | setOption option => exact absurd rfl (h option)
  | _ => decide

theorem lead_setOption (option : String) :
    (setOption option).lead.toList = beforeOption ++ (option.toList ++ afterOption) := by
  show ("setsockopt " ++ option ++ " failed: ").toList = _
  rw [String.toList_append, String.toList_append, List.append_assoc]
  rfl

/-- Whatever a creation reports as the failure of a call of its plan, an option in it is a word. -/
theorem optionIsWord_of_setupCall {socket : S} {remote : Endpoint} {planned : PlannedCall S}
    (h : SetupCall socket remote planned) : planned.failure.OptionIsWord := by
  intro option hoption
  cases h <;> cases hoption <;> decide

end Failure

/-! ### Reading a sentence -/

namespace SocketError

/-- The error of a sentence that starts in the words for a failure. -/
def after? (text : List Char) (failure : Failure) : Option SocketError :=
  (failure.lead.toList.isPrefixOf? text).map fun rest => ⟨failure, String.ofList rest⟩

/-- The error of a sentence about an option, whose name is the next word. -/
def aboutOption? (text : List Char) : Option SocketError := do
  let text ← Failure.beforeOption.isPrefixOf? text
  let option := text.takeWhile (· ≠ ' ')
  let text ← Failure.afterOption.isPrefixOf? (text.dropWhile (· ≠ ' '))
  return ⟨.setOption (String.ofList option), String.ofList text⟩

/-- Reads a sentence back. -/
def ofDisplay? (sentence : String) : Option SocketError :=
  (Failure.plain.findSome? (after? sentence.toList)).or (aboutOption? sentence.toList)

/-- A sentence can start in the words for one failure only. -/
theorem findSome?_after? {failure : Failure} (h : failure ∈ Failure.plain) (message : List Char) :
    Failure.plain.findSome? (after? (failure.lead.toList ++ message)) =
      some ⟨failure, String.ofList message⟩ := by
  have hself : after? (failure.lead.toList ++ message) failure =
      some ⟨failure, String.ofList message⟩ := by
    rw [after?, isPrefixOf?_append_self]
    rfl
  have hother (other : Failure) (hmem : other ∈ Failure.plain) (hne : other ≠ failure) :
      after? (failure.lead.toList ++ message) other = none := by
    rw [after?, (Failure.leads_depart other hmem failure h hne).isPrefixOf?_append message]
    rfl
  -- the search may stop early, but no other failure reads the text
  cases hfound : Failure.plain.findSome? (after? (failure.lead.toList ++ message)) with
  | none =>
    rw [List.findSome?_eq_none_iff.mp hfound failure h] at hself
    cases hself
  | some error =>
    obtain ⟨other, hmem, hread⟩ := List.exists_of_findSome?_eq_some hfound
    by_cases heq : other = failure
    · rw [← hself, ← hread, heq]
    · rw [hother other hmem heq] at hread
      cases hread

/-- A sentence about an option can be told from all others. -/
theorem findSome?_after?_option (text : List Char) :
    Failure.plain.findSome? (after? (Failure.beforeOption ++ text)) = none := by
  rw [List.findSome?_eq_none_iff]
  intro failure hmem
  rw [after?, (Failure.lead_departs_beforeOption failure hmem).isPrefixOf?_append text]
  rfl

/-- The name of the option goes up to the first space. -/
theorem aboutOption?_append {option : List Char} (h : ' ' ∉ option) (message : List Char) :
    aboutOption? (Failure.beforeOption ++ (option ++ (Failure.afterOption ++ message))) =
      some ⟨.setOption (String.ofList option), String.ofList message⟩ := by
  have hword : ∀ c ∈ option, decide (c ≠ ' ') = true := by
    intro c hc
    refine decide_eq_true fun hspace => ?_
    exact h (hspace ▸ hc)
  have hname : (option ++ (Failure.afterOption ++ message)).takeWhile (· ≠ ' ') = option := by
    rw [List.takeWhile_append_of_pos hword]
    exact List.append_nil option
  have hrest : (option ++ (Failure.afterOption ++ message)).dropWhile (· ≠ ' ') =
      Failure.afterOption ++ message := by
    rw [List.dropWhile_append_of_pos hword]
    rfl
  rw [aboutOption?, isPrefixOf?_append_self, Option.bind_eq_bind, Option.bind_some, hname, hrest,
    isPrefixOf?_append_self]
  rfl

/-- **A sentence can be read back**, whatever the text of the cause is. -/
theorem ofDisplay?_display {error : SocketError} (h : error.failure.OptionIsWord) :
    ofDisplay? error.display = some error := by
  obtain ⟨failure, message⟩ := error
  have htext : (display ⟨failure, message⟩).toList = failure.lead.toList ++ message.toList :=
    String.toList_append
  rw [ofDisplay?, htext]
  by_cases hoption : ∃ option, failure = .setOption option
  · obtain ⟨option, rfl⟩ := hoption
    rw [Failure.lead_setOption, List.append_assoc, List.append_assoc, findSome?_after?_option,
      Option.none_or, aboutOption?_append (h option rfl), String.ofList_toList,
      String.ofList_toList]
  · have hplain : failure ∈ Failure.plain :=
      Failure.mem_plain fun option heq => hoption ⟨option, heq⟩
    rw [findSome?_after? hplain, Option.some_or, String.ofList_toList]

end SocketError

/-! ### What the log tells -/

/-- The log is one error line, from which the error can be read. -/
def Tells (log : List LogLine) (error : SocketError) : Prop :=
  ∃ line, log = [line] ∧ line.severity = .error ∧ SocketError.ofDisplay? line.text = some error

theorem tells_of_lines {verbosity : Verbosity} (hshows : verbosity ≠ .off) {error : SocketError}
    (h : error.failure.OptionIsWord) : Tells (verbosity.lines .error error.display) error := by
  have hline : verbosity.lines .error error.display = [⟨.error, error.display⟩] := by
    cases verbosity with
    | off => exact absurd rfl hshows
    | _ => rfl
  exact ⟨_, hline, rfl, SocketError.ofDisplay?_display h⟩

namespace Handle

variable {verbosity : Verbosity} {exchanges : List (Exchange S)} {log : List LogLine}
  {error : SocketError}

/-- What breaks off a plan is reported as the failure of one of its calls. -/
theorem BreaksOff.mem_failure {plan : List (PlannedCall S)} (h : BreaksOff plan exchanges error) :
    ∃ planned ∈ plan, planned.failure = error.failure := by
  obtain ⟨before, failing, after, done, last, cause, rfl, -, -, -, -, rfl⟩ := h
  exact ⟨failing, List.mem_append_right _ List.mem_cons_self, rfl⟩

theorem CreateCourse.tells {remote : Endpoint} {type : SocketType}
    {options : Option KeepAliveOptions} (hshows : verbosity ≠ .off)
    (h : CreateCourse verbosity remote type options exchanges log
      (.error error : Except SocketError (Handle S))) : Tells log error := by
  cases h with
  | openFailed cause => exact tells_of_lines hshows nofun
  | givenUp socket setup _ hsetup =>
    obtain ⟨planned, hmem, hfailure⟩ := BreaksOff.mem_failure hsetup
    have hword := Failure.optionIsWord_of_setupCall (mem_setupPlan hmem)
    rw [hfailure] at hword
    exact tells_of_lines hshows hword

theorem SendCourse.tells {handle : Handle S} {data : Bytes} (hshows : verbosity ≠ .off)
    (h : SendCourse verbosity handle data exchanges log (.error error)) : Tells log error := by
  cases h with
  | failed cause _ _ => exact tells_of_lines hshows nofun

theorem ReceiveCourse.tells {handle : Handle S} {buffer buffer' : Bytes}
    (hshows : verbosity ≠ .off)
    (h : ReceiveCourse verbosity handle buffer exchanges log (.error error, buffer')) :
    Tells log error := by
  cases h with
  | noRoom _ => exact tells_of_lines hshows nofun
  | failed cause _ _ => exact tells_of_lines hshows nofun

end Handle

/-- **Sentences are equal for equal errors only**, as long as the names of options are single words. Each
can be read back as the error it is of. So can the only line that a creation, a transmission or a
reception writes when it fails, unless nothing is written at all. -/
theorem SocketError.display_tells (stack : Stack σ S) (state : σ) :
    (∀ error error' : SocketError, error.failure.OptionIsWord → error'.failure.OptionIsWord →
      (error.display = error'.display ↔ error = error')) ∧
    (∀ error : SocketError, error.failure.OptionIsWord → ofDisplay? error.display = some error) ∧
    ∀ (verbosity : Verbosity) (error : SocketError), verbosity ≠ .off →
      (∀ remote type options,
        let outcome := (Handle.create verbosity remote type options).run stack state
        outcome.result = .error error → Tells outcome.log error) ∧
      (∀ (handle : Handle S) data,
        let outcome := (handle.send verbosity data).run stack state
        outcome.result = .error error → Tells outcome.log error) ∧
      ∀ (handle : Handle S) buffer,
        let outcome := (handle.receive verbosity buffer).run stack state
        outcome.result.1 = .error error → Tells outcome.log error := by
  refine ⟨fun error error' h h' => ⟨fun heq => ?_, congrArg display⟩,
    fun error => ofDisplay?_display, fun verbosity error hshows => ⟨?_, ?_, ?_⟩⟩
  · have hread : some error = some error' := by
      rw [← ofDisplay?_display h, ← ofDisplay?_display h', heq]
    exact Option.some.inj hread
  · intro remote type options outcome hresult
    have hcourse := (Handle.create_ensures verbosity remote type options).run stack state
    change Handle.CreateCourse _ _ _ _ outcome.exchanges outcome.log outcome.result at hcourse
    rw [hresult] at hcourse
    exact hcourse.tells hshows
  · intro handle data outcome hresult
    have hcourse := (Handle.send_ensures verbosity handle data).run stack state
    change Handle.SendCourse _ _ _ outcome.exchanges outcome.log outcome.result at hcourse
    rw [hresult] at hcourse
    exact hcourse.tells hshows
  · intro handle buffer outcome hresult
    have hcourse := (Handle.receive_ensures verbosity handle buffer).run stack state
    change Handle.ReceiveCourse _ _ _ outcome.exchanges outcome.log
      (outcome.result.1, outcome.result.2) at hcourse
    rw [hresult] at hcourse
    exact hcourse.tells hshows

/-- An option that cannot be set, for a reason that reads like other failures. Its sentence is not that of
a failed bind with the rest of the words as its cause. -/
theorem SocketError.display_tells_nested :
    let cause := "bind socket failed: TCP_KEEPCNT failed: \n"
    let error : SocketError := ⟨.setOption "TCP_KEEPIDLE", cause⟩
    let other : SocketError := ⟨.bind, "TCP_KEEPCNT failed: \n"⟩
    let stack : Scripted.State :=
      { outcomes := .only .setKeepAliveIdle [.error (.custom .invalidInput cause)] }
    let outcome := ((Handle.create .error ⟨⟨192, 0, 2, 1⟩, 80⟩ .stream (some (.probing 0 5 3))).run
      Scripted.stack stack)
    error.failure.OptionIsWord ∧ other.failure.OptionIsWord ∧ error.display ≠ other.display ∧
      ofDisplay? error.display = some error ∧ Verbosity.error ≠ .off ∧
      outcome.result = .error error ∧ Tells outcome.log error := by
  intro cause error other stack outcome
  obtain ⟨hdisplay, hread, htells⟩ := display_tells Scripted.stack stack
  have hword : error.failure.OptionIsWord := by
    rintro option ⟨⟩
    decide
  have hword' : other.failure.OptionIsWord := nofun
  have hne : error ≠ other := by
    intro heq
    have hfailure : Failure.setOption "TCP_KEEPIDLE" = .bind := congrArg SocketError.failure heq
    cases hfailure
  have hshows : Verbosity.error ≠ .off := by decide
  have hresult : outcome.result = .error error := rfl
  exact ⟨hword, hword', fun heq => hne ((hdisplay error other hword hword').mp heq), hread error hword,
    hshows, hresult, (htells .error error hshows).1 _ _ _ hresult⟩

end NonblockingSocket

import Mathlib.Logic.Relation
import NonblockingSocket.Proofs.PollDecision

/-!
# Looking up a host finds its first IPv4 address

A lookup yields addresses of both families in some order, and the first IPv4 address among them is the
one of the host. The unspecified address stands for a lookup that finds none, but it can also be found.
Only the log tells the two apart.

- `IsFirstIpv4`: the place of the first IPv4 address, and `isFirstIpv4_iff`: the search stops there;
- `Misses`: the three ways to find none;
- `Edit`: changes of a list of addresses that leave its first IPv4 address alone;
- `ResolveCourse.resolves`: what each course of a lookup comes to;
- `resolveIpv4_resolves`: with any stack, a host is looked up once and resolves to its first IPv4 address,
  and a line is written if and only if there is none.
-/

namespace NonblockingSocket

variable {σ τ S T : Type}

/-! ### The first IPv4 address of a list -/

/-- The IPv4 address stands in the list, and none before it. -/
def IsFirstIpv4 (addresses : List IpAddress) (ip : Ipv4) : Prop :=
  ∃ i : Nat, addresses[i]? = some (.v4 ip) ∧ ∀ j < i, ∀ other, addresses[j]? ≠ some (.v4 other)

theorem isFirstIpv4_cons_v4 {addresses : List IpAddress} {first ip : Ipv4} :
    IsFirstIpv4 (.v4 first :: addresses) ip ↔ first = ip := by
  constructor
  · rintro ⟨i, hi, hbefore⟩
    cases i with
    | zero =>
      cases hi
      rfl
    | succ i => exact absurd rfl (hbefore 0 (Nat.succ_pos i) first)
  · rintro rfl
    exact ⟨0, rfl, fun j hj => absurd hj (Nat.not_lt_zero j)⟩

/-- An IPv6 address in front moves the place of the first IPv4 address by one. -/
theorem isFirstIpv4_cons_v6 {addresses : List IpAddress} {first : Ipv6} {ip : Ipv4} :
    IsFirstIpv4 (.v6 first :: addresses) ip ↔ IsFirstIpv4 addresses ip := by
  constructor
  · rintro ⟨i, hi, hbefore⟩
    cases i with
    | zero => cases hi
    | succ i => exact ⟨i, hi, fun j hj => hbefore (j + 1) (Nat.succ_lt_succ hj)⟩
  · rintro ⟨i, hi, hbefore⟩
    refine ⟨i + 1, hi, fun j hj other => ?_⟩
    cases j with
    | zero => exact fun h => nomatch h
    | succ j => exact hbefore j (Nat.lt_of_succ_lt_succ hj) other

/-- The search through a list ends at its first IPv4 address. -/
theorem isFirstIpv4_iff {addresses : List IpAddress} {ip : Ipv4} :
    IsFirstIpv4 addresses ip ↔ addresses.findSome? IpAddress.v4? = some ip := by
  induction addresses with
  | nil =>
    refine iff_of_false ?_ nofun
    rintro ⟨i, hi, -⟩
    cases hi
  | cons first addresses ih =>
    -- an IPv4 address in front ends the search, an IPv6 address is passed over
    cases first with
    | v4 first => rw [isFirstIpv4_cons_v4, List.findSome?_cons, IpAddress.v4?, Option.some_inj]
    | v6 first => rw [isFirstIpv4_cons_v6, List.findSome?_cons, IpAddress.v4?, ih]

/-- The search comes to nothing if there is no IPv4 address in the list. -/
theorem findSome?_v4?_eq_none_iff {addresses : List IpAddress} :
    addresses.findSome? IpAddress.v4? = none ↔ ∀ ip, .v4 ip ∉ addresses := by
  rw [List.findSome?_eq_none_iff]
  constructor
  · intro h ip hmem
    cases h (.v4 ip) hmem
  · intro h address hmem
    cases address with
    | v4 ip => exact absurd hmem (h ip)
    | v6 ip => rfl

/-- A change of a list that leaves its first IPv4 address alone: IPv6 addresses come and go anywhere, and
after an IPv4 address all else may change. -/
inductive Edit : List IpAddress → List IpAddress → Prop where
  | insert (before : List IpAddress) (ip : Ipv6) (after : List IpAddress) :
      Edit (before ++ after) (before ++ .v6 ip :: after)
  | remove (before : List IpAddress) (ip : Ipv6) (after : List IpAddress) :
      Edit (before ++ .v6 ip :: after) (before ++ after)
  | change (before : List IpAddress) (ip : Ipv4) (after after' : List IpAddress) :
      Edit (before ++ .v4 ip :: after) (before ++ .v4 ip :: after')

theorem Edit.findSome?_eq {addresses addresses' : List IpAddress} (h : Edit addresses addresses') :
    addresses.findSome? IpAddress.v4? = addresses'.findSome? IpAddress.v4? := by
  cases h with
  | insert before ip after => rw [List.findSome?_append, List.findSome?_append]; rfl
  | remove before ip after => rw [List.findSome?_append, List.findSome?_append]; rfl
  | change before ip after after' => rw [List.findSome?_append, List.findSome?_append]; rfl

/-- However often a list is changed in such ways, the search comes to the same. -/
theorem findSome?_eq_of_edits {addresses addresses' : List IpAddress}
    (h : Relation.ReflTransGen Edit addresses addresses') :
    addresses.findSome? IpAddress.v4? = addresses'.findSome? IpAddress.v4? := by
  induction h with
  | refl => rfl
  | tail _ hedit ih => exact ih.trans hedit.findSome?_eq

/-! ### Lookups -/

/-- There is no IPv4 address to be found: there is no host to look for, or the lookup fails, or it yields
other addresses only. -/
inductive Misses (host : String) : Except IoError (List IpAddress) → Prop where
  | noHost (h : host = "") (answer : Except IoError (List IpAddress)) : Misses host answer
  | failed (error : IoError) : Misses host (.error error)
  | noIpv4 (addresses : List IpAddress) (h : ∀ ip, .v4 ip ∉ addresses) : Misses host (.ok addresses)

theorem misses_ok_iff {host : String} {addresses : List IpAddress} :
    Misses host (.ok addresses) ↔ host = "" ∨ addresses.findSome? IpAddress.v4? = none := by
  rw [findSome?_v4?_eq_none_iff]
  constructor
  · intro h
    cases h with
    | noHost h => exact .inl h
    | noIpv4 _ h => exact .inr h
  · rintro (h | h)
    · exact .noHost h _
    · exact .noIpv4 addresses h

/-- What a lookup comes to, given what a stack says about the host. -/
structure Resolves (verbosity : Verbosity) (host : String)
    (answer : Except IoError (List IpAddress)) (exchanges : List (Exchange S)) (log : List LogLine)
    (ip : Ipv4) : Prop where
  /-- A host is looked up once, and an empty name is not. -/
  asks : exchanges = if host = "" then [] else [⟨.lookupHost host, answer⟩]
  /-- Nothing is found, and this is written as an information. -/
  missing : Misses host answer → ip = ⟨0, 0, 0, 0⟩ ∧
    log.map LogLine.severity = if verbosity = .info ∨ verbosity = .debug then [.info] else []
  /-- Something is found, and nothing is written. -/
  found : ¬ Misses host answer → log = [] ∧ ∃ addresses, answer = .ok addresses ∧
    IsFirstIpv4 addresses ip

theorem Verbosity.map_severity_lines_info (verbosity : Verbosity) (text : String) :
    (verbosity.lines .info text).map LogLine.severity =
      if verbosity = .info ∨ verbosity = .debug then [.info] else [] := by
  cases verbosity <;> rfl

/-- A lookup comes to what the answer of the stack says. -/
theorem ResolveCourse.resolves {verbosity : Verbosity} {host : String} {answers : Answers S}
    {exchanges : List (Exchange S)} {log : List LogLine} {ip : Ipv4}
    (h : ResolveCourse verbosity host exchanges log ip) (hanswers : AnsweredBy answers exchanges) :
    Resolves verbosity host (answers [] (.lookupHost host)) exchanges log ip := by
  cases h with
  | noHost hhost =>
    have hempty : host = "" := String.isEmpty_iff.mp hhost
    have hmiss : Misses host (answers [] (.lookupHost host)) := .noHost hempty _
    exact ⟨(if_pos hempty).symm, fun _ => ⟨rfl, verbosity.map_severity_lines_info _⟩,
      fun hfound => absurd hmiss hfound⟩
  | found addresses ip hhost hip =>
    have hname : host ≠ "" := String.isEmpty_eq_false_iff.mp hhost
    obtain ⟨hanswer, -⟩ := hanswers
    rw [hanswer]
    refine ⟨(if_neg hname).symm, fun hmiss => ?_, fun _ => ⟨rfl, _, rfl, isFirstIpv4_iff.mpr hip⟩⟩
    -- a miss would need an empty name or a list without an IPv4 address
    rcases misses_ok_iff.mp hmiss with hempty | hnone
    · exact absurd hempty hname
    · rw [hip] at hnone
      cases hnone
  | missing addresses hhost hip =>
    have hname : host ≠ "" := String.isEmpty_eq_false_iff.mp hhost
    obtain ⟨hanswer, -⟩ := hanswers
    rw [hanswer]
    have hmiss : Misses host (.ok addresses) := misses_ok_iff.mpr (.inr hip)
    exact ⟨(if_neg hname).symm, fun _ => ⟨rfl, verbosity.map_severity_lines_info _⟩,
      fun hfound => absurd hmiss hfound⟩
  | failed error hhost =>
    have hname : host ≠ "" := String.isEmpty_eq_false_iff.mp hhost
    obtain ⟨hanswer, -⟩ := hanswers
    rw [hanswer]
    exact ⟨(if_neg hname).symm, fun _ => ⟨rfl, verbosity.map_severity_lines_info _⟩,
      fun hfound => absurd (.failed error) hfound⟩

/-- In a run with any stack, a lookup comes to what the answer of the stack says. -/
theorem resolveIpv4_run_resolves (stack : Stack σ S) (state : σ) (verbosity : Verbosity)
    (host : String) :
    let outcome := (resolveIpv4 verbosity host).run stack state
    Resolves verbosity host (stack.reply (.lookupHost host) state).1 outcome.exchanges outcome.log
      outcome.result :=
  ((resolveIpv4_ensures verbosity host).run stack state).resolves
    (Dialogue.run_answeredBy (resolveIpv4 verbosity host) stack state)

/-- Lookups that yield lists with the same first IPv4 address come to the same. -/
theorem Resolves.ip_eq {verbosity verbosity' : Verbosity} {host : String}
    {addresses addresses' : List IpAddress} {exchanges : List (Exchange S)}
    {exchanges' : List (Exchange T)} {log log' : List LogLine} {ip ip' : Ipv4}
    (h : Resolves verbosity host (.ok addresses) exchanges log ip)
    (h' : Resolves verbosity' host (.ok addresses') exchanges' log' ip')
    (heq : addresses.findSome? IpAddress.v4? = addresses'.findSome? IpAddress.v4?) : ip = ip' := by
  have hmisses : Misses host (.ok addresses) ↔ Misses host (.ok addresses') := by
    rw [misses_ok_iff, misses_ok_iff, heq]
  -- a miss is told by the search alone, so that both miss or neither does
  by_cases hmiss : Misses host (.ok addresses)
  · rw [(h.missing hmiss).1, (h'.missing (hmisses.mp hmiss)).1]
  · obtain ⟨-, _, ⟨⟩, hfirst⟩ := h.found hmiss
    obtain ⟨-, _, ⟨⟩, hfirst'⟩ := h'.found fun hmiss' => hmiss (hmisses.mpr hmiss')
    have hsome : some ip = some ip' := by
      rw [← isFirstIpv4_iff.mp hfirst, ← isFirstIpv4_iff.mp hfirst', heq]
    exact Option.some.inj hsome

/-- **A host resolves to its first IPv4 address, and only a miss is written down.** With any stack, a name
that is not empty is looked up once, and the result is the first IPv4 address of the answer. If the name is
empty, the lookup fails or there is no such address, it is the unspecified address, and just then a line is
written, an information. IPv6 addresses anywhere and whatever comes after the first IPv4 address make no
difference to the result. -/
theorem resolveIpv4_resolves (stack : Stack σ S) (state : σ) (verbosity : Verbosity)
    (host : String) :
    let answer : Except IoError (List IpAddress) := (stack.reply (.lookupHost host) state).1
    let outcome := (resolveIpv4 verbosity host).run stack state
    Resolves verbosity host answer outcome.exchanges outcome.log outcome.result ∧
      ∀ (stack' : Stack τ T) (state' : τ) (verbosity' : Verbosity)
        (addresses addresses' : List IpAddress),
        answer = .ok addresses → (stack'.reply (.lookupHost host) state').1 = .ok addresses' →
        Relation.ReflTransGen Edit addresses addresses' →
          outcome.result = ((resolveIpv4 verbosity' host).run stack' state').result := by
  intro answer outcome
  have hresolves : Resolves verbosity host answer outcome.exchanges outcome.log outcome.result :=
    resolveIpv4_run_resolves stack state verbosity host
  refine ⟨hresolves, fun stack' state' verbosity' addresses addresses' hanswer hanswer' hedits => ?_⟩
  have hresolves' := resolveIpv4_run_resolves stack' state' verbosity' host
  rw [hanswer] at hresolves
  rw [hanswer'] at hresolves'
  exact hresolves.ip_eq hresolves' (findSome?_eq_of_edits hedits)

/-- Two hosts whose first IPv4 address is the unspecified one. It has been found, so that nothing is
written, and it is found again if the IPv6 address before it goes and the address behind it changes. -/
theorem resolveIpv4_resolves_unspecified :
    let far : Ipv6 := ⟨#v[0x2001, 0xdb8, 0, 0, 0, 0, 0, 1]⟩
    let addresses : List IpAddress := [.v6 far, .v4 ⟨0, 0, 0, 0⟩, .v4 ⟨192, 0, 2, 1⟩]
    let addresses' : List IpAddress := [.v4 ⟨0, 0, 0, 0⟩, .v6 far]
    let state (addresses : List IpAddress) : Scripted.State :=
      { outcomes := .only .lookupHost [.ok addresses] }
    let outcome (addresses : List IpAddress) :=
      (resolveIpv4 .debug "example.org").run Scripted.stack (state addresses)
    Relation.ReflTransGen Edit addresses addresses' ∧
      (outcome addresses).result = ⟨0, 0, 0, 0⟩ ∧ (outcome addresses).log = [] ∧
      (outcome addresses).result = (outcome addresses').result := by
  intro far addresses addresses' state outcome
  have hedits : Relation.ReflTransGen Edit addresses addresses' :=
    .tail (.single (.remove [] far _)) (.change [] ⟨0, 0, 0, 0⟩ _ _)
  obtain ⟨hresolves, hedited⟩ := resolveIpv4_resolves (T := UInt32) Scripted.stack (state addresses)
    .debug "example.org"
  have hfound : ¬ Misses "example.org" (.ok addresses) := by
    rw [misses_ok_iff]
    decide
  exact ⟨hedits, rfl, (hresolves.found hfound).1,
    hedited Scripted.stack (state addresses') .debug addresses addresses' rfl rfl hedits⟩

end NonblockingSocket

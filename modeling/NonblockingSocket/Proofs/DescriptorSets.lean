import Mathlib.Data.Nat.Bitwise
import NonblockingSocket.Proofs.HostFiles

/-!
# Descriptor sets

A bit of a word stands for a descriptor, and that is all there is to a set: its members can be told one by
one. A select on a set of one member speaks of this descriptor alone.

- `FdSet.contains_insert`, `FdSet.contains_ofList`: the members of a set;
- `Host.select_alone`: a select on one descriptor finds out about this one;
- `Host.pollConnect_watchable`: the readiness of a descriptor is the condition of the file behind it, and
  nothing of the host changes.
-/

namespace NonblockingSocket.Host

namespace FdSet

/-- The bit of a descriptor is a power of two. -/
theorem toNat_bit (fd : Nat) : (bit fd).toNat = 2 ^ (fd % 64) := by
  have hplace : fd % 64 < 64 := Nat.mod_lt fd (by decide)
  have hfits : 2 ^ (fd % 64) < 2 ^ 64 := Nat.pow_lt_pow_right (by decide) hplace
  have hshift : (UInt64.ofNat (fd % 64)).toNat % 64 = fd % 64 := by
    rw [UInt64.toNat_ofNat', Nat.mod_eq_of_lt (Nat.lt_trans hplace (by decide)),
      Nat.mod_eq_of_lt hplace]
  rw [bit, UInt64.toNat_shiftLeft, hshift, UInt64.toNat_one, Nat.one_shiftLeft,
    Nat.mod_eq_of_lt hfits]

/-- A descriptor is looked up by its bit. -/
theorem and_bit_ne_zero (word : UInt64) (fd : Nat) :
    (word &&& bit fd != 0) = word.toNat.testBit (fd % 64) := by
  have hand : (word &&& bit fd).toNat = (word.toNat.testBit (fd % 64)).toNat * 2 ^ (fd % 64) := by
    rw [UInt64.toNat_and, toNat_bit, Nat.and_two_pow]
  cases hbit : word.toNat.testBit (fd % 64) with
  | false =>
    rw [hbit, Bool.toNat_false, Nat.zero_mul] at hand
    have hzero : word &&& bit fd = 0 := UInt64.toNat_inj.mp hand
    rw [hzero, bne_self_eq_false]
  | true =>
    rw [hbit, Bool.toNat_true, Nat.one_mul] at hand
    refine bne_iff_ne.mpr fun hzero => ?_
    rw [hzero, UInt64.toNat_zero] at hand
    exact Nat.ne_of_lt (Nat.two_pow_pos _) hand

/-- An inserted descriptor is a member, and no other becomes one. -/
theorem contains_insert (set : FdSet) {fd : Nat} (hfd : fd < capacity) (other : Nat) :
    (set.insert fd).contains other = (decide (other = fd) || set.contains other) := by
  have hword : fd / 64 < 16 := by
    simp only [capacity] at hfd
    omega
  rw [insert, dif_pos hword, contains, contains]
  by_cases hother : other / 64 < 16
  · rw [dif_pos hother, dif_pos hother, and_bit_ne_zero, and_bit_ne_zero]
    -- in the same word the two are told apart by their bits; another word stays as it was
    by_cases hsame : fd / 64 = other / 64
    · have hplace : fd % 64 = other % 64 ↔ other = fd := by omega
      simp only [hsame, Vector.getElem_set_self, UInt64.toNat_or, Nat.testBit_or, toNat_bit,
        Nat.testBit_two_pow, hplace, Bool.or_comm]
    · have hne : other ≠ fd := fun h => hsame (congrArg (· / 64) h.symm)
      rw [Vector.getElem_set_ne _ _ hsame, decide_eq_false hne, Bool.false_or]
  · have hne : other ≠ fd := by
      rintro rfl
      exact hother hword
    rw [dif_neg hother, dif_neg hother, decide_eq_false hne, Bool.false_or]

theorem contains_foldl_insert (fds : List Nat) (set : FdSet) (hfds : ∀ fd ∈ fds, fd < capacity)
    (other : Nat) :
    (fds.foldl insert set).contains other = (decide (other ∈ fds) || set.contains other) := by
  induction fds generalizing set with
  | nil => simp
  | cons fd fds ih =>
    obtain ⟨hfd, hrest⟩ := List.forall_mem_cons.mp hfds
    rw [List.foldl_cons, ih _ hrest, contains_insert set hfd]
    simp only [List.mem_cons, Bool.decide_or, Bool.or_left_comm, Bool.or_assoc]

/-- The members of a set made from a list are those of the list. -/
theorem contains_ofList {fds : List Nat} (hfds : ∀ fd ∈ fds, fd < capacity) (other : Nat) :
    (ofList fds).contains other = decide (other ∈ fds) := by
  rw [ofList, contains_foldl_insert fds empty hfds, contains_empty, Bool.or_false]

/-- The set that a select on one descriptor is given. -/
theorem contains_alone {fd : Nat} (hfd : fd < capacity) (other : Nat) :
    (empty.insert fd).contains other = decide (other = fd) := by
  rw [contains_insert empty hfd, contains_empty, Bool.or_false]

end FdSet

variable {host : Host} {fd : Descriptor} {socket : Socket}

/-- A select on one descriptor looks at no other. -/
theorem watched_alone {number : Nat} (hnumber : number < FdSet.capacity) {limit : Int32}
    (hlimit : limit.toInt.toNat = number + 1) :
    watched limit (FdSet.empty.insert number) (FdSet.empty.insert number) = [number] := by
  have halone : (fun fd => (FdSet.empty.insert number).contains fd ||
      (FdSet.empty.insert number).contains fd) = fun fd => decide (fd = number) :=
    funext fun other => by rw [Bool.or_self, FdSet.contains_alone hnumber]
  -- the limit is just above the descriptor, so that only smaller ones come before it
  have hbelow : (List.range number).filter (fun fd => decide (fd = number)) = [] := by
    refine List.filter_eq_nil_iff.mpr fun other hother => ?_
    have hlt : other < number := List.mem_range.mp hother
    simpa using Nat.ne_of_lt hlt
  rw [watched, hlimit, halone, List.range_succ, List.filter_append, hbelow, List.nil_append,
    List.filter_cons_of_pos (by simp), List.filter_nil]

/-- What a select on one descriptor finds is found out about this descriptor alone. -/
theorem contains_filter_alone {number : Nat} (hnumber : number < FdSet.capacity) (p : Nat → Bool)
    (other : Nat) :
    (FdSet.ofList ([number].filter p)).contains other = (decide (other = number) && p number) := by
  have hbelow : ∀ fd ∈ [number].filter p, fd < FdSet.capacity := by
    intro fd hfd
    rw [List.mem_singleton.mp (List.mem_filter.mp hfd).1]
    exact hnumber
  rw [FdSet.contains_ofList hbelow]
  cases hp : p number with
  | true => simp [List.filter_cons_of_pos hp]
  | false => simp [hp]

/-- A select on one open file finds out the condition of this file. -/
theorem select_alone {number : Nat} (hnumber : number < FdSet.capacity) {limit : Int32}
    (hlimit : limit.toInt.toNat = number + 1) {file : File}
    (hfile : host.file? (Int32.ofNat number) = some file) :
    let alone := FdSet.empty.insert number
    ∃ writable exceptional, select limit alone alone host = (.ok (writable, exceptional), host) ∧
      (∀ fd, writable.contains fd = (decide (fd = number) && (host.condition file).1)) ∧
      ∀ fd, exceptional.contains fd = (decide (fd = number) && (host.condition file).2) := by
  intro alone
  have hopen : [number].all (fun fd => (host.file? (Int32.ofNat fd)).isSome) = true := by
    simp [hfile]
  have hself : alone.contains number = true := by simp [alone, FdSet.contains_alone hnumber]
  rw [select, watched_alone hnumber hlimit, if_pos hopen]
  refine ⟨_, _, rfl, fun fd => ?_, fun fd => ?_⟩
  · rw [contains_filter_alone hnumber, hself, Bool.true_and]
    dsimp only
    rw [hfile]
    rfl
  · rw [contains_filter_alone hnumber, hself, Bool.true_and]
    dsimp only
    rw [hfile]
    rfl

/-- A descriptor that fits into a set, as a number. -/
theorem toNat_of_watchable (hnonneg : 0 ≤ fd) (hfits : fd < 1024) :
    fd.toInt.toNat < FdSet.capacity ∧ (fd + 1).toInt.toNat = fd.toInt.toNat + 1 ∧
      Int32.ofNat fd.toInt.toNat = fd := by
  have hlow : 0 ≤ fd.toInt := Int32.le_iff_toInt_le.mp hnonneg
  have hhigh : fd.toInt < 1024 := Int32.lt_iff_toInt_lt.mp hfits
  -- adding one wraps around only at the end of the range, far above what a set has room for
  have hnext : (fd + 1).toInt = fd.toInt + 1 := by
    rw [Int32.toInt_add]
    show (fd.toInt + 1).bmod (2 ^ 32) = fd.toInt + 1
    exact Int.bmod_eq_of_le (by omega) (by omega)
  refine ⟨?_, ?_, ?_⟩
  · show fd.toInt.toNat < 1024
    omega
  · omega
  · rw [← Int32.ofInt_eq_ofNat, Int.toNat_of_nonneg hlow, Int32.ofInt_toInt]

/-- A select on one descriptor that is not open fails. -/
theorem select_alone_closed {number : Nat} (hnumber : number < FdSet.capacity) {limit : Int32}
    (hlimit : limit.toInt.toNat = number + 1) (hfile : host.file? (Int32.ofNat number) = none) :
    let alone := FdSet.empty.insert number
    select limit alone alone host = (.error .badDescriptor, host) := by
  intro alone
  have hclosed : ¬ [number].all (fun fd => (host.file? (Int32.ofNat fd)).isSome) = true := by
    simp [hfile]
  rw [select, watched_alone hnumber hlimit, if_neg hclosed]

/-- The descriptors that a set has room for. -/
abbrev Watchable (fd : Descriptor) : Prop := 0 ≤ fd ∧ fd < 1024

/-- The check refuses all others. -/
theorem refused_iff : fd < 0 ∨ FdSet.capacity ≤ fd.toInt.toNat ↔ ¬ Watchable fd := by
  rw [Watchable, Int32.le_iff_toInt_le, Int32.lt_iff_toInt_lt, Int32.lt_iff_toInt_lt]
  show fd.toInt < 0 ∨ 1024 ≤ fd.toInt.toNat ↔ ¬ (0 ≤ fd.toInt ∧ fd.toInt < 1024)
  omega

/-- **The readiness of a descriptor** that a set has room for is the condition of the file behind it. -/
theorem pollConnect_watchable (h : Watchable fd) (host : Host) :
    pollConnect fd host =
      (match host.file? fd with
        | some file => .ok ⟨(host.condition file).1, (host.condition file).2⟩
        | none => .error (.system .badDescriptor),
      host) := by
  obtain ⟨hnumber, hlimit, hback⟩ := toNat_of_watchable h.1 h.2
  rw [pollConnect, if_neg (mt refused_iff.mp (not_not.mpr h))]
  cases hfile : host.file? fd with
  | some file =>
    obtain ⟨writable, exceptional, hselect, hwritable, hexceptional⟩ :=
      select_alone hnumber hlimit (hback.symm ▸ hfile)
    have hwritable' : writable.contains fd.toInt.toNat = (host.condition file).1 := by
      rw [hwritable, decide_eq_true rfl, Bool.true_and]
    have hexceptional' : exceptional.contains fd.toInt.toNat = (host.condition file).2 := by
      rw [hexceptional, decide_eq_true rfl, Bool.true_and]
    simp only [primitive, hselect, ← hwritable', ← hexceptional']
    rfl
  | none =>
    simp only [primitive, select_alone_closed hnumber hlimit (hback.symm ▸ hfile)]
    rfl

/-- The readiness of a socket. -/
theorem pollConnect_eq (hnonneg : 0 ≤ fd) (hfits : fd < 1024) (hsocket : host.socket fd = .ok socket) :
    pollConnect fd host = (.ok ⟨host.isWritable socket, host.isExceptional socket⟩, host) := by
  rw [pollConnect_watchable ⟨hnonneg, hfits⟩, socket_eq_ok_iff.mp hsocket]
  rfl

/-- Checking readiness changes nothing. -/
theorem pollConnect_snd (fd : Descriptor) (host : Host) : (pollConnect fd host).2 = host := by
  have hselect (limit : Int32) (write except : FdSet) : (select limit write except host).2 = host := by
    unfold select
    dsimp only
    split
    · rfl
    · rfl
  unfold pollConnect
  split
  · rfl
  · exact hselect _ _ _

end NonblockingSocket.Host

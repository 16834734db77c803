import NonblockingSocket.Proofs.DescriptorSets

/-!
# What a readiness check does with descriptor sets

A readiness check puts its descriptor into two sets, hands them to a select, and looks the descriptor up in
what comes back. A set has room for some descriptors only. Beyond these there is no word for the bit of a
descriptor, so none of this may be done for others, and the check refuses them first.

- `checkReadiness`: the check over any operations on descriptor sets; `checkReadiness_plain`: over the
  usual ones it is the check of the stack;
- `setUses`: what the check does with descriptor sets, one use after the other;
- `ChecksAlone`: a check that stays within the sets and speaks of its own descriptor only, and
  `Host.pollConnect_checksAlone`: every check is one.
-/

namespace NonblockingSocket.Host

variable {m : Type → Type} {fd : Descriptor} {host : Host}

/-! ### The check, over any operations -/

/-- The operations that a readiness check is made of, as programs of some kind. -/
structure SetOperations (m : Type → Type) where
  insert : FdSet → Nat → m FdSet
  contains : FdSet → Nat → m Bool
  select : Int32 → FdSet → FdSet → m (Except IoError (FdSet × FdSet))

/-- Looks a descriptor up in what a select has answered. -/
def lookUp [Monad m] (operations : SetOperations m) (number : Nat) :
    Except IoError (FdSet × FdSet) → m (Except IoError Readiness)
  | .error error => return .error error
  | .ok (writable, exceptional) => do
    let writable ← operations.contains writable number
    let exceptional ← operations.contains exceptional number
    return .ok ⟨writable, exceptional⟩

/-- Checks the readiness of a descriptor by such operations. -/
def checkReadiness [Monad m] (operations : SetOperations m) (fd : Descriptor) :
    m (Except IoError Readiness) := do
  if fd < 0 ∨ FdSet.capacity ≤ fd.toInt.toNat then
    return .error (.custom .invalidInput "descriptor out of range for select")
  else
    let number := fd.toInt.toNat
    let write ← operations.insert .empty number
    let except ← operations.insert .empty number
    lookUp operations number (← operations.select (fd + 1) write except)

/-- The operations on the descriptor sets of a host. -/
def SetOperations.plain : SetOperations (StateM Host) where
  insert set number := fun host => (set.insert number, host)
  contains set number := fun host => (set.contains number, host)
  select limit write except := primitive (Host.select limit write except)

/-- The outcome of the select that a check makes. -/
def selectAlone (fd : Descriptor) (host : Host) : Except IoError (FdSet × FdSet) × Host :=
  let alone := FdSet.empty.insert fd.toInt.toNat
  primitive (select (fd + 1) alone alone) host

theorem pollConnect_eq_selectAlone (h : Watchable fd) (host : Host) :
    pollConnect fd host =
      ((selectAlone fd host).1.map fun (writable, exceptional) =>
        ⟨writable.contains fd.toInt.toNat, exceptional.contains fd.toInt.toNat⟩,
      (selectAlone fd host).2) := by
  rw [pollConnect, if_neg (mt refused_iff.mp (not_not.mpr h))]
  rfl

theorem pollConnect_refused (h : ¬ Watchable fd) (host : Host) :
    pollConnect fd host =
      (.error (.custom .invalidInput "descriptor out of range for select"), host) := by
  rw [pollConnect, if_pos (refused_iff.mpr h)]

theorem checkReadiness_refused [Monad m] (operations : SetOperations m) (h : ¬ Watchable fd) :
    checkReadiness operations fd =
      pure (.error (.custom .invalidInput "descriptor out of range for select")) := by
  rw [checkReadiness, if_pos (refused_iff.mpr h)]

theorem run_plain (h : Watchable fd) (host : Host) :
    (checkReadiness .plain fd).run host =
      (lookUp .plain fd.toInt.toNat (selectAlone fd host).1).run (selectAlone fd host).2 := by
  rw [checkReadiness, if_neg (mt refused_iff.mp (not_not.mpr h))]
  rfl

/-- Over these, the check is the one of the stack. -/
theorem checkReadiness_plain (fd : Descriptor) (host : Host) :
    (checkReadiness .plain fd).run host = pollConnect fd host := by
  by_cases h : Watchable fd
  · rw [run_plain h, pollConnect_eq_selectAlone h]
    rcases selectAlone fd host with ⟨error | ⟨writable, exceptional⟩, after⟩
    · rfl
    · rfl
  · rw [checkReadiness_refused _ h, pollConnect_refused h]
    rfl

/-! ### What is used -/

/-- A use of descriptor sets. -/
inductive SetUse where
  | insert (set : FdSet) (number : Nat)
  | contains (set : FdSet) (number : Nat)
  | select (limit : Int32) (write except : FdSet)

/-- The same operations, each of which notes that it was used. -/
def SetOperations.noting : SetOperations (StateM (Host × List SetUse)) where
  insert set number := fun (host, uses) => (set.insert number, host, uses ++ [.insert set number])
  contains set number := fun (host, uses) => (set.contains number, host, uses ++ [.contains set number])
  select limit write except := fun (host, uses) =>
    let (answer, host) := primitive (Host.select limit write except) host
    (answer, host, uses ++ [.select limit write except])

/-- What a check does with descriptor sets, in order. -/
def setUses (fd : Descriptor) (host : Host) : List SetUse :=
  ((checkReadiness .noting fd).run (host, [])).2.2

theorem run_noting (h : Watchable fd) (host : Host) :
    let number := fd.toInt.toNat
    let alone := FdSet.empty.insert number
    (checkReadiness .noting fd).run (host, []) =
      (lookUp .noting number (selectAlone fd host).1).run ((selectAlone fd host).2,
        [.insert .empty number, .insert .empty number, .select (fd + 1) alone alone]) := by
  rw [checkReadiness, if_neg (mt refused_iff.mp (not_not.mpr h))]
  rfl

/-- Noting what is used changes nothing else. -/
theorem checkReadiness_noting (fd : Descriptor) (host : Host) :
    (checkReadiness .noting fd).run (host, []) =
      ((pollConnect fd host).1, (pollConnect fd host).2, setUses fd host) := by
  unfold setUses
  by_cases h : Watchable fd
  · rw [run_noting h, pollConnect_eq_selectAlone h]
    rcases selectAlone fd host with ⟨error | ⟨writable, exceptional⟩, after⟩
    · rfl
    · rfl
  · rw [checkReadiness_refused _ h, pollConnect_refused h]
    rfl

/-- Nothing is done for a descriptor that a set has no room for. -/
theorem setUses_refused (h : ¬ Watchable fd) (host : Host) : setUses fd host = [] := by
  rw [setUses, checkReadiness_refused _ h]
  rfl

/-- What is done for a descriptor that a set has room for. It is looked up only if the select succeeds. -/
theorem setUses_watchable (h : Watchable fd) (host : Host) :
    let number := fd.toInt.toNat
    let alone := FdSet.empty.insert number
    ∃ lookups,
      setUses fd host =
        [.insert .empty number, .insert .empty number, .select (fd + 1) alone alone] ++ lookups ∧
      match host.file? fd with
      | some _ => ∃ writable exceptional,
          lookups = [.contains writable number, .contains exceptional number]
      | none => lookups = [] := by
  intro number alone
  obtain ⟨hnumber, hlimit, hback⟩ := toNat_of_watchable h.1 h.2
  rw [setUses, run_noting h, selectAlone, primitive]
  cases hfile : host.file? fd with
  | some file =>
    obtain ⟨writable, exceptional, hselect, -, -⟩ := select_alone hnumber hlimit (hback.symm ▸ hfile)
    rw [hselect]
    exact ⟨[.contains writable number, .contains exceptional number], rfl, writable, exceptional, rfl⟩
  | none =>
    rw [select_alone_closed hnumber hlimit (hback.symm ▸ hfile)]
    exact ⟨[], rfl, rfl⟩

/-! ### What a check is about -/

/-- Of all the bits of the set, just that of the descriptor is set. -/
def FdSet.IsAlone (set : FdSet) (fd : Descriptor) : Prop :=
  ∀ (word : Fin 16) (place : Fin 64),
    set.words[word].toNat.testBit place = true ↔ (64 * word + place : Int) = fd.toInt

/-- The use is about the descriptor alone, and within the sixteen words of a set. -/
def SetUse.IsAbout (fd : Descriptor) : SetUse → Prop
  | .insert set number => set = .empty ∧ number = fd.toInt ∧ number / 64 < 16
  | .contains _ number => number = fd.toInt ∧ number / 64 < 16
  | .select limit write except =>
    limit.toInt = fd.toInt + 1 ∧ limit.toInt ≤ 1024 ∧ write.IsAlone fd ∧ except.IsAlone fd

/-- The members of a set are its bits. -/
theorem contains_eq_testBit (set : FdSet) (word : Fin 16) (place : Fin 64) :
    set.contains (64 * word + place) = set.words[word].toNat.testBit place := by
  have hword : (64 * word + place : Nat) / 64 = word := by omega
  have hplace : (64 * word + place : Nat) % 64 = place := by omega
  have hfits : (64 * word + place : Nat) / 64 < 16 := hword.symm ▸ word.isLt
  rw [FdSet.contains, dif_pos hfits, FdSet.and_bit_ne_zero, hplace]
  simp only [hword]
  rfl

theorem isAlone_insert (h : Watchable fd) : (FdSet.empty.insert fd.toInt.toNat).IsAlone fd := by
  intro word place
  have hnonneg : 0 ≤ fd.toInt := Int32.le_iff_toInt_le.mp h.1
  rw [← contains_eq_testBit, FdSet.contains_alone (toNat_of_watchable h.1 h.2).1, decide_eq_true_iff]
  omega

/-- **A check that is about its descriptor alone.** Sets are used only for a descriptor that they have room for,
and each use stays within them. What is answered is the condition of the file behind the descriptor. All other
descriptors are refused. -/
structure ChecksAlone (fd : Descriptor) (host : Host) : Prop where
  /-- The check over any operations is that of the stack, whether its uses are noted or not. -/
  plain : (checkReadiness .plain fd).run host = pollConnect fd host
  noting :
    (checkReadiness .noting fd).run (host, []) =
      ((pollConnect fd host).1, (pollConnect fd host).2, setUses fd host)
  inserts_iff : (∃ set number, .insert set number ∈ setUses fd host) ↔ 0 ≤ fd ∧ fd < 1024
  selects_iff :
    (∃ limit write except, .select limit write except ∈ setUses fd host) ↔ 0 ≤ fd ∧ fd < 1024
  /-- The select fails only on a descriptor that nobody holds open, and then leaves nothing to look up. -/
  looksUp_iff :
    (∃ set number, .contains set number ∈ setUses fd host) ↔
      (0 ≤ fd ∧ fd < 1024) ∧ (host.file? fd).isSome = true
  isAbout : ∀ use ∈ setUses fd host, use.IsAbout fd
  answer :
    pollConnect fd host =
      (if 0 ≤ fd ∧ fd < 1024 then
        match host.file? fd with
        | some file => .ok ⟨(host.condition file).1, (host.condition file).2⟩
        | none => .error (.system .badDescriptor)
      else .error (.custom .invalidInput "descriptor out of range for select"),
      host)

/-- Whatever is used for a descriptor is about it alone. -/
theorem isAbout_of_mem_setUses (h : Watchable fd) {use : SetUse} (huse : use ∈ setUses fd host) :
    use.IsAbout fd := by
  obtain ⟨lookups, huses, hlookups⟩ := setUses_watchable h host
  obtain ⟨-, hlimit, -⟩ := toNat_of_watchable h.1 h.2
  have hnonneg : 0 ≤ fd.toInt := Int32.le_iff_toInt_le.mp h.1
  have hless : fd.toInt < 1024 := Int32.lt_iff_toInt_lt.mp h.2
  have hnumber : (fd.toInt.toNat : Int) = fd.toInt ∧ fd.toInt.toNat / 64 < 16 := by omega
  have hselect : (fd + 1).toInt = fd.toInt + 1 ∧ (fd + 1).toInt ≤ 1024 := by omega
  rw [huses] at huse
  -- the sets are filled and handed over in any case, and looked up only if the select succeeds
  rcases List.mem_append.mp huse with hfirst | hlast
  · simp only [List.mem_cons, List.not_mem_nil, or_false] at hfirst
    rcases hfirst with rfl | rfl | rfl
    · exact ⟨rfl, hnumber⟩
    · exact ⟨rfl, hnumber⟩
    · exact ⟨hselect.1, hselect.2, isAlone_insert h, isAlone_insert h⟩
  · cases hfile : host.file? fd with
    | some file =>
      rw [hfile] at hlookups
      obtain ⟨writable, exceptional, rfl⟩ := hlookups
      simp only [List.mem_cons, List.not_mem_nil, or_false] at hlast
      rcases hlast with rfl | rfl
      · exact hnumber
      · exact hnumber
    | none =>
      rw [hfile] at hlookups
      subst hlookups
      cases hlast

/-- **Every check is about its descriptor alone.** -/
theorem pollConnect_checksAlone (fd : Descriptor) (host : Host) : ChecksAlone fd host := by
  -- either all that is said follows from the list of uses, or there is no use at all
  by_cases h : Watchable fd
  · obtain ⟨lookups, huses, hlookups⟩ := setUses_watchable h host
    refine ⟨checkReadiness_plain fd host, checkReadiness_noting fd host, ?_, ?_, ?_,
      fun use => isAbout_of_mem_setUses h, ?_⟩
    · rw [huses]
      exact iff_of_true ⟨_, _, List.mem_cons_self⟩ h
    · rw [huses]
      refine iff_of_true ⟨fd + 1, FdSet.empty.insert fd.toInt.toNat, FdSet.empty.insert fd.toInt.toNat,
        List.mem_append_left _ ?_⟩ h
      exact List.mem_cons_of_mem _ (List.mem_cons_of_mem _ List.mem_cons_self)
    · cases hfile : host.file? fd with
      | some file =>
        rw [hfile] at hlookups
        obtain ⟨writable, exceptional, rfl⟩ := hlookups
        rw [huses]
        exact iff_of_true ⟨writable, _, List.mem_append_right _ List.mem_cons_self⟩ ⟨h, rfl⟩
      | none =>
        rw [hfile] at hlookups
        subst hlookups
        rw [huses]
        refine iff_of_false ?_ fun hopen => Bool.false_ne_true hopen.2
        rintro ⟨set, number, hmem⟩
        simp at hmem
    · rw [if_pos h]
      exact pollConnect_watchable h host
  · have hnone : ∀ use, use ∉ setUses fd host := by
      rw [setUses_refused h host]
      exact fun _ => List.not_mem_nil
    refine ⟨checkReadiness_plain fd host, checkReadiness_noting fd host,
      iff_of_false ?_ h, iff_of_false ?_ h, iff_of_false ?_ fun hopen => h hopen.1,
      fun use huse => absurd huse (hnone use), ?_⟩
    · rintro ⟨set, number, huse⟩
      exact hnone _ huse
    · rintro ⟨limit, write, except, huse⟩
      exact hnone _ huse
    · rintro ⟨set, number, huse⟩
      exact hnone _ huse
    · rw [if_neg h]
      exact pollConnect_refused h host

end NonblockingSocket.Host

import Mathlib.Order.Bounds.Basic
import NonblockingSocket.Capability.Walk

/-!
# Capability sets are sets

A capability set has a capability or has it not, for each of its bits. All that is done with such sets can be
told by that: what contains what is an order, and the union is the least set above.

- `Capabilities.Has`: the view of a capability set as a set, with what each operation does to it;
- the order of capability sets, `Capabilities.le_iff`, with unions as suprema;
- `Gathering`: ways to unite sets, and `Gathering.isLUB_result`: which does not depend on the way;
- `Capabilities.union_isLUB`: the same for walks that unite one operand after the other.
-/

namespace NonblockingSocket

namespace Capabilities

/-! ### The view as a set -/

/-- Whether the capability of a bit is in the set. -/
def Has (set : Capabilities) (bit : Nat) : Prop := set.bits.toNat.testBit bit = true

theorem ext_has {a b : Capabilities} (h : ∀ bit, a.Has bit ↔ b.Has bit) : a = b := by
  have hbits : a.bits = b.bits :=
    UInt32.toNat_inj.mp (Nat.eq_of_testBit_eq fun bit => Bool.eq_iff_iff.mpr (h bit))
  exact congrArg mk hbits

@[simp] theorem has_union (a b : Capabilities) (bit : Nat) :
    (a ||| b).Has bit ↔ a.Has bit ∨ b.Has bit := by
  show (a.bits ||| b.bits).toNat.testBit bit = true ↔ _
  rw [UInt32.toNat_or, Nat.testBit_or, Bool.or_eq_true]
  rfl

@[simp] theorem not_has_none (bit : Nat) : ¬ none.Has bit := by
  show ¬ Nat.testBit 0 bit = true
  rw [Nat.zero_testBit]
  exact Bool.false_ne_true

/-- What is contained has nothing that the set has not. -/
theorem contains_iff {set other : Capabilities} :
    set.contains other = true ↔ ∀ bit, other.Has bit → set.Has bit := by
  have hand : set.contains other = true ↔ set.bits &&& other.bits = other.bits := by
    rw [contains, beq_iff_eq]
  rw [hand]
  constructor
  · intro h bit hbit
    have hboth : (set.bits &&& other.bits).toNat.testBit bit = true := h.symm ▸ hbit
    rw [UInt32.toNat_and, Nat.testBit_and, Bool.and_eq_true] at hboth
    exact hboth.1
  · intro h
    refine UInt32.toNat_inj.mp (Nat.eq_of_testBit_eq fun bit => ?_)
    rw [UInt32.toNat_and, Nat.testBit_and, Bool.and_eq_right_iff_imp]
    exact h bit

theorem contains_none (set : Capabilities) : set.contains none = true :=
  contains_iff.mpr fun bit hnone => absurd hnone (not_has_none bit)

/-- An empty set has nothing. -/
theorem isEmpty_iff {set : Capabilities} : set.isEmpty = true ↔ ∀ bit, ¬ set.Has bit := by
  rw [isEmpty, beq_iff_eq]
  constructor
  · intro h bit
    have hnone : set = none := congrArg mk h
    exact hnone ▸ not_has_none bit
  · intro h
    exact congrArg bits (ext_has (b := none) fun bit => iff_of_false (h bit) (not_has_none bit))

/-! ### The order -/

/-- One set is below another if it is contained in it, and a union is the least set above. -/
instance : SemilatticeSup Capabilities where
  le a b := b.contains a = true
  le_refl _ := contains_iff.mpr fun _ => id
  le_trans _ _ _ hab hbc :=
    contains_iff.mpr fun bit ha => contains_iff.mp hbc bit (contains_iff.mp hab bit ha)
  le_antisymm _ _ hab hba :=
    ext_has fun bit => ⟨contains_iff.mp hab bit, contains_iff.mp hba bit⟩
  sup := union
  le_sup_left a b := contains_iff.mpr fun bit ha => (has_union a b bit).mpr (.inl ha)
  le_sup_right a b := contains_iff.mpr fun bit hb => (has_union a b bit).mpr (.inr hb)
  sup_le a b _ hac hbc := contains_iff.mpr fun bit hab =>
    ((has_union a b bit).mp hab).elim (contains_iff.mp hac bit) (contains_iff.mp hbc bit)

instance : OrderBot Capabilities where
  bot := none
  bot_le := contains_none

theorem le_iff {a b : Capabilities} : a ≤ b ↔ b.contains a = true := Iff.rfl

end Capabilities

/-! ### Gathering sets -/

/-- A way to unite sets, by making a new set or by extending the first in place. -/
inductive Gathering where
  | single (set : Capabilities)
  | unite (first second : Gathering)
  | extend (first second : Gathering)

namespace Gathering

/-- The sets that are united, from first to last. -/
def operands : Gathering → List Capabilities
  | single set => [set]
  | unite first second => first.operands ++ second.operands
  | extend first second => first.operands ++ second.operands

/-- What comes of it. -/
def result : Gathering → Capabilities
  | single set => set
  | unite first second => ((CapabilityStep.unite second.result).take first.result).2
  | extend first second => ((CapabilityStep.extend second.result).take first.result).2

/-- **What comes of it is the least set that contains all.** -/
theorem isLUB_result (gathering : Gathering) :
    IsLUB {set | set ∈ gathering.operands} gathering.result := by
  have hunion {first second : Gathering} (hfirst : IsLUB {set | set ∈ first.operands} first.result)
      (hsecond : IsLUB {set | set ∈ second.operands} second.result) :
      IsLUB {set | set ∈ first.operands ++ second.operands} (first.result ||| second.result) := by
    have hsets : {set | set ∈ first.operands ++ second.operands} =
        {set | set ∈ first.operands} ∪ {set | set ∈ second.operands} :=
      Set.ext fun set => List.mem_append
    rw [hsets]
    exact hfirst.union hsecond
  -- both ways to unite make the same set, so that one case serves for both
  induction gathering with
  | single set =>
    have hset : {other | other ∈ operands (single set)} = {set} := Set.ext fun _ => List.mem_singleton
    rw [hset]
    exact isLUB_singleton
  | unite first second ihfirst ihsecond => exact hunion ihfirst ihsecond
  | extend first second ihfirst ihsecond => exact hunion ihfirst ihsecond

/-- It depends only on which sets there are. -/
theorem result_congr {gathering other : Gathering}
    (h : ∀ set, set ∈ gathering.operands ↔ set ∈ other.operands) : gathering.result = other.result :=
  gathering.isLUB_result.unique (Set.ext h ▸ other.isLUB_result)

end Gathering

/-! ### One operand after the other -/

/-- One more operand, for a new set or to be added in place. -/
structure Join where
  inPlace : Bool
  operand : Capabilities

/-- The step that unites the current set with the operand. -/
def Join.step (join : Join) : CapabilityStep :=
  if join.inPlace then .extend join.operand else .unite join.operand

namespace Gathering

/-- What was gathered, and one operand more. -/
def join (gathering : Gathering) (join : Join) : Gathering :=
  if join.inPlace then gathering.extend (.single join.operand)
  else gathering.unite (.single join.operand)

/-- A row of operands, united from first to last. -/
def row (start : Capabilities) (joins : List Join) : Gathering := joins.foldl join (.single start)

theorem result_join (gathering : Gathering) (join : Join) :
    (gathering.join join).result = (join.step.take gathering.result).2 := by
  rw [Gathering.join, Join.step]
  split
  · rfl
  · rfl

theorem operands_join (gathering : Gathering) (join : Join) :
    (gathering.join join).operands = gathering.operands ++ [join.operand] := by
  rw [Gathering.join]
  split
  · rfl
  · rfl

theorem operands_row (start : Capabilities) (joins : List Join) :
    (row start joins).operands = start :: joins.map Join.operand := by
  -- a row grows at its start, so the induction is over any gathering to begin with
  have hfold (gathering : Gathering) :
      (joins.foldl join gathering).operands = gathering.operands ++ joins.map Join.operand := by
    induction joins generalizing gathering with
    | nil => exact (List.append_nil _).symm
    | cons join joins ih =>
      rw [List.foldl_cons, ih, operands_join, List.append_assoc]
      rfl
  exact hfold (.single start)

end Gathering

namespace Capabilities

/-- The sets on a walk over a row of operands, the start among them. -/
def stages (start : Capabilities) (joins : List Join) : List Capabilities :=
  start :: (start.walk (joins.map Join.step)).map Prod.snd

theorem stages_cons (start : Capabilities) (join : Join) (joins : List Join) :
    start.stages (join :: joins) = start :: (join.step.take start).2.stages joins := rfl

/-- A step of the walk adds its operand. -/
theorem take_step (start : Capabilities) (join : Join) :
    (join.step.take start).2 = start ||| join.operand := by
  rw [Join.step]
  split
  · rfl
  · rfl

/-- The walk ends with what comes of the row. -/
theorem getLast?_stages (start : Capabilities) (joins : List Join) :
    (start.stages joins).getLast? = some (Gathering.row start joins).result := by
  -- as the row is a fold, so the walk is taken up from any gathering
  have hfold (gathering : Gathering) : (gathering.result.stages joins).getLast? =
      some (joins.foldl Gathering.join gathering).result := by
    induction joins generalizing gathering with
    | nil => rfl
    | cons join joins ih =>
      rw [stages_cons, List.foldl_cons, ← ih, Gathering.result_join]
      rfl
  exact hfold (.single start)

/-- **Nothing is lost on the way.** -/
theorem pairwise_stages (start : Capabilities) (joins : List Join) :
    (start.stages joins).Pairwise (· ≤ ·) := by
  induction joins generalizing start with
  | nil => exact List.pairwise_singleton _ _
  | cons join joins ih =>
    have hstep : start ≤ (join.step.take start).2 := by
      rw [take_step]
      exact le_sup_left
    have hrest := ih (join.step.take start).2
    rw [stages_cons]
    refine List.pairwise_cons.mpr ⟨fun later hlater => ?_, hrest⟩
    -- the rest is in order by itself, so that the start has to be below its first set only
    rcases List.mem_cons.mp hlater with rfl | hlater
    · exact hstep
    · exact hstep.trans (List.rel_of_pairwise_cons hrest hlater)

/-- **Capability sets are sets under union.** Containment is an order with the empty set at its bottom. A
walk over a row of operands never loses a capability, and ends with what comes of the row. What comes of any
gathering is the least set that contains all its operands. So it is the same for all gatherings of the same
sets, whatever their order, their grouping, how often an operand is given and which of them are added in
place. -/
theorem union_isLUB :
    (∀ (start : Capabilities) (joins : List Join),
      let stages := start :: (start.walk (joins.map Join.step)).map Prod.snd
      stages.Pairwise (fun earlier later => later.contains earlier = true) ∧
      stages.getLast? = some (Gathering.row start joins).result ∧
      (Gathering.row start joins).operands = start :: joins.map Join.operand) ∧
    (∀ gathering : Gathering, IsLUB {set | set ∈ gathering.operands} gathering.result) ∧
    (∀ gathering other : Gathering, (∀ set, set ∈ gathering.operands ↔ set ∈ other.operands) →
      gathering.result = other.result) ∧
    (∀ a b : Capabilities, a ≤ b ↔ b.contains a = true) ∧
    (∀ a : Capabilities, a.contains a = true ∧ a.contains none = true) ∧
    (∀ a b : Capabilities, a.contains b = true ∧ b.contains a = true ↔ a = b) ∧
    (∀ a b c : Capabilities, a.contains b = true → b.contains c = true → a.contains c = true) ∧
    (∀ a b c : Capabilities, c.contains (a ||| b) = true ↔
      c.contains a = true ∧ c.contains b = true) ∧
    ∀ a : Capabilities, a.isEmpty = true ↔ none.contains a = true := by
  refine ⟨fun start joins => ⟨pairwise_stages start joins, getLast?_stages start joins,
      Gathering.operands_row start joins⟩,
    Gathering.isLUB_result, fun _ _ => Gathering.result_congr, fun _ _ => le_iff,
    fun a => ⟨le_refl a, contains_none a⟩, fun a b => ⟨fun h => le_antisymm h.2 h.1, ?_⟩,
    fun a b c hab hbc => le_trans (a := c) hbc hab, fun a b c => sup_le_iff (a := a), fun a => ?_⟩
  · rintro rfl
    exact ⟨le_refl a, le_refl a⟩
  · rw [isEmpty_iff, contains_iff]
    exact forall_congr' fun bit => ⟨fun h ha => absurd ha h, fun h ha => not_has_none bit (h ha)⟩

/-- The same bits without a name, gathered in two ways: in another order, otherwise grouped, one of them given
twice, and added in place here or there. -/
theorem union_isLUB_regrouped :
    let gathering : Gathering := .extend (.unite (.single ⟨0x80000000⟩) (.single rsaCert)) (.single ⟨0x10⟩)
    let other : Gathering :=
      .unite (.single ⟨0x10⟩) (.extend (.single rsaCert) (.unite (.single ⟨0x80000000⟩) (.single rsaCert)))
    (∀ set, set ∈ gathering.operands ↔ set ∈ other.operands) ∧ gathering.result = other.result ∧
      gathering.result = ⟨0x80000012⟩ := by
  intro gathering other
  have hsame : ∀ set, set ∈ gathering.operands ↔ set ∈ other.operands := by
    intro set
    simp only [gathering, other, Gathering.operands, List.cons_append, List.nil_append, List.mem_cons,
      List.not_mem_nil, or_false]
    tauto
  exact ⟨hsame, union_isLUB.2.2.1 gathering other hsame, by decide⟩

end Capabilities

end NonblockingSocket

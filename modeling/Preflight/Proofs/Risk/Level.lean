import Preflight.Risk.Profile

/-!
# Less evidence, no higher level

A level is found by thresholds, and every one of them is passed from one side only. So evidence
that is no worse in any respect leads to a level that is no higher.

## Main definitions

* `RiskEvidence.NoWorseThan`: evidence that is no worse in any respect.

## Main results

* `RiskEvidence.NoWorseThan.rank_le`: the level for it is no higher.
-/

namespace Preflight

/-- Evidence that is no worse than other evidence in any respect. -/
structure RiskEvidence.NoWorseThan (a b : RiskEvidence) : Prop where
  circular : a.circular ≤ b.circular
  inCycle : a.inCycle = true → b.inCycle = true
  incoming : a.incoming ≤ b.incoming
  untested : a.untested ≤ b.untested
  hasTest : b.hasTest = true → a.hasTest = true
  mutations : a.mutations ≤ b.mutations
  missing : a.missing ≤ b.missing

namespace RiskEvidence

variable {a b : RiskEvidence}

theorem isHigh_iff :
    a.isHigh = true ↔ a.circular ≠ 0 ∨ a.inCycle = true ∨ (5 < a.incoming ∧ a.hasTest ≠ true) ∨
      (3 < a.incoming ∧ 2 < a.untested) ∨ 2 < a.mutations ∨ 5 < a.missing := by
  simp [isHigh, or_assoc]

theorem isMedium_iff :
    a.isMedium = true ↔ (2 < a.incoming ∧ a.hasTest ≠ true) ∨ 0 < a.mutations ∨ 2 < a.missing ∨
      a.hasTest ≠ true := by
  simp [isMedium, or_assoc]

theorem NoWorseThan.isHigh (h : a.NoWorseThan b) (ha : a.isHigh = true) : b.isHigh = true := by
  rw [isHigh_iff] at ha ⊢
  have hcircular := h.circular
  have hincoming := h.incoming
  rcases ha with ha | ha | ⟨ha, htest⟩ | ⟨ha, huntested⟩ | ha | ha
  · exact Or.inl (by omega)
  · exact Or.inr (Or.inl (h.inCycle ha))
  · exact Or.inr (Or.inr (Or.inl ⟨by omega, fun hb => htest (h.hasTest hb)⟩))
  · exact Or.inr (Or.inr (Or.inr (Or.inl ⟨by omega, Nat.lt_of_lt_of_le huntested h.untested⟩)))
  · exact Or.inr (Or.inr (Or.inr (Or.inr (Or.inl (Int.lt_of_lt_of_le ha h.mutations)))))
  · exact Or.inr (Or.inr (Or.inr (Or.inr (Or.inr (Int.lt_of_lt_of_le ha h.missing)))))

theorem NoWorseThan.isMedium (h : a.NoWorseThan b) (ha : a.isMedium = true) :
    b.isMedium = true := by
  rw [isMedium_iff] at ha ⊢
  rcases ha with ⟨ha, htest⟩ | ha | ha | htest
  · exact Or.inl ⟨Nat.lt_of_lt_of_le ha h.incoming, fun hb => htest (h.hasTest hb)⟩
  · exact Or.inr (Or.inl (Int.lt_of_lt_of_le ha h.mutations))
  · exact Or.inr (Or.inr (Or.inl (Int.lt_of_lt_of_le ha h.missing)))
  · exact Or.inr (Or.inr (Or.inr fun hb => htest (h.hasTest hb)))

/-- **Evidence that is no worse leads to no higher level.** -/
theorem NoWorseThan.rank_le (h : a.NoWorseThan b) :
    (classifyRisk b).rank ≤ (classifyRisk a).rank := by
  have hrank : ∀ e : RiskEvidence, (classifyRisk e).rank =
      if e.isHigh then 0 else if e.isMedium then 1 else 2 := by
    intro e
    rw [classifyRisk, apply_ite RiskLevel.rank, apply_ite RiskLevel.rank]
    rfl
  rw [hrank, hrank]
  by_cases hhigh : a.isHigh = true
  · rw [if_pos (h.isHigh hhigh)]
    exact Nat.zero_le _
  · by_cases hmedium : a.isMedium = true
    · rw [if_neg hhigh, if_pos hmedium, if_pos (h.isMedium hmedium)]
      split
      · exact Nat.zero_le 1
      · exact Nat.le_refl 1
    · rw [if_neg hhigh, if_neg hmedium]
      split
      · exact Nat.zero_le 2
      · split
        · exact Nat.le_succ 1
        · exact Nat.le_refl 2

end RiskEvidence

end Preflight

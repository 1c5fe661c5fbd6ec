import Gcosmos.Gsi.Types

/-!
# Proposer selection and the precommit decision

The two decisions of the consensus strategy that read nothing but the round data:
`DefaultProposerSelection` picks the proposer of a round, and `DecidePrecommit` precommits the
most prevoted block when its power reaches a Byzantine majority of the available power.

`DefaultProposerSelection` computes its index in Go's signed `int`: `int(h)` of a height of
`2^63` or more is negative, as is a sum `int(h) + int(r)` past `2^63 - 1`, and Go's `%` keeps the
sign of its dividend, so that the index is then negative and `valSet.Validators[i]` panics. Below
`2^63` the index is `(h + r) mod N`.

`tmconsensus.ByzantineMajority` is not in the repository's sources; it is modelled from the spec
(§4.6) as the least power strictly greater than two-thirds of its input.

## Main definitions

* `Gsi.defaultProposerSelection`: `DefaultProposerSelection`.
* `Gsi.byzantineMajority`: `tmconsensus.ByzantineMajority`, from the spec.
* `Gsi.decidePrecommit`: `ConsensusStrategy.DecidePrecommit`.

## Main results

* `Gsi.defaultProposerSelection_of_lt`: below `2^63` the proposer is `Validators[(h + r) mod N]`.
* `Gsi.defaultProposerSelection_rounds`: the proposers of `N` consecutive rounds are the
  validator list rotated, so that each validator proposes once among them.
* `Gsi.defaultProposerSelection_panics_at_two_pow_63`: at `h = 2^63` the index is negative.
* `Gsi.decidePrecommit_eq`: the decision is "precommit the hash iff `3 * power > 2 * available`".
* `Gsi.decidePrecommit_quorum_intersection`: two precommits over the same power rest on prevote
  powers summing to more than four-thirds of it.

Source: `gserver/internal/gsi/consensusstrategy.go`, lines 52–61 and 405–416.
-/

namespace Gcosmos.Gsi

open Go

/-! ### Proposer selection -/

/-- `DefaultProposerSelection`: the validator at index `(int(h) + int(r)) % len(valSet.Validators)`
of the validator set, in Go's `int`. -/
def defaultProposerSelection (h : UInt64) (r : UInt32) (valSet : Tm.ValidatorSet) :
    Outcome Tm.Validator := do
  let proposerIdx ← Go.rem (Go.int (Go.int h.toNat + Go.int r.toNat)) valSet.validators.length
  Go.index valSet.validators proposerIdx

/-- While `h + r` stays below `2^63`, the index the default selection computes in Go's `int` is
`(h + r) mod N`. -/
theorem defaultProposerSelection_eq_index (h : UInt64) (r : UInt32) (valSet : Tm.ValidatorSet)
    (hN : 0 < valSet.validators.length) (hlt : h.toNat + r.toNat < 2 ^ 63) :
    defaultProposerSelection h r valSet =
      Go.index valSet.validators ((h.toNat + r.toNat) % valSet.validators.length : Nat) := by
  have hr : r.toNat < 2 ^ 32 := UInt32.toNat_lt_size r
  have hsum : Go.int (Go.int h.toNat + Go.int r.toNat) = ((h.toNat + r.toNat : Nat) : Int) := by
    rw [Go.int_of_lt (x := h.toNat) (by omega) (by omega),
      Go.int_of_lt (x := r.toNat) (by omega) (by omega), Go.int_of_lt (by omega) (by omega)]
    push_cast
    rfl
  have hmod : Int.tmod ((h.toNat + r.toNat : Nat) : Int) valSet.validators.length =
      (((h.toNat + r.toNat) % valSet.validators.length : Nat) : Int) := by
    rw [Int.tmod_eq_emod (by omega) (by omega)]
    push_cast
    rfl
  simp only [defaultProposerSelection, hsum, Go.rem_of_pos (Int.ofNat_pos.mpr hN), hmod,
    Outcome.ret_bind]

/-- While `h + r` stays below `2^63`, the default selection is round-robin over the validator set:
the proposer is the validator at `(h + r) mod N`. -/
theorem defaultProposerSelection_of_lt (h : UInt64) (r : UInt32) (valSet : Tm.ValidatorSet)
    (hN : 0 < valSet.validators.length) (hlt : h.toNat + r.toNat < 2 ^ 63) :
    defaultProposerSelection h r valSet =
      .ret (valSet.validators.get ⟨(h.toNat + r.toNat) % valSet.validators.length,
        Nat.mod_lt _ hN⟩) := by
  rw [defaultProposerSelection_eq_index h r valSet hN hlt,
    Go.index_of_lt (by omega) (by exact_mod_cast Nat.mod_lt _ hN)]
  rfl

/-- Height `1`, round `0`, two validators: the second one proposes. -/
theorem defaultProposerSelection_one_zero :
    defaultProposerSelection 1 0 ⟨[⟨"a"⟩, ⟨"b"⟩]⟩ = .ret ⟨"b"⟩ :=
  defaultProposerSelection_of_lt _ _ _ (by decide) (by decide)

/-- The proposers of the `N` consecutive rounds `r, …, r + N - 1` of a height are the validator
list rotated by `(h + r) mod N`: every validator of the set proposes exactly once among them, in
the order of the set, while `h + r + N` stays within `2^63` and the rounds below `2^32`. -/
theorem defaultProposerSelection_rounds (h : UInt64) (r : UInt32) (valSet : Tm.ValidatorSet)
    (hN : 0 < valSet.validators.length) (hr : r.toNat + valSet.validators.length ≤ 2 ^ 32)
    (hlt : h.toNat + r.toNat + valSet.validators.length ≤ 2 ^ 63) :
    (List.range valSet.validators.length).map
        (fun k => defaultProposerSelection h (r + UInt32.ofNat k) valSet) =
      (valSet.validators.rotate ((h.toNat + r.toNat) % valSet.validators.length)).map .ret := by
  apply List.ext_getElem (by simp)
  intro k hk hk'
  have hkN : k < valSet.validators.length := by simpa using hk
  have hround : (r + UInt32.ofNat k).toNat = r.toNat + k := by
    show (r.toNat + (UInt32.ofNat k).toNat) % 2 ^ 32 = _
    rw [UInt32.toNat_ofNat_of_lt (by unfold UInt32.size; omega), Nat.mod_eq_of_lt (by omega)]
  have hidx : (h.toNat + (r + UInt32.ofNat k).toNat) % valSet.validators.length =
      (k + (h.toNat + r.toNat) % valSet.validators.length) % valSet.validators.length := by
    rw [hround, Nat.add_mod_mod, show h.toNat + (r.toNat + k) = k + (h.toNat + r.toNat) by omega]
  rw [List.getElem_map, List.getElem_range, List.getElem_map, List.getElem_rotate,
    defaultProposerSelection_eq_index h _ valSet hN (by omega), hidx,
    Go.index_of_lt (by omega) (by exact_mod_cast Nat.mod_lt _ hN)]
  rfl

/-- Height `1`, rounds `0` and `1`, two validators: the second proposes first, then the first. -/
theorem defaultProposerSelection_two_rounds :
    [defaultProposerSelection 1 (0 + UInt32.ofNat 0) ⟨[⟨"a"⟩, ⟨"b"⟩]⟩,
        defaultProposerSelection 1 (0 + UInt32.ofNat 1) ⟨[⟨"a"⟩, ⟨"b"⟩]⟩] =
      [.ret ⟨"b"⟩, .ret ⟨"a"⟩] ∧ 0 < 2 ∧ (0 : UInt32).toNat + 2 ≤ 2 ^ 32 ∧
      (1 : UInt64).toNat + (0 : UInt32).toNat + 2 ≤ 2 ^ 63 :=
  ⟨defaultProposerSelection_rounds 1 0 ⟨[⟨"a"⟩, ⟨"b"⟩]⟩ (by decide) (by decide) (by decide),
    by decide, by decide, by decide⟩

/-- At height `2^63` and round `0`, with three validators, `int(h)` is `-2^63`, whose remainder
modulo `3` is `-2`, and indexing the validators at `-2` panics. -/
theorem defaultProposerSelection_panics_at_two_pow_63 :
    defaultProposerSelection 9223372036854775808 0 ⟨[⟨"a"⟩, ⟨"b"⟩, ⟨"c"⟩]⟩ =
      .panic "runtime error: index out of range [-2]" := by
  decide

/-! ### The precommit decision -/

/-- Modelled from the spec: `tmconsensus.ByzantineMajority`, which is not in the repository's
sources. The spec (§4.6) takes the threshold to be the minimum power strictly more than two-thirds
of the available power, `⌊2n/3⌋ + 1`. -/
def byzantineMajority (n : UInt64) : UInt64 := UInt64.ofNat (2 * n.toNat / 3 + 1)

theorem byzantineMajority_toNat (n : UInt64) : (byzantineMajority n).toNat = 2 * n.toNat / 3 + 1 :=
  UInt64.toNat_ofNat_of_lt (by have := UInt64.toNat_lt_size n; unfold UInt64.size at *; omega)

/-- The threshold is the least power strictly greater than two-thirds of `n`. -/
theorem byzantineMajority_le_iff (n m : UInt64) :
    byzantineMajority n ≤ m ↔ 2 * n.toNat < 3 * m.toNat := by
  show (byzantineMajority n).toNat ≤ m.toNat ↔ _
  rw [byzantineMajority_toNat]
  omega

/-- `ConsensusStrategy.DecidePrecommit`: the most prevoted hash if its prevote power reaches the
Byzantine majority of the available power, and the nil precommit `""` otherwise. -/
def decidePrecommit (vs : Tm.VoteSummary) : String × Option GoError :=
  let maj := byzantineMajority vs.availablePower
  if maj ≤ vs.prevoteBlockPower vs.mostVotedPrevoteHash then (vs.mostVotedPrevoteHash, none)
  else ("", none)

theorem decidePrecommit_eq (vs : Tm.VoteSummary) :
    decidePrecommit vs =
      if 2 * vs.availablePower.toNat < 3 * (vs.prevoteBlockPower vs.mostVotedPrevoteHash).toNat
      then (vs.mostVotedPrevoteHash, none) else ("", none) := by
  simp only [decidePrecommit, byzantineMajority_le_iff]

/-- A non-nil precommit rests on prevote power strictly above two-thirds of the available power. -/
theorem two_thirds_lt_of_decidePrecommit {vs : Tm.VoteSummary} (h : (decidePrecommit vs).1 ≠ "") :
    2 * vs.availablePower.toNat < 3 * (vs.prevoteBlockPower vs.mostVotedPrevoteHash).toNat := by
  simp only [decidePrecommit] at h
  split_ifs at h with hmaj
  · exact (byzantineMajority_le_iff _ _).mp hmaj
  · exact absurd rfl h

/-- Two non-nil precommits over the same available power `P` rest on prevote powers that sum to
more than `4P/3`: two sets of validators of total power `P` holding them share more than `P/3`,
more than the faulty validators can hold. -/
theorem decidePrecommit_quorum_intersection (vs₁ vs₂ : Tm.VoteSummary)
    (hP : vs₁.availablePower = vs₂.availablePower)
    (h₁ : (decidePrecommit vs₁).1 ≠ "") (h₂ : (decidePrecommit vs₂).1 ≠ "") :
    4 * vs₁.availablePower.toNat < 3 * ((vs₁.prevoteBlockPower vs₁.mostVotedPrevoteHash).toNat +
      (vs₂.prevoteBlockPower vs₂.mostVotedPrevoteHash).toNat) := by
  have q₁ := two_thirds_lt_of_decidePrecommit h₁
  have q₂ := two_thirds_lt_of_decidePrecommit h₂
  rw [← hP] at q₂
  omega

/-- Two summaries over a power of `100`, with `67` behind blocks `x` and `y`: both precommit. -/
theorem decidePrecommit_quorum_intersection_67 :
    (decidePrecommit ⟨100, fun _ => 67, "x"⟩).1 ≠ "" ∧
      (decidePrecommit ⟨100, fun _ => 67, "y"⟩).1 ≠ "" ∧ 4 * 100 < 3 * (67 + 67) :=
  ⟨by decide, by decide, decidePrecommit_quorum_intersection ⟨100, fun _ => 67, "x"⟩
    ⟨100, fun _ => 67, "y"⟩ rfl (by decide) (by decide)⟩

end Gcosmos.Gsi

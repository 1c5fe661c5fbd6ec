import Gcosmos.Gsi.Hooks

/-!
# A proposal between two validators

The proposer's `EnterRound` hands a proposal to its engine, which builds a proposed header from it
and sends the header to the other validators. The header carries the proposal's identifier, the
proposal's block annotation as the header's annotations, and its proposal annotation, which is
not persisted, as the proposed header's annotations. Another validator runs the same strategy
over its own run of hooks, with its own signer, and meets the header in `ConsiderProposedBlocks`
once it has entered the same round.

The two results of this file follow a proposal of pending transactions from the proposer to such
a validator. While the validator's request cache has no record of the data, it asks its retriever
for the identifier with the proposal annotation, which decodes to exactly the addresses at which
the proposer's provider serves the data, and it chooses no block yet. Once the cache holds the
proposer's transactions, ready, the validator accepts the header, when the transactions simulate
and its clock is not behind the proposer's. Both validators run the same code, so that they share
the codecs and, against the same committed state, the simulation.

## Main results

* `Gsi.considerProposedBlocks_retrieves_from_proposer`: a validator lacking the data fetches it
  from the proposer's addresses.
* `Gsi.considerProposedBlocks_accepts_peer_proposal`: a validator holding the data accepts the
  header.

Source: `gserver/internal/gsi/consensusstrategy.go`, lines 142–403.
-/

namespace Gcosmos.Gsi

open Go

variable {Tx St : Type}

/-- The state after a run whose last `EnterRound` entered the round of height `H` and round `R`. -/
theorem runHooks_of_lastRoundView {cfg : Config} {rt : Runtime Tx St} {s : ConsensusStrategy}
    {calls : List (Hook Tx)} {rv : Tm.RoundView} (hrv : lastRoundView calls = some rv)
    {H : UInt64} {R : UInt32} (hH : rv.height = H) (hR : rv.round = R) :
    runHooks cfg rt s calls = ⟨H, R⟩ := by
  rw [runHooks_state, hrv, entered, hH, hR]

/-- A validator `B` that has entered the round of a proposal of pending transactions, and whose
cache has no record of its data, examines the header built from it: it asks to retrieve the
provider's identifier with the proposal annotation, which decodes to the addresses the proposer's
provider returned, and chooses no block yet. -/
theorem considerProposedBlocks_retrieves_from_proposer (cfgA cfgB : Config) (rt : Runtime Tx St)
    (sA : ConsensusStrategy) (rv : Tm.RoundView) (proposalOut : Bool) (env : RoundEnv Tx)
    (p : Tm.Proposal) (hsent : .sendProposal p ∈ (enterRound cfgA rt sA rv proposalOut env).2.2)
    (hpending : env.buffered ≠ [])
    (hprov : ∀ res, env.provide rv.height rv.round env.buffered = .ok res →
      ∃ id, rt.parseDataID res.dataID = .ok id ∧ id.height = rv.height ∧ id.round = rv.round ∧
        id.nTxs ≠ 0)
    (ph : Tm.ProposedHeader) (hh : ph.header.height = rv.height) (hr : ph.round = rv.round)
    (hid : ph.header.dataID = p.dataID) (hpa : ph.annotations = p.proposalAnnotations)
    (sB : ConsensusStrategy) (calls : List (Hook Tx)) (rvB : Tm.RoundView)
    (hrvB : lastRoundView calls = some rvB) (hHB : rvB.height = rv.height)
    (hRB : rvB.round = rv.round) (views : Nat → View Tx)
    (hmiss : (views 0).cache p.dataID = none) :
    ∃ res, env.provide rv.height rv.round env.buffered = .ok res ∧
      rt.proposalDriverAnnotationJson.unmarshal ph.annotations.driver = .ok ⟨res.addrs⟩ ∧
      callHook cfgB rt (runHooks cfgB rt sB calls) (.considerProposedBlocks [ph] views) =
        (⟨rv.height, rv.round⟩, .ret ("", some .proposedBlockChoiceNotReady),
          [.retrieve res.dataID ph.annotations.driver]) := by
  obtain ⟨-, -, val, ba, writes, -, -, -, -, hdata⟩ := enterRound_sendProposal hsent
  rcases blockData_cases hdata with ⟨hn, -⟩ | ⟨-, res, hres, hpda, hdid, -⟩
  · exact absurd hn hpending
  obtain ⟨id, hp, hih, hir, hnz⟩ := hprov res hres
  rw [← hdid, ← hid] at hp
  rw [← hid] at hmiss
  refine ⟨res, hres, hpa ▸ rt.proposalDriverAnnotationJson.unmarshal_marshal _ _ hpda, ?_⟩
  rw [runHooks_of_lastRoundView hrvB hHB hRB, callHook, considerProposedBlocks, considerFrom,
    considerOne_of_missing (s := ⟨rv.height, rv.round⟩) hh hr hp hih hir hnz hmiss, hid, hdid]
  rfl

/-- `"b"`, after entering `soloRound`, meets the header of the proposal of `"a"` of one pending
transaction with an empty cache, and retrieves its data. -/
theorem peer_retrieves_pending_data :
    ∃ res, pendingEnv.provide soloRound.height soloRound.round pendingEnv.buffered = .ok res ∧
      peerRuntime.proposalDriverAnnotationJson.unmarshal pendingHeader.annotations.driver =
        .ok ⟨res.addrs⟩ ∧
      callHook ⟨some "b", defaultProposerSelection⟩ peerRuntime
          (runHooks ⟨some "b", defaultProposerSelection⟩ peerRuntime ⟨0, 0⟩
            [.enterRound soloRound true epochEnv])
          (.considerProposedBlocks [pendingHeader] epochViews) =
        (⟨1, 0⟩, .ret ("", some .proposedBlockChoiceNotReady),
          [.retrieve res.dataID pendingHeader.annotations.driver]) :=
  considerProposedBlocks_retrieves_from_proposer soloConfig ⟨some "b", defaultProposerSelection⟩
    peerRuntime ⟨0, 0⟩ soloRound true pendingEnv ⟨"1:0:1", ⟨""⟩, ⟨"1970-01-01T00:00:00Z"⟩⟩
    (by decide) (by decide) (fun _ h => by cases h; exact ⟨_, rfl, rfl, rfl, by decide⟩)
    pendingHeader rfl rfl rfl rfl ⟨0, 0⟩ [.enterRound soloRound true epochEnv] soloRound rfl rfl
    rfl epochViews rfl

/-- A validator `B` that has entered the round of a proposal, and whose cache holds the pending
transactions of the proposal ready under the provider's identifier, accepts the header built from
it, with no retrieval: when the transactions simulate, the proposer's clock lies in years 0–9999
and `B`'s clock is not behind it, and the identifier codec parses the identifiers back to the
round, with a zero count for the empty identifier. -/
theorem considerProposedBlocks_accepts_peer_proposal (cfgA cfgB : Config) (rt : Runtime Tx St)
    (sA : ConsensusStrategy) (rv : Tm.RoundView) (proposalOut : Bool) (env : RoundEnv Tx)
    (p : Tm.Proposal) (hsent : .sendProposal p ∈ (enterRound cfgA rt sA rv proposalOut env).2.2)
    (ph : Tm.ProposedHeader) (hh : ph.header.height = rv.height) (hr : ph.round = rv.round)
    (hid : ph.header.dataID = p.dataID) (hba : ph.header.annotations = p.blockAnnotations)
    (sB : ConsensusStrategy) (calls : List (Hook Tx)) (rvB : Tm.RoundView)
    (hrvB : lastRoundView calls = some rvB) (hHB : rvB.height = rv.height)
    (hRB : rvB.round = rv.round) (views : Nat → View Tx)
    (hsim : env.buffered ≠ [] → Simulates rt env.buffered)
    (hclock : env.now.after (views 0).now = false)
    (hyear : 0 ≤ env.now.year ∧ env.now.year ≤ 9999)
    (hempty : env.buffered = [] → ∃ id, rt.parseDataID (rt.dataID rv.height rv.round 0 []) =
      .ok id ∧ id.height = rv.height ∧ id.round = rv.round ∧ id.nTxs = 0)
    (hprov : ∀ res, env.provide rv.height rv.round env.buffered = .ok res →
      ∃ id, rt.parseDataID res.dataID = .ok id ∧ id.height = rv.height ∧ id.round = rv.round)
    (hcache : ∀ res, env.provide rv.height rv.round env.buffered = .ok res →
      (views 0).cache res.dataID = some ⟨true, env.buffered⟩) :
    callHook cfgB rt (runHooks cfgB rt sB calls) (.considerProposedBlocks [ph] views) =
      (⟨rv.height, rv.round⟩, .ret (ph.header.hash, none), []) := by
  have hacc := acceptable_of_sendProposal hsent hh hr hid hba hsim hclock hyear hempty hprov
    fun _ => hcache
  rw [runHooks_of_lastRoundView hrvB hHB hRB, callHook, considerProposedBlocks,
    considerFrom_cons_of_acceptable hacc]

/-- `"b"`, after entering `soloRound`, accepts the header of the proposal of `"a"` once its cache
holds the transaction, ready. -/
theorem peer_accepts_pending_header :
    callHook ⟨some "b", defaultProposerSelection⟩ peerRuntime
        (runHooks ⟨some "b", defaultProposerSelection⟩ peerRuntime ⟨0, 0⟩
          [.enterRound soloRound true epochEnv])
        (.considerProposedBlocks [pendingHeader] pendingViews) =
      (⟨1, 0⟩, .ret ("hash", none), []) :=
  considerProposedBlocks_accepts_peer_proposal soloConfig ⟨some "b", defaultProposerSelection⟩
    peerRuntime ⟨0, 0⟩ soloRound true pendingEnv ⟨"1:0:1", ⟨""⟩, ⟨"1970-01-01T00:00:00Z"⟩⟩
    (by decide) pendingHeader rfl rfl rfl rfl ⟨0, 0⟩ [.enterRound soloRound true epochEnv]
    soloRound rfl rfl rfl pendingViews (fun _ => ⟨_, _, rfl, rfl, .nil _⟩) (by decide)
    (by decide) (fun h => by cases h) (fun _ h => by cases h; exact ⟨_, rfl, rfl, rfl⟩)
    (fun _ h => by cases h; rfl)

end Gcosmos.Gsi

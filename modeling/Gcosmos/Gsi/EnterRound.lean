import Gcosmos.Gsi.Consider
import Gcosmos.Gsi.Voting

/-!
# Entering a round

`EnterRound` records the height and round of the round view, asks the proposer selection who
proposes, and, when that is the local signer, builds a proposal and hands it to the engine. The
block annotation carries the clock as RFC 3339 text. A proposal of pending transactions is first
provided to the network: the provider's addresses become the proposal annotation, and the data is
marked available in the request cache, so that the proposer never fetches its own data back. A
proposal of no transaction uses the canonical empty identifier and no proposal annotation.

What one call observes of the world is a `RoundEnv`: the clock, the buffer's pending
transactions, the block-data provider, and whether the engine takes the proposal before the
context is done. The calls on shared collaborators (the cache write, the proposal handed over)
are returned as `Effect`s in the order the source makes them.

## Main definitions

* `Gsi.newConsensusStrategy`: `NewConsensusStrategy`, with the default proposer selection.
* `Gsi.blockData`: the identifier, the proposal annotation and the cache write of a proposal.
* `Gsi.enterRound`: `ConsensusStrategy.EnterRound`.

## Main results

* `Gsi.enterRound_state`: `EnterRound` records the round, whatever else it does.
* `Gsi.enterRound_sendProposal`: what a proposal that `EnterRound` hands over is made of.
* `Gsi.enterRound_effects`: the calls `EnterRound` makes, from which the cache writes
  (`Gsi.enterRound_setImmediatelyAvailable`), the absence of retrievals and the single proposal
  follow.
* `Gsi.enterRound_panics_at_two_pow_63`: with the default selection, entering a round at height
  `2^63` panics.
* `Gsi.enterRound_of_nil_signer`: without a signer key, `EnterRound` proposes nothing.
* `Gsi.enterRound_marks_available`: a proposal of pending transactions is handed over right
  after the provider's data is marked available in the cache.

Source: `gserver/internal/gsi/consensusstrategy.go`, lines 62–226.
-/

namespace Gcosmos.Gsi

open Go

variable {Tx St : Type}

/-! ### The code -/

/-- `ConsensusStrategyConfig`, by the fields `NewConsensusStrategy` copies into the fields the
hooks read; a nil `ProposerSelection` is `none`. -/
structure ConsensusStrategyConfig where
  proposerSelection : Option (UInt64 → UInt32 → Tm.ValidatorSet → Outcome Tm.Validator)
  signerPubKey : Option String

/-- `NewConsensusStrategy`: the fixed fields, with `DefaultProposerSelection` for a nil
selection, and a strategy that has entered no round. -/
def newConsensusStrategy (cfg : ConsensusStrategyConfig) : Config × ConsensusStrategy :=
  ({ signerPubKey := cfg.signerPubKey
     proposerSelection := cfg.proposerSelection.getD defaultProposerSelection }, ⟨0, 0⟩)

/-- `PubKey.Equal` of a validator's key against the signer's key, which may be nil. The key types
of `gcrypto` compare by type and bytes, so that no key equals a nil key. -/
def pubKeyEqual (k : String) : Option String → Bool
  | some k' => k == k'
  | none => false

/-- What one call of `EnterRound` observes of the world: the clock `time.Now`, the transactions
`TxBuf.Buffered` returns, the block-data provider, and whether `gchan.SendC` hands the proposal
over before the context is done, with `context.Cause` otherwise. -/
structure RoundEnv (Tx : Type) where
  now : Time
  buffered : List Tx
  provide : UInt64 → UInt32 → List Tx → Except String ProvideResult
  delivered : Bool
  cause : GoError

/-- The data of a proposal, after the block annotation is encoded: for no pending transaction,
the identifier `DataID(curH, curR, 0, nil)` and no proposal annotation; otherwise the identifier
the provider returns, its addresses encoded as the proposal annotation, and the cache write
`SetImmediatelyAvailable` of the transactions. -/
def blockData (rt : Runtime Tx St) (c : ConsensusStrategy) (env : RoundEnv Tx) :
    Except String (String × String × List (Effect Tx)) :=
  let pendingTxs := env.buffered
  if pendingTxs.length = 0 then .ok (rt.dataID c.curH c.curR 0 [], "", [])
  else
    match env.provide c.curH c.curR pendingTxs with
    | .error e => .error ("failed to provide block data: " ++ e)
    | .ok res =>
      match rt.proposalDriverAnnotationJson.marshal ⟨res.addrs⟩ with
      | .error e => .error ("failed to marshal proposal driver annotations: " ++ e)
      | .ok pda =>
        .ok (res.dataID, pda, [.setImmediatelyAvailable res.dataID pendingTxs res.encoded])

/-- `EnterRound` after the proposer `proposingVal` is selected, for the strategy `c` that has
recorded the round; `proposalOut` says whether the channel is non-nil. -/
def propose (cfg : Config) (rt : Runtime Tx St) (c : ConsensusStrategy) (rv : Tm.RoundView)
    (proposalOut : Bool) (env : RoundEnv Tx) (proposingVal : Tm.Validator) :
    Outcome (Option GoError) × List (Effect Tx) :=
  if !pubKeyEqual proposingVal.pubKey cfg.signerPubKey then (.ret none, [])
  else if !proposalOut then
    if rv.proposedHeaders.any (fun ph => proposingVal.pubKey == ph.proposerPubKey) then
      (.ret none, [])
    else (.panic "BUG: proposalOut channel was nil when we were supposed to propose", [])
  else
    match rt.blockAnnotationJson.marshal ⟨Time.formatRFC3339 env.now⟩ with
    | .error e => (.ret (some (.text ("failed to marshal block driver annotations: " ++ e))), [])
    | .ok ba =>
      match blockData rt c env with
      | .error e => (.ret (some (.text e)), [])
      | .ok (blockDataID, pda, cacheWrites) =>
        let p : Tm.Proposal := ⟨blockDataID, ⟨pda⟩, ⟨ba⟩⟩
        if env.delivered then (.ret none, cacheWrites ++ [.sendProposal p])
        else (.ret (some env.cause), cacheWrites)

/-- `ConsensusStrategy.EnterRound`: the new state, the error returned, and the calls on shared
collaborators. The round is recorded first; the source's early stop for a nil signer key has an
empty body, so the proposer selection runs in every case. -/
def enterRound (cfg : Config) (rt : Runtime Tx St) (s : ConsensusStrategy) (rv : Tm.RoundView)
    (proposalOut : Bool) (env : RoundEnv Tx) :
    ConsensusStrategy × Outcome (Option GoError) × List (Effect Tx) :=
  let c : ConsensusStrategy := { s with curH := rv.height, curR := rv.round }
  match cfg.proposerSelection rv.height rv.round rv.validatorSet with
  | .panic m => (c, .panic m, [])
  | .ret proposingVal => (c, propose cfg rt c rv proposalOut env proposingVal)

/-! ### What a call does -/

section EnterRound

variable {cfg : Config} {rt : Runtime Tx St} {s : ConsensusStrategy} {rv : Tm.RoundView}
  {proposalOut : Bool} {env : RoundEnv Tx}

theorem enterRound_state :
    (enterRound cfg rt s rv proposalOut env).1 = ⟨rv.height, rv.round⟩ := by
  unfold enterRound
  split <;> rfl

/-- The data of a proposal, case by case: the canonical empty identifier, or the provider's
identifier with its addresses encoded and its data written to the cache. -/
theorem blockData_cases {c : ConsensusStrategy} {dataID pda : String} {writes : List (Effect Tx)}
    (h : blockData rt c env = .ok (dataID, pda, writes)) :
    (env.buffered = [] ∧ dataID = rt.dataID c.curH c.curR 0 [] ∧ pda = "" ∧ writes = []) ∨
    (env.buffered ≠ [] ∧ ∃ res, env.provide c.curH c.curR env.buffered = .ok res ∧
      rt.proposalDriverAnnotationJson.marshal ⟨res.addrs⟩ = .ok pda ∧ dataID = res.dataID ∧
      writes = [.setImmediatelyAvailable res.dataID env.buffered res.encoded]) := by
  unfold blockData at h
  by_cases hn : env.buffered = []
  · simp only [hn, List.length_nil, if_true, Except.ok.injEq, Prod.mk.injEq] at h
    exact .inl ⟨hn, h.1.symm, h.2.1.symm, h.2.2.symm⟩
  · simp only [List.length_eq_zero, hn, if_false] at h
    refine .inr ⟨hn, ?_⟩
    split at h
    · cases h
    · rename_i res hres
      split at h
      · cases h
      · rename_i pda' hpda
        simp only [Except.ok.injEq, Prod.mk.injEq] at h
        obtain ⟨rfl, rfl, rfl⟩ := h
        exact ⟨res, hres, hpda, rfl, rfl⟩

/-- A proposal `EnterRound` hands to the engine: the local signer is the selected proposer, the
channel is non-nil, the engine took it, and it carries the encoded clock as block annotation and
the data of `blockData` for the round entered. -/
theorem enterRound_sendProposal {p : Tm.Proposal}
    (h : .sendProposal p ∈ (enterRound cfg rt s rv proposalOut env).2.2) :
    proposalOut = true ∧ env.delivered = true ∧
      ∃ val ba writes, cfg.proposerSelection rv.height rv.round rv.validatorSet = .ret val ∧
        pubKeyEqual val.pubKey cfg.signerPubKey = true ∧
        rt.blockAnnotationJson.marshal ⟨Time.formatRFC3339 env.now⟩ = .ok ba ∧
        p.blockAnnotations = ⟨ba⟩ ∧
        blockData rt ⟨rv.height, rv.round⟩ env =
          .ok (p.dataID, p.proposalAnnotations.driver, writes) := by
  unfold enterRound at h
  split at h
  · simp at h
  rename_i val hval
  unfold propose at h
  by_cases hk : pubKeyEqual val.pubKey cfg.signerPubKey = true
  swap
  · simp [hk] at h
  by_cases ho : proposalOut = true
  swap
  · simp only [hk, ho, Bool.not_true, Bool.not_false] at h
    split_ifs at h <;> simp at h
  simp only [hk, ho, Bool.not_true, Bool.false_eq_true, if_false] at h
  cases hba : rt.blockAnnotationJson.marshal ⟨Time.formatRFC3339 env.now⟩ with
  | error e => simp [hba] at h
  | ok ba =>
    cases hdata : blockData rt ⟨rv.height, rv.round⟩ env with
    | error e => simp [hba, hdata] at h
    | ok d =>
      obtain ⟨dataID, pda, writes⟩ := d
      have hw : .sendProposal p ∉ writes := by
        rcases blockData_cases hdata with ⟨-, -, -, rfl⟩ | ⟨-, res, -, -, -, rfl⟩ <;> simp
      by_cases hd : env.delivered = true
      · simp only [hba, hdata, hd, if_true, List.mem_append, hw, List.mem_singleton,
          Effect.sendProposal.injEq, false_or] at h
        subst h
        exact ⟨ho, hd, val, ba, writes, hval, hk, rfl, rfl, rfl⟩
      · simp [hba, hdata, hd, hw] at h

/-- The calls `EnterRound` makes: none, or, once the local signer is the selected proposer, the
channel is non-nil and the clock is encoded, the cache writes of `blockData`, followed by the
proposal when the engine takes it. -/
theorem enterRound_effects :
    (enterRound cfg rt s rv proposalOut env).2.2 = [] ∨
      ∃ val ba dataID pda writes,
        cfg.proposerSelection rv.height rv.round rv.validatorSet = .ret val ∧
        pubKeyEqual val.pubKey cfg.signerPubKey = true ∧ proposalOut = true ∧
        rt.blockAnnotationJson.marshal ⟨Time.formatRFC3339 env.now⟩ = .ok ba ∧
        blockData rt ⟨rv.height, rv.round⟩ env = .ok (dataID, pda, writes) ∧
        (enterRound cfg rt s rv proposalOut env).2.2 =
          writes ++ if env.delivered then [.sendProposal ⟨dataID, ⟨pda⟩, ⟨ba⟩⟩] else [] := by
  unfold enterRound
  split
  · exact .inl rfl
  rename_i val hval
  unfold propose
  dsimp only
  cases hk : pubKeyEqual val.pubKey cfg.signerPubKey
  · exact .inl rfl
  cases proposalOut
  · refine .inl ?_
    rw [if_neg (by decide), if_pos (by decide)]
    split <;> rfl
  rw [if_neg (by decide), if_neg (by decide)]
  cases hba : rt.blockAnnotationJson.marshal ⟨Time.formatRFC3339 env.now⟩ with
  | error e => exact .inl rfl
  | ok ba =>
    cases hdata : blockData rt ⟨rv.height, rv.round⟩ env with
    | error e => exact .inl (by simp only [hdata])
    | ok d =>
      obtain ⟨dataID, pda, writes⟩ := d
      refine .inr ⟨val, ba, dataID, pda, writes, hval, hk, rfl, rfl, rfl, ?_⟩
      simp only [hdata]
      split <;> simp

/-- The cache writes of `blockData` hand over no proposal. -/
theorem blockData_writes_countP {c : ConsensusStrategy} {dataID pda : String}
    {writes : List (Effect Tx)} (h : blockData rt c env = .ok (dataID, pda, writes)) :
    writes.countP Effect.isSendProposal = 0 := by
  rcases blockData_cases h with ⟨-, -, -, rfl⟩ | ⟨-, res, -, -, -, rfl⟩ <;> rfl

/-- `EnterRound` hands over at most one proposal. -/
theorem enterRound_countP_sendProposal :
    (enterRound cfg rt s rv proposalOut env).2.2.countP Effect.isSendProposal ≤ 1 := by
  rcases @enterRound_effects Tx St cfg rt s rv proposalOut env with
    h | ⟨val, ba, dataID, pda, writes, -, -, -, -, hdata, h⟩ <;> rw [h]
  · simp
  · rw [List.countP_append, blockData_writes_countP hdata]
    split_ifs <;> simp [Effect.isSendProposal]

/-- A cache write of `EnterRound` is made by the selected proposer: it marks the pending
transactions, which are not empty, available under the identifier the provider returned for the
round entered. -/
theorem enterRound_setImmediatelyAvailable {dataID encoded : String} {txs : List Tx}
    (h : .setImmediatelyAvailable dataID txs encoded ∈
      (enterRound cfg rt s rv proposalOut env).2.2) :
    txs = env.buffered ∧ txs ≠ [] ∧
      ∃ val res, cfg.proposerSelection rv.height rv.round rv.validatorSet = .ret val ∧
        pubKeyEqual val.pubKey cfg.signerPubKey = true ∧
        env.provide rv.height rv.round env.buffered = .ok res ∧ dataID = res.dataID ∧
        encoded = res.encoded := by
  rcases @enterRound_effects Tx St cfg rt s rv proposalOut env with
    he | ⟨val, ba, dataID', pda, writes, hval, hk, -, -, hdata, he⟩ <;> rw [he] at h
  · cases h
  rcases List.mem_append.mp h with h | h
  · rcases blockData_cases hdata with ⟨-, -, -, rfl⟩ | ⟨hn, res, hres, -, -, rfl⟩
    · cases h
    · obtain ⟨rfl, rfl, rfl⟩ := Effect.setImmediatelyAvailable.inj (List.mem_singleton.mp h)
      exact ⟨rfl, hn, val, res, hval, hk, hres, rfl, rfl⟩
  · split_ifs at h <;> simp at h

/-- A proposal of pending transactions comes with the cache write of the provider's result: the
transactions under its identifier, with its encoding. -/
theorem enterRound_write_of_provide {p : Tm.Proposal} {res : ProvideResult}
    (hsent : .sendProposal p ∈ (enterRound cfg rt s rv proposalOut env).2.2)
    (hpending : env.buffered ≠ []) (hres : env.provide rv.height rv.round env.buffered = .ok res) :
    .setImmediatelyAvailable res.dataID env.buffered res.encoded ∈
      (enterRound cfg rt s rv proposalOut env).2.2 := by
  rcases @enterRound_effects Tx St cfg rt s rv proposalOut env with
    he | ⟨val, ba, dataID, pda, writes, -, -, -, -, hdata, he⟩ <;> rw [he] at hsent ⊢
  · cases hsent
  rcases blockData_cases hdata with ⟨hn, -⟩ | ⟨-, res', hres', -, -, rfl⟩
  · exact absurd hn hpending
  rw [hres] at hres'
  cases hres'
  exact List.mem_append_left _ (List.mem_singleton_self _)

/-- `EnterRound` starts no retrieval. -/
theorem enterRound_not_retrieve {dataID driver : String} :
    .retrieve dataID driver ∉ (enterRound cfg rt s rv proposalOut env).2.2 := by
  rcases @enterRound_effects Tx St cfg rt s rv proposalOut env with
    h | ⟨val, ba, dataID', pda, writes, -, -, -, -, hdata, h⟩ <;> rw [h]
  · simp
  · rcases blockData_cases hdata with ⟨-, -, -, rfl⟩ | ⟨-, res, -, -, -, rfl⟩ <;> split_ifs <;> simp

/-- A panic of the proposer selection is a panic of `EnterRound`, after the round is recorded. -/
theorem enterRound_of_selection_panic {m : String}
    (h : cfg.proposerSelection rv.height rv.round rv.validatorSet = .panic m) :
    enterRound cfg rt s rv proposalOut env = (⟨rv.height, rv.round⟩, .panic m, []) := by
  simp [enterRound, h]

end EnterRound

/-! ### A validator alone in its set -/

/-- A strategy whose signer `"a"` is the only validator, with the default proposer selection. -/
def soloConfig : Config := ⟨some "a", defaultProposerSelection⟩

/-- The round `(1, 0)` of the validator set of `"a"` alone. -/
def soloRound : Tm.RoundView := ⟨1, 0, ⟨[⟨"a"⟩]⟩, []⟩

/-- A runtime whose identifier codec reads every identifier as an empty batch of round `(1, 0)`. -/
def soloRuntime : Runtime Unit Unit := exampleRuntime fun _ => .ok ⟨1, 0, 0⟩

/-- Entering a round at the Unix epoch with no pending transaction. -/
def epochEnv : RoundEnv Unit := ⟨⟨0, 0⟩, [], fun _ _ _ => .error "unused", true, .text "canceled"⟩

/-- Entering a round at the Unix epoch with one pending transaction, which the provider serves as
`"1:0:1"`. -/
def pendingEnv : RoundEnv Unit :=
  ⟨⟨0, 0⟩, [()], fun _ _ _ => .ok ⟨"1:0:1", [], "enc"⟩, true, .text "canceled"⟩

/-! ### The default selection past `2^63` -/

/-- A strategy built with no proposer selection enters round `0` of height `2^63` with three
validators: the default selection computes the index `-2`, and `EnterRound` panics, whatever the
collaborators and the world. -/
theorem enterRound_panics_at_two_pow_63 (rt : Runtime Tx St) (s : ConsensusStrategy)
    (proposalOut : Bool) (env : RoundEnv Tx) :
    (enterRound (newConsensusStrategy ⟨none, some "a"⟩).1 rt s
      ⟨9223372036854775808, 0, ⟨[⟨"a"⟩, ⟨"b"⟩, ⟨"c"⟩]⟩, []⟩ proposalOut env).2.1 =
      .panic "runtime error: index out of range [-2]" := by
  rw [enterRound_of_selection_panic defaultProposerSelection_panics_at_two_pow_63]

/-! ### Two properties of the code -/

/-- Without a signer key, `EnterRound` hands over no proposal and writes nothing to the cache,
and returns `nil` once the proposer selection returns. -/
theorem enterRound_of_nil_signer (cfg : Config) (rt : Runtime Tx St) (s : ConsensusStrategy)
    (rv : Tm.RoundView) (proposalOut : Bool) (env : RoundEnv Tx) (hnil : cfg.signerPubKey = none) :
    (enterRound cfg rt s rv proposalOut env).2.2 = [] ∧
      ∀ val, cfg.proposerSelection rv.height rv.round rv.validatorSet = .ret val →
        (enterRound cfg rt s rv proposalOut env).2.1 = .ret none := by
  unfold enterRound
  split
  · rename_i m hm
    exact ⟨rfl, fun _ h => by rw [hm] at h; cases h⟩
  · simp [propose, pubKeyEqual, hnil]

end Gcosmos.Gsi

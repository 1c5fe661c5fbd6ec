import Gcosmos.Gsi.Consider
import Gcosmos.Gsi.EnterRound

/-!
# The strategy across a run of its hooks

The engine calls the hooks of a `ConsensusStrategy` one after another: `EnterRound` once per
round, `ConsiderProposedBlocks` and `ChooseProposedBlock` as proposals and their data arrive,
and `DecidePrecommit` when prevoting ends. The state the hooks share is the height and round of
the round entered last; only `EnterRound` writes it. A run threads it through the calls.

A panic ends the process, and no later hook is called. `EnterRound` records the round before the
proposer selection can panic, and the other hooks write no state, so that the state a call sees
is the state `runHooks` computes for the calls before it, whether or not one of those panicked
in a process that kept going; `runHooks` therefore does not stop at a panic.

The results of this file tie the hooks together: a `ConsiderProposedBlocks` call judges the
headers against the round of the last `EnterRound`, makes no call but retrievals and leaves the
state alone, and the header the engine builds from a proposal that `EnterRound` handed over is
accepted by the next `ConsiderProposedBlocks`, without a retrieval, when the world behaves.

Over a whole run, the calls the hooks make on shared collaborators (`runEffects`) are accounted
for by the calls of the run: every proposal handed over and every cache write come from an
`EnterRound` in which the local signer is the selected proposer, at most one proposal per
`EnterRound`, and every retrieval comes from a choosing hook, for a header it examined before
returning, of the round entered last, whose data the cache lacked. `DecidePrecommit` makes no
call. When the request cache records each retrieval from the moment it is started
(`RecordsRetrievals`), no identifier is retrieved twice in a run.

## Main definitions

* `Gsi.Hook`: a call of one of the hooks, with what it observes of the world.
* `Gsi.callHook`, `Gsi.runHooks`: one call, and the state after a run of calls.
* `Gsi.runEffects`: the calls on shared collaborators that a run makes.
* `Gsi.RecordsRetrievals`: the request cache records each retrieval from the moment it starts.
* `Gsi.lastRoundView`: the round view of the last `EnterRound` of a run.

## Main results

* `Gsi.runHooks_state`: after a run, the state is the round of its last `EnterRound`.
* `Gsi.runEffects_sendProposal`, `Gsi.runEffects_countP_sendProposal`,
  `Gsi.runEffects_setImmediatelyAvailable`, `Gsi.runEffects_retrieve`: where the calls of a run
  come from.
* `Gsi.runEffects_retrievedID_nodup`: no identifier is retrieved twice in a run.
* `Gsi.acceptable_of_sendProposal`: the header built from a proposal the strategy handed over is
  acceptable in its round, under the assumptions on the world.
* `Gsi.considerProposedBlocks_after_run`, `Gsi.considerProposedBlocks_accepts_own_proposal`,
  `Gsi.considerProposedBlocks_hook`, `Gsi.considerProposedBlocks_stays_chosen`,
  `Gsi.chooseProposedBlock_never_fails`: the laws of the choosing hooks within a run.

Source: `gserver/internal/gsi/consensusstrategy.go`, lines 142–416.
-/

namespace Gcosmos.Gsi

open Go

variable {Tx St : Type}

/-- A call of one of the strategy's hooks by the engine, with what the call observes of the
world: for `EnterRound`, whether the proposal channel is non-nil and its `RoundEnv`; for the two
choosing hooks, the view of the world under which each header is examined. -/
inductive Hook (Tx : Type) where
  | enterRound (rv : Tm.RoundView) (proposalOut : Bool) (env : RoundEnv Tx)
  | considerProposedBlocks (phs : List Tm.ProposedHeader) (views : Nat → View Tx)
  | chooseProposedBlock (phs : List Tm.ProposedHeader) (views : Nat → View Tx)
  | decidePrecommit (vs : Tm.VoteSummary)

/-- The round view an `EnterRound` call enters. -/
def Hook.roundView : Hook Tx → Option Tm.RoundView
  | .enterRound rv _ _ => some rv
  | _ => none

/-- Whether a hook call is an `EnterRound`. -/
def Hook.isEnterRound : Hook Tx → Bool
  | .enterRound .. => true
  | _ => false

/-- One hook call from the state `s`: the state after it, what it returns to the engine (a hash,
`""` for `EnterRound`, and an error) and its calls on shared collaborators. -/
def callHook (cfg : Config) (rt : Runtime Tx St) (s : ConsensusStrategy) :
    Hook Tx → ConsensusStrategy × Outcome (String × Option GoError) × List (Effect Tx)
  | .enterRound rv proposalOut env =>
    let r := enterRound cfg rt s rv proposalOut env
    (r.1, r.2.1 >>= fun err => pure ("", err), r.2.2)
  | .considerProposedBlocks phs views => (s, considerProposedBlocks rt s views phs)
  | .chooseProposedBlock phs views => (s, chooseProposedBlock rt s views phs)
  | .decidePrecommit vs => (s, .ret (decidePrecommit vs), [])

/-- The state after the calls `hs`, from the state `s`. -/
def runHooks (cfg : Config) (rt : Runtime Tx St) : ConsensusStrategy → List (Hook Tx) →
    ConsensusStrategy
  | s, [] => s
  | s, h :: hs => runHooks cfg rt (callHook cfg rt s h).1 hs

/-- The calls on shared collaborators that the calls `hs` make from the state `s`, in order. -/
def runEffects (cfg : Config) (rt : Runtime Tx St) : ConsensusStrategy → List (Hook Tx) →
    List (Effect Tx)
  | _, [] => []
  | s, h :: hs => (callHook cfg rt s h).2.2 ++ runEffects cfg rt (callHook cfg rt s h).1 hs

/-- The round view of the last `EnterRound` among the calls `hs`. -/
def lastRoundView : List (Hook Tx) → Option Tm.RoundView
  | [] => none
  | h :: hs => (lastRoundView hs).orElse fun _ => h.roundView

/-- The state of a strategy that has entered the round of `rv`, if any, and is `s` otherwise. -/
def entered (s : ConsensusStrategy) : Option Tm.RoundView → ConsensusStrategy
  | some rv => ⟨rv.height, rv.round⟩
  | none => s

/-! ### The state along a run -/

section Run

variable {cfg : Config} {rt : Runtime Tx St}

theorem callHook_state (s : ConsensusStrategy) (h : Hook Tx) :
    (callHook cfg rt s h).1 = entered s h.roundView := by
  cases h with
  | enterRound rv proposalOut env => exact enterRound_state
  | _ => rfl

/-- After a run, the state holds the height and round of the last `EnterRound`, and is the
initial state when there is none. -/
theorem runHooks_state (s : ConsensusStrategy) (hs : List (Hook Tx)) :
    runHooks cfg rt s hs = entered s (lastRoundView hs) := by
  induction hs generalizing s with
  | nil => rfl
  | cons h hs ih =>
    rw [runHooks, ih, callHook_state, lastRoundView]
    cases lastRoundView hs <;> rfl

end Run

/-! ### A proposal comes back -/

section OwnProposal

variable {cfg : Config} {rt : Runtime Tx St} {s : ConsensusStrategy} {rv : Tm.RoundView}
  {proposalOut : Bool} {env : RoundEnv Tx} {p : Tm.Proposal} {ph : Tm.ProposedHeader}
  {v : View Tx}

/-- The block annotation of a proposal the strategy handed over decodes to its clock, truncated
to the second, which is not after a clock that has not gone backwards. -/
theorem time_of_sendProposal
    (hsent : .sendProposal p ∈ (enterRound cfg rt s rv proposalOut env).2.2)
    (hba : ph.header.annotations = p.blockAnnotations)
    (hclock : env.now.after v.now = false) (hyear : 0 ≤ env.now.year ∧ env.now.year ≤ 9999) :
    ∃ ba bt, rt.blockAnnotationJson.unmarshal ph.header.annotations.driver = .ok ba ∧
      ba.time rt.parseTimeGeneral = .ok bt ∧ bt.after v.now = false := by
  obtain ⟨-, -, -, ba, -, -, -, hmarshal, hp, -⟩ := enterRound_sendProposal hsent
  refine ⟨⟨Time.formatRFC3339 env.now⟩, env.now.truncate, ?_,
    Time.parse_formatRFC3339 _ _ hyear.1 hyear.2, Time.after_truncate hclock⟩
  rw [hba, hp]
  exact rt.blockAnnotationJson.unmarshal_marshal _ _ hmarshal

/-- The identifier of a proposal the strategy handed over parses to its round, and its data is
empty, or ready in the cache and simulating, when the codec, the cache and the simulation behave
as the assumptions say. -/
theorem dataID_of_sendProposal
    (hsent : .sendProposal p ∈ (enterRound cfg rt s rv proposalOut env).2.2)
    (hid : ph.header.dataID = p.dataID)
    (hsim : env.buffered ≠ [] → Simulates rt env.buffered)
    (hempty : env.buffered = [] → ∃ id, rt.parseDataID (rt.dataID rv.height rv.round 0 []) =
      .ok id ∧ id.height = rv.height ∧ id.round = rv.round ∧ id.nTxs = 0)
    (hprov : ∀ res, env.provide rv.height rv.round env.buffered = .ok res →
      ∃ id, rt.parseDataID res.dataID = .ok id ∧ id.height = rv.height ∧ id.round = rv.round)
    (hcache : env.buffered ≠ [] → ∀ res, env.provide rv.height rv.round env.buffered = .ok res →
      v.cache res.dataID = some ⟨true, env.buffered⟩) :
    ∃ id, rt.parseDataID ph.header.dataID = .ok id ∧ id.height = rv.height ∧
      id.round = rv.round ∧ (id.nTxs = 0 ∨ ∃ bdr, v.cache ph.header.dataID = some bdr ∧
        bdr.ready = true ∧ Simulates rt bdr.transactions) := by
  obtain ⟨_, _, _, _, _, _, _, _, _, hdata⟩ := enterRound_sendProposal hsent
  rw [hid]
  rcases blockData_cases hdata with ⟨hn, hdid, -⟩ | ⟨hn, res, hres, -, hdid, -⟩ <;> rw [hdid]
  · obtain ⟨id, hp, hh, hr, h0⟩ := hempty hn
    exact ⟨id, hp, hh, hr, .inl h0⟩
  · obtain ⟨id, hp, hh, hr⟩ := hprov res hres
    exact ⟨id, hp, hh, hr, .inr ⟨_, hcache hn res hres, rfl, hsim hn⟩⟩

/-- The header the engine builds from a proposal the strategy handed over is acceptable in the
round entered, under the view `v` of a validator whose clock has not gone backwards. -/
theorem acceptable_of_sendProposal
    (hsent : .sendProposal p ∈ (enterRound cfg rt s rv proposalOut env).2.2)
    (hh : ph.header.height = rv.height) (hr : ph.round = rv.round)
    (hid : ph.header.dataID = p.dataID) (hba : ph.header.annotations = p.blockAnnotations)
    (hsim : env.buffered ≠ [] → Simulates rt env.buffered)
    (hclock : env.now.after v.now = false) (hyear : 0 ≤ env.now.year ∧ env.now.year ≤ 9999)
    (hempty : env.buffered = [] → ∃ id, rt.parseDataID (rt.dataID rv.height rv.round 0 []) =
      .ok id ∧ id.height = rv.height ∧ id.round = rv.round ∧ id.nTxs = 0)
    (hprov : ∀ res, env.provide rv.height rv.round env.buffered = .ok res →
      ∃ id, rt.parseDataID res.dataID = .ok id ∧ id.height = rv.height ∧ id.round = rv.round)
    (hcache : env.buffered ≠ [] → ∀ res, env.provide rv.height rv.round env.buffered = .ok res →
      v.cache res.dataID = some ⟨true, env.buffered⟩) :
    Acceptable rt rv.height rv.round v ph :=
  ⟨hh, hr, dataID_of_sendProposal hsent hid hsim hempty hprov hcache,
    time_of_sendProposal hsent hba hclock hyear⟩

end OwnProposal

/-! ### Concrete runs -/

/-- An empty cache and the clock at the Unix epoch, for every header. -/
def epochViews : Nat → View Unit := fun _ => ⟨fun _ => none, ⟨0, 0⟩⟩

/-- The header the engine builds from the proposal of `"a"` in `soloRound` at the epoch. -/
def soloHeader : Tm.ProposedHeader :=
  ⟨⟨1, "hash", "1:0", ⟨"1970-01-01T00:00:00Z"⟩⟩, 0, "a", ⟨""⟩⟩

/-- A runtime whose identifier codec reads every identifier as a batch of one transaction of
round `(1, 0)`. -/
def peerRuntime : Runtime Unit Unit := exampleRuntime fun _ => .ok ⟨1, 0, 1⟩

/-- The header the engine builds from the proposal of `"a"` of one pending transaction. -/
def pendingHeader : Tm.ProposedHeader :=
  ⟨⟨1, "hash", "1:0:1", ⟨"1970-01-01T00:00:00Z"⟩⟩, 0, "a", ⟨""⟩⟩

/-- A cache holding one transaction, ready, for every identifier, at the epoch. -/
def pendingViews : Nat → View Unit := fun _ => ⟨fun _ => some ⟨true, [()]⟩, ⟨0, 0⟩⟩

/-- A header of `"b"` for round `(1, 1)`, which a strategy in round `(1, 0)` passes over. -/
def nextRoundHeader : Tm.ProposedHeader :=
  ⟨⟨1, "next", "1:1:1", ⟨"1970-01-01T00:00:00Z"⟩⟩, 1, "b", ⟨""⟩⟩

/-- A header of `"b"` in round `(1, 0)` whose one transaction is served as `"1:0:2"`. -/
def peerHeader : Tm.ProposedHeader :=
  ⟨⟨1, "peer", "1:0:2", ⟨"1970-01-01T00:00:00Z"⟩⟩, 0, "b", ⟨""⟩⟩

/-- A cache at the epoch in which the data of `pendingHeader` is ready and every other record is
still being retrieved. -/
def partialViews : Nat → View Unit := fun _ =>
  ⟨fun dataID => if dataID = "1:0:1" then some ⟨true, [()]⟩ else some ⟨false, []⟩, ⟨0, 0⟩⟩

/-! ### The laws of the hooks -/

/-- After any run of hook calls, `ConsiderProposedBlocks` and `ChooseProposedBlock` judge the
headers against the round of the last `EnterRound`: when every ready record for an identifier
with a nonzero count holds a transaction, they return the hash of the first acceptable header,
and not-ready (no choice yet for `ChooseProposedBlock`) when no header is acceptable. -/
theorem considerProposedBlocks_after_run (cfg : Config) (rt : Runtime Tx St)
    (s₀ : ConsensusStrategy) (calls : List (Hook Tx)) (rv : Tm.RoundView)
    (hrv : lastRoundView calls = some rv) (phs : List Tm.ProposedHeader) (views : Nat → View Tx)
    (hne : ∀ j, ReadyNonempty rt (views j).cache) :
    let s := runHooks cfg rt s₀ calls
    (∀ pre ph post, phs = pre ++ ph :: post →
      (∀ j (hj : j < pre.length),
        ¬ Acceptable rt rv.height rv.round (views j) (pre.get ⟨j, hj⟩)) →
      Acceptable rt rv.height rv.round (views pre.length) ph →
      (callHook cfg rt s (.considerProposedBlocks phs views)).2.1 = .ret (ph.header.hash, none) ∧
      (callHook cfg rt s (.chooseProposedBlock phs views)).2.1 = .ret (ph.header.hash, none)) ∧
    ((∀ j (hj : j < phs.length), ¬ Acceptable rt rv.height rv.round (views j) (phs.get ⟨j, hj⟩)) →
      (callHook cfg rt s (.considerProposedBlocks phs views)).2.1 =
        .ret ("", some .proposedBlockChoiceNotReady) ∧
      (callHook cfg rt s (.chooseProposedBlock phs views)).2.1 = .ret ("", none)) := by
  have hs : runHooks cfg rt s₀ calls = ⟨rv.height, rv.round⟩ := by
    rw [runHooks_state, hrv, entered]
  obtain ⟨c1, c2⟩ := considerProposedBlocks_first (s := ⟨rv.height, rv.round⟩) hne phs
  obtain ⟨h1, h2⟩ := chooseProposedBlock_first (s := ⟨rv.height, rv.round⟩) hne phs
  simp only [hs, callHook]
  exact ⟨fun pre ph post hphs hpre hph => ⟨c1 pre ph post hphs hpre hph, h1 pre ph post hphs hpre hph⟩,
    fun hall => ⟨c2 hall, h2 hall⟩⟩

/-- After `"a"` enters `soloRound` with one pending transaction, both choosing hooks pass over a
header of the next round and choose `pendingHeader`, whose transaction the cache holds, ready. -/
theorem pendingHeader_chosen_after_run :
    (callHook soloConfig peerRuntime (runHooks soloConfig peerRuntime ⟨0, 0⟩
        [.enterRound soloRound true pendingEnv])
        (.considerProposedBlocks [nextRoundHeader, pendingHeader] pendingViews)).2.1 =
      .ret ("hash", none) ∧
    (callHook soloConfig peerRuntime (runHooks soloConfig peerRuntime ⟨0, 0⟩
        [.enterRound soloRound true pendingEnv])
        (.chooseProposedBlock [nextRoundHeader, pendingHeader] pendingViews)).2.1 =
      .ret ("hash", none) :=
  (considerProposedBlocks_after_run soloConfig peerRuntime ⟨0, 0⟩
    [.enterRound soloRound true pendingEnv] soloRound rfl [nextRoundHeader, pendingHeader]
    pendingViews (fun _ _ _ _ _ _ h _ => by cases h; exact List.cons_ne_nil _ _)).1
    [nextRoundHeader] pendingHeader [] rfl
    (fun j hj h => by
      obtain rfl := Nat.lt_one_iff.mp hj
      exact absurd h.round (show (1 : UInt32) ≠ 0 by decide))
    ⟨rfl, rfl, ⟨_, rfl, rfl, rfl, .inr ⟨_, rfl, rfl, _, _, rfl, rfl, .nil _⟩⟩,
      ⟨⟨"1970-01-01T00:00:00Z"⟩, ⟨0, 0⟩, rfl, rfl, by decide⟩⟩

/-- The calls of the strategy whose `EnterRound` handed over a proposal `p`, and a header `ph`
the engine builds from `p`: the next `ConsiderProposedBlocks([ph])` before another `EnterRound`
accepts `ph`, starts no retrieval and keeps the round, when the pending transactions simulate,
the clock has not gone backwards and lies in years 0–9999, the identifier codec parses the
identifiers back to the round (with a zero count for the empty identifier), and the cache returns
a ready record of what each `SetImmediatelyAvailable` of that `EnterRound` stored. -/
theorem considerProposedBlocks_accepts_own_proposal (cfg : Config) (rt : Runtime Tx St)
    (s : ConsensusStrategy) (rv : Tm.RoundView) (proposalOut : Bool) (env : RoundEnv Tx)
    (p : Tm.Proposal) (hsent : .sendProposal p ∈ (enterRound cfg rt s rv proposalOut env).2.2)
    (ph : Tm.ProposedHeader) (hh : ph.header.height = rv.height) (hr : ph.round = rv.round)
    (hid : ph.header.dataID = p.dataID) (hba : ph.header.annotations = p.blockAnnotations)
    (rest : List (Hook Tx)) (hrest : lastRoundView rest = none) (views : Nat → View Tx)
    (hsim : env.buffered ≠ [] → Simulates rt env.buffered)
    (hclock : env.now.after (views 0).now = false)
    (hyear : 0 ≤ env.now.year ∧ env.now.year ≤ 9999)
    (hempty : env.buffered = [] → ∃ id, rt.parseDataID (rt.dataID rv.height rv.round 0 []) =
      .ok id ∧ id.height = rv.height ∧ id.round = rv.round ∧ id.nTxs = 0)
    (hprov : ∀ res, env.provide rv.height rv.round env.buffered = .ok res →
      ∃ id, rt.parseDataID res.dataID = .ok id ∧ id.height = rv.height ∧ id.round = rv.round)
    (hcache : ∀ dataID txs encoded, .setImmediatelyAvailable dataID txs encoded ∈
      (enterRound cfg rt s rv proposalOut env).2.2 → (views 0).cache dataID = some ⟨true, txs⟩) :
    callHook cfg rt (runHooks cfg rt (enterRound cfg rt s rv proposalOut env).1 rest)
        (.considerProposedBlocks [ph] views) =
      (⟨rv.height, rv.round⟩, .ret (ph.header.hash, none), []) := by
  have hs : runHooks cfg rt (enterRound cfg rt s rv proposalOut env).1 rest =
      ⟨rv.height, rv.round⟩ := by
    rw [runHooks_state, hrest, entered, enterRound_state]
  have hacc := acceptable_of_sendProposal hsent hh hr hid hba hsim hclock hyear hempty hprov
    fun hn res hres => hcache _ _ _ (enterRound_write_of_provide hsent hn hres)
  rw [hs, callHook, considerProposedBlocks, considerFrom_cons_of_acceptable hacc]

/-- `"a"` hands over its proposal of one pending transaction at the epoch, and accepts the header
built from it, its cache holding the batch that `SetImmediatelyAvailable` stored. -/
theorem solo_own_proposal_accepted :
    callHook soloConfig peerRuntime
        (runHooks soloConfig peerRuntime (enterRound soloConfig peerRuntime ⟨0, 0⟩ soloRound true
          pendingEnv).1 []) (.considerProposedBlocks [pendingHeader] pendingViews) =
      (⟨1, 0⟩, .ret ("hash", none), []) :=
  considerProposedBlocks_accepts_own_proposal soloConfig peerRuntime ⟨0, 0⟩ soloRound true
    pendingEnv ⟨"1:0:1", ⟨""⟩, ⟨"1970-01-01T00:00:00Z"⟩⟩ (by decide) pendingHeader rfl rfl rfl rfl
    [] rfl pendingViews (fun _ => ⟨_, _, rfl, rfl, .nil _⟩) (by decide) (by decide)
    (fun h => by cases h) (fun _ h => by cases h; exact ⟨_, rfl, rfl, rfl⟩)
    fun _ _ _ h => by rw [(enterRound_setImmediatelyAvailable h).1]; rfl

/-- Once `ConsiderProposedBlocks` chooses a block, a later call on the same headers chooses one
too, though not necessarily the same: under views whose cache keeps the ready records of the
earlier ones (a record still being retrieved may become ready in between), whose clock has not
gone backwards, and whose ready records for identifiers with a nonzero count hold a
transaction. -/
theorem considerProposedBlocks_stays_chosen (cfg : Config) (rt : Runtime Tx St)
    (s : ConsensusStrategy) (phs : List Tm.ProposedHeader) (views views' : Nat → View Tx)
    (hne : ∀ j, ReadyNonempty rt (views' j).cache)
    (hcache : ∀ j dataID r, (views j).cache dataID = some r → r.ready = true →
      (views' j).cache dataID = some r)
    (hclock : ∀ j, (views j).now.after (views' j).now = false) (h : String)
    (hr : (callHook cfg rt s (.considerProposedBlocks phs views)).2.1 = .ret (h, none)) :
    ∃ h', (callHook cfg rt s (.considerProposedBlocks phs views')).2.1 = .ret (h', none) := by
  obtain ⟨pre, ph, post, rfl, -, hacc, -, -⟩ := (considerProposedBlocks_returns _).2 h hr
  exact considerFrom_chooses (i := 0) hne ⟨pre.length, by simp,
    by simpa [List.getElem_append_right] using acceptable_of_later hacc (hcache _) (hclock _)⟩

/-- `"a"` passes over `peerHeader` while its data is being retrieved and chooses `pendingHeader`;
once that record is ready too, it still chooses a block, now `peerHeader`. -/
theorem pendingHeader_stays_chosen :
    (callHook soloConfig peerRuntime ⟨1, 0⟩
        (.considerProposedBlocks [peerHeader, pendingHeader] partialViews)).2.1 =
      .ret ("hash", none) ∧
    ∃ h', (callHook soloConfig peerRuntime ⟨1, 0⟩
        (.considerProposedBlocks [peerHeader, pendingHeader] pendingViews)).2.1 = .ret (h', none) :=
  have hr : (callHook soloConfig peerRuntime ⟨1, 0⟩
      (.considerProposedBlocks [peerHeader, pendingHeader] partialViews)).2.1 =
      .ret ("hash", none) := by decide
  ⟨hr, considerProposedBlocks_stays_chosen soloConfig peerRuntime ⟨1, 0⟩
    [peerHeader, pendingHeader] partialViews pendingViews
    (fun _ _ _ _ _ _ h _ => by cases h; exact List.cons_ne_nil _ _)
    (fun _ dataID _ h hready => by
      by_cases hd : dataID = "1:0:1" <;>
        simp only [partialViews, hd, if_true, if_false, Option.some.injEq] at h <;> subst h
      · rfl
      · cases hready)
    (fun _ => rfl) "hash" hr⟩

/-- `ChooseProposedBlock` never reports an error: `ConsiderProposedBlocks` reports none but
`ErrProposedBlockChoiceNotReady`, which it turns into no choice, so that its branch passing other
errors on to the engine is never taken. -/
theorem chooseProposedBlock_never_fails (cfg : Config) (rt : Runtime Tx St) (s : ConsensusStrategy)
    (phs : List Tm.ProposedHeader) (views : Nat → View Tx) (h : String) (err : Option GoError)
    (hr : (callHook cfg rt s (.chooseProposedBlock phs views)).2.1 = .ret (h, err)) :
    err = none := by
  simp only [callHook, chooseProposedBlock] at hr
  cases hc : (considerProposedBlocks rt s views phs).1 with
  | panic m =>
    rw [hc] at hr
    cases hr
  | ret r =>
    rw [hc] at hr
    rcases considerFrom_ret_cases 0 phs hc with rfl | ⟨h', rfl⟩ <;>
      simp only [Outcome.ret_bind, Outcome.pure_eq, Outcome.ret.injEq, Prod.mk.injEq] at hr <;>
      simp_all

/-- Choosing in the round of `"a"`: its own header is chosen, and a header whose data is missing,
for which `ConsiderProposedBlocks` reports not-ready, leaves no choice and no error. -/
theorem chooseProposedBlock_solo :
    (callHook soloConfig soloRuntime ⟨1, 0⟩ (.chooseProposedBlock [soloHeader] epochViews)).2.1 =
        .ret ("hash", none) ∧
      (callHook soloConfig peerRuntime ⟨1, 0⟩
          (.considerProposedBlocks [pendingHeader] epochViews)).2.1 =
        .ret ("", some .proposedBlockChoiceNotReady) ∧
      ∃ err, (callHook soloConfig peerRuntime ⟨1, 0⟩
          (.chooseProposedBlock [pendingHeader] epochViews)).2.1 = .ret ("", err) ∧ err = none :=
  have hr : (callHook soloConfig peerRuntime ⟨1, 0⟩
      (.chooseProposedBlock [pendingHeader] epochViews)).2.1 = .ret ("", none) := by decide
  ⟨by decide, by decide, none, hr,
    chooseProposedBlock_never_fails soloConfig peerRuntime ⟨1, 0⟩ [pendingHeader] epochViews ""
      none hr⟩

section Effects

variable {cfg : Config} {rt : Runtime Tx St}

/-- A call on a collaborator during a run is made by one of its hooks, from the state the calls
before it leave. -/
theorem mem_runEffects {s : ConsensusStrategy} {hs : List (Hook Tx)} {e : Effect Tx}
    (he : e ∈ runEffects cfg rt s hs) :
    ∃ pre h post, hs = pre ++ h :: post ∧ e ∈ (callHook cfg rt (runHooks cfg rt s pre) h).2.2 := by
  induction hs generalizing s with
  | nil => cases he
  | cons h hs ih =>
    rcases List.mem_append.mp he with he | he
    · exact ⟨[], h, hs, rfl, he⟩
    · obtain ⟨pre, h', post, rfl, he'⟩ := ih he
      exact ⟨h :: pre, h', post, rfl, he'⟩

/-- The calls of one hook: those of `EnterRound`, or a retrieval that the spec names for the
header of index `k` a choosing hook examines, in the round of the state, once the loop has moved
on from every header before it; the calls of the hook then begin with the retrievals of the
headers up to that one. `DecidePrecommit` makes none. -/
theorem callHook_effect_mem {s : ConsensusStrategy} {h : Hook Tx} {e : Effect Tx}
    (he : e ∈ (callHook cfg rt s h).2.2) :
    (∃ rv proposalOut env, h = .enterRound rv proposalOut env ∧
      e ∈ (enterRound cfg rt s rv proposalOut env).2.2) ∨
    ∃ phs views, (h = .considerProposedBlocks phs views ∨ h = .chooseProposedBlock phs views) ∧
      ∃ k, ∃ hk : k < phs.length,
        e ∈ retrieveCall rt s.curH s.curR (views k) (phs.get ⟨k, hk⟩) ∧
        (∀ j (hj : j < k),
          (considerOne rt s (views j) (phs.get ⟨j, Nat.lt_trans hj hk⟩)).1 = .ret .next) ∧
        retrieveCalls rt s.curH s.curR views 0 (phs.take (k + 1)) <+:
          (callHook cfg rt s h).2.2 := by
  cases h with
  | enterRound rv proposalOut env => exact .inl ⟨rv, proposalOut, env, rfl, he⟩
  | considerProposedBlocks phs views | chooseProposedBlock phs views =>
    obtain ⟨k, hk, hm, hprev, hpre⟩ := considerFrom_effect_index 0 phs he
    exact .inr ⟨phs, views, by simp, k, hk, by simpa only [Nat.zero_add] using hm,
      by simpa only [Nat.zero_add] using hprev, hpre⟩
  | decidePrecommit vs => cases he

/-- A hook call hands over at most one proposal, and only an `EnterRound` hands one over. -/
theorem callHook_countP_sendProposal {s : ConsensusStrategy} {h : Hook Tx} :
    (callHook cfg rt s h).2.2.countP Effect.isSendProposal ≤ if h.isEnterRound then 1 else 0 := by
  rcases h with ⟨rv, proposalOut, env⟩ | ⟨phs, views⟩ | ⟨phs, views⟩ | vs
  · exact enterRound_countP_sendProposal
  all_goals
    refine (List.countP_eq_zero.2 fun e he => ?_).le
    rcases callHook_effect_mem he with ⟨_, _, _, h, -⟩ | ⟨_, _, -, _, _, hm, -⟩
    · cases h
    · simp [(mem_retrieveCall.mp hm).1, Effect.isSendProposal]

/-- Over any run of hook calls, every proposal the strategy hands to the engine comes from an
`EnterRound` of the run in which the local signer is the selected proposer, the channel is
non-nil and the engine takes the proposal; it carries the encoded clock and the data of the round
entered. -/
theorem runEffects_sendProposal (cfg : Config) (rt : Runtime Tx St) (s₀ : ConsensusStrategy)
    (hs : List (Hook Tx)) (p : Tm.Proposal) (hp : .sendProposal p ∈ runEffects cfg rt s₀ hs) :
    ∃ rv proposalOut env, .enterRound rv proposalOut env ∈ hs ∧ proposalOut = true ∧
      env.delivered = true ∧ ∃ val ba writes,
        cfg.proposerSelection rv.height rv.round rv.validatorSet = .ret val ∧
        pubKeyEqual val.pubKey cfg.signerPubKey = true ∧
        rt.blockAnnotationJson.marshal ⟨Time.formatRFC3339 env.now⟩ = .ok ba ∧
        p.blockAnnotations = ⟨ba⟩ ∧
        blockData rt ⟨rv.height, rv.round⟩ env =
          .ok (p.dataID, p.proposalAnnotations.driver, writes) := by
  obtain ⟨pre, h, post, rfl, hcall⟩ := mem_runEffects hp
  rcases callHook_effect_mem hcall with ⟨rv, proposalOut, env, rfl, he⟩ | ⟨_, _, _, _, _, hm, -⟩
  · exact ⟨rv, proposalOut, env, List.mem_append_right _ (List.mem_cons_self _ _),
      enterRound_sendProposal he⟩
  · cases (mem_retrieveCall.mp hm).1

/-- The proposal `"a"` hands over when it enters `soloRound` at the epoch comes from that
`EnterRound`, in which `"a"` is the selected proposer. -/
theorem solo_run_proposal_from_selected :
    .sendProposal ⟨"1:0", ⟨""⟩, ⟨"1970-01-01T00:00:00Z"⟩⟩ ∈
        runEffects soloConfig soloRuntime ⟨0, 0⟩ [.enterRound soloRound true epochEnv] ∧
      ∃ rv proposalOut env, Hook.enterRound rv proposalOut env ∈
          [Hook.enterRound soloRound true epochEnv] ∧ proposalOut = true ∧
        env.delivered = true ∧ ∃ val ba writes,
          soloConfig.proposerSelection rv.height rv.round rv.validatorSet = .ret val ∧
          pubKeyEqual val.pubKey soloConfig.signerPubKey = true ∧
          soloRuntime.blockAnnotationJson.marshal ⟨Time.formatRFC3339 env.now⟩ = .ok ba ∧
          (⟨"1970-01-01T00:00:00Z"⟩ : Tm.Annotations) = ⟨ba⟩ ∧
          blockData soloRuntime ⟨rv.height, rv.round⟩ env = .ok ("1:0", "", writes) :=
  ⟨by decide, runEffects_sendProposal soloConfig soloRuntime ⟨0, 0⟩
    [.enterRound soloRound true epochEnv] ⟨"1:0", ⟨""⟩, ⟨"1970-01-01T00:00:00Z"⟩⟩ (by decide)⟩

/-- Over any run, the strategy hands over at most one proposal per `EnterRound` call, and none
from its other hooks. -/
theorem runEffects_countP_sendProposal (cfg : Config) (rt : Runtime Tx St)
    (s₀ : ConsensusStrategy) (hs : List (Hook Tx)) :
    (runEffects cfg rt s₀ hs).countP Effect.isSendProposal ≤ hs.countP Hook.isEnterRound := by
  induction hs generalizing s₀ with
  | nil => simp [runEffects]
  | cons h hs ih =>
    have hcall : (callHook cfg rt s₀ h).2.2.countP Effect.isSendProposal ≤
        if h.isEnterRound then 1 else 0 := callHook_countP_sendProposal
    have hrest := ih (callHook cfg rt s₀ h).1
    rw [runEffects, List.countP_append, List.countP_cons]
    omega

/-- Over any run, every cache write comes from an `EnterRound` in which the local signer is the
selected proposer: it marks the pending transactions, which are not empty, available under the
identifier the provider returned for the round entered. -/
theorem runEffects_setImmediatelyAvailable (cfg : Config) (rt : Runtime Tx St)
    (s₀ : ConsensusStrategy) (hs : List (Hook Tx)) (dataID encoded : String) (txs : List Tx)
    (he : .setImmediatelyAvailable dataID txs encoded ∈ runEffects cfg rt s₀ hs) :
    ∃ rv proposalOut env, .enterRound rv proposalOut env ∈ hs ∧ txs = env.buffered ∧ txs ≠ [] ∧
      ∃ val res, cfg.proposerSelection rv.height rv.round rv.validatorSet = .ret val ∧
        pubKeyEqual val.pubKey cfg.signerPubKey = true ∧
        env.provide rv.height rv.round env.buffered = .ok res ∧ dataID = res.dataID ∧
        encoded = res.encoded := by
  obtain ⟨pre, h, post, rfl, hcall⟩ := mem_runEffects he
  rcases callHook_effect_mem hcall with ⟨rv, proposalOut, env, rfl, hin⟩ | ⟨_, _, _, _, _, hm, -⟩
  · exact ⟨rv, proposalOut, env, List.mem_append_right _ (List.mem_cons_self _ _),
      enterRound_setImmediatelyAvailable hin⟩
  · cases (mem_retrieveCall.mp hm).1

/-- The cache write of `"a"` proposing one pending transaction is its own batch, under the
provider's identifier. -/
theorem solo_run_cache_write_own_batch :
    .setImmediatelyAvailable "1:0:1" [()] "enc" ∈
        runEffects soloConfig soloRuntime ⟨0, 0⟩ [.enterRound soloRound true pendingEnv] ∧
      ∃ rv proposalOut env, Hook.enterRound rv proposalOut env ∈
          [Hook.enterRound soloRound true pendingEnv] ∧ [()] = env.buffered ∧ [()] ≠ [] ∧
        ∃ val res, soloConfig.proposerSelection rv.height rv.round rv.validatorSet = .ret val ∧
          pubKeyEqual val.pubKey soloConfig.signerPubKey = true ∧
          env.provide rv.height rv.round env.buffered = .ok res ∧ "1:0:1" = res.dataID ∧
          "enc" = res.encoded :=
  ⟨by decide, runEffects_setImmediatelyAvailable soloConfig soloRuntime ⟨0, 0⟩
    [.enterRound soloRound true pendingEnv] "1:0:1" "enc" [()] (by decide)⟩

/-- Over any run, every retrieval is started by `ConsiderProposedBlocks` or `ChooseProposedBlock`
for the header of index `k` it examines, once the loop has moved on from every header before it,
so that the call's retrievals begin with those of the headers up to that one. The retrieval names
the header's identifier and proposal annotation; the header is of the round entered last before
the call, its identifier parses to that round with a nonzero count, and the cache lacked its data
when it was examined. -/
theorem runEffects_retrieve (cfg : Config) (rt : Runtime Tx St) (s₀ : ConsensusStrategy)
    (hs : List (Hook Tx)) (dataID driver : String)
    (he : .retrieve dataID driver ∈ runEffects cfg rt s₀ hs) :
    ∃ pre h post, hs = pre ++ h :: post ∧ ∃ phs views,
      (h = .considerProposedBlocks phs views ∨ h = .chooseProposedBlock phs views) ∧
      let s := runHooks cfg rt s₀ pre
      ∃ k, ∃ hk : k < phs.length,
        (∀ j (hj : j < k),
          (considerOne rt s (views j) (phs.get ⟨j, Nat.lt_trans hj hk⟩)).1 = .ret .next) ∧
        retrieveCalls rt s.curH s.curR views 0 (phs.take (k + 1)) <+: (callHook cfg rt s h).2.2 ∧
        dataID = (phs.get ⟨k, hk⟩).header.dataID ∧ driver = (phs.get ⟨k, hk⟩).annotations.driver ∧
        (views k).cache dataID = none ∧ (phs.get ⟨k, hk⟩).header.height = s.curH ∧
        (phs.get ⟨k, hk⟩).round = s.curR ∧
        ∃ id, rt.parseDataID dataID = .ok id ∧ id.height = s.curH ∧ id.round = s.curR ∧
          id.nTxs ≠ 0 := by
  obtain ⟨pre, h, post, rfl, hcall⟩ := mem_runEffects he
  rcases callHook_effect_mem hcall with ⟨_, _, _, _, hin⟩ | ⟨phs, views, hh, k, hk, hm, hprev, hpre⟩
  · exact absurd hin enterRound_not_retrieve
  obtain ⟨heq, hH, hR, hid, hc⟩ := mem_retrieveCall.mp hm
  cases heq
  exact ⟨pre, h, post, rfl, phs, views, hh, k, hk, hprev, hpre, rfl, rfl, hc, hH, hR, hid⟩

/-- After `"a"` enters `soloRound`, a call that passes over a header of the next round and finds
the data of `pendingHeader` missing retrieves it, as the second header it examines. -/
theorem solo_run_retrieves_missing_data :
    .retrieve "1:0:1" "" ∈ runEffects soloConfig peerRuntime ⟨0, 0⟩
        [.enterRound soloRound true epochEnv,
          .considerProposedBlocks [nextRoundHeader, pendingHeader] epochViews] ∧
      ∃ pre h post, [Hook.enterRound soloRound true epochEnv,
          .considerProposedBlocks [nextRoundHeader, pendingHeader] epochViews] = pre ++ h :: post ∧
        ∃ phs views, (h = .considerProposedBlocks phs views ∨ h = .chooseProposedBlock phs views) ∧
        let s := runHooks soloConfig peerRuntime ⟨0, 0⟩ pre
        ∃ k, ∃ hk : k < phs.length,
          (∀ j (hj : j < k),
            (considerOne peerRuntime s (views j) (phs.get ⟨j, Nat.lt_trans hj hk⟩)).1 =
              .ret .next) ∧
          retrieveCalls peerRuntime s.curH s.curR views 0 (phs.take (k + 1)) <+:
            (callHook soloConfig peerRuntime s h).2.2 ∧
          "1:0:1" = (phs.get ⟨k, hk⟩).header.dataID ∧ "" = (phs.get ⟨k, hk⟩).annotations.driver ∧
          (views k).cache "1:0:1" = none ∧ (phs.get ⟨k, hk⟩).header.height = s.curH ∧
          (phs.get ⟨k, hk⟩).round = s.curR ∧
          ∃ id, peerRuntime.parseDataID "1:0:1" = .ok id ∧ id.height = s.curH ∧
            id.round = s.curR ∧ id.nTxs ≠ 0 :=
  have he : .retrieve "1:0:1" "" ∈ runEffects soloConfig peerRuntime ⟨0, 0⟩
      [.enterRound soloRound true epochEnv,
        .considerProposedBlocks [nextRoundHeader, pendingHeader] epochViews] := by decide
  ⟨he, runEffects_retrieve soloConfig peerRuntime ⟨0, 0⟩ _ "1:0:1" "" he⟩

/-- The request cache records every retrieval the strategy starts, from the moment it starts it:
a header that a choosing hook of the run examines under `views n` sees a record for every
identifier retrieved before, by an earlier call of the run or by the examination of one of the
`n` headers before it in the same call. -/
def RecordsRetrievals (cfg : Config) (rt : Runtime Tx St) (s₀ : ConsensusStrategy)
    (hs : List (Hook Tx)) : Prop :=
  ∀ pre phs views post, (hs = pre ++ .considerProposedBlocks phs views :: post ∨
      hs = pre ++ .chooseProposedBlock phs views :: post) →
    ∀ n dataID driver, .retrieve dataID driver ∈ runEffects cfg rt s₀ pre ++
        (considerFrom rt (runHooks cfg rt s₀ pre) views 0 (phs.take n)).2 →
      (views n).cache dataID ≠ none

/-- One hook call asks for each identifier at most once, when the cache records its retrievals. -/
theorem callHook_retrievedID_nodup {s : ConsensusStrategy} {h : Hook Tx}
    (hrec : ∀ phs views, (h = .considerProposedBlocks phs views ∨
        h = .chooseProposedBlock phs views) → ∀ n dataID driver,
      .retrieve dataID driver ∈ (considerFrom rt s views 0 (phs.take n)).2 →
        (views n).cache dataID ≠ none) :
    ((callHook cfg rt s h).2.2.filterMap Effect.retrievedID).Nodup := by
  rcases h with ⟨rv, proposalOut, env⟩ | ⟨phs, views⟩ | ⟨phs, views⟩ | vs
  · rw [List.filterMap_eq_nil_iff.mpr fun e he => ?_]
    · exact List.nodup_nil
    cases hid : e.retrievedID with
    | none => rfl
    | some dataID =>
      obtain ⟨driver, rfl⟩ := Effect.eq_retrieve_of_retrievedID hid
      exact absurd he enterRound_not_retrieve
  · exact considerFrom_retrievedID_nodup 0 phs fun n dataID driver hm => by
      simpa using hrec phs views (.inl rfl) n dataID driver hm
  · exact considerFrom_retrievedID_nodup 0 phs fun n dataID driver hm => by
      simpa using hrec phs views (.inr rfl) n dataID driver hm
  · exact List.nodup_nil

/-- The records that the calls after the first see, from the state the first leaves. -/
theorem RecordsRetrievals.tail {s₀ : ConsensusStrategy} {h : Hook Tx} {hs : List (Hook Tx)}
    (hrec : RecordsRetrievals cfg rt s₀ (h :: hs)) :
    RecordsRetrievals cfg rt (callHook cfg rt s₀ h).1 hs := by
  intro pre phs views post hsplit n dataID driver hm
  refine hrec (h :: pre) phs views post (by rcases hsplit with rfl | rfl <;> simp) n dataID
    driver ?_
  rw [runEffects, List.append_assoc]
  exact List.mem_append_right _ hm

/-- Over any run, the strategy asks its retriever for each data identifier at most once, when the
request cache records every retrieval from the moment it is started. A header whose data is
being retrieved is thus never retrieved again, by a later header of the same call or by a later
call, as the source's comment "This must be the first time we've encountered this data ID"
expects. -/
theorem runEffects_retrievedID_nodup (cfg : Config) (rt : Runtime Tx St) (s₀ : ConsensusStrategy)
    (hs : List (Hook Tx)) (hrec : RecordsRetrievals cfg rt s₀ hs) :
    ((runEffects cfg rt s₀ hs).filterMap Effect.retrievedID).Nodup := by
  induction hs generalizing s₀ with
  | nil => exact List.nodup_nil
  | cons h hs ih =>
    rw [runEffects, List.filterMap_append, List.nodup_append]
    refine ⟨callHook_retrievedID_nodup fun phs views hh n dataID driver hm =>
        hrec [] phs views hs (by rcases hh with rfl | rfl <;> simp) n dataID driver
          (List.mem_append_right _ hm), ih _ hrec.tail, ?_⟩
    intro dataID hl hr
    obtain ⟨e₁, he₁, h₁⟩ := List.mem_filterMap.mp hl
    obtain ⟨e₂, he₂, h₂⟩ := List.mem_filterMap.mp hr
    obtain ⟨d₁, rfl⟩ := Effect.eq_retrieve_of_retrievedID h₁
    obtain ⟨d₂, rfl⟩ := Effect.eq_retrieve_of_retrievedID h₂
    -- the later retrieval was made for a header whose view had no record of the identifier
    obtain ⟨pre, h', post, rfl, hcall⟩ := mem_runEffects he₂
    rcases callHook_effect_mem hcall with ⟨_, _, _, _, hin⟩ | ⟨phs, views, hh, k, hk, hm, -⟩
    · exact enterRound_not_retrieve hin
    obtain ⟨heq, -, -, -, hnone⟩ := mem_retrieveCall.mp hm
    cases heq
    refine hrec (h :: pre) phs views post (by rcases hh with rfl | rfl <;> simp) k _ d₁ ?_ hnone
    rw [runEffects, List.append_assoc]
    exact List.mem_append_left _ he₁

/-- A cache with no record at the first examination, and a record still being retrieved for every
identifier from the second on. -/
def retrievingViews : Nat → View Unit :=
  fun j => ⟨fun _ => if j = 0 then none else some ⟨false, []⟩, ⟨0, 0⟩⟩

/-- A cache whose record for every identifier is still being retrieved. -/
def inFlightViews : Nat → View Unit := fun _ => ⟨fun _ => some ⟨false, []⟩, ⟨0, 0⟩⟩

/-- `pendingHeader`, examined in two calls, its data first missing and then in flight, is retrieved
once. -/
theorem pendingHeader_retrieved_once :
    RecordsRetrievals soloConfig peerRuntime ⟨1, 0⟩
        [.considerProposedBlocks [pendingHeader] retrievingViews,
          .considerProposedBlocks [pendingHeader] inFlightViews] ∧
      ((runEffects soloConfig peerRuntime ⟨1, 0⟩
        [.considerProposedBlocks [pendingHeader] retrievingViews,
          .considerProposedBlocks [pendingHeader] inFlightViews]).filterMap
            Effect.retrievedID).Nodup := by
  have hrec : RecordsRetrievals soloConfig peerRuntime ⟨1, 0⟩
      [.considerProposedBlocks [pendingHeader] retrievingViews,
        .considerProposedBlocks [pendingHeader] inFlightViews] := by
    intro pre phs views post hsplit n dataID driver hm
    rcases pre with _ | ⟨a, _ | ⟨b, pre⟩⟩ <;> rcases hsplit with hsplit | hsplit <;>
      simp only [List.nil_append, List.cons_append, List.cons.injEq, reduceCtorEq, false_and,
        Hook.considerProposedBlocks.injEq, List.nil_eq, List.append_eq_nil, and_false] at hsplit
    · obtain ⟨⟨rfl, rfl⟩, -⟩ := hsplit
      rcases n with _ | n
      · simp [runEffects, considerFrom] at hm
      · simp [retrievingViews]
    · obtain ⟨-, ⟨rfl, rfl⟩, -⟩ := hsplit
      simp [inFlightViews]
  exact ⟨hrec, runEffects_retrievedID_nodup soloConfig peerRuntime ⟨1, 0⟩ _ hrec⟩

end Effects

end Gcosmos.Gsi

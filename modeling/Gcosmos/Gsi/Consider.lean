import Gcosmos.Gsi.Types

/-!
# Choosing a proposed block

`ConsiderProposedBlocks` scans the proposed headers of the round in order and returns the hash of
the first one it accepts. A header is skipped when its height or round is not the strategy's,
when its block-data identifier does not parse or names another height or round, when its data is
not in the request cache yet (a retrieval is started) or not ready, when a transaction of the
data fails to simulate, or when its block annotation does not decode, its time does not parse or
lies in the future. The loop over the transactions leaves with the labelled `continue PH_LOOP`,
so that one failing transaction skips the whole header.

The model keeps the control flow of the source: `considerOne` is one iteration of `PH_LOOP`,
`checkData` the block `if nTxs != 0`, `simulateRest` the loop over `txs[1:]` and `checkTime` the
checks on the block annotation. Each examination of a header sees the cache and the clock as
they are at that moment (`View`), since background retrievals fill the cache concurrently.

Against it stand the conditions of acceptance as the spec states them (`Acceptable`, with the
chained simulation `Simulates`): when every ready record for an identifier with a nonzero count
holds a transaction, the loop returns the hash of the first acceptable header, and
`ErrProposedBlockChoiceNotReady` when there is none. Whenever the call returns, the retrievals
it started are those of the examined headers whose data was absent (`retrieveCalls`). A ready
record with no transaction for such an identifier makes `txs[0]` panic.

## Main definitions

* `Gsi.considerOne`, `Gsi.considerProposedBlocks`, `Gsi.chooseProposedBlock`: the code.
* `Gsi.Simulates`, `Gsi.Acceptable`, `Gsi.ReadyNonempty`, `Gsi.retrieveCalls`: the spec.

## Main results

* `Gsi.considerOne_accept_iff`, `Gsi.considerOne_ret`: one iteration accepts exactly the
  acceptable headers and otherwise continues.
* `Gsi.considerProposedBlocks_first`: the first acceptable header is chosen.
* `Gsi.considerProposedBlocks_returns`: whenever the call returns, what it returns and the
  retrievals it started are those of the headers it examined.

Source: `gserver/internal/gsi/consensusstrategy.go`, lines 229–403.
-/

namespace Gcosmos.Gsi

open Go

variable {Tx St : Type}

/-! ### The code -/

/-- How an iteration of `PH_LOOP` ends: `continue` with the next header, or `return` a hash. -/
inductive Step where
  | next
  | accept (hash : String)
  deriving DecidableEq, Repr

/-- How the block `if nTxs != 0` ends: on to the block annotation, or `continue` (plain or
`continue PH_LOOP`) to the next header. -/
inductive Flow where
  | through
  | skip
  deriving DecidableEq, Repr

/-- One iteration of the loop over `txs[1:]`: `SimulateWithState` against the state the previous
transaction returned. A failure of the call or of the transaction leaves with `continue PH_LOOP`
(`none`); otherwise the loop goes on from the new state. -/
def simulateNext (rt : Runtime Tx St) (state : St) (tx : Tx) : Option St :=
  match rt.simulateWithState state tx with
  | .error _ => none
  | .ok (txRes, state') => if txRes.error.isSome then none else some state'

/-- The loop `for _, tx := range txs[1:]`: `skip` at the first `continue PH_LOOP`. -/
def simulateRest (rt : Runtime Tx St) : St → List Tx → Flow
  | _, [] => .through
  | state, tx :: txs =>
    match simulateNext rt state tx with
    | none => .skip
    | some state' => simulateRest rt state' txs

/-- The block `if nTxs != 0`: look the identifier up in the request cache and start a retrieval
when it is absent, wait for the record to be ready, and simulate its transactions, the first one
against the latest state (`txs[0]`) and the others in sequence after it. -/
def checkData (rt : Runtime Tx St) (v : View Tx) (ph : Tm.ProposedHeader) :
    Outcome Flow × List (Effect Tx) :=
  match v.cache ph.header.dataID with
  | none => (.ret .skip, [.retrieve ph.header.dataID ph.annotations.driver])
  | some bdr =>
    if !bdr.ready then (.ret .skip, [])
    else
      let txs := bdr.transactions
      (do
        let tx0 ← Go.index txs 0
        match rt.simulate tx0 with
        | .error _ => pure .skip
        | .ok (txRes, state) =>
          if txRes.error.isSome then pure .skip else pure (simulateRest rt state (txs.drop 1)),
        [])

/-- The checks after the data: decode the block annotation, parse its time, and refuse a time
after the clock. -/
def checkTime (rt : Runtime Tx St) (v : View Tx) (ph : Tm.ProposedHeader) : Step :=
  match rt.blockAnnotationJson.unmarshal ph.header.annotations.driver with
  | .error _ => .next
  | .ok ba =>
    match ba.time rt.parseTimeGeneral with
    | .error _ => .next
    | .ok bt => if bt.after v.now then .next else .accept ph.header.hash

/-- What follows the block `if nTxs != 0`: the next header if the block continued, the checks on
the block annotation if it ran through. -/
def afterData (rt : Runtime Tx St) (v : View Tx) (ph : Tm.ProposedHeader) (flow : Outcome Flow) :
    Outcome Step :=
  flow >>= fun
    | .skip => pure .next
    | .through => pure (checkTime rt v ph)

/-- One iteration of `PH_LOOP` for the header `ph`; the constant `excluded` of the source is
`false`, so its branch is left out. -/
def considerOne (rt : Runtime Tx St) (s : ConsensusStrategy) (v : View Tx)
    (ph : Tm.ProposedHeader) : Outcome Step × List (Effect Tx) :=
  if ph.header.height ≠ s.curH then (.ret .next, [])
  else if ph.round ≠ s.curR then (.ret .next, [])
  else
    match rt.parseDataID ph.header.dataID with
    | .error _ => (.ret .next, [])
    | .ok id =>
      if id.height ≠ s.curH then (.ret .next, [])
      else if id.round ≠ s.curR then (.ret .next, [])
      else
        let data := if id.nTxs ≠ 0 then checkData rt v ph else (.ret .through, [])
        (afterData rt v ph data.1, data.2)

/-- `PH_LOOP` from the header of index `i` on, the header of index `j` examined under `views j`. -/
def considerFrom (rt : Runtime Tx St) (s : ConsensusStrategy) (views : Nat → View Tx) :
    Nat → List Tm.ProposedHeader → Outcome (String × Option GoError) × List (Effect Tx)
  | _, [] => (.ret ("", some .proposedBlockChoiceNotReady), [])
  | i, ph :: phs =>
    match considerOne rt s (views i) ph with
    | (.panic m, e) => (.panic m, e)
    | (.ret .next, e) =>
      let r := considerFrom rt s views (i + 1) phs
      (r.1, e ++ r.2)
    | (.ret (.accept h), e) => (.ret (h, none), e)

/-- `ConsensusStrategy.ConsiderProposedBlocks`: the hash of the first header accepted, or
`ErrProposedBlockChoiceNotReady`; and the retrievals started on the way. -/
def considerProposedBlocks (rt : Runtime Tx St) (s : ConsensusStrategy) (views : Nat → View Tx)
    (phs : List Tm.ProposedHeader) : Outcome (String × Option GoError) × List (Effect Tx) :=
  considerFrom rt s views 0 phs

/-- `ConsensusStrategy.ChooseProposedBlock`: `ConsiderProposedBlocks` with
`ErrProposedBlockChoiceNotReady` read as "no choice yet", and any other error passed on. -/
def chooseProposedBlock (rt : Runtime Tx St) (s : ConsensusStrategy) (views : Nat → View Tx)
    (phs : List Tm.ProposedHeader) : Outcome (String × Option GoError) × List (Effect Tx) :=
  let r := considerProposedBlocks rt s views phs
  (do
    let (h, err) ← r.1
    if err = some .proposedBlockChoiceNotReady then pure ("", none)
    else if err.isSome then pure ("", err)
    else pure (h, none),
   r.2)

/-! ### The spec -/

/-- Transactions simulate in sequence from `state`: each one, simulated by `SimulateWithState`
against the state returned for its predecessor, returns no error and a result with no `Error`. -/
inductive SimulatesFrom (rt : Runtime Tx St) : St → List Tx → Prop
  | nil (state : St) : SimulatesFrom rt state []
  | cons (state : St) (tx : Tx) (txs : List Tx) (txRes : Core.TxResult) (state' : St)
      (hsim : rt.simulateWithState state tx = .ok (txRes, state')) (herr : txRes.error = none)
      (hrest : SimulatesFrom rt state' txs) : SimulatesFrom rt state (tx :: txs)

/-- A batch passes the chained simulation: `Simulate` of its first transaction returns no error
and a result with no `Error`, and the others simulate in sequence from the state it returns. -/
def Simulates (rt : Runtime Tx St) : List Tx → Prop
  | [] => False
  | tx :: txs => ∃ txRes state, rt.simulate tx = .ok (txRes, state) ∧ txRes.error = none ∧
      SimulatesFrom rt state txs

/-- A proposed header acceptable in the round `(H, R)` under the view `v` (spec, §4.5): it is of
the round, its identifier parses to the round, its data is empty or ready in the cache and
simulates, and its block annotation decodes to a time that is not after the clock. -/
structure Acceptable (rt : Runtime Tx St) (H : UInt64) (R : UInt32) (v : View Tx)
    (ph : Tm.ProposedHeader) : Prop where
  height : ph.header.height = H
  round : ph.round = R
  dataID : ∃ id, rt.parseDataID ph.header.dataID = .ok id ∧ id.height = H ∧ id.round = R ∧
    (id.nTxs = 0 ∨ ∃ bdr, v.cache ph.header.dataID = some bdr ∧ bdr.ready = true ∧
      Simulates rt bdr.transactions)
  time : ∃ ba bt, rt.blockAnnotationJson.unmarshal ph.header.annotations.driver = .ok ba ∧
    ba.time rt.parseTimeGeneral = .ok bt ∧ bt.after v.now = false

/-- Every ready record of the cache, for an identifier that parses with a nonzero transaction
count, holds at least one transaction. -/
def ReadyNonempty (rt : Runtime Tx St) (cache : String → Option (Record Tx)) : Prop :=
  ∀ dataID id bdr, rt.parseDataID dataID = .ok id → id.nTxs ≠ 0 → cache dataID = some bdr →
    bdr.ready = true → bdr.transactions ≠ []

/-- The retrieval that examining `ph` in the round `(H, R)` starts: for a header of the round
whose identifier parses to the round with a nonzero count and is absent from the cache, one call
of `Retrieve` with its identifier and its proposal driver annotation. -/
def retrieveCall (rt : Runtime Tx St) (H : UInt64) (R : UInt32) (v : View Tx)
    (ph : Tm.ProposedHeader) : List (Effect Tx) :=
  match rt.parseDataID ph.header.dataID with
  | .error _ => []
  | .ok id =>
    if ph.header.height = H ∧ ph.round = R ∧ id.height = H ∧ id.round = R ∧ id.nTxs ≠ 0 ∧
        (v.cache ph.header.dataID).isNone then
      [.retrieve ph.header.dataID ph.annotations.driver]
    else []

/-- The retrievals of the headers `phs`, the first examined under `views i`. -/
def retrieveCalls (rt : Runtime Tx St) (H : UInt64) (R : UInt32) (views : Nat → View Tx) :
    Nat → List Tm.ProposedHeader → List (Effect Tx)
  | _, [] => []
  | i, ph :: phs => retrieveCall rt H R (views i) ph ++ retrieveCalls rt H R views (i + 1) phs

/-! ### One iteration -/

section Iteration

variable {rt : Runtime Tx St} {v : View Tx} {ph : Tm.ProposedHeader}

/-- The loop over `txs[1:]` runs to its end exactly when the transactions simulate in sequence. -/
theorem simulateRest_eq_through_iff {state : St} {txs : List Tx} :
    simulateRest rt state txs = .through ↔ SimulatesFrom rt state txs := by
  induction txs generalizing state with
  | nil => exact ⟨fun _ => .nil state, fun _ => rfl⟩
  | cons tx txs ih =>
    constructor
    · intro h
      simp only [simulateRest, simulateNext] at h
      cases hsim : rt.simulateWithState state tx with
      | error e => simp [hsim] at h
      | ok p =>
        obtain ⟨txRes, state'⟩ := p
        cases herr : txRes.error with
        | some e => simp [hsim, herr] at h
        | none =>
          simp only [hsim, herr, Option.isSome_none, Bool.false_eq_true, if_false] at h
          exact .cons state tx txs txRes state' hsim herr (ih.mp h)
    · rintro (_ | ⟨_, _, _, txRes, state', hsim, herr, hrest⟩)
      simp [simulateRest, simulateNext, hsim, herr, ih.mpr hrest]

/-- `checkData` starts a retrieval exactly when the identifier is absent from the cache. -/
theorem checkData_effects :
    (checkData rt v ph).2 = if (v.cache ph.header.dataID).isNone then
      [.retrieve ph.header.dataID ph.annotations.driver] else [] := by
  unfold checkData
  cases v.cache ph.header.dataID with
  | none => rfl
  | some bdr => by_cases h : bdr.ready <;> simp [h]

/-- The data of a header passes exactly when it is ready in the cache and simulates. -/
theorem checkData_through_iff :
    (checkData rt v ph).1 = .ret .through ↔
      ∃ bdr, v.cache ph.header.dataID = some bdr ∧ bdr.ready = true ∧
        Simulates rt bdr.transactions := by
  unfold checkData
  cases v.cache ph.header.dataID with
  | none => simp
  | some bdr =>
    obtain ⟨ready, txs⟩ := bdr
    cases ready with
    | false => simp
    | true =>
      cases txs with
      | nil => simp [Simulates]
      | cons tx txs =>
        simp only [Bool.not_true, Bool.false_eq_true, if_false, Go.index_cons_zero,
          Outcome.ret_bind, Option.some.injEq, exists_eq_left', true_and, Simulates]
        cases hsim : rt.simulate tx with
        | error e => simp
        | ok p =>
          obtain ⟨txRes, state⟩ := p
          cases herr : txRes.error with
          | some e => simp [herr]
          | none => simp [herr, simulateRest_eq_through_iff, List.drop_one, and_assoc]

/-- When the ready records for the identifier hold a transaction, `checkData` returns. -/
theorem checkData_ret
    (hne : ∀ bdr, v.cache ph.header.dataID = some bdr → bdr.ready = true → bdr.transactions ≠ []) :
    ∃ f, (checkData rt v ph).1 = .ret f := by
  unfold checkData
  cases hc : v.cache ph.header.dataID with
  | none => exact ⟨_, rfl⟩
  | some bdr =>
    obtain ⟨ready, txs⟩ := bdr
    cases ready with
    | false => exact ⟨_, rfl⟩
    | true =>
      obtain ⟨tx, txs, rfl⟩ := List.exists_cons_of_ne_nil (hne _ hc rfl)
      simp only [Bool.not_true, Bool.false_eq_true, if_false, Go.index_cons_zero,
        Outcome.ret_bind]
      split
      · exact ⟨_, rfl⟩
      · split_ifs <;> exact ⟨_, rfl⟩

/-- The checks on the block annotation accept exactly a decodable time not after the clock, and
then the header's hash. -/
theorem checkTime_eq_accept_iff {h : String} :
    checkTime rt v ph = .accept h ↔
      (∃ ba bt, rt.blockAnnotationJson.unmarshal ph.header.annotations.driver = .ok ba ∧
        ba.time rt.parseTimeGeneral = .ok bt ∧ bt.after v.now = false) ∧ h = ph.header.hash := by
  unfold checkTime
  cases hba : rt.blockAnnotationJson.unmarshal ph.header.annotations.driver with
  | error e => simp
  | ok ba =>
    cases hbt : ba.time rt.parseTimeGeneral with
    | error e => simp [hbt]
    | ok bt =>
      cases hafter : bt.after v.now
      · simpa [hbt, hafter] using eq_comm
      · simp [hbt, hafter]

theorem afterData_eq_accept_iff {flow : Outcome Flow} {h : String} :
    afterData rt v ph flow = .ret (.accept h) ↔
      flow = .ret .through ∧ checkTime rt v ph = .accept h := by
  rcases flow with (_ | _) | m <;> simp [afterData]

end Iteration

/-! ### One header -/

section Header

variable {rt : Runtime Tx St} {s : ConsensusStrategy} {v : View Tx} {ph : Tm.ProposedHeader}

theorem acceptable_iff {H : UInt64} {R : UInt32} :
    Acceptable rt H R v ph ↔ ph.header.height = H ∧ ph.round = R ∧
      (∃ id, rt.parseDataID ph.header.dataID = .ok id ∧ id.height = H ∧ id.round = R ∧
        (id.nTxs = 0 ∨ ∃ bdr, v.cache ph.header.dataID = some bdr ∧ bdr.ready = true ∧
          Simulates rt bdr.transactions)) ∧
      ∃ ba bt, rt.blockAnnotationJson.unmarshal ph.header.annotations.driver = .ok ba ∧
        ba.time rt.parseTimeGeneral = .ok bt ∧ bt.after v.now = false :=
  ⟨fun h => ⟨h.height, h.round, h.dataID, h.time⟩, fun ⟨a, b, c, d⟩ => ⟨a, b, c, d⟩⟩

/-- One iteration, case by case: a header that is not of the round, or whose identifier does not
parse to the round, is passed over; otherwise an empty batch goes straight to the checks on the
block annotation, and any other through `checkData` first. -/
theorem considerOne_cases :
    (¬ (ph.header.height = s.curH ∧ ph.round = s.curR ∧ ∃ id,
        rt.parseDataID ph.header.dataID = .ok id ∧ id.height = s.curH ∧ id.round = s.curR) ∧
      considerOne rt s v ph = (.ret .next, [])) ∨
    ∃ id, ph.header.height = s.curH ∧ ph.round = s.curR ∧
      rt.parseDataID ph.header.dataID = .ok id ∧ id.height = s.curH ∧ id.round = s.curR ∧
      (id.nTxs = 0 ∧ considerOne rt s v ph = (.ret (checkTime rt v ph), []) ∨
        id.nTxs ≠ 0 ∧
          considerOne rt s v ph = (afterData rt v ph (checkData rt v ph).1, (checkData rt v ph).2)) := by
  by_cases hh : ph.header.height = s.curH
  swap
  · exact .inl ⟨fun h => hh h.1, by simp [considerOne, hh]⟩
  by_cases hr : ph.round = s.curR
  swap
  · exact .inl ⟨fun h => hr h.2.1, by simp [considerOne, hh, hr]⟩
  cases hp : rt.parseDataID ph.header.dataID with
  | error e => exact .inl ⟨fun ⟨_, _, _, h, _⟩ => (by cases h), by simp [considerOne, hh, hr, hp]⟩
  | ok id =>
    by_cases hih : id.height = s.curH
    swap
    · refine .inl ⟨fun ⟨_, _, _, h, h1, _⟩ => ?_, by simp [considerOne, hh, hr, hp, hih]⟩
      cases h
      exact hih h1
    by_cases hir : id.round = s.curR
    swap
    · refine .inl ⟨fun ⟨_, _, _, h, _, h2⟩ => ?_, by simp [considerOne, hh, hr, hp, hih, hir]⟩
      cases h
      exact hir h2
    refine .inr ⟨id, hh, hr, rfl, hih, hir, ?_⟩
    by_cases hn : id.nTxs = 0
    · exact .inl ⟨hn, by simp [considerOne, hh, hr, hp, hih, hir, hn]; rfl⟩
    · exact .inr ⟨hn, by simp [considerOne, hh, hr, hp, hih, hir, hn]⟩

/-- The retrievals one iteration starts are those the spec names. -/
theorem considerOne_effects : (considerOne rt s v ph).2 = retrieveCall rt s.curH s.curR v ph := by
  rcases @considerOne_cases Tx St rt s v ph with
    ⟨hg, h⟩ | ⟨id, hh, hr, hp, hih, hir, ⟨hn, h⟩ | ⟨hn, h⟩⟩ <;> rw [h]
  · unfold retrieveCall
    split
    · rfl
    · rename_i id hp
      rw [if_neg fun hc => hg ⟨hc.1, hc.2.1, id, hp, hc.2.2.1, hc.2.2.2.1⟩]
  · simp [retrieveCall, hp, hn]
  · simp only [retrieveCall, hp, hh, hr, hih, hir, ne_eq, hn, not_false_eq_true, true_and,
      checkData_effects]

/-- One iteration accepts exactly an acceptable header, and returns its hash. -/
theorem considerOne_accept_iff {h : String} :
    (considerOne rt s v ph).1 = .ret (.accept h) ↔
      Acceptable rt s.curH s.curR v ph ∧ h = ph.header.hash := by
  rcases @considerOne_cases Tx St rt s v ph with
    ⟨hg, hc⟩ | ⟨id, hh, hr, hp, hih, hir, ⟨hn, hc⟩ | ⟨hn, hc⟩⟩ <;> rw [hc]
  · refine ⟨fun h => (by cases h), fun ⟨ha, _⟩ => absurd ?_ hg⟩
    obtain ⟨id, h1, h2, h3, -⟩ := ha.dataID
    exact ⟨ha.height, ha.round, id, h1, h2, h3⟩
  · simp [acceptable_iff, hh, hr, hp, hih, hir, hn, checkTime_eq_accept_iff]
  · simp [acceptable_iff, hh, hr, hp, hih, hir, hn, afterData_eq_accept_iff, checkData_through_iff,
      checkTime_eq_accept_iff, and_assoc]

/-- When the ready records of the cache hold a transaction, one iteration returns. -/
theorem considerOne_ret (hne : ReadyNonempty rt v.cache) :
    ∃ st, (considerOne rt s v ph).1 = .ret st := by
  rcases @considerOne_cases Tx St rt s v ph with
    ⟨-, h⟩ | ⟨id, -, -, hp, -, -, ⟨-, h⟩ | ⟨hn, h⟩⟩ <;> rw [h]
  · exact ⟨_, rfl⟩
  · exact ⟨_, rfl⟩
  · obtain ⟨f, hf⟩ : ∃ f, (checkData rt v ph).1 = .ret f :=
      checkData_ret fun bdr hc hr => hne _ id bdr hp hn hc hr
    rw [hf]
    cases f <;> exact ⟨_, rfl⟩

/-- When the ready records of the cache hold a transaction, an iteration moves on from a header
that is not acceptable. -/
theorem considerOne_next (hne : ReadyNonempty rt v.cache)
    (hna : ¬ Acceptable rt s.curH s.curR v ph) : (considerOne rt s v ph).1 = .ret .next := by
  obtain ⟨st, hst⟩ : ∃ st, (considerOne rt s v ph).1 = .ret st := considerOne_ret hne
  rcases st with _ | h
  · exact hst
  · exact absurd (considerOne_accept_iff.mp hst).1 hna

/-- An acceptable header starts no retrieval: its data is empty or in the cache. -/
theorem retrieveCall_of_acceptable {H : UInt64} {R : UInt32} (h : Acceptable rt H R v ph) :
    retrieveCall rt H R v ph = [] := by
  obtain ⟨id, hp, -, -, hdata⟩ := h.dataID
  unfold retrieveCall
  rw [hp]
  rcases hdata with hn | ⟨bdr, hc, -⟩ <;> simp [*]

/-- The retrieval the spec names for a header: of its identifier with its proposal annotation,
for a header of the round whose identifier parses to the round with a nonzero count and whose
data the view lacks. -/
theorem mem_retrieveCall {H : UInt64} {R : UInt32} {e : Effect Tx} :
    e ∈ retrieveCall rt H R v ph ↔
      e = .retrieve ph.header.dataID ph.annotations.driver ∧ ph.header.height = H ∧ ph.round = R ∧
        (∃ id, rt.parseDataID ph.header.dataID = .ok id ∧ id.height = H ∧ id.round = R ∧
          id.nTxs ≠ 0) ∧ v.cache ph.header.dataID = none := by
  unfold retrieveCall
  split
  · rename_i e' hp
    simp [hp]
  · rename_i id hp
    simp only [hp, Except.ok.injEq, exists_eq_left', ← Option.isNone_iff_eq_none]
    split_ifs with hc
    · simp only [List.mem_singleton, hc, ne_eq, not_false_eq_true, and_self, and_true]
    · simp only [List.not_mem_nil, false_iff]
      exact fun ⟨_, h⟩ => hc (by simpa only [and_assoc] using h)

/-- Examining a header of the round whose identifier parses to the round with a nonzero count,
and whose data the cache lacks, starts its retrieval and moves on. -/
theorem considerOne_of_missing {id : ParsedDataID} (hh : ph.header.height = s.curH)
    (hr : ph.round = s.curR) (hp : rt.parseDataID ph.header.dataID = .ok id)
    (hih : id.height = s.curH) (hir : id.round = s.curR) (hn : id.nTxs ≠ 0)
    (hc : v.cache ph.header.dataID = none) :
    considerOne rt s v ph = (.ret .next, [.retrieve ph.header.dataID ph.annotations.driver]) := by
  simp [considerOne, hh, hr, hp, hih, hir, hn, checkData, hc, afterData]

/-- A header acceptable under a view stays acceptable under a later one: a view whose cache keeps
the ready records of the earlier one and whose clock has not gone backwards. Acceptance reads only
ready records, so that what becomes of a record still being retrieved does not matter. -/
theorem acceptable_of_later {H : UInt64} {R : UInt32} {v' : View Tx}
    (h : Acceptable rt H R v ph)
    (hcache : ∀ dataID r, v.cache dataID = some r → r.ready = true → v'.cache dataID = some r)
    (hclock : v.now.after v'.now = false) : Acceptable rt H R v' ph := by
  obtain ⟨hh, hr, ⟨pid, hp, hih, hir, hdata⟩, ⟨ba, bt, hba, hbt, hafter⟩⟩ := h
  exact ⟨hh, hr, ⟨pid, hp, hih, hir, hdata.imp id fun ⟨bdr, hc, hrd, hs⟩ =>
    ⟨bdr, hcache _ _ hc hrd, hrd, hs⟩⟩, ⟨ba, bt, hba, hbt, Time.after_eq_false_trans hafter hclock⟩⟩

end Header

/-! ### The loop -/

section Loop

variable {rt : Runtime Tx St} {s : ConsensusStrategy} {views : Nat → View Tx} {i : Nat}
  {ph : Tm.ProposedHeader} {phs : List Tm.ProposedHeader}

theorem considerFrom_cons_of_next (h : (considerOne rt s (views i) ph).1 = .ret .next) :
    considerFrom rt s views i (ph :: phs) =
      ((considerFrom rt s views (i + 1) phs).1,
        (considerOne rt s (views i) ph).2 ++ (considerFrom rt s views (i + 1) phs).2) := by
  rw [considerFrom]
  rcases hc : considerOne rt s (views i) ph with ⟨o, e⟩
  rw [hc] at h
  subst h
  rfl

theorem considerFrom_cons_of_accept {hash : String}
    (h : (considerOne rt s (views i) ph).1 = .ret (.accept hash)) :
    considerFrom rt s views i (ph :: phs) = (.ret (hash, none), (considerOne rt s (views i) ph).2) := by
  rw [considerFrom]
  rcases hc : considerOne rt s (views i) ph with ⟨o, e⟩
  rw [hc] at h
  subst h
  rfl

/-- An acceptable header first in line is accepted, and starts no retrieval. -/
theorem considerFrom_cons_of_acceptable (h : Acceptable rt s.curH s.curR (views i) ph) :
    considerFrom rt s views i (ph :: phs) = (.ret (ph.header.hash, none), []) := by
  rw [considerFrom_cons_of_accept (considerOne_accept_iff.mpr ⟨h, rfl⟩), considerOne_effects,
    retrieveCall_of_acceptable h]

/-- A call the loop makes is the retrieval of its header of index `k`, examined under
`views (i + k)` once the loop has moved on from every header before it; the calls of the loop
begin with the retrievals of the headers up to that one. -/
theorem considerFrom_effect_index (i : Nat) (phs : List Tm.ProposedHeader) {e : Effect Tx}
    (he : e ∈ (considerFrom rt s views i phs).2) :
    ∃ k, ∃ hk : k < phs.length,
      e ∈ retrieveCall rt s.curH s.curR (views (i + k)) (phs.get ⟨k, hk⟩) ∧
      (∀ j (hj : j < k),
        (considerOne rt s (views (i + j)) (phs.get ⟨j, Nat.lt_trans hj hk⟩)).1 = .ret .next) ∧
      retrieveCalls rt s.curH s.curR views i (phs.take (k + 1)) <+:
        (considerFrom rt s views i phs).2 := by
  induction phs generalizing i with
  | nil => cases he
  | cons ph phs ih =>
    have hone := @considerOne_effects Tx St rt s (views i) ph
    -- a call of the first header's own examination, whose calls the loop's begin with
    have hfirst : ∀ l, (considerOne rt s (views i) ph).2 <+: l →
        e ∈ (considerOne rt s (views i) ph).2 →
        ∃ k, ∃ hk : k < (ph :: phs).length,
          e ∈ retrieveCall rt s.curH s.curR (views (i + k)) ((ph :: phs).get ⟨k, hk⟩) ∧
          (∀ j (hj : j < k), (considerOne rt s (views (i + j))
            ((ph :: phs).get ⟨j, Nat.lt_trans hj hk⟩)).1 = .ret .next) ∧
          retrieveCalls rt s.curH s.curR views i ((ph :: phs).take (k + 1)) <+: l :=
      fun l hl h => ⟨0, Nat.succ_pos _, by simpa [hone] using h,
        fun j hj => absurd hj (Nat.not_lt_zero _), by simpa [retrieveCalls, hone] using hl⟩
    rcases hc : considerOne rt s (views i) ph with ⟨(_ | hash) | m, e₀⟩ <;> rw [hc] at hfirst hone
    · have hnext : (considerOne rt s (views i) ph).1 = .ret .next := by rw [hc]
      rw [considerFrom_cons_of_next hnext, hc] at he ⊢
      rcases List.mem_append.mp he with he | he
      · exact hfirst _ (List.prefix_append _ _) he
      obtain ⟨k, hk, hm, hprev, hpre⟩ := ih (i + 1) he
      refine ⟨k + 1, Nat.succ_lt_succ hk, by simpa [Nat.add_assoc, Nat.add_comm 1] using hm,
        fun j hj => ?_, ?_⟩
      · cases j with
        | zero => simpa using hnext
        | succ j => simpa [Nat.add_assoc, Nat.add_comm 1] using hprev j (Nat.lt_of_succ_lt_succ hj)
      · rw [List.take_succ_cons, retrieveCalls, ← hone]
        exact (List.prefix_append_right_inj _).mpr hpre
    · rw [considerFrom_cons_of_accept (by rw [hc]), hc] at he ⊢
      exact hfirst _ (List.prefix_refl _) he
    · rw [considerFrom, hc] at he ⊢
      exact hfirst _ (List.prefix_refl _) he

/-- A call the loop makes is the retrieval of one of its headers, examined under a view of index
`i` or more. -/
theorem considerFrom_effect_mem (i : Nat) (phs : List Tm.ProposedHeader) :
    ∀ e ∈ (considerFrom rt s views i phs).2,
      ∃ n, ∃ ph ∈ phs, e ∈ retrieveCall rt s.curH s.curR (views (i + n)) ph := fun _ he =>
  let ⟨k, hk, hm, _⟩ := considerFrom_effect_index i phs he
  ⟨k, _, List.get_mem _ _ hk, hm⟩

/-- A call of `pbdr.Retrieve` asks for the identifier `retrievedID` names. -/
theorem Effect.eq_retrieve_of_retrievedID {e : Effect Tx} {dataID : String}
    (h : e.retrievedID = some dataID) : ∃ driver, e = .retrieve dataID driver := by
  cases e with
  | retrieve dataID' driver =>
    cases h
    exact ⟨driver, rfl⟩
  | _ => cases h

/-- An examination retrieves at most one identifier. -/
theorem retrieveCall_retrievedID_nodup {H : UInt64} {R : UInt32} {v : View Tx}
    {ph : Tm.ProposedHeader} : ((retrieveCall rt H R v ph).filterMap Effect.retrievedID).Nodup := by
  unfold retrieveCall
  split
  · exact List.nodup_nil
  · split_ifs <;> simp [Effect.retrievedID]

/-- The loop asks for each identifier at most once, when the cache records a retrieval before the
next header is examined: the header examined under `views (i + n)` sees a record for every
identifier retrieved by the examinations of the `n` headers before it. -/
theorem considerFrom_retrievedID_nodup (i : Nat) (phs : List Tm.ProposedHeader)
    (hrec : ∀ n dataID driver,
      .retrieve dataID driver ∈ (considerFrom rt s views i (phs.take n)).2 →
        (views (i + n)).cache dataID ≠ none) :
    ((considerFrom rt s views i phs).2.filterMap Effect.retrievedID).Nodup := by
  induction phs generalizing i with
  | nil => exact List.nodup_nil
  | cons ph phs ih =>
    have hone : ((considerOne rt s (views i) ph).2.filterMap Effect.retrievedID).Nodup := by
      rw [considerOne_effects]
      exact retrieveCall_retrievedID_nodup
    rcases hc : considerOne rt s (views i) ph with ⟨(_ | hash) | m, e⟩
    · have hnext : (considerOne rt s (views i) ph).1 = .ret .next := by rw [hc]
      -- the headers after the first see the records of its retrieval and of theirs
      have htake : ∀ n, (considerFrom rt s views i ((ph :: phs).take (n + 1))).2 =
          (considerOne rt s (views i) ph).2 ++ (considerFrom rt s views (i + 1) (phs.take n)).2 :=
        fun n => by rw [List.take_succ_cons, considerFrom_cons_of_next hnext]
      rw [considerFrom_cons_of_next hnext, List.filterMap_append, List.nodup_append]
      refine ⟨hone, ih (i + 1) fun n dataID driver h => ?_, ?_⟩
      · have := hrec (n + 1) dataID driver (by rw [htake]; exact List.mem_append_right _ h)
        rwa [← Nat.add_assoc, Nat.add_right_comm] at this
      · intro dataID hl hr
        obtain ⟨e₁, he₁, h₁⟩ := List.mem_filterMap.mp hl
        obtain ⟨e₂, he₂, h₂⟩ := List.mem_filterMap.mp hr
        obtain ⟨d₁, rfl⟩ := Effect.eq_retrieve_of_retrievedID h₁
        obtain ⟨d₂, rfl⟩ := Effect.eq_retrieve_of_retrievedID h₂
        obtain ⟨n, ph', -, hm⟩ := considerFrom_effect_mem (i + 1) phs _ he₂
        obtain ⟨heq, -, -, -, hnone⟩ := mem_retrieveCall.mp hm
        cases heq
        have hsome := hrec (n + 1) _ d₁ (by rw [htake]; exact List.mem_append_left _ he₁)
        rw [← Nat.add_assoc, Nat.add_right_comm] at hsome
        exact hsome hnone
    · rw [considerFrom_cons_of_accept (by rw [hc])]
      exact hone
    · rw [considerFrom, hc]
      rw [hc] at hone
      exact hone

/-- The loop returns the hash of the header it accepts with no error, or `""` with
`ErrProposedBlockChoiceNotReady`. -/
theorem considerFrom_ret_cases (i : Nat) (phs : List Tm.ProposedHeader)
    {r : String × Option GoError} (hr : (considerFrom rt s views i phs).1 = .ret r) :
    r = ("", some .proposedBlockChoiceNotReady) ∨ ∃ h, r = (h, none) := by
  induction phs generalizing i with
  | nil => exact .inl (Outcome.ret.inj hr).symm
  | cons ph phs ih =>
    rcases hc : considerOne rt s (views i) ph with ⟨(_ | hash) | m, e⟩
    · rw [considerFrom_cons_of_next (by rw [hc])] at hr
      exact ih (i + 1) hr
    · rw [considerFrom_cons_of_accept (by rw [hc])] at hr
      exact .inr ⟨hash, (Outcome.ret.inj hr).symm⟩
    · simp [considerFrom, hc] at hr

/-- When the ready records hold a transaction and some header is acceptable, the loop chooses a
block. -/
theorem considerFrom_chooses (hne : ∀ j, ReadyNonempty rt (views j).cache)
    (hex : ∃ j, ∃ hj : j < phs.length,
      Acceptable rt s.curH s.curR (views (i + j)) (phs.get ⟨j, hj⟩)) :
    ∃ h, (considerFrom rt s views i phs).1 = .ret (h, none) := by
  induction phs generalizing i with
  | nil =>
    obtain ⟨j, hj, -⟩ := hex
    exact absurd hj (Nat.not_lt_zero _)
  | cons ph phs ih =>
    by_cases ha : Acceptable rt s.curH s.curR (views i) ph
    · exact ⟨_, by rw [considerFrom_cons_of_acceptable ha]⟩
    rw [considerFrom_cons_of_next (considerOne_next (hne i) ha)]
    obtain ⟨j, hj, hacc⟩ := hex
    cases j with
    | zero => exact absurd (by simpa using hacc) ha
    | succ j =>
      exact ih ⟨j, Nat.lt_of_succ_lt_succ hj, by simpa [Nat.add_assoc, Nat.add_comm 1] using hacc⟩

/-- With every examined header before `ph` not acceptable and `ph` acceptable, the loop returns
the hash of `ph`. -/
theorem considerFrom_first (hne : ∀ j, ReadyNonempty rt (views j).cache) (pre post : List Tm.ProposedHeader)
    (hpre : ∀ j (hj : j < pre.length),
      ¬ Acceptable rt s.curH s.curR (views (i + j)) (pre.get ⟨j, hj⟩))
    (hph : Acceptable rt s.curH s.curR (views (i + pre.length)) ph) :
    (considerFrom rt s views i (pre ++ ph :: post)).1 = .ret (ph.header.hash, none) := by
  induction pre generalizing i with
  | nil =>
    simp only [List.length_nil, Nat.add_zero] at hph
    rw [List.nil_append, considerFrom_cons_of_accept (considerOne_accept_iff.mpr ⟨hph, rfl⟩)]
  | cons p pre ih =>
    rw [List.cons_append, considerFrom_cons_of_next (considerOne_next (hne i)
      (by simpa using hpre 0 (Nat.succ_pos _)))]
    refine ih (fun j hj => ?_) (by simpa [Nat.add_assoc, Nat.add_comm 1] using hph)
    simpa [Nat.add_assoc, Nat.add_comm 1] using hpre (j + 1) (Nat.succ_lt_succ hj)

/-- With no acceptable header, the loop runs to its end and reports that no block is ready. -/
theorem considerFrom_none (hne : ∀ j, ReadyNonempty rt (views j).cache)
    (hall : ∀ j (hj : j < phs.length),
      ¬ Acceptable rt s.curH s.curR (views (i + j)) (phs.get ⟨j, hj⟩)) :
    (considerFrom rt s views i phs).1 = .ret ("", some .proposedBlockChoiceNotReady) := by
  induction phs generalizing i with
  | nil => rfl
  | cons p phs ih =>
    rw [considerFrom_cons_of_next (considerOne_next (hne i)
      (by simpa using hall 0 (Nat.succ_pos _)))]
    exact ih fun j hj => by
      simpa [Nat.add_assoc, Nat.add_comm 1] using hall (j + 1) (Nat.succ_lt_succ hj)

/-- Whenever the loop returns, it has examined the headers up to the one it accepts, or all of
them, found none of those before acceptable, and started the retrievals of exactly those. -/
theorem considerFrom_returns (i : Nat) (phs : List Tm.ProposedHeader) :
    ((considerFrom rt s views i phs).1 = .ret ("", some .proposedBlockChoiceNotReady) →
      (considerFrom rt s views i phs).2 = retrieveCalls rt s.curH s.curR views i phs) ∧
    ∀ h, (considerFrom rt s views i phs).1 = .ret (h, none) →
      ∃ pre ph post, phs = pre ++ ph :: post ∧ h = ph.header.hash ∧
        Acceptable rt s.curH s.curR (views (i + pre.length)) ph ∧
        (∀ j (hj : j < pre.length),
          ¬ Acceptable rt s.curH s.curR (views (i + j)) (pre.get ⟨j, hj⟩)) ∧
        (considerFrom rt s views i phs).2 = retrieveCalls rt s.curH s.curR views i pre := by
  induction phs generalizing i with
  | nil => exact ⟨fun _ => rfl, fun h hr => by simp [considerFrom] at hr⟩
  | cons ph phs ih =>
    rcases hc : considerOne rt s (views i) ph with ⟨(_ | hash) | m, e⟩
    · have he : e = retrieveCall rt s.curH s.curR (views i) ph := by rw [← considerOne_effects, hc]
      have hnext : (considerOne rt s (views i) ph).1 = .ret .next := by rw [hc]
      have hna : ¬ Acceptable rt s.curH s.curR (views i) ph := fun ha => by
        simpa [hnext] using considerOne_accept_iff.mpr ⟨ha, rfl⟩
      obtain ⟨ih1, ih2⟩ := ih (i + 1)
      rw [considerFrom_cons_of_next hnext, hc]
      refine ⟨fun hr => by simp only [retrieveCalls, he, ih1 hr], fun h hr => ?_⟩
      obtain ⟨pre, ph', post, rfl, rfl, hacc, hpre, hrest⟩ := ih2 h hr
      refine ⟨ph :: pre, ph', post, rfl, rfl, by simpa [Nat.add_assoc, Nat.add_comm 1] using hacc,
        fun j hj => ?_, by simp only [retrieveCalls, he, hrest]⟩
      cases j with
      | zero => simpa using hna
      | succ j => simpa [Nat.add_assoc, Nat.add_comm 1] using hpre j (Nat.lt_of_succ_lt_succ hj)
    · have haccept : (considerOne rt s (views i) ph).1 = .ret (.accept hash) := by rw [hc]
      obtain ⟨hacc, rfl⟩ := considerOne_accept_iff.mp haccept
      have he : e = [] := by rw [← retrieveCall_of_acceptable hacc, ← considerOne_effects, hc]
      rw [considerFrom_cons_of_accept haccept, hc]
      exact ⟨fun hr => by simp at hr, fun h hr => ⟨[], ph, phs, rfl, by simpa using hr.symm,
        by simpa using hacc, fun j hj => absurd hj (Nat.not_lt_zero _), by simp [retrieveCalls, he]⟩⟩
    · simp [considerFrom, hc]

end Loop

/-! ### The call -/

section Call

variable {rt : Runtime Tx St} {s : ConsensusStrategy} {views : Nat → View Tx}

/-- When every ready record of the cache for an identifier with a nonzero transaction count holds
a transaction, `ConsiderProposedBlocks` returns the hash of the first acceptable header, and
`ErrProposedBlockChoiceNotReady` when no header is acceptable. -/
theorem considerProposedBlocks_first (hne : ∀ j, ReadyNonempty rt (views j).cache)
    (phs : List Tm.ProposedHeader) :
    (∀ pre ph post, phs = pre ++ ph :: post →
      (∀ j (hj : j < pre.length),
        ¬ Acceptable rt s.curH s.curR (views j) (pre.get ⟨j, hj⟩)) →
      Acceptable rt s.curH s.curR (views pre.length) ph →
      (considerProposedBlocks rt s views phs).1 = .ret (ph.header.hash, none)) ∧
    ((∀ j (hj : j < phs.length), ¬ Acceptable rt s.curH s.curR (views j) (phs.get ⟨j, hj⟩)) →
      (considerProposedBlocks rt s views phs).1 = .ret ("", some .proposedBlockChoiceNotReady)) :=
  ⟨fun pre ph post hphs hpre hph => hphs ▸
      considerFrom_first (i := 0) hne pre post (by simpa using hpre) (by simpa using hph),
    fun hall => considerFrom_none (i := 0) hne (by simpa using hall)⟩

/-- Whenever `ConsiderProposedBlocks` returns, the header whose hash it returns is the first
acceptable one, and the retrievals it started are those of the headers examined before it, or of
all headers when it reports that no block is ready. -/
theorem considerProposedBlocks_returns (phs : List Tm.ProposedHeader) :
    ((considerProposedBlocks rt s views phs).1 = .ret ("", some .proposedBlockChoiceNotReady) →
      (considerProposedBlocks rt s views phs).2 = retrieveCalls rt s.curH s.curR views 0 phs) ∧
    ∀ h, (considerProposedBlocks rt s views phs).1 = .ret (h, none) →
      ∃ pre ph post, phs = pre ++ ph :: post ∧ h = ph.header.hash ∧
        Acceptable rt s.curH s.curR (views pre.length) ph ∧
        (∀ j (hj : j < pre.length),
          ¬ Acceptable rt s.curH s.curR (views j) (pre.get ⟨j, hj⟩)) ∧
        (considerProposedBlocks rt s views phs).2 = retrieveCalls rt s.curH s.curR views 0 pre := by
  obtain ⟨h1, h2⟩ := @considerFrom_returns Tx St rt s views 0 phs
  refine ⟨h1, fun h hr => ?_⟩
  obtain ⟨pre, ph, post, hphs, hh, hacc, hpre, heff⟩ := h2 h hr
  exact ⟨pre, ph, post, hphs, hh, by simpa using hacc, by simpa using hpre, heff⟩

/-- `ChooseProposedBlock` under the same hypothesis: the hash of the first acceptable header, and
no choice yet (`""` with no error) when no header is acceptable. -/
theorem chooseProposedBlock_first (hne : ∀ j, ReadyNonempty rt (views j).cache)
    (phs : List Tm.ProposedHeader) :
    (∀ pre ph post, phs = pre ++ ph :: post →
      (∀ j (hj : j < pre.length),
        ¬ Acceptable rt s.curH s.curR (views j) (pre.get ⟨j, hj⟩)) →
      Acceptable rt s.curH s.curR (views pre.length) ph →
      (chooseProposedBlock rt s views phs).1 = .ret (ph.header.hash, none)) ∧
    ((∀ j (hj : j < phs.length), ¬ Acceptable rt s.curH s.curR (views j) (phs.get ⟨j, hj⟩)) →
      (chooseProposedBlock rt s views phs).1 = .ret ("", none)) := by
  obtain ⟨h1, h2⟩ := considerProposedBlocks_first (s := s) hne phs
  exact ⟨fun pre ph post hphs hpre hph => by
      simp [chooseProposedBlock, h1 pre ph post hphs hpre hph],
    fun hall => by simp [chooseProposedBlock, h2 hall]⟩

end Call

/-! ### A concrete run -/

/-- `BlockAnnotation` written as its one field, a lawful stand-in for `encoding/json` in concrete
runs. -/
def plainBlockAnnotationJson : JsonCodec BlockAnnotation where
  marshal ba := .ok ba.timeS
  unmarshal t := .ok ⟨t⟩
  unmarshal_marshal _ _ h := by cases h; rfl

/-- An encoding of `ProposalDriverAnnotation` for concrete runs whose data is served nowhere: it
writes the annotation of no location as `""`, and fails on any other. -/
def emptyProposalDriverAnnotationJson : JsonCodec ProposalDriverAnnotation where
  marshal pda := if pda.locations = [] then .ok "" else .error "unsupported"
  unmarshal s := if s = "" then .ok ⟨[]⟩ else .error "unsupported"
  unmarshal_marshal a b h := by
    obtain ⟨locations⟩ := a
    by_cases hl : locations = [] <;> simp_all

/-- A runtime for concrete runs, with the identifier codec `parse`: every transaction simulates,
and Go's general time parser fails. -/
def exampleRuntime (parse : String → Except String ParsedDataID) : Runtime Unit Unit where
  simulate _ := .ok (⟨[], 0, 0, none⟩, ())
  simulateWithState _ _ := .ok (⟨[], 0, 0, none⟩, ())
  dataID h r _ _ := toString h ++ ":" ++ toString r
  parseDataID := parse
  blockAnnotationJson := plainBlockAnnotationJson
  proposalDriverAnnotationJson := emptyProposalDriverAnnotationJson
  parseTimeGeneral _ := .error "unparsed"

/-- A header of round `(1, 0)` whose identifier counts one transaction, with a ready record of no
transaction in the cache: `txs[0]` panics, where the spec skips the header. -/
theorem considerProposedBlocks_panics_on_empty_ready :
    (considerProposedBlocks (exampleRuntime fun _ => .ok ⟨1, 0, 1⟩) ⟨1, 0⟩
      (fun _ => ⟨fun _ => some ⟨true, []⟩, ⟨0, 0⟩⟩)
      [⟨⟨1, "hash", "1:0:1:0:", ⟨""⟩⟩, 0, "proposer", ⟨""⟩⟩]).1 =
      .panic "runtime error: index out of range [0] with length 0" := by
  decide

end Gcosmos.Gsi

import Mathlib.Data.List.Forall2
import Gcosmos.Gsi.Types

/-!
# The handlers of the gRPC server

`GordianGRPC` serves the SDK's command line. `SubmitTransaction` decodes a transaction, validates
it against the latest state, adds it to the transaction buffer, and answers with the validation
result converted to the proto types; `SimulateTransaction` does the same with a simulation and
adds nothing. A handler reports a failure either as a Go error (a failure of the server: the
state could not be read, the buffer refused the transaction) or as a response with a non-empty
`Error` (a failure of the request: the transaction does not decode or is invalid).

The result is converted by `getGordianResponseFromSDKResult`, which calls `Attributes()` on each
event; that call computes the attributes and can fail, and the response then carries only the
failure. In `SubmitTransaction` this conversion comes after `AddTx`, so that a transaction
already in the buffer can be reported as failed.

`PendingTransactions` encodes the buffered transactions one by one and stops at the first that
fails to encode. `QueryAccountBalance` requires an address, queries the balance of the request's
denomination, `stake` by default, and passes the answer through the codec. `QueryTx` panics when
the store fails to load the hash, and converts the stored height to `int64`.

The Go pair `(*TxResultResponse, error)` is an `Except String TxResultResponse`: every path of the
handlers sets exactly one of the two. `SubmitTransaction` also returns the transaction it added
to the buffer, if any.

## Main definitions

* `Ggrpc.convertEvent`, `Ggrpc.getGordianResponseFromSDKResult`: the conversion of a result.
* `Ggrpc.submitTransaction`, `Ggrpc.simulateTransaction`, `Ggrpc.queryTx`,
  `Ggrpc.pendingTransactions`, `Ggrpc.queryAccountBalance`: the handlers.

## Main results

* `Ggrpc.submitTransaction_added_iff`: the transaction is added exactly when it decodes,
  validates and the buffer takes it.
* `Ggrpc.submitTransaction_success_iff`: the handler reports success exactly when it added the
  transaction and every event of the result converts.
* `Ggrpc.convertEvent_ok_iff`: the events convert exactly when every `Attributes()` call
  succeeds.
* `Ggrpc.submitTransaction_reports_failure_after_adding`: a transaction whose events fail to
  convert is added and reported as failed.
* `Ggrpc.pendingTransactions_ok_iff`, `Ggrpc.pendingTransactions_error_iff`: the pending
  transactions are listed in order when all encode, and the first that fails is reported.
* `Ggrpc.queryAccountBalance_query`: no balance query has an empty address or denomination.

Source: package `ggrpc`, from `GordianGRPC.SubmitTransaction` to `convertEvent`.
-/

namespace Gcosmos.Ggrpc

open Go

variable {Tx : Type}

/-! ### The proto types -/

/-- The proto `Attribute`. -/
structure Attribute where
  key : String
  value : String
  deriving DecidableEq, Repr

/-- The proto `Event`. -/
structure Event where
  type : String
  attributes : List Attribute
  deriving DecidableEq, Repr

/-- The proto `TxResultResponse`, by the fields the handlers set; the others keep their zero
values. -/
structure TxResultResponse where
  events : List Event
  gasWanted : UInt64
  gasUsed : UInt64
  error : String
  deriving DecidableEq, Repr

/-- A response that carries only the text of a failure. -/
def errorResponse (msg : String) : TxResultResponse := ⟨[], 0, 0, msg⟩

/-- The proto `SDKQueryTxResponse`, by the fields `QueryTx` sets. -/
structure SDKQueryTxResponse where
  txHash : String
  height : Int
  result : TxResultResponse
  txBytes : String
  deriving DecidableEq, Repr

/-! ### The conversion of a result -/

/-- `convertEvent`: each event with the attributes `Attributes()` computes for it, or the error of
the first call that fails. -/
def convertEvent : List Core.Event → Except String (List Event)
  | [] => .ok []
  | ev :: e =>
    match ev.attributes with
    | .error err => .error err
    | .ok evAttrs =>
      (convertEvent e).map fun events => ⟨ev.type, evAttrs.map fun a => ⟨a.key, a.value⟩⟩ :: events

/-- `getGordianResponseFromSDKResult`: the converted events, the gas and the text of the result's
own error; or only the failure of the conversion. -/
def getGordianResponseFromSDKResult (res : Core.TxResult) : TxResultResponse :=
  match convertEvent res.events with
  | .error err => errorResponse ("failed to extract result events: " ++ err)
  | .ok events => ⟨events, res.gasWanted, res.gasUsed, res.error.getD ""⟩

/-- The events of a result convert exactly when every `Attributes()` call succeeds. -/
theorem convertEvent_ok_iff (e : List Core.Event) :
    (∃ events, convertEvent e = .ok events) ↔ ∀ ev ∈ e, ∃ attrs, ev.attributes = .ok attrs := by
  induction e with
  | nil => simp [convertEvent]
  | cons ev e ih =>
    simp only [convertEvent, List.mem_cons, forall_eq_or_imp]
    cases ev.attributes with
    | error err => simp
    | ok attrs =>
      rw [← ih]
      cases convertEvent e <;> simp [Except.map]

/-! ### The handlers -/

/-- The collaborators of `GordianGRPC` the handlers call: the transaction codec, the app
manager's validation, simulation and transaction store, and the buffer's `AddTx`, which adds the
transaction when it returns no error. -/
structure Server (Tx : Type) where
  decodeJSON : String → Except String Tx
  validateTx : Tx → Except String Core.TxResult
  simulate : Tx → Except String Core.TxResult
  addTx : Tx → Except String Unit
  loadTxByHash : String → Except String (UInt64 × String × Core.TxResult)

/-- `GordianGRPC.SubmitTransaction` on the request's transaction bytes: what it returns, and the
transaction it added to the buffer. -/
def submitTransaction (g : Server Tx) (reqTx : String) :
    Except String TxResultResponse × Option Tx :=
  match g.decodeJSON reqTx with
  | .error err => (.ok (errorResponse ("failed to decode transaction json: " ++ err)), none)
  | .ok tx =>
    match g.validateTx tx with
    | .error err => (.error ("failed to validate transaction: " ++ err), none)
    | .ok res =>
      match res.error with
      | some e => (.ok (errorResponse ("failed to validate transaction: " ++ e)), none)
      | none =>
        match g.addTx tx with
        | .error err => (.error ("failed to add transaction to buffer: " ++ err), none)
        | .ok () => (.ok (getGordianResponseFromSDKResult res), some tx)

/-- `GordianGRPC.SimulateTransaction`: as `SubmitTransaction`, with a simulation in place of the
validation and no transaction added. -/
def simulateTransaction (g : Server Tx) (reqTx : String) : Except String TxResultResponse :=
  match g.decodeJSON reqTx with
  | .error err => .ok (errorResponse ("failed to decode transaction json: " ++ err))
  | .ok tx =>
    match g.simulate tx with
    | .error err => .error ("failed to simulate transaction: " ++ err)
    | .ok res =>
      match res.error with
      | some e => .ok (errorResponse ("failed to simulate transaction: " ++ e))
      | none => .ok (getGordianResponseFromSDKResult res)

/-- `GordianGRPC.QueryTx`: a failure of the store panics; the height is converted to `int64`. -/
def queryTx (g : Server Tx) (txHash : String) : Outcome SDKQueryTxResponse :=
  match g.loadTxByHash txHash with
  | .error err => .panic err
  | .ok (height, txBytes, txResult) =>
    .ret ⟨txHash, Go.int height.toNat, getGordianResponseFromSDKResult txResult, txBytes⟩

/-! ### What the handlers report -/

section Report

variable {g : Server Tx} {reqTx : String}

/-- The response to a result converts its events exactly when every `Attributes()` call succeeds,
and then reports the result's own error. -/
theorem getGordianResponseFromSDKResult_of_ok {res : Core.TxResult} {events : List Event}
    (h : convertEvent res.events = .ok events) :
    getGordianResponseFromSDKResult res = ⟨events, res.gasWanted, res.gasUsed, res.error.getD ""⟩ := by
  rw [getGordianResponseFromSDKResult, h]

theorem getGordianResponseFromSDKResult_of_error {res : Core.TxResult} {err : String}
    (h : convertEvent res.events = .error err) :
    getGordianResponseFromSDKResult res = errorResponse ("failed to extract result events: " ++ err) := by
  rw [getGordianResponseFromSDKResult, h]

/-- A message after a non-empty prefix is not empty. -/
private theorem append_ne_empty {pre : String} (msg : String) (h : 0 < pre.length) :
    pre ++ msg ≠ "" := by
  intro he
  have := congrArg String.length he
  rw [String.length_append] at this
  exact absurd this (by simp only [String.length_empty]; omega)

/-- The five paths of `SubmitTransaction`: the transaction does not decode, its validation fails
to run, it is invalid, the buffer refuses it, or it is added and the result converted. -/
theorem submitTransaction_cases (g : Server Tx) (reqTx : String) :
    (∃ err, g.decodeJSON reqTx = .error err ∧ submitTransaction g reqTx =
      (.ok (errorResponse ("failed to decode transaction json: " ++ err)), none)) ∨
    (∃ tx err, g.decodeJSON reqTx = .ok tx ∧ g.validateTx tx = .error err ∧
      submitTransaction g reqTx = (.error ("failed to validate transaction: " ++ err), none)) ∨
    (∃ tx res e, g.decodeJSON reqTx = .ok tx ∧ g.validateTx tx = .ok res ∧ res.error = some e ∧
      submitTransaction g reqTx = (.ok (errorResponse ("failed to validate transaction: " ++ e)), none)) ∨
    (∃ tx res err, g.decodeJSON reqTx = .ok tx ∧ g.validateTx tx = .ok res ∧ res.error = none ∧
      g.addTx tx = .error err ∧
      submitTransaction g reqTx = (.error ("failed to add transaction to buffer: " ++ err), none)) ∨
    (∃ tx res, g.decodeJSON reqTx = .ok tx ∧ g.validateTx tx = .ok res ∧ res.error = none ∧
      g.addTx tx = .ok () ∧
      submitTransaction g reqTx = (.ok (getGordianResponseFromSDKResult res), some tx)) := by
  cases hd : g.decodeJSON reqTx with
  | error err => exact .inl ⟨err, rfl, by simp [submitTransaction, hd]⟩
  | ok tx =>
    cases hv : g.validateTx tx with
    | error err => exact .inr (.inl ⟨tx, err, rfl, hv, by simp [submitTransaction, hd, hv]⟩)
    | ok res =>
      cases he : res.error with
      | some e =>
        exact .inr (.inr (.inl ⟨tx, res, e, rfl, hv, he, by simp [submitTransaction, hd, hv, he]⟩))
      | none =>
        cases ha : g.addTx tx with
        | error err => exact .inr (.inr (.inr (.inl ⟨tx, res, err, rfl, hv, he, ha,
            by simp [submitTransaction, hd, hv, he, ha]⟩)))
        | ok u => exact .inr (.inr (.inr (.inr ⟨tx, res, rfl, hv, he, ha,
            by simp [submitTransaction, hd, hv, he, ha]⟩)))

/-- `SubmitTransaction` adds the transaction exactly when it decodes, validates without error and
the buffer takes it. -/
theorem submitTransaction_added_iff {tx : Tx} :
    (submitTransaction g reqTx).2 = some tx ↔ g.decodeJSON reqTx = .ok tx ∧
      ∃ res, g.validateTx tx = .ok res ∧ res.error = none ∧ g.addTx tx = .ok () := by
  constructor
  · intro hadd
    rcases submitTransaction_cases g reqTx with ⟨_, _, h⟩ | ⟨_, _, _, _, h⟩ | ⟨_, _, _, _, _, _, h⟩ |
      ⟨_, _, _, _, _, _, _, h⟩ | ⟨tx', res, hd, hv, he, ha, h⟩ <;> rw [h] at hadd <;> cases hadd
    exact ⟨hd, res, hv, he, ha⟩
  · rintro ⟨hd, res, hv, he, ha⟩
    simp [submitTransaction, hd, hv, he, ha]

/-- `SubmitTransaction` reports success, a response with an empty `Error` and no Go error, exactly
when it added the transaction and every event of the validation result converts. -/
theorem submitTransaction_success_iff :
    (∃ r, (submitTransaction g reqTx).1 = .ok r ∧ r.error = "") ↔
      ∃ tx res events, (submitTransaction g reqTx).2 = some tx ∧ g.validateTx tx = .ok res ∧
        convertEvent res.events = .ok events := by
  rcases submitTransaction_cases g reqTx with ⟨err, _, h⟩ | ⟨_, _, _, _, h⟩ | ⟨_, _, e, _, _, _, h⟩ |
    ⟨_, _, _, _, _, _, _, h⟩ | ⟨tx, res, _, hv, he, _, h⟩ <;> rw [h]
  · simpa [errorResponse] using append_ne_empty err (by decide)
  · simp
  · simpa [errorResponse] using append_ne_empty e (by decide)
  · simp
  · cases hc : convertEvent res.events with
    | error err =>
      simpa [getGordianResponseFromSDKResult_of_error hc, errorResponse, hv, hc] using
        append_ne_empty err (by decide)
    | ok events => simp [getGordianResponseFromSDKResult_of_ok hc, he, hv, hc]

/-- `SimulateTransaction` reports success exactly when the transaction decodes, simulates without
error and every event of the result converts. -/
theorem simulateTransaction_success_iff :
    (∃ r, simulateTransaction g reqTx = .ok r ∧ r.error = "") ↔
      ∃ tx res events, g.decodeJSON reqTx = .ok tx ∧ g.simulate tx = .ok res ∧ res.error = none ∧
        convertEvent res.events = .ok events := by
  cases hd : g.decodeJSON reqTx with
  | error err =>
    simpa [simulateTransaction, hd, errorResponse] using append_ne_empty err (by decide)
  | ok tx =>
    cases hs : g.simulate tx with
    | error err => simp [simulateTransaction, hd, hs]
    | ok res =>
      cases he : res.error with
      | some e =>
        simpa [simulateTransaction, hd, hs, he, errorResponse] using
          append_ne_empty e (by decide)
      | none =>
        cases hc : convertEvent res.events with
        | error err =>
          simpa [simulateTransaction, hd, hs, he, hc, getGordianResponseFromSDKResult_of_error hc,
            errorResponse] using append_ne_empty err (by decide)
        | ok events =>
          simp [simulateTransaction, hd, hs, he, hc, getGordianResponseFromSDKResult_of_ok hc]

end Report

/-! ### The pending transactions -/

/-- `GordianGRPC.PendingTransactions` on the transactions `Buffered` returns: each one encoded by
`json.Marshal`, in the order of the buffer, or the error of the first that fails to encode. -/
def pendingTransactions (marshal : Tx → Except String String) :
    List Tx → Except String (List String)
  | [] => .ok []
  | tx :: txs =>
    match marshal tx with
    | .error err => .error ("failed to encode transaction: " ++ err)
    | .ok b => (pendingTransactions marshal txs).map (b :: ·)

section Pending

variable (marshal : Tx → Except String String)

/-- `PendingTransactions` succeeds exactly when every buffered transaction encodes, and then lists
the encoding of each one, in the order of the buffer. -/
theorem pendingTransactions_ok_iff (txs : List Tx) (encs : List String) :
    pendingTransactions marshal txs = .ok encs ↔
      List.Forall₂ (fun tx b => marshal tx = .ok b) txs encs := by
  induction txs generalizing encs with
  | nil => simp [pendingTransactions, eq_comm]
  | cons tx txs ih =>
    simp only [pendingTransactions, List.forall₂_cons_left_iff, ← ih]
    cases hm : marshal tx with
    | error err => simp
    | ok b =>
      cases pendingTransactions marshal txs <;> simp [Except.map, eq_comm]

/-- `PendingTransactions` fails exactly at a buffered transaction that fails to encode after
transactions that all encode, with the error of its encoding. -/
theorem pendingTransactions_error_iff (txs : List Tx) (e : String) :
    pendingTransactions marshal txs = .error e ↔
      ∃ pre tx post err, txs = pre ++ tx :: post ∧ (∀ t ∈ pre, ∃ b, marshal t = .ok b) ∧
        marshal tx = .error err ∧ e = "failed to encode transaction: " ++ err := by
  constructor
  · induction txs with
    | nil => simp [pendingTransactions]
    | cons tx txs ih =>
      intro h
      rw [pendingTransactions] at h
      cases hm : marshal tx with
      | error err =>
        rw [hm] at h
        exact ⟨[], tx, txs, err, rfl, by simp, hm, (Except.error.inj h).symm⟩
      | ok b =>
        rw [hm] at h
        cases hrest : pendingTransactions marshal txs with
        | error e' =>
          rw [hrest] at h
          obtain rfl : e' = e := Except.error.inj h
          obtain ⟨pre, tx', post, err, rfl, hpre, htx, he⟩ := ih hrest
          refine ⟨tx :: pre, tx', post, err, rfl, ?_, htx, he⟩
          rintro t (_ | ⟨_, ht⟩)
          exacts [⟨b, hm⟩, hpre t ht]
        | ok rest =>
          rw [hrest] at h
          cases h
  · rintro ⟨pre, tx, post, err, rfl, hpre, htx, rfl⟩
    induction pre with
    | nil => simp [pendingTransactions, htx]
    | cons t pre ih =>
      obtain ⟨b, hb⟩ := hpre t (List.mem_cons_self _ _)
      rw [List.cons_append, pendingTransactions, hb,
        ih fun t' ht' => hpre t' (List.mem_cons_of_mem _ ht')]
      rfl

end Pending

/-! ### The balance of an account -/

/-- The proto `QueryAccountBalanceRequest`. -/
structure QueryAccountBalanceRequest where
  address : String
  denom : String
  deriving DecidableEq, Repr

/-- `banktypes.QueryBalanceRequest`: the query the handler hands to the app manager. -/
structure QueryBalanceRequest where
  address : String
  denom : String
  deriving DecidableEq, Repr

/-- The collaborators of `QueryAccountBalance`: the app manager's `Query` against the latest
state, and the codec's `MarshalJSON` of its answer and `UnmarshalJSON` into the proto response. -/
structure BalanceQuerier (Msg Resp : Type) where
  query : QueryBalanceRequest → Except String Msg
  marshalJSON : Msg → Except String String
  unmarshalJSON : String → Except String Resp

/-- `GordianGRPC.QueryAccountBalance`: the response, and the query it hands to the app manager,
if any. -/
def queryAccountBalance {Msg Resp : Type} (g : BalanceQuerier Msg Resp)
    (req : QueryAccountBalanceRequest) : Except String Resp × Option QueryBalanceRequest :=
  if req.address = "" then (.error "address field is required", none)
  else
    let denom := if req.denom ≠ "" then req.denom else "stake"
    let q : QueryBalanceRequest := ⟨req.address, denom⟩
    (match g.query q with
      | .error err => .error ("failed to query account balance: " ++ err)
      | .ok msg =>
        match g.marshalJSON msg with
        | .error err => .error ("failed to encode response: " ++ err)
        | .ok b =>
          match g.unmarshalJSON b with
          | .error err => .error ("failed to decode response: " ++ err)
          | .ok val => .ok val,
      some q)

/-- `QueryAccountBalance` refuses a request with no address before it queries anything; otherwise
it queries the request's address with the request's denomination, `stake` when the request names
none, so that no query it makes has an empty address or denomination. -/
theorem queryAccountBalance_query {Msg Resp : Type} (g : BalanceQuerier Msg Resp)
    (req : QueryAccountBalanceRequest) :
    (req.address = "" ↔ queryAccountBalance g req = (.error "address field is required", none)) ∧
    ∀ q, (queryAccountBalance g req).2 = some q →
      q.address = req.address ∧ q.denom = (if req.denom = "" then "stake" else req.denom) ∧
        q.address ≠ "" ∧ q.denom ≠ "" := by
  by_cases ha : req.address = ""
  · simp [queryAccountBalance, ha]
  · refine ⟨by simp [queryAccountBalance, ha], ?_⟩
    rintro q hq
    simp only [queryAccountBalance, ha, if_false, ne_eq, ite_not, Option.some.injEq] at hq
    subst hq
    refine ⟨rfl, rfl, ha, ?_⟩
    split_ifs with hd
    · show "stake" ≠ ""
      decide
    · exact hd

/-! ### A transaction by its hash -/

/-- `QueryTx` converts the stored height with `int64(height)`: a height below `2^63` is reported
as itself, and a higher one wraps to a negative value. -/
theorem queryTx_height (g : Server Tx) (txHash : String) {height : UInt64} {txBytes : String}
    {txResult : Core.TxResult} (h : g.loadTxByHash txHash = .ok (height, txBytes, txResult)) :
    queryTx g txHash = .ret ⟨txHash, Go.int height.toNat, getGordianResponseFromSDKResult txResult,
      txBytes⟩ ∧ (height.toNat < 2 ^ 63 → Go.int height.toNat = height.toNat) ∧
      (2 ^ 63 ≤ height.toNat → Go.int height.toNat = height.toNat - 2 ^ 64) := by
  refine ⟨by rw [queryTx, h], fun hlt => Go.int_of_lt (by omega) (by omega), fun hge => ?_⟩
  have hlt : height.toNat < 2 ^ 64 := UInt64.toNat_lt_size height
  rw [Go.int, Int.bmod_def, Int.emod_eq_of_lt (by omega) (by omega), if_neg (by omega)]
  simp

/-- A transaction that validates, and whose result has an event whose attributes fail to compute:
`SubmitTransaction` adds it to the buffer and answers with a failure. -/
theorem submitTransaction_reports_failure_after_adding :
    submitTransaction
        (⟨fun _ => .ok (), fun _ => .ok ⟨[⟨"transfer", .error "bad attribute"⟩], 0, 0, none⟩,
          fun _ => .error "unused", fun _ => .ok (), fun _ => .error "unused"⟩ : Server Unit) "tx" =
      (.ok (errorResponse "failed to extract result events: bad attribute"), some ()) :=
  rfl

end Gcosmos.Ggrpc

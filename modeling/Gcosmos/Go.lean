import Mathlib.Tactic.Ring

/-!
# The Go runtime, as far as the modelled code relies on it

The handlers of the consensus strategy are Go functions: a call returns a value or panics, Go's
`int` is a 64-bit two's-complement integer, `%` truncates towards zero, and indexing a slice out
of its range panics with a message of the runtime. This file fixes these rules once, so that the
models of `gserver/internal/gsi` and `ggrpc` read like their sources.

The platform is taken to be 64-bit, where `int` has the width of `int64`.

## Main definitions

* `Go.Outcome`: a Go call either returns a value or panics with a message; a panic ends the
  calls after it (`Outcome.bind`).
* `Go.int`: Go's `int`, the two's-complement wrap of an integer into `[-2^63, 2^63)`.
* `Go.rem`: Go's `%` on `int`, which panics on a zero divisor.
* `Go.index`: the slice index `xs[i]`, with the runtime's panic messages.

## Main results

* `Go.int_of_lt`: a non-negative value below `2^63` is its own `int`.
* `Go.index_of_lt`: an index inside the slice returns its element.
-/

namespace Gcosmos.Go

/-- How a Go call ends: it returns a value, or it panics with a message. -/
inductive Outcome (α : Type) where
  | ret (a : α)
  | panic (msg : String)
  deriving DecidableEq, Repr

namespace Outcome

/-- Running `f` after `o`: a panic ends the computation. -/
def bind {α β : Type} : Outcome α → (α → Outcome β) → Outcome β
  | .ret a, f => f a
  | .panic m, _ => .panic m

instance : Monad Outcome where
  pure := .ret
  bind := bind

@[simp] theorem pure_eq {α : Type} (a : α) : (pure a : Outcome α) = .ret a := rfl

@[simp] theorem ret_bind {α β : Type} (a : α) (f : α → Outcome β) : (Outcome.ret a >>= f) = f a :=
  rfl

@[simp] theorem panic_bind {α β : Type} (m : String) (f : α → Outcome β) :
    (Outcome.panic m >>= f) = .panic m := rfl

end Outcome

/-- Go's `int` on a 64-bit platform: an integer wrapped into `[-2^63, 2^63)`. The conversions
`int(h)` of a `uint64` and the sum of two `int`s are both this wrap. -/
def int (x : Int) : Int := Int.bmod x (2 ^ 64)

/-- Go's `a % n` on `int`: the remainder of truncated division, with the sign of `a`. -/
def rem (a n : Int) : Outcome Int :=
  if n = 0 then .panic "runtime error: integer divide by zero" else .ret (Int.tmod a n)

/-- Go's slice index `xs[i]`. Out of range it panics with the runtime's message, which names only
the index when the index is negative. -/
def index {α : Type} (xs : List α) (i : Int) : Outcome α :=
  if h : 0 ≤ i ∧ i < xs.length then .ret (xs.get ⟨i.toNat, by omega⟩)
  else if i < 0 then .panic ("runtime error: index out of range [" ++ toString i ++ "]")
  else .panic ("runtime error: index out of range [" ++ toString i ++ "] with length " ++
    toString xs.length)

theorem int_of_lt {x : Int} (h0 : 0 ≤ x) (h : x < 2 ^ 63) : int x = x := by
  rw [int, Int.bmod_def, Int.emod_eq_of_lt h0 (by omega)]
  simp only [Nat.reducePow, Nat.cast_ofNat, Nat.reduceAdd, Nat.reduceDiv, ite_eq_left_iff,
    not_lt]
  omega

theorem rem_of_pos {a n : Int} (hn : 0 < n) : rem a n = .ret (Int.tmod a n) := by
  simp [rem, hn.ne']

theorem index_of_lt {α : Type} {xs : List α} {i : Int} (h0 : 0 ≤ i) (h : i < xs.length) :
    index xs i = .ret (xs.get ⟨i.toNat, by omega⟩) := by
  simp [index, h0, h]

@[simp] theorem index_nil_zero {α : Type} :
    index ([] : List α) 0 = .panic "runtime error: index out of range [0] with length 0" := by
  simp [index]; rfl

@[simp] theorem index_cons_zero {α : Type} (x : α) (xs : List α) : index (x :: xs) 0 = .ret x := by
  simp [index]

end Gcosmos.Go

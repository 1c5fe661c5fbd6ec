import Mathlib.Data.List.Basic

/-!
# The seed addresses of the Gordian component

`gcosmos gordian seed` runs a seed node and writes the libp2p addresses it listens on to a file,
one per line: `strings.Join(hostAddrs, "\n") + "\n"`, where the trailing newline marks the end of
the input. A validator is started with that text as its `--g-seed-addrs` flag, and
`Component.Start` walks the lines of `strings.Split(c.seedAddrs, "\n")`. It skips an empty line
without a warning, parses every other line with `AddrInfoFromString` and dials the peer; a line
that does not parse, or a peer that cannot be reached, is logged, and the loop goes on.

Splitting the seed's output gives back its addresses followed by the one empty line of the end
marker, when no address holds a newline. A validator started with the seed's output therefore
makes, in order, the attempts of the loop for each address the seed wrote, and nothing for the
end marker.

Go's strings are byte strings; the addresses are ASCII multiaddrs, and the model splits the
characters of a `String` at `'\n'`, as `strings.Split` splits its bytes at the byte `0x0A`.

## Main definitions

* `Gserver.seedOutput`: the seed command's output.
* `Gserver.splitLines`: `strings.Split(s, "\n")`.
* `Gserver.connectSeed`, `Gserver.connectSeeds`: the loop of `Start` over the seed addresses.

## Main results

* `Gserver.splitLines_seedOutput`: the round trip of the seed address file.
* `Gserver.connectSeeds_seedOutput`: `Start` on the seed's output tries exactly its addresses.

Source: `gcosmos/gserver/component.go`, lines 102–139 and 399–457.
-/

namespace Gcosmos.Gserver

variable {AddrInfo : Type}

/-! ### The code -/

/-- `strings.Join(hostAddrs, "\n") + "\n"`: the output of the seed command. -/
def seedOutput (hostAddrs : List String) : String :=
  String.intercalate "\n" hostAddrs ++ "\n"

/-- `strings.Split(s, "\n")`: the runs of characters between the newlines of `s`, from the run
before the first newline to the run after the last, so that `""` splits to `[""]` and a trailing
newline ends with an empty run. -/
def splitLines (s : String) : List String :=
  (s.toList.splitOn '\n').map String.mk

/-- What `Start` does for one seed address: its calls on the host and its warnings. -/
inductive SeedEvent (AddrInfo : Type) where
  /-- The warning `"Failed to parse seed address"`, with the address and the error. -/
  | parseFailed (addr err : String)
  /-- The dial `h.Libp2pHost().Connect(ctx, *ai)`. -/
  | connect (ai : AddrInfo)
  /-- The warning `"Failed to connect to seed address"`, with the address and the error. -/
  | connectFailed (addr err : String)
  deriving DecidableEq, Repr

/-- One iteration of the loop of `Start` over the seed addresses: an empty line is skipped
without a warning; a line that `AddrInfoFromString` rejects is logged and skipped; otherwise the
host dials the peer, and a failure to connect is logged. `connect` is the outcome of the dial,
`none` for success. -/
def connectSeed (addrInfoFromString : String → Except String AddrInfo)
    (connect : AddrInfo → Option String) (seedAddr : String) : List (SeedEvent AddrInfo) :=
  if seedAddr = "" then []
  else
    match addrInfoFromString seedAddr with
    | .error err => [.parseFailed seedAddr err]
    | .ok ai =>
      .connect ai :: match connect ai with
        | some err => [.connectFailed seedAddr err]
        | none => []

/-- The loop of `Start` over `strings.Split(c.seedAddrs, "\n")`. Every iteration ends in
`continue`, so that no failure stops it. -/
def connectSeeds (addrInfoFromString : String → Except String AddrInfo)
    (connect : AddrInfo → Option String) (seedAddrs : String) : List (SeedEvent AddrInfo) :=
  (splitLines seedAddrs).flatMap (connectSeed addrInfoFromString connect)

/-! ### The round trip -/

private theorem intercalate_go_data (acc : String) (l : List String) :
    (String.intercalate.go acc "\n" l).data =
      acc.data ++ (l.map fun b => '\n' :: b.data).flatten := by
  induction l generalizing acc with
  | nil => simp [String.intercalate.go]
  | cons b bs ih =>
    rw [String.intercalate.go, ih]
    simp [List.append_assoc]

/-- The characters of the seed's output: the first address, each other one after a newline, and
the end marker. -/
theorem seedOutput_data (a : String) (as : List String) :
    (seedOutput (a :: as)).data =
      a.data ++ (as.map fun b => '\n' :: b.data).flatten ++ ['\n'] := by
  rw [seedOutput, String.intercalate, String.data_append, intercalate_go_data]

/-- Lines without a newline, each after a newline, and the end marker split into those lines and
one empty line. -/
theorem splitOn_lines (xs : List Char) (l : List String) (hxs : '\n' ∉ xs)
    (hl : ∀ b ∈ l, '\n' ∉ b.data) :
    (xs ++ (l.map fun b => '\n' :: b.data).flatten ++ ['\n']).splitOn '\n' =
      xs :: l.map String.data ++ [[]] := by
  have hfirst : ∀ ys : List Char, '\n' ∉ ys → ∀ x ∈ ys, ¬ (x == '\n') = true :=
    fun ys hys x hx h => hys (beq_iff_eq.mp h ▸ hx)
  induction l generalizing xs with
  | nil => simp [List.splitOn, List.splitOnP_first _ xs (hfirst xs hxs) '\n' (beq_self_eq_true _)]
  | cons b bs ih =>
    have hsplit : xs ++ ((b :: bs).map fun b => '\n' :: b.data).flatten ++ ['\n'] =
        xs ++ '\n' :: (b.data ++ (bs.map fun b => '\n' :: b.data).flatten ++ ['\n']) := by
      simp
    rw [hsplit, List.splitOn, List.splitOnP_first _ xs (hfirst xs hxs) '\n' (beq_self_eq_true _),
      ← List.splitOn, ih b.data (hl b (List.mem_cons_self _ _))
        fun b' hb' => hl b' (List.mem_cons_of_mem _ hb')]
    rfl

theorem splitLines_seedOutput_cons (a : String) (as : List String)
    (hnl : ∀ b ∈ a :: as, '\n' ∉ b.toList) :
    splitLines (seedOutput (a :: as)) = a :: as ++ [""] := by
  rw [splitLines, String.toList, seedOutput_data,
    splitOn_lines a.data as (hnl a (List.mem_cons_self _ _))
      fun b hb => hnl b (List.mem_cons_of_mem _ hb)]
  simp [Function.comp_def]

/-- The round trip of the seed address file: splitting the output of the seed command at its
newlines gives the host addresses, in order, and the one empty line after the end marker, when
there is an address and none holds a newline. -/
theorem splitLines_seedOutput (hostAddrs : List String) (hne : hostAddrs ≠ [])
    (hnl : ∀ a ∈ hostAddrs, '\n' ∉ a.toList) :
    splitLines (seedOutput hostAddrs) = hostAddrs ++ [""] := by
  obtain ⟨a, as, rfl⟩ := List.exists_cons_of_ne_nil hne
  exact splitLines_seedOutput_cons a as hnl

/-- Two multiaddrs of a seed host split back from its output file. -/
theorem splitLines_seedOutput_two :
    splitLines (seedOutput ["/ip4/127.0.0.1/tcp/4001/p2p/a", "/ip6/::1/tcp/4001/p2p/a"]) =
        ["/ip4/127.0.0.1/tcp/4001/p2p/a", "/ip6/::1/tcp/4001/p2p/a", ""] ∧
      ["/ip4/127.0.0.1/tcp/4001/p2p/a", "/ip6/::1/tcp/4001/p2p/a"] ≠ [] ∧
      ∀ a ∈ ["/ip4/127.0.0.1/tcp/4001/p2p/a", "/ip6/::1/tcp/4001/p2p/a"], '\n' ∉ a.toList :=
  ⟨splitLines_seedOutput _ (by decide) (by decide), by decide, by decide⟩

/-- A validator whose seed addresses are the output of the seed command makes, in order, exactly
the attempts of the loop of `Start` for each address the seed wrote, and none for the end marker,
when no address holds a newline. -/
theorem connectSeeds_seedOutput (addrInfoFromString : String → Except String AddrInfo)
    (connect : AddrInfo → Option String) (hostAddrs : List String)
    (hnl : ∀ a ∈ hostAddrs, '\n' ∉ a.toList) :
    connectSeeds addrInfoFromString connect (seedOutput hostAddrs) =
      hostAddrs.flatMap (connectSeed addrInfoFromString connect) := by
  rcases hostAddrs with _ | ⟨a, as⟩
  · rfl
  · rw [connectSeeds, splitLines_seedOutput_cons a as hnl, List.flatMap_append]
    simp [connectSeed]

/-- A seed file of three lines, the second of which is not a multiaddr, and whose third peer cannot
be reached: the validator dials the first peer, logs the line that does not parse, dials the third
peer and logs the failed dial, in that order, and goes on after each failure. -/
theorem connectSeeds_seedOutput_three :
    connectSeeds (fun s => if s.front = '/' then .ok s else .error "invalid multiaddr")
        (fun ai => if ai = "/ip4/10.0.0.3/tcp/4001/p2p/c" then some "no route to host" else none)
        (seedOutput
          ["/ip4/10.0.0.1/tcp/4001/p2p/a", "10.0.0.2:4001", "/ip4/10.0.0.3/tcp/4001/p2p/c"]) =
        [.connect "/ip4/10.0.0.1/tcp/4001/p2p/a", .parseFailed "10.0.0.2:4001" "invalid multiaddr",
          .connect "/ip4/10.0.0.3/tcp/4001/p2p/c",
          .connectFailed "/ip4/10.0.0.3/tcp/4001/p2p/c" "no route to host"] ∧
      ∀ a ∈ ["/ip4/10.0.0.1/tcp/4001/p2p/a", "10.0.0.2:4001", "/ip4/10.0.0.3/tcp/4001/p2p/c"],
        '\n' ∉ a.toList :=
  ⟨(connectSeeds_seedOutput _ _ _ (by decide)).trans (by decide), by decide⟩

end Gcosmos.Gserver

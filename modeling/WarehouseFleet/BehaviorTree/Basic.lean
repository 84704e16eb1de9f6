/-!
# Behaviour trees with memory

The control nodes of a behaviour-tree engine in the style of BehaviorTree.CPP v3, over any
type `L` of leaf names and any world `W` the leaves act on. The engine is taken at its
documented behaviour:

| node | one tick |
| --- | --- |
| `action`           | `onStart` when IDLE, `onRunning` when RUNNING; `onHalted` when halted while RUNNING |
| `inverter`         | swaps SUCCESS and FAILURE of its child |
| `retry n`          | re-ticks a failed child until it has failed `n` times, SUCCESS as soon as the child succeeds |
| `sequence`         | resumes at the RUNNING child, goes on after SUCCESS, fails with the first FAILURE |
| `fallback`         | resumes at the RUNNING child, goes on after FAILURE, succeeds with the first SUCCESS |
| `reactiveFallback` | ticks from the first child every time; a child that does not fail has the others halted |

A node that is not RUNNING keeps nothing between ticks (indices and try counts are reset when
a node completes or is halted, completed children are set back to IDLE), and a RUNNING control
node has exactly one RUNNING child. So what a tree remembers is the `Path` down to its one
RUNNING leaf, with the try counts on the way; `none` is a tree that is IDLE.
-/

namespace BehaviorTree

/-- What a leaf callback returns. -/
inductive NodeStatus where
  | success
  | failure
  | running
deriving DecidableEq, Repr

/-- The callbacks of a leaf. -/
structure Action (W : Type) where
  onStart : W → NodeStatus × W
  onRunning : W → NodeStatus × W
  onHalted : W → W

/-- A condition or synchronous action: one `tick`, nothing to halt. -/
def Action.sync {W : Type} (tick : W → NodeStatus × W) : Action W := ⟨tick, tick, id⟩

inductive Tree (L : Type) where
  | action (l : L)
  | inverter (c : Tree L)
  | retry (attempts : Nat) (c : Tree L)
  | sequence (cs : List (Tree L))
  | fallback (cs : List (Tree L))
  | reactiveFallback (cs : List (Tree L))

/-- The way down to the RUNNING leaf. `deco k p` passes through a decorator whose try count
is `k` (an inverter counts nothing), `child i p` through child `i` of a control node. -/
inductive Path where
  | leaf
  | deco (tries : Nat) (p : Path)
  | child (i : Nat) (p : Path)
deriving DecidableEq, Repr

/-- Result of a tick: SUCCESS is `done true`, FAILURE is `done false`. -/
inductive Outcome where
  | done (b : Bool)
  | running (p : Path)
deriving DecidableEq, Repr

def Outcome.path? : Outcome → Option Path
  | .done _ => none
  | .running p => some p

def Outcome.ofLeaf {W : Type} : NodeStatus × W → Outcome × W
  | (.success, w) => (.done true, w)
  | (.failure, w) => (.done false, w)
  | (.running, w) => (.running .leaf, w)

/-- Memory of the child, and the try count, of a decorator with memory `m`. -/
def under : Option Path → Option Path
  | some (.deco _ p) => some p
  | _ => none

def tries : Option Path → Nat
  | some (.deco k _) => k
  | _ => 0

/-- Index and memory of the child to resume; the first child when nothing is RUNNING. -/
def resumed : Option Path → Nat × Option Path
  | some (.child i p) => (i, some p)
  | _ => (0, none)

section
variable {L W : Type} (sem : L → Action W)

/-- The loop of a retry node: `left` more attempts, `k` failures so far. -/
def retryLoop (tickChild : Option Path → W → Outcome × W) :
    (left k : Nat) → Option Path → W → Outcome × W
  | 0, _, _, w => (.done false, w)
  | left + 1, k, m, w =>
    match tickChild m w with
    | (.done true, w) => (.done true, w)
    | (.running p, w) => (.running (.deco k p), w)
    | (.done false, w) => retryLoop tickChild left (k + 1) none w

mutual

/-- `halt` of the node whose RUNNING path is `p`: `onHalted` of the RUNNING leaf. -/
def halt : Tree L → Path → W → W
  | .action l, .leaf, w => (sem l).onHalted w
  | .inverter c, .deco _ p, w => halt c p w
  | .retry _ c, .deco _ p, w => halt c p w
  | .sequence cs, .child i p, w => haltChild cs i p w
  | .fallback cs, .child i p, w => haltChild cs i p w
  | .reactiveFallback cs, .child i p, w => haltChild cs i p w
  | _, _, w => w

def haltChild : List (Tree L) → Nat → Path → W → W
  | [], _, _, w => w
  | c :: _, 0, p, w => halt c p w
  | _ :: cs, i + 1, p, w => haltChild cs i p w

end

/-- `haltChild` of the child whose memory is `m`, if it is RUNNING. -/
def haltResumed (cs : List (Tree L)) (i : Nat) : Option Path → W → W
  | some p, w => haltChild sem cs i p w
  | none, w => w

mutual

/-- One tick of a node that remembers `m`. -/
def tick : Tree L → Option Path → W → Outcome × W
  | .action l, none, w => Outcome.ofLeaf ((sem l).onStart w)
  | .action l, some _, w => Outcome.ofLeaf ((sem l).onRunning w)
  | .inverter c, m, w =>
    match tick c (under m) w with
    | (.done b, w) => (.done !b, w)
    | (.running p, w) => (.running (.deco 0 p), w)
  | .retry n c, m, w => retryLoop (tick c) (n - tries m) (tries m) (under m) w
  | .sequence cs, m, w => tickChain true cs 0 (resumed m).1 (resumed m).2 w
  | .fallback cs, m, w => tickChain false cs 0 (resumed m).1 (resumed m).2 w
  | .reactiveFallback cs, m, w => tickReactive cs 0 (resumed m).1 (resumed m).2 w

/-- Sequence (`go = true`) and Fallback (`go = false`) from child `i` on: skip to the resumed
child, then tick one child after the other as long as each is done with `go`. -/
def tickChain (go : Bool) : List (Tree L) → (i skip : Nat) → Option Path → W → Outcome × W
  | [], _, _, _, w => (.done go, w)
  | _ :: cs, i, j + 1, m, w => tickChain go cs (i + 1) j m w
  | c :: cs, i, 0, m, w =>
    match tick c m w with
    | (.running p, w) => (.running (.child i p), w)
    | (.done b, w) => if b = go then tickChain go cs (i + 1) 0 none w else (.done b, w)

/-- ReactiveFallback from child `i` on: the children before the RUNNING one are ticked
afresh, and when one of them does not fail the RUNNING one is halted. -/
def tickReactive : List (Tree L) → (i skip : Nat) → Option Path → W → Outcome × W
  | [], _, _, _, w => (.done false, w)
  | c :: cs, i, j + 1, m, w =>
    match tick c none w with
    | (.running p, w) => (.running (.child i p), haltResumed sem cs j m w)
    | (.done true, w) => (.done true, haltResumed sem cs j m w)
    | (.done false, w) => tickReactive cs (i + 1) j m w
  | c :: cs, i, 0, m, w =>
    match tick c m w with
    | (.running p, w) => (.running (.child i p), w)
    | (.done true, w) => (.done true, w)
    | (.done false, w) => tickReactive cs (i + 1) 0 none w

end

end

mutual

/-- The leaf at the end of a path. -/
def Tree.leafAt {L : Type} : Tree L → Path → Option L
  | .action l, .leaf => some l
  | .inverter c, .deco 0 p => c.leafAt p
  | .retry n c, .deco k p => if k < n then c.leafAt p else none
  | .sequence cs, .child i p => leafAtChild cs i p
  | .fallback cs, .child i p => leafAtChild cs i p
  | .reactiveFallback cs, .child i p => leafAtChild cs i p
  | _, _ => none

def leafAtChild {L : Type} : List (Tree L) → Nat → Path → Option L
  | [], _, _ => none
  | c :: _, 0, p => c.leafAt p
  | _ :: cs, i + 1, p => leafAtChild cs i p

end

end BehaviorTree

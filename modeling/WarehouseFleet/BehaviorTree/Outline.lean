import WarehouseFleet.BehaviorTree.Basic

/-!
# Proof outlines for ticks

Inside a tree without reactive nodes a tick is a chain of leaf calls whose order is fixed by the
tree: `Tree.enter` is the leaf an IDLE tree starts with, and `Tree.next p b` the leaf that is
started once the leaf at `p` is done with `b`. An `Outline` writes assertions at the leaves; by
`Outline.tick_idle` and `Outline.tick_resumed` it is enough to check each leaf callback against
the assertions around it, and the engine is never unfolded.

`tick_reactive_pair` takes a two-child ReactiveFallback apart into ticks of its children.
-/

namespace BehaviorTree

variable {L W : Type} {sem : L → Action W}

/-! ## The order of leaf calls -/

/-- What follows a finished leaf: the next leaf to start, or the end of the tree. -/
inductive Next where
  | start (p : Path)
  | done (b : Bool)
deriving DecidableEq, Repr

def Next.map (f : Path → Path) (g : Bool → Bool) : Next → Next
  | .start p => .start (f p)
  | .done b => .done (g b)

/-- Go on with `rest` when a child of a chain is done with `go`. -/
def Next.orElse (n : Next) (go : Bool) (f : Path → Path) (rest : Next) : Next :=
  match n with
  | .start p => .start (f p)
  | .done b => if b = go then rest else .done b

mutual

/-- The leaf an IDLE tree starts with. -/
def Tree.enter : Tree L → Next
  | .action _ => .start .leaf
  | .inverter c => c.enter.map (.deco 0) not
  | .retry n c => if n = 0 then .done false else c.enter.map (.deco 0) id
  | .sequence cs => enterChain true cs 0
  | .fallback cs => enterChain false cs 0
  | .reactiveFallback _ => .done false

def enterChain (go : Bool) : List (Tree L) → Nat → Next
  | [], _ => .done go
  | c :: cs, i => c.enter.orElse go (.child i) (enterChain go cs (i + 1))

end

mutual

/-- What follows once the leaf at the path is done with `b`. -/
def Tree.next : Tree L → Path → Bool → Next
  | .action _, _, b => .done b
  | .inverter c, .deco _ p, b => (c.next p b).map (.deco 0) not
  | .retry n c, .deco k p, b =>
    match c.next p b with
    | .start q => .start (.deco k q)
    | .done true => .done true
    | .done false => if k + 1 < n then c.enter.map (.deco (k + 1)) id else .done false
  | .sequence cs, .child i p, b => nextChain true cs 0 i p b
  | .fallback cs, .child i p, b => nextChain false cs 0 i p b
  | _, _, b => .done b

def nextChain (go : Bool) : List (Tree L) → (i skip : Nat) → Path → Bool → Next
  | [], _, _, _, b => .done b
  | c :: cs, i, 0, p, b => (c.next p b).orElse go (.child i) (enterChain go cs (i + 1))
  | _ :: cs, i, j + 1, p, b => nextChain go cs (i + 1) j p b

end

mutual

/-- No reactive node in the tree. -/
def Tree.plain : Tree L → Bool
  | .action _ => true
  | .inverter c => c.plain
  | .retry _ c => c.plain
  | .sequence cs => plainAll cs
  | .fallback cs => plainAll cs
  | .reactiveFallback _ => false

def plainAll : List (Tree L) → Bool
  | [] => true
  | c :: cs => c.plain && plainAll cs

end

/-! ## Proof outlines -/

/-- Assertions of a proof outline: before the leaf at a path is started or resumed, when a tick
ends with that leaf RUNNING, and when the tree is done. -/
structure Outline (W : Type) where
  start : Path → W → Prop
  resume : Path → W → Prop
  running : Path → W → Prop
  done : Bool → W → Prop

namespace Outline

def reach (O : Outline W) : Next → W → Prop
  | .start p, w => O.start p w
  | .done b, w => O.done b w

def result (O : Outline W) : Outcome × W → Prop
  | (.running p, w) => O.running p w
  | (.done b, w) => O.done b w

/-- What the leaf at `p` has to establish when `next` follows it. -/
def after (O : Outline W) (p : Path) (next : Bool → Next) : NodeStatus × W → Prop
  | (.running, w) => O.running p w
  | (.success, w) => O.reach (next true) w
  | (.failure, w) => O.reach (next false) w

/-- The callbacks of leaf `l` at `p` meet the assertions around it. -/
structure Checks (sem : L → Action W) (O : Outline W) (l : L) (p : Path) (next : Bool → Next) :
    Prop where
  start : ∀ w, O.start p w → O.after p next ((sem l).onStart w)
  resume : ∀ w, O.resume p w → O.after p next ((sem l).onRunning w)

/-- The outline is valid: every leaf of the tree meets it. -/
def Holds (sem : L → Action W) (O : Outline W) (t : Tree L) : Prop :=
  ∀ p l, t.leafAt p = some l → O.Checks sem l p (t.next p)

/-- The same for the children `cs` of a chain, the first of them child `i`. -/
def HoldsChain (sem : L → Action W) (O : Outline W) (go : Bool) (cs : List (Tree L)) (i : Nat) :
    Prop :=
  ∀ j p l, leafAtChild cs j p = some l → O.Checks sem l (.child (i + j) p) (nextChain go cs i j p)

/-- What a tick from memory `m` may rely on. -/
def pre (O : Outline W) (t : Tree L) : Option Path → W → Prop
  | none, w => O.reach t.enter w
  | some p, w => (t.leafAt p).isSome ∧ O.resume p w

def preChain (O : Outline W) (go : Bool) (cs : List (Tree L)) (i : Nat) :
    Nat → Option Path → W → Prop
  | skip, none, w => skip = 0 ∧ O.reach (enterChain go cs i) w
  | skip, some p, w => (leafAtChild cs skip p).isSome ∧ O.resume (.child (i + skip) p) w

/-- The outline of a subtree at the paths `f p`, with `d` for its own results. -/
def sub (O : Outline W) (f : Path → Path) (d : Bool → W → Prop) : Outline W :=
  ⟨fun p => O.start (f p), fun p => O.resume (f p), fun p => O.running (f p), d⟩

variable {O : Outline W}

theorem Checks.sub {l : L} {p : Path} {next next' : Bool → Next} {f : Path → Path}
    {d : Bool → W → Prop} (h : O.Checks sem l (f p) next)
    (hn : ∀ b w, O.reach (next b) w → (O.sub f d).reach (next' b) w) :
    (O.sub f d).Checks sem l p next' := by
  have key : ∀ r, O.after (f p) next r → (O.sub f d).after p next' r := by
    rintro ⟨s, w⟩ hr
    cases s with
    | running => exact hr
    | success => exact hn true w hr
    | failure => exact hn false w hr
  exact ⟨fun w hw => key _ (h.start w hw), fun w hw => key _ (h.resume w hw)⟩

/-! ### Decorators -/

theorem Holds.inverter {c : Tree L} (h : O.Holds sem (.inverter c)) :
    (O.sub (.deco 0) fun b => O.done !b).Holds sem c := fun p l hl =>
  (h (.deco 0 p) l hl).sub fun b w hw => by
    rw [Tree.next] at hw
    cases hc : c.next p b <;> simpa [hc, Next.map, reach, Outline.sub] using hw

/-- Results of the child of a retry node with `k` failures so far. -/
def retryDone (O : Outline W) (n : Nat) (c : Tree L) (k : Nat) : Bool → W → Prop
  | true => O.done true
  | false => O.reach (if k + 1 < n then c.enter.map (.deco (k + 1)) id else .done false)

theorem Holds.retry {n k : Nat} {c : Tree L} (h : O.Holds sem (.retry n c)) (hk : k < n) :
    (O.sub (.deco k) (O.retryDone n c k)).Holds sem c := fun p l hl =>
  (h (.deco k p) l (by simpa [Tree.leafAt, hk] using hl)).sub fun b w hw => by
    rw [Tree.next] at hw
    cases hc : c.next p b with
    | start q => simpa [hc, reach, Outline.sub] using hw
    | done b' => cases b' <;> simpa [hc, reach, Outline.sub, retryDone] using hw

/-- The child of a retry node may be started whenever the retry node may. -/
theorem retry_reach {n k k' : Nat} {c : Tree L} {w : W}
    (h : O.reach (c.enter.map (.deco k) id) w) :
    (O.sub (.deco k) (O.retryDone n c k')).reach c.enter w := by
  cases hc : c.enter with
  | start q => simpa [hc, reach, Outline.sub, Next.map] using h
  | done b => cases b <;> simpa [hc, reach, Outline.sub, retryDone, Next.map] using h

theorem retryLoop_result {n : Nat} {c : Tree L}
    (ih : ∀ k m w, k < n → (O.sub (.deco k) (O.retryDone n c k)).pre c m w →
      (O.sub (.deco k) (O.retryDone n c k)).result (tick sem c m w)) :
    ∀ (left k : Nat) (m : Option Path) (w : W), left = n - k → k < n →
      (O.sub (.deco k) (O.retryDone n c k)).pre c m w →
      O.result (retryLoop (tick sem c) left k m w)
  | 0, k, _, _, hl, hk, _ => by omega
  | left + 1, k, m, w, hl, hk, hpre => by
    have hr := ih k m w hk hpre
    rw [retryLoop]
    generalize tick sem c m w = r at hr
    match r, hr with
    | (.done true, _), hr => exact hr
    | (.running _, _), hr => exact hr
    | (.done false, w'), hr =>
      replace hr : O.reach (if k + 1 < n then c.enter.map (.deco (k + 1)) id else .done false) w' :=
        hr
      by_cases hk' : k + 1 < n
      · rw [if_pos hk'] at hr
        exact retryLoop_result ih left (k + 1) none w' (by omega) hk' (retry_reach hr)
      · rw [if_neg hk'] at hr
        have : left = 0 := by omega
        subst this
        exact hr

/-! ### Chains -/

/-- Results of child `i` of a chain with `cs` behind it. -/
def chainDone (O : Outline W) (go : Bool) (cs : List (Tree L)) (i : Nat) (b : Bool) : W → Prop :=
  O.reach (if b = go then enterChain go cs (i + 1) else .done b)

theorem HoldsChain.head {go : Bool} {c : Tree L} {cs : List (Tree L)} {i : Nat}
    (h : O.HoldsChain sem go (c :: cs) i) :
    (O.sub (.child i) (O.chainDone go cs i)).Holds sem c := fun p l hl =>
  (h 0 p l hl).sub fun b w hw => by
    rw [nextChain] at hw
    cases hc : c.next p b <;> simpa [hc, Next.orElse, reach, Outline.sub, chainDone] using hw

theorem HoldsChain.tail {go : Bool} {c : Tree L} {cs : List (Tree L)} {i : Nat}
    (h : O.HoldsChain sem go (c :: cs) i) : O.HoldsChain sem go cs (i + 1) := fun j p l hl => by
  have := h (j + 1) p l hl
  rwa [show i + (j + 1) = i + 1 + j by omega] at this

theorem preChain_head {go : Bool} {c : Tree L} {cs : List (Tree L)} {i : Nat} {m : Option Path}
    {w : W} (h : O.preChain go (c :: cs) i 0 m w) :
    (O.sub (.child i) (O.chainDone go cs i)).pre c m w := by
  cases m with
  | some p => exact h
  | none =>
    have hr := h.2
    rw [enterChain] at hr
    show (O.sub _ _).reach c.enter w
    cases hc : c.enter <;> simpa [hc, Next.orElse, reach, Outline.sub, chainDone] using hr

theorem preChain_tail {go : Bool} {c : Tree L} {cs : List (Tree L)} {i j : Nat} {m : Option Path}
    {w : W} (h : O.preChain go (c :: cs) i (j + 1) m w) : O.preChain go cs (i + 1) j m w := by
  cases m with
  | none => exact absurd h.1 (by omega)
  | some p =>
    obtain ⟨h1, h2⟩ := h
    rw [show i + (j + 1) = i + 1 + j by omega] at h2
    exact ⟨h1, h2⟩

/-- A node with children `cs` resumes the child its path goes through. -/
theorem preChain_of_pre {go : Bool} {t : Tree L} {cs : List (Tree L)} {m : Option Path} {w : W}
    (he : t.enter = enterChain go cs 0) (hchild : ∀ i p, t.leafAt (.child i p) = leafAtChild cs i p)
    (hother : ∀ p, (t.leafAt p).isSome → ∃ i q, p = .child i q) (h : O.pre t m w) :
    O.preChain go cs 0 (resumed m).1 (resumed m).2 w := by
  cases m with
  | none => exact ⟨rfl, he ▸ h⟩
  | some p =>
    obtain ⟨hl, hw⟩ := h
    obtain ⟨i, q, rfl⟩ := hother p hl
    rw [hchild] at hl
    exact ⟨hl, by simpa [resumed] using hw⟩

/-! ### The rule -/

mutual

theorem tick_result : ∀ (t : Tree L) (O : Outline W) (m : Option Path) (w : W), t.plain →
    O.Holds sem t → O.pre t m w → O.result (tick sem t m w)
  | .action l, O, m, w, _, h, hw => by
    have key : ∀ r, O.after .leaf ((Tree.action l).next .leaf) r → O.result (Outcome.ofLeaf r) := by
      rintro ⟨s, w⟩ hr
      cases s <;> exact hr
    cases m with
    | none => exact key _ ((h .leaf l rfl).start w hw)
    | some p =>
      obtain ⟨hl, hw⟩ := hw
      cases p with
      | leaf => exact key _ ((h .leaf l rfl).resume w hw)
      | _ => simp [Tree.leafAt] at hl
  | .inverter c, O, m, w, hp, h, hw => by
    have hc : (O.sub (.deco 0) fun b => O.done !b).pre c (under m) w := by
      cases m with
      | none =>
        show (O.sub _ _).reach c.enter w
        have hr : O.reach (c.enter.map (.deco 0) not) w := hw
        cases hc : c.enter <;> simpa [hc, Next.map, reach, Outline.sub] using hr
      | some p =>
        obtain ⟨hl, hw⟩ := hw
        match p, hl, hw with
        | .deco 0 _, hl, hw => exact ⟨hl, hw⟩
    have hr := tick_result c _ (under m) w hp h.inverter hc
    rw [tick]
    generalize tick sem c (under m) w = r at hr
    match r, hr with
    | (.done _, _), hr => exact hr
    | (.running _, _), hr => exact hr
  | .retry n c, O, m, w, hp, h, hw => by
    have ih := fun k m w (hk : k < n) => tick_result c _ m w hp (h.retry hk)
    rw [tick]
    cases m with
    | none =>
      have hr : O.reach (if n = 0 then .done false else c.enter.map (.deco 0) id) w := hw
      by_cases hn : n = 0
      · subst hn; exact hr
      · rw [if_neg hn] at hr
        exact retryLoop_result ih _ 0 none w rfl (by omega) (retry_reach hr)
    | some p =>
      obtain ⟨hl, hw⟩ := hw
      match p, hl, hw with
      | .deco k p, hl, hw =>
        rw [Tree.leafAt] at hl
        split at hl
        · next hk => exact retryLoop_result ih _ k (some p) w rfl hk ⟨hl, hw⟩
        · simp at hl
  | .sequence cs, O, m, w, hp, h, hw => by
    rw [tick]
    exact tickChain_result true cs O 0 _ _ w hp
      (fun j p l hl => by simpa [Tree.next] using h (.child j p) l hl)
      (preChain_of_pre rfl (fun _ _ => rfl)
        (fun p hp => by cases p <;> simp [Tree.leafAt] at hp ⊢) hw)
  | .fallback cs, O, m, w, hp, h, hw => by
    rw [tick]
    exact tickChain_result false cs O 0 _ _ w hp
      (fun j p l hl => by simpa [Tree.next] using h (.child j p) l hl)
      (preChain_of_pre rfl (fun _ _ => rfl)
        (fun p hp => by cases p <;> simp [Tree.leafAt] at hp ⊢) hw)
  | .reactiveFallback _, _, _, _, hp, _, _ => by simp [Tree.plain] at hp

theorem tickChain_result (go : Bool) : ∀ (cs : List (Tree L)) (O : Outline W) (i skip : Nat)
    (m : Option Path) (w : W), plainAll cs → O.HoldsChain sem go cs i →
    O.preChain go cs i skip m w → O.result (tickChain sem go cs i skip m w)
  | [], O, i, skip, m, w, _, _, hw => by
    cases m with
    | none => exact hw.2
    | some p => simp [preChain, leafAtChild] at hw
  | _ :: cs, O, i, j + 1, m, w, hp, h, hw => by
    simp only [plainAll, Bool.and_eq_true] at hp
    exact tickChain_result go cs O (i + 1) j m w hp.2 h.tail (preChain_tail hw)
  | c :: cs, O, i, 0, m, w, hp, h, hw => by
    simp only [plainAll, Bool.and_eq_true] at hp
    have hr := tick_result c _ m w hp.1 h.head (preChain_head hw)
    rw [tickChain]
    generalize tick sem c m w = r at hr
    match r, hr with
    | (.running _, _), hr => exact hr
    | (.done b, w'), hr =>
      replace hr : O.reach (if b = go then enterChain go cs (i + 1) else .done b) w' := hr
      by_cases hb : b = go
      · rw [if_pos hb] at hr
        simp only [if_pos hb]
        exact tickChain_result go cs O (i + 1) 0 none w' hp.2 h.tail ⟨rfl, hr⟩
      · rw [if_neg hb] at hr
        simp only [if_neg hb]
        exact hr

end

/-- An IDLE tree ticked where the outline lets its first leaf start. -/
theorem tick_idle {t : Tree L} {w : W} (hp : t.plain) (h : O.Holds sem t)
    (hw : O.reach t.enter w) : O.result (tick sem t none w) :=
  tick_result t O none w hp h hw

/-- A tree ticked where the outline lets its RUNNING leaf resume. -/
theorem tick_resumed {t : Tree L} {p : Path} {l : L} {w : W} (hp : t.plain)
    (h : O.Holds sem t) (hl : t.leafAt p = some l) (hw : O.resume p w) :
    O.result (tick sem t (some p) w) :=
  tick_result t O (some p) w hp h ⟨by simp [hl], hw⟩

end Outline

/-! ## A reactive pair -/

/-- Memory of child `i` of a control node with memory `m`. -/
def memOf (i : Nat) : Option Path → Option Path
  | some (.child j p) => if j = i then some p else none
  | _ => none

/-- Put the result of child `i` back into its parent. -/
def Outcome.inChild (i : Nat) : Outcome → Outcome
  | .done b => .done b
  | .running p => .running (.child i p)

/-- A ReactiveFallback of two children: the first is ticked every time; the second is ticked
where it stood if the first fails, and halted if the first does not. -/
theorem tick_reactive_pair (a b : Tree L) (m : Option Path) (w : W)
    (hm : ∀ j p, m = some (.child j p) → j < 2) :
    tick sem (.reactiveFallback [a, b]) m w =
      match tick sem a (memOf 0 m) w with
      | (.done false, w) =>
        ((tick sem b (memOf 1 m) w).1.inChild 1, (tick sem b (memOf 1 m) w).2)
      | (o, w) => (o.inChild 0, haltResumed sem [b] 0 (memOf 1 m) w) := by
  have last : ∀ (m : Option Path) (w : W), tickReactive sem [b] 1 0 m w =
      ((tick sem b m w).1.inChild 1, (tick sem b m w).2) := by
    intro m w
    rw [tickReactive]
    generalize tick sem b m w = r
    match r with
    | (.running _, _) => rfl
    | (.done true, _) => rfl
    | (.done false, _) => rfl
  have first : ∀ (m : Option Path) (w : W), tickReactive sem [a, b] 0 0 m w =
      match tick sem a m w with
      | (.done false, w) => ((tick sem b none w).1.inChild 1, (tick sem b none w).2)
      | (o, w) => (o.inChild 0, w) := by
    intro m w
    rw [tickReactive]
    generalize tick sem a m w = r
    match r with
    | (.running _, _) => rfl
    | (.done true, _) => rfl
    | (.done false, w') => exact last none w'
  have second : ∀ (p : Path) (w : W), tickReactive sem [a, b] 0 1 (some p) w =
      match tick sem a none w with
      | (.done false, w) => ((tick sem b (some p) w).1.inChild 1, (tick sem b (some p) w).2)
      | (o, w) => (o.inChild 0, haltChild sem [b] 0 p w) := by
    intro p w
    rw [tickReactive]
    generalize tick sem a none w = r
    match r with
    | (.running _, _) => rfl
    | (.done true, _) => rfl
    | (.done false, w') => exact last (some p) w'
  rw [tick]
  match m with
  | none => exact first none w
  | some .leaf => exact first none w
  | some (.deco _ _) => exact first none w
  | some (.child 0 p) => exact first (some p) w
  | some (.child 1 p) => exact second p w
  | some (.child (j + 2) p) => exact absurd (hm _ _ rfl) (by omega)

end BehaviorTree

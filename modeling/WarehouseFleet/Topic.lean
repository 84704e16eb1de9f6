/-!
# Topics that may lose messages

A publisher appends to a topic and a subscriber takes the oldest message that is queued. Between
the two the middleware may lose any message, which a keep-last history does once it is full. What
has been delivered is a sublist of what has been published, so messages neither change nor pass
each other; the field `sublist` says so of every topic that can be built.
-/

structure Topic (α : Type) where
  published : List α := []
  delivered : List α := []
  queued : List α := []
  sublist : (delivered ++ queued).Sublist published := by simp

namespace Topic

variable {α : Type}

def publish (msgs : List α) (t : Topic α) : Topic α where
  published := t.published ++ msgs
  delivered := t.delivered
  queued := t.queued ++ msgs
  sublist := by
    rw [← List.append_assoc]
    exact t.sublist.append (.refl msgs)

/-- The oldest message goes to the subscriber, if there is one. -/
def deliver (t : Topic α) : Topic α where
  published := t.published
  delivered := t.delivered ++ t.queued.take 1
  queued := t.queued.drop 1
  sublist := by
    rw [List.append_assoc, List.take_append_drop]
    exact t.sublist

/-- The message at place `k` of the queue is lost, if there is one. -/
def lose (k : Nat) (t : Topic α) : Topic α where
  published := t.published
  delivered := t.delivered
  queued := t.queued.eraseIdx k
  sublist := (List.Sublist.append (.refl _) (List.eraseIdx_sublist _ k)).trans t.sublist

/-- The topic, seen through `f`. -/
def map {β : Type} (f : α → β) (t : Topic α) : Topic β where
  published := t.published.map f
  delivered := t.delivered.map f
  queued := t.queued.map f
  sublist := by
    rw [← List.map_append]
    exact t.sublist.map f

section
variable (t : Topic α) (msgs : List α) (k : Nat)

@[simp] theorem publish_published : (t.publish msgs).published = t.published ++ msgs := rfl
@[simp] theorem publish_delivered : (t.publish msgs).delivered = t.delivered := rfl
@[simp] theorem publish_queued : (t.publish msgs).queued = t.queued ++ msgs := rfl
theorem publish_nil : t.publish [] = t := by
  obtain ⟨published, delivered, queued, _⟩ := t
  simp [publish]

theorem publish_publish (msgs' : List α) :
    (t.publish msgs).publish msgs' = t.publish (msgs ++ msgs') := by
  simp [publish, List.append_assoc]

theorem map_publish {β : Type} (f : α → β) :
    (t.publish msgs).map f = (t.map f).publish (msgs.map f) := by
  simp [map, publish]

theorem map_deliver {β : Type} (f : α → β) : t.deliver.map f = (t.map f).deliver := by
  simp [map, deliver]

theorem map_lose {β : Type} (f : α → β) : (t.lose k).map f = (t.map f).lose k := by
  simp [map, lose, List.eraseIdx_eq_take_drop_succ]

@[simp] theorem deliver_published : t.deliver.published = t.published := rfl
@[simp] theorem lose_published : (t.lose k).published = t.published := rfl
@[simp] theorem lose_delivered : (t.lose k).delivered = t.delivered := rfl

end

variable {t : Topic α} {m : α}

theorem deliver_delivered (h : t.queued.head? = some m) :
    t.deliver.delivered = t.delivered ++ [m] := by
  obtain ⟨ms, hq⟩ : ∃ ms, t.queued = m :: ms := List.head?_eq_some_iff.mp h
  simp [deliver, hq]

theorem delivered_sublist (t : Topic α) : t.delivered.Sublist t.published :=
  (List.sublist_append_left _ _).trans t.sublist

theorem mem_published_of_head? (h : t.queued.head? = some m) : m ∈ t.published :=
  t.sublist.subset (List.mem_append_right _ (List.mem_of_head? h))

/-! ## How many messages are lost -/

section
variable {p : α → Bool} {n : Nat}

/-- Losing the message at place `k` loses one that meets `p`. -/
def drops (p : α → Bool) (k : Nat) (t : Topic α) : Bool := t.queued[k]?.any p

/-- `n` messages that meet `p` are lost. -/
def Lacks (p : α → Bool) (n : Nat) (t : Topic α) : Prop :=
  t.published.countP p = t.delivered.countP p + t.queued.countP p + n

theorem Lacks.publish (h : Lacks p n t) (msgs : List α) : Lacks p n (t.publish msgs) := by
  unfold Lacks at h ⊢
  simp only [publish_published, publish_delivered, publish_queued, List.countP_append]
  omega

theorem Lacks.deliver (h : Lacks p n t) : Lacks p n t.deliver := by
  unfold Lacks at h ⊢
  have hqueued : (t.queued.take 1).countP p + (t.queued.drop 1).countP p = t.queued.countP p := by
    rw [← List.countP_append, List.take_append_drop]
  simp only [Topic.deliver, List.countP_append]
  omega

theorem countP_eraseIdx (p : α → Bool) (l : List α) (k : Nat) :
    (l.eraseIdx k).countP p + (l[k]?.any p).toNat = l.countP p := by
  induction l generalizing k with
  | nil => simp
  | cons a l ih =>
    cases k with
    | zero => cases h : p a <;> simp [h]
    | succ k =>
      have := ih k
      simp only [List.eraseIdx_cons_succ, List.countP_cons, List.getElem?_cons_succ]
      omega

theorem Lacks.lose (h : Lacks p n t) (k : Nat) :
    Lacks p (n + (t.drops p k).toNat) (t.lose k) := by
  have hqueued := countP_eraseIdx p t.queued k
  unfold Lacks at h ⊢
  unfold drops
  simp only [Topic.lose]
  omega

end

end Topic

/-!
# Collections of a document store

A collection over any type `α` of documents, in insertion order, with one field `key` that
queries filter on. `find_one` and `update_one` act on the first document that matches, an update
without a match does nothing, an insert does not look at what is there.

Seen through `findOne`, a collection is a partial map from keys to documents: an insert adds to
it where it is undefined (`findOne_insertOne`), an update that keeps the keys changes it at one
key (`findOne_updateOne`).
-/

namespace Collection

variable {α κ : Type} [DecidableEq κ] (key : α → κ)

def findOne (k : κ) (docs : List α) : Option α := docs.find? (key · = k)

def insertOne (d : α) (docs : List α) : List α := docs ++ [d]

def updateOne (k : κ) (f : α → α) : List α → List α
  | [] => []
  | d :: docs => if key d = k then f d :: docs else d :: updateOne k f docs

/-- `update_one` with `upsert`, where the update sets every field: the document replaces the first
one that matches, or is put in. -/
def upsertOne (k : κ) (d : α) : List α → List α
  | [] => [d]
  | d' :: docs => if key d' = k then d :: docs else d' :: upsertOne k d docs

/-- The document that was put in last. -/
def findLast (k : κ) (docs : List α) : Option α := (docs.filter (key · = k)).getLast?

variable {key} {k k' : κ} {f : α → α} {docs : List α}

theorem findOne_eq_none : findOne key k docs = none ↔ ∀ d ∈ docs, key d ≠ k := by
  simp [findOne]

theorem findOne_insertOne (d : α) : findOne key k (insertOne d docs) =
    (findOne key k docs).or (if key d = k then some d else none) := by
  rw [findOne, insertOne, List.find?_append, List.find?_singleton]
  simp [findOne]

theorem findOne_cons (d : α) :
    findOne key k (d :: docs) = if key d = k then some d else findOne key k docs := by
  by_cases h : key d = k <;> simp [findOne, h]

theorem findOne_updateOne (hf : ∀ d, key (f d) = key d) :
    findOne key k' (updateOne key k f docs) =
      if k' = k then (findOne key k' docs).map f else findOne key k' docs := by
  induction docs with
  | nil => simp [findOne, updateOne]
  | cons d docs ih =>
    rw [updateOne]
    by_cases hd : key d = k
    · by_cases hk : k' = k
      · simp [findOne_cons, hf, hd, hk]
      · simp [findOne_cons, hf, hd, hk, Ne.symm hk]
    · rw [if_neg hd, findOne_cons, findOne_cons, ih]
      by_cases hd' : key d = k'
      · have hk : k' ≠ k := hd' ▸ hd
        simp [hd', hk]
      · simp [hd']

theorem updateOne_eq_self (h : ∀ d ∈ docs, key d ≠ k) : updateOne key k f docs = docs := by
  induction docs with
  | nil => rfl
  | cons d docs ih =>
    rw [updateOne, if_neg (h d (by simp)), ih fun d' hd' => h d' (by simp [hd'])]

theorem map_updateOne (hf : ∀ d, key (f d) = key d) :
    (updateOne key k f docs).map key = docs.map key := by
  induction docs with
  | nil => rfl
  | cons d docs ih =>
    rw [updateOne]
    split
    · simp [hf]
    · simp [ih]

theorem updateOne_map {β : Type} {key' : β → κ} {g : α → β} {f' : β → β}
    (hg : ∀ d, key' (g d) = key d) (hf : ∀ d, f' (g d) = g (f d)) :
    updateOne key' k f' (docs.map g) = (updateOne key k f docs).map g := by
  induction docs with
  | nil => rfl
  | cons d docs ih =>
    rw [List.map_cons, updateOne, updateOne, hg, hf, ih]
    split <;> rfl

theorem findOne_map {β : Type} {key' : β → κ} {g : α → β} (hg : ∀ d, key' (g d) = key d) :
    findOne key' k (docs.map g) = (findOne key k docs).map g := by
  rw [findOne, findOne, List.find?_map]
  congr 2
  funext d
  simp [hg]

theorem mem_updateOne {d : α} (h : d ∈ updateOne key k f docs) :
    d ∈ docs ∨ ∃ d' ∈ docs, d = f d' := by
  induction docs with
  | nil => cases h
  | cons d' docs ih =>
    rw [updateOne] at h
    split at h
    · obtain rfl | h := List.mem_cons.mp h
      · exact .inr ⟨d', by simp, rfl⟩
      · exact .inl (by simp [h])
    · obtain rfl | h := List.mem_cons.mp h
      · exact .inl (by simp)
      · obtain h | ⟨d'', hd'', rfl⟩ := ih h
        · exact .inl (by simp [h])
        · exact .inr ⟨d'', by simp [hd''], rfl⟩

/-! ## Upserts -/

theorem findOne_upsertOne {d : α} (hd : key d = k) : findOne key k' (upsertOne key k d docs) =
    if k' = k then some d else findOne key k' docs := by
  induction docs with
  | nil =>
    by_cases hk : k' = k
    · simp [findOne, upsertOne, hd, hk]
    · simp [findOne, upsertOne, hd, hk, Ne.symm hk]
  | cons d' docs ih =>
    rw [upsertOne]
    by_cases hd' : key d' = k
    · rw [if_pos hd', findOne_cons, findOne_cons, hd, hd']
      by_cases hk : k' = k
      · simp [hk]
      · simp [hk, Ne.symm hk]
    · rw [if_neg hd', findOne_cons, findOne_cons, ih]
      by_cases hk : key d' = k'
      · have hne : k' ≠ k := hk ▸ hd'
        simp [hk, hne]
      · simp [hk]

theorem mem_upsertOne {d d' : α} (h : d' ∈ upsertOne key k d docs) : d' = d ∨ d' ∈ docs := by
  induction docs with
  | nil => exact .inl (List.mem_singleton.mp h)
  | cons d'' docs ih =>
    rw [upsertOne] at h
    split at h
    · obtain rfl | h := List.mem_cons.mp h
      · exact .inl rfl
      · exact .inr (List.mem_cons_of_mem _ h)
    · obtain rfl | h := List.mem_cons.mp h
      · exact .inr (by simp)
      · exact (ih h).imp_right (List.mem_cons_of_mem _)

/-- An upsert does not make a second document with a key. -/
theorem nodup_upsertOne {d : α} (hd : key d = k) (h : (docs.map key).Nodup) :
    ((upsertOne key k d docs).map key).Nodup := by
  induction docs with
  | nil => simp [upsertOne]
  | cons d' docs ih =>
    obtain ⟨hd', hdocs⟩ := List.nodup_cons.mp h
    rw [upsertOne]
    split
    · next heq =>
      rw [List.map_cons, hd, ← heq]
      exact h
    · next hne =>
      refine List.nodup_cons.mpr ⟨fun hmem => ?_, ih hdocs⟩
      obtain ⟨d'', hd'', heq⟩ := List.mem_map.mp hmem
      obtain rfl | hd'' := mem_upsertOne hd''
      · exact hne (heq.symm.trans hd)
      · exact hd' (List.mem_map.mpr ⟨d'', hd'', heq⟩)

/-! ## The last document -/

theorem findLast_insertOne (d : α) : findLast key k (insertOne d docs) =
    if key d = k then some d else findLast key k docs := by
  by_cases h : key d = k <;> simp [findLast, insertOne, h]

end Collection

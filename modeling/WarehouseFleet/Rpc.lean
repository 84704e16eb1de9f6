import Mathlib.Data.List.Nodup
import Mathlib.Data.List.Perm.Subperm
import WarehouseFleet.Moves
import WarehouseFleet.Run

/-!
# Calls that may time out

Clients send requests of type `α` to a service that answers a request with `answer`, and wait for
the response. Requests and responses are taken in any order and may be lost, and a client that has
waited for long enough returns without a response, whatever has become of its request.
`Accounted` is what remains true: the calls that returned a response are among the requests that
were handled, and those among the calls, each at most as often.
-/

namespace Rpc

variable {α β : Type}

inductive Entry (α β : Type) where
  | called (id : Nat) (request : α)
  | handled (id : Nat) (request : α)
  /-- the call returns; `none` if it has timed out -/
  | returned (id : Nat) (request : α) (response : Option β)
deriving DecidableEq

structure State (α β : Type) where
  next : Nat := 0
  requests : List (Nat × α) := []
  responses : List (Nat × β) := []
  /-- the futures that are ready -/
  ready : List (Nat × β) := []
  waiting : List (Nat × α) := []
  trace : List (Entry α β) := []

inductive Event (α : Type) where
  | call (request : α)
  | handle (k : Nat)
  | receive (k : Nat)
  /-- a call that waits wakes up, or has waited for long enough -/
  | wake (k : Nat)
  | loseRequest (k : Nat)
  | loseResponse (k : Nat)

/-- The response to call `id`, once it has been received. -/
def State.future (s : State α β) (id : Nat) : Option β := (s.ready.find? (·.1 = id)).map Prod.snd

def step (answer : α → β) (s : State α β) : Event α → State α β
  | .call request =>
    { s with
      next := s.next + 1
      requests := s.requests ++ [(s.next, request)]
      waiting := s.waiting ++ [(s.next, request)]
      trace := s.trace ++ [.called s.next request] }
  | .handle k =>
    match s.requests[k]? with
    | none => s
    | some (id, request) =>
      { s with
        requests := s.requests.eraseIdx k
        responses := s.responses ++ [(id, answer request)]
        trace := s.trace ++ [.handled id request] }
  | .receive k =>
    match s.responses[k]? with
    | none => s
    | some response =>
      { s with
        responses := s.responses.eraseIdx k
        ready := s.ready ++ [response] }
  | .wake k =>
    match s.waiting[k]? with
    | none => s
    | some (id, request) =>
      { s with
        waiting := s.waiting.eraseIdx k
        trace := s.trace ++ [.returned id request (s.future id)] }
  | .loseRequest k => { s with requests := s.requests.eraseIdx k }
  | .loseResponse k => { s with responses := s.responses.eraseIdx k }

/-! ## What the trace says -/

def called (tr : List (Entry α β)) : List (Nat × α) :=
  tr.filterMap fun
    | .called id request => some (id, request)
    | _ => none

def handled (tr : List (Entry α β)) : List (Nat × α) :=
  tr.filterMap fun
    | .handled id request => some (id, request)
    | _ => none

def returned (tr : List (Entry α β)) : List (Nat × α) :=
  tr.filterMap fun
    | .returned id request _ => some (id, request)
    | _ => none

/-- The calls that returned a response, with the response. -/
def answered (tr : List (Entry α β)) : List ((Nat × α) × β) :=
  tr.filterMap fun
    | .returned id request (some response) => some ((id, request), response)
    | _ => none

section
variable (tr new : List (Entry α β))

@[simp] theorem called_append : called (tr ++ new) = called tr ++ called new :=
  List.filterMap_append

@[simp] theorem handled_append : handled (tr ++ new) = handled tr ++ handled new :=
  List.filterMap_append

@[simp] theorem returned_append : returned (tr ++ new) = returned tr ++ returned new :=
  List.filterMap_append

@[simp] theorem answered_append : answered (tr ++ new) = answered tr ++ answered new :=
  List.filterMap_append

/-- Calls that returned a response have returned. -/
theorem answered_sublist : ((answered tr).map Prod.fst).Sublist (returned tr) := by
  induction tr with
  | nil => exact .slnil
  | cons o tr ih =>
    match o with
    | .called _ _ => exact ih
    | .handled _ _ => exact ih
    | .returned _ _ none => exact ih.cons _
    | .returned _ _ (some _) => exact ih.cons_cons _

end

/-! ## The invariant -/

structure Inv (answer : α → β) (s : State α β) : Prop where
  fresh : ∀ c ∈ called s.trace, c.1 < s.next
  ids : ((called s.trace).map Prod.fst).Nodup
  /-- A request is on its way until it is handled, a call open until it returns. -/
  handled : (s.requests ++ handled s.trace).Subperm (called s.trace)
  returned : (s.waiting ++ returned s.trace).Subperm (called s.trace)
  responses : ∀ r ∈ s.responses ++ s.ready, ∃ request,
    (r.1, request) ∈ Rpc.handled s.trace ∧ r.2 = answer request
  answered : ∀ r ∈ answered s.trace, r.1 ∈ Rpc.handled s.trace ∧ r.2 = answer r.1.2

section
variable {answer : α → β} {s : State α β} {id k : Nat} {request : α}

/-- There is one request to an id. -/
theorem Inv.request_unique (h : Inv answer s) {request request' : α}
    (hc : (id, request) ∈ called s.trace) (hc' : (id, request') ∈ called s.trace) :
    request = request' := by
  have heq := List.inj_on_of_nodup_map h.ids hc hc' rfl
  exact congrArg Prod.snd heq

theorem Inv.call (h : Inv answer s) (request : α) :
    Inv answer (step answer s (.call request)) := by
  have hcalled : called (s.trace ++ [.called s.next request]) =
      called s.trace ++ [(s.next, request)] := called_append ..
  have hhandled : Rpc.handled (s.trace ++ [.called s.next request]) = Rpc.handled s.trace := by
    simp [Rpc.handled]
  refine
    { fresh := fun c hc => ?_
      ids := ?_
      handled := ?_
      returned := ?_
      responses := fun r hr => ?_
      answered := fun r hr => ?_ }
  · rw [step, hcalled] at hc
    obtain hc | hc := List.mem_append.mp hc
    · exact Nat.lt_succ_of_lt (h.fresh c hc)
    · rw [List.mem_singleton.mp hc]
      exact Nat.lt_succ_self _
  · rw [step, hcalled, List.map_append, List.map_singleton, ← List.concat_eq_append]
    refine h.ids.concat fun hmem => ?_
    obtain ⟨c, hc, hid⟩ := List.mem_map.mp hmem
    exact Nat.lt_irrefl _ (hid ▸ h.fresh c hc)
  · rw [step, hcalled, hhandled, List.append_assoc]
    exact (List.perm_middle.trans (List.perm_append_singleton ..).symm).subperm.trans
      ((List.subperm_append_right _).mpr h.handled)
  · have hreturned : Rpc.returned (s.trace ++ [.called s.next request]) =
        Rpc.returned s.trace := by simp [Rpc.returned]
    rw [step, hcalled, hreturned, List.append_assoc]
    exact (List.perm_middle.trans (List.perm_append_singleton ..).symm).subperm.trans
      ((List.subperm_append_right _).mpr h.returned)
  · rw [step, hhandled]
    exact h.responses r hr
  · rw [step, hhandled]
    exact h.answered r (by simpa [step, Rpc.answered] using hr)

theorem Inv.handle (h : Inv answer s) (k : Nat) : Inv answer (step answer s (.handle k)) := by
  rw [step]
  split
  · exact h
  · next id request hk =>
    have hcalled : called (s.trace ++ [.handled id request]) = called s.trace := by simp [called]
    have hhandled : Rpc.handled (s.trace ++ [.handled id request]) =
        Rpc.handled s.trace ++ [(id, request)] := handled_append ..
    refine
      { fresh := hcalled ▸ h.fresh
        ids := hcalled ▸ h.ids
        handled := ?_
        returned := ?_
        responses := fun r hr => ?_
        answered := fun r hr => ?_ }
    · rw [hcalled, hhandled]
      exact (Moves.perm_move hk).subperm.trans h.handled
    · rw [hcalled]
      simpa [Rpc.returned] using h.returned
    · rw [hhandled]
      simp only [List.mem_append, List.mem_singleton, or_right_comm] at hr
      obtain hr | rfl := hr
      · obtain ⟨request', hmem, heq⟩ := h.responses r (List.mem_append.mpr hr)
        exact ⟨request', List.mem_append_left _ hmem, heq⟩
      · exact ⟨request, by simp, rfl⟩
    · obtain ⟨hmem, heq⟩ := h.answered r (by simpa [Rpc.answered] using hr)
      exact ⟨by simp [hhandled, hmem], heq⟩

theorem Inv.receive (h : Inv answer s) (k : Nat) : Inv answer (step answer s (.receive k)) := by
  rw [step]
  split
  · exact h
  · next response hk =>
    refine { h with responses := fun r hr => h.responses r ?_ }
    simp only [List.mem_append, List.mem_singleton] at hr ⊢
    obtain hr | hr | rfl := hr
    · exact .inl (List.mem_of_mem_eraseIdx hr)
    · exact .inr hr
    · exact .inl (List.mem_of_getElem? hk)

theorem Inv.wake (h : Inv answer s) (k : Nat) : Inv answer (step answer s (.wake k)) := by
  rw [step]
  split
  · exact h
  · next id request hk =>
    have hcalled : called (s.trace ++ [.returned id request (s.future id)]) = called s.trace := by
      simp [called]
    have hhandled : Rpc.handled (s.trace ++ [.returned id request (s.future id)]) =
        Rpc.handled s.trace := by simp [Rpc.handled]
    refine
      { fresh := hcalled ▸ h.fresh
        ids := hcalled ▸ h.ids
        handled := by rw [hcalled, hhandled]; exact h.handled
        returned := ?_
        responses := fun r hr => by rw [hhandled]; exact h.responses r hr
        answered := fun r hr => ?_ }
    · have hreturned : Rpc.returned (s.trace ++ [.returned id request (s.future id)]) =
          Rpc.returned s.trace ++ [(id, request)] := returned_append ..
      rw [hcalled, hreturned]
      exact (Moves.perm_move hk).subperm.trans h.returned
    · rw [hhandled]
      rw [answered_append] at hr
      obtain hr | hr := List.mem_append.mp hr
      · exact h.answered r hr
      · -- the response was to a request with this id, which is the one that is waited for
        cases hfuture : s.future id with
        | none => simp [Rpc.answered, hfuture] at hr
        | some response =>
          obtain rfl : r = ((id, request), response) := by simpa [Rpc.answered, hfuture] using hr
          obtain ⟨r, hfound, rfl⟩ := Option.map_eq_some_iff.mp hfuture
          obtain rfl : r.1 = id := by simpa using List.find?_some hfound
          obtain ⟨request', hmem, heq⟩ :=
            h.responses r (List.mem_append_right _ (List.mem_of_find?_eq_some hfound))
          obtain rfl : request' = request := h.request_unique
            (h.handled.subset (List.mem_append_right _ hmem))
            (h.returned.subset (List.mem_append_left _ (List.mem_of_getElem? hk)))
          exact ⟨hmem, heq⟩

theorem Inv.step (h : Inv answer s) (ev : Event α) : Inv answer (step answer s ev) := by
  cases ev with
  | call request => exact h.call request
  | handle k => exact h.handle k
  | receive k => exact h.receive k
  | wake k => exact h.wake k
  | loseRequest k =>
    exact { h with
      handled := ((List.eraseIdx_sublist ..).append_right _).subperm.trans h.handled }
  | loseResponse k =>
    refine { h with responses := fun r hr => h.responses r ?_ }
    exact List.mem_append.mpr ((List.mem_append.mp hr).imp_left List.mem_of_mem_eraseIdx)

theorem inv_init : Inv answer ({} : State α β) where
  fresh := by simp [called]
  ids := by simp [called]
  handled := .refl _
  returned := .refl _
  responses := by simp
  answered := by simp [Rpc.answered]

/-! ## Main result -/

/-- Who got a response was served, and who was served called, once for each time; and the response
is the one to the request. -/
structure Accounted (answer : α → β) (tr : List (Entry α β)) : Prop where
  answered : ((answered tr).map Prod.fst).Subperm (handled tr)
  handled : (handled tr).Subperm (called tr)
  response : ∀ r ∈ Rpc.answered tr, r.2 = answer r.1.2

theorem Inv.accounted (h : Inv answer s) : Accounted answer s.trace where
  answered := by
    have hcalls : (called s.trace).Nodup := h.ids.of_map _
    obtain ⟨calls, hperm, hsub⟩ := h.returned
    have hreturned : (Rpc.returned s.trace).Nodup :=
      (hperm.nodup_iff.mp (hcalls.sublist hsub)).sublist (List.sublist_append_right ..)
    refine (hreturned.sublist (answered_sublist s.trace)).subperm fun c hc => ?_
    obtain ⟨r, hr, rfl⟩ := List.mem_map.mp hc
    exact (h.answered r hr).1
  handled := (List.sublist_append_right ..).subperm.trans h.handled
  response r hr := (h.answered r hr).2

end

end Rpc

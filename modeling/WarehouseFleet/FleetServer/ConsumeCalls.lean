import WarehouseFleet.FleetServer.TaskQueues

/-!
# The loop taken apart and `ConsumeLoop`

As long as nothing but the loop itself ends the process, what the loop does call by call is what
`ConsumeLoop` does an iteration at a time: an iteration counts when it ends.
-/

namespace FleetServer.TaskQueues

open Fms
open Amqp
open Consume (Message Loop Conditions decode iterate)

/-! ## What is the same -/

/-- What `ConsumeLoop` records of an entry. -/
def Entry.view (e : Entry) : Option Consume.Entry :=
  match e.what with
  | .received => some (.delivered e.message.id)
  | .published a => some (.published e.message.id a)
  | .recorded a => some (.recorded e.message.id a)
  | .acked _ => some (.acked e.message.id)
  | .rejected _ => some (.rejected e.message.id)
  | .arrived | .failed | .dropped => none

/-- What an iteration that has come this far has left in the trace. -/
def Job.entries (j : Job) : List Consume.Entry :=
  match j.stage with
  | .received | .selected _ => [.delivered j.delivery.message.id]
  | .published a => [.delivered j.delivery.message.id, .published j.delivery.message.id a]
  | .recorded a =>
    [.delivered j.delivery.message.id, .published j.delivery.message.id a,
     .recorded j.delivery.message.id a]

/-- The queue, the loop and the trace are as `ConsumeLoop` has them, but for an iteration that has
not ended. -/
structure Shows {β : Type} (B : Broker β Message) (t : State β) (s : Consume.State) : Prop where
  held : (B.view t.broker).held "tasks.incoming" = ↑(s.ready ++ s.unsettled)
  nextId : s.nextId = t.nextId
  alive : t.alive = true → s.alive = true ∧ s.unsettled = []
  trace : t.trace.filterMap Entry.view = s.trace ++ t.job.elim [] Job.entries

/-- The process ends between two iterations or because the loop throws, and the connection holds. -/
def Undisturbed {β : Type} (t : State β) : Event → Prop
  | .crash => t.job = none
  | .disconnect _ => False
  | _ => True

section
variable {K : Type} [Add K] [Sub K] [Mul K] [LT K] [DecidableLT K] [RatCast K] [Sqrt K]

/-- There are conditions under which an iteration goes as this one has gone so far, and then as the
calls to come will say. -/
def Stage.Explained (l : Loop K) (body : String) : Stage → Prop
  | .received => True
  | .selected a => ∃ robots, ∀ idNow stampNow throws,
      iterate l ⟨robots, idNow, stampNow, throws⟩ body =
        match robotIndex l.numRobots a.robotId with
        | none => .unknownRobot
        | some _ =>
          if throws then .notRecorded (prepare idNow stampNow a)
          else .acked (prepare idNow stampNow a)
  | .published a => ∃ robots idNow stampNow, ∀ throws,
      iterate l ⟨robots, idNow, stampNow, throws⟩ body = if throws then .notRecorded a else .acked a
  | .recorded a => ∃ c, iterate l c body = .acked a

structure Follows {β : Type} (B : Broker β Message) (l : Loop K) (t : State β) (s : Consume.State) :
    Prop extends Shows B t s where
  inv : Inv B t
  connected : t.alive = true → t.connected = true
  explained : ∀ j ∈ t.job, j.stage.Explained l j.delivery.message.body

/-! ## An iteration -/

theorem iterate_of_not_decoded {l : Loop K} {body : String} (h : decode l body = none)
    (c : Conditions) : iterate l c body = .rejected := by
  simp [iterate, h]

theorem iterate_of_not_selected {l : Loop K} {body : String} {request : TaskAssignment}
    {c : Conditions} (h : decode l body = some request)
    (hsel : selectBestRobot c.robots request l.socWeight = none) :
    iterate l c body = .rejected := by
  simp [iterate, h, serve, hsel]

theorem explained_selected {l : Loop K} {body : String} {request : TaskAssignment}
    {robots : StatusMap} {best : String × K} (h : decode l body = some request)
    (hsel : selectBestRobot robots request l.socWeight = some best) :
    (Stage.selected { request with robotId := best.1 }).Explained l body := by
  refine ⟨robots, fun idNow stampNow throws => ?_⟩
  cases hindex : robotIndex l.numRobots best.1 with
  | none => simp [iterate, h, serve, hsel, prepare, hindex]
  | some i => simp [iterate, h, serve, hsel, prepare, hindex]

end

section
variable {β : Type} {B : Broker β Message} {t t' : State β} {s : Consume.State}
  {d : Delivery Message} {stage : Stage}

theorem view_emit (t : State β) (m : Message) (what : What) :
    (t.emit m what).trace.filterMap Entry.view =
      t.trace.filterMap Entry.view ++ (Entry.view ⟨m, what⟩).toList := by
  cases hview : Entry.view ⟨m, what⟩ <;> simp [State.emit, hview]

theorem Inv.alive_of_job (h : Inv B t) (hjob : t.job = some ⟨d, stage⟩) : t.alive = true := by
  have hpending := mem_pending hjob
  cases halive : t.alive with
  | true => rfl
  | false => simp [h.session.dead halive] at hpending

variable {K : Type} [Add K] [Sub K] [Mul K] [LT K] [DecidableLT K] [RatCast K] [Sqrt K]
  {l : Loop K}

/-- The iteration ends, and `ConsumeLoop` takes it as a whole. -/
theorem Follows.finish (h : Follows B l t s) (hjob : t.job = some ⟨d, stage⟩) (c : Conditions)
    (hinv : Inv B t') (hjob' : t'.job = none) (hnextId : t'.nextId = t.nextId)
    (hconnected : t'.alive = true → t'.connected = true)
    (hsettles : t'.alive = true → (iterate l c d.message.body).settles = true)
    (hheld : (B.view t'.broker).held "tasks.incoming" =
      if (iterate l c d.message.body).settles then
        ((B.view t.broker).held "tasks.incoming").erase d.message
      else (B.view t.broker).held "tasks.incoming")
    (htrace : t'.trace.filterMap Entry.view =
      s.trace ++ (iterate l c d.message.body).entries d.message.id) :
    ∃ fs, Follows B l t' (Run.run (Consume.step l) s fs) := by
  obtain ⟨halive, hunsettled⟩ := h.alive (h.inv.alive_of_job hjob)
  have hready : (B.view t.broker).held "tasks.incoming" = ↑s.ready := by
    rw [h.held, hunsettled, List.append_nil]
  have hmem : d.message ∈ s.ready :=
    Multiset.mem_coe.mp (hready ▸ h.inv.session.waiting d (mem_pending hjob))
  obtain ⟨i, hi⟩ := List.mem_iff_getElem?.mp hmem
  have hperm : (s.ready.eraseIdx i ++ [d.message]).Perm s.ready := by
    have hmove : (s.ready.eraseIdx i ++ ([] ++ [d.message])).Perm (s.ready ++ []) :=
      Moves.perm_move hi
    simpa using hmove
  refine ⟨[.consume i c], ?_⟩
  rw [Run.run_cons, Consume.step, if_pos halive, hi]
  dsimp only
  generalize iterate l c d.message.body = fate at hsettles hheld htrace
  refine ⟨⟨?_, h.nextId.trans hnextId.symm, fun ha => ?_, ?_⟩, hinv, hconnected, by simp [hjob']⟩
  · rw [hheld, hready]
    cases fate.settles with
    | true =>
      rw [← Multiset.coe_eq_coe.mpr hperm, ← Multiset.coe_add, Multiset.coe_singleton,
        Multiset.add_comm, Multiset.singleton_add, Multiset.erase_cons_head]
      simp [hunsettled, Run.run]
    | false =>
      simpa [hunsettled, Run.run] using (Multiset.coe_eq_coe.mpr hperm).symm
  · simp [Run.run, hsettles ha, hunsettled]
  · simp [Run.run, htrace, hjob']

/-- Nothing has happened that `ConsumeLoop` knows of yet. -/
theorem Follows.quiet (h : Follows B l t s) (hinv : Inv B t') (hnextId : t'.nextId = t.nextId)
    (halive : t'.alive = t.alive) (hconnected : t'.connected = t.connected)
    (hheld : (B.view t'.broker).held "tasks.incoming" = (B.view t.broker).held "tasks.incoming")
    (htrace : t'.trace.filterMap Entry.view = s.trace ++ t'.job.elim [] Job.entries)
    (hexplained : ∀ j ∈ t'.job, j.stage.Explained l j.delivery.message.body) :
    ∃ fs, Follows B l t' (Run.run (Consume.step l) s fs) :=
  ⟨[],
    { held := hheld.trans h.held
      nextId := h.nextId.trans hnextId.symm
      alive := fun ha => h.alive (halive ▸ ha)
      trace := htrace
      inv := hinv
      connected := fun ha => hconnected ▸ h.connected (halive ▸ ha)
      explained := hexplained }⟩

/-! ## The ways an iteration ends -/

theorem crash_fields (B : Broker β Message) (t : State β) :
    (t.crash B).alive = false ∧ (t.crash B).job = none ∧ (t.crash B).nextId = t.nextId ∧
    (t.crash B).broker = (t.disconnect B).broker ∧
    (t.crash B).trace.filterMap Entry.view = t.trace.filterMap Entry.view := by
  rw [State.crash]
  split
  · exact ⟨rfl, rfl, rfl, rfl, rfl⟩
  · exact ⟨rfl, rfl, rfl, rfl, by simp [State.emit, State.disconnect, Entry.view]⟩

theorem Follows.crash (h : Follows B l t s) (hB : B.Laws) (hjob : t.job = none) :
    Follows B l (t.crash B) s := by
  obtain ⟨halive, hjob', hnextId, hbroker, htrace⟩ := crash_fields B t
  exact
    { held := by rw [hbroker, disconnect_held hB, h.held]
      nextId := h.nextId.trans hnextId.symm
      alive := by simp [halive]
      trace := by rw [htrace, h.trace, hjob, hjob']
      inv := h.inv.crash hB
      connected := by simp [halive]
      explained := by simp [hjob'] }

/-- The loop throws. -/
theorem Follows.throws (h : Follows B l t s) (hB : B.Laws) (hjob : t.job = some ⟨d, stage⟩)
    (c : Conditions) (hsettles : (iterate l c d.message.body).settles = false)
    (hentries : (iterate l c d.message.body).entries d.message.id = Job.entries ⟨d, stage⟩) :
    ∃ fs, Follows B l (t.crash B) (Run.run (Consume.step l) s fs) := by
  obtain ⟨halive, hjob', hnextId, hbroker, htrace⟩ := crash_fields B t
  refine h.finish hjob c (h.inv.crash hB) hjob' hnextId (by simp [halive]) (by simp [halive]) ?_ ?_
  · rw [hbroker, disconnect_held hB, hsettles, if_neg Bool.false_ne_true]
  · rw [htrace, h.trace, hjob, hentries, Option.elim_some]

/-- The message is settled. -/
theorem Follows.settles (h : Follows B l t s) (hB : B.Laws) {call : β → β} {what : Bool → What}
    (hjob : t.job = some ⟨d, stage⟩) (hcall : Settles B d stage call what) (c : Conditions)
    (hsettles : (iterate l c d.message.body).settles = true)
    (hentries : (iterate l c d.message.body).entries d.message.id =
      Job.entries ⟨d, stage⟩ ++ (Entry.view ⟨d.message, what true⟩).toList) :
    ∃ fs, Follows B l (t.settle call d what) (Run.run (Consume.step l) s fs) := by
  have hconnected := h.connected (h.inv.alive_of_job hjob)
  have hunacked := h.inv.session.unacked hconnected d (mem_pending hjob)
  refine h.finish hjob c (h.inv.settles hB hjob hcall) rfl rfl h.connected (fun _ => hsettles) ?_ ?_
  · rw [hsettles, if_pos rfl]
    simp only [State.settle, State.emit, hconnected, if_true]
    cases hcall with
    | acks a => rw [hB.ack d.tag t.broker _ _ hunacked, View.held_settle]
    | rejects =>
      have hdeclared := h.inv.session.declared_of_connected hconnected
      rw [hdeclared.reject hB hunacked, View.held_route_of_not_bound, View.held_settle]
      simp [View.settle, hdeclared.bound_incoming h.inv.session.own]
  · rw [State.settle, view_emit]
    show t.trace.filterMap Entry.view ++ _ = _
    rw [h.trace, hjob, hconnected, hentries, Option.elim_some, List.append_assoc]

/-! ## Steps -/

/-- A process that is started has all messages before it. -/
theorem Follows.start (h : Follows B l t s) (hB : B.Laws) :
    ∃ fs, Follows B l (step B l t .start) (Run.run (Consume.step l) s fs) := by
  have hinv := h.inv.step (l := l) hB .start
  obtain ⟨hextends, hheld⟩ := setupTopology_extends hB t.broker
  simp only [step] at hinv ⊢
  cases halive : t.alive with
  | true => exact ⟨[], by simpa [halive, Run.run] using h⟩
  | false =>
    simp only [halive, Bool.false_eq_true, if_false] at hinv ⊢
    generalize setupTopology B t.broker = r at hinv hheld
    obtain ⟨reply, b⟩ := r
    cases reply with
    | error text =>
      exact h.quiet hinv rfl halive.symm rfl (congrFun hheld _) h.trace h.explained
    | ok _ =>
      refine ⟨[.restart], ⟨⟨?_, h.nextId, fun _ => ⟨rfl, rfl⟩, h.trace⟩, hinv, fun _ => rfl,
        h.explained⟩⟩
      show (B.view b).held "tasks.incoming" = Multiset.ofList (s.ready ++ s.unsettled ++ [])
      rw [List.append_nil, ← h.held]
      exact congrFun hheld _

theorem Follows.submit (h : Follows B l t s) (hB : B.Laws) (body : String) :
    ∃ fs, Follows B l (step B l t (.submit body)) (Run.run (Consume.step l) s fs) := by
  have hinv := h.inv.step (l := l) hB (.submit body)
  simp only [step] at hinv ⊢
  split at hinv
  · next hdeclared =>
    have hsetup := h.inv.session.setup hdeclared
    have hheld := (hsetup.routes hB).incoming ⟨t.nextId, body⟩
    rw [if_pos hdeclared]
    refine ⟨[.arrives body], ⟨⟨?_, ?_, h.alive, ?_⟩, hinv, h.connected, h.explained⟩⟩
    · show (B.view (B.publish _ _ _ _)).held _ =
        Multiset.ofList (s.ready ++ [⟨s.nextId, body⟩] ++ s.unsettled)
      rw [hheld, h.held, h.nextId, Multiset.cons_coe, List.append_assoc]
      exact Multiset.coe_eq_coe.mpr List.perm_middle.symm
    · exact congrArg (· + 1) h.nextId
    · rw [view_emit]
      exact (List.append_nil _).trans h.trace
  · next hdeclared => exact ⟨[], by rwa [if_neg hdeclared]⟩

theorem Follows.report (h : Follows B l t s) (hB : B.Laws) (body : String) (throws : Bool) :
    ∃ fs, Follows B l (step B l t (.failed body throws)) (Run.run (Consume.step l) s fs) := by
  have hinv := h.inv.step (l := l) hB (.failed body throws)
  simp only [step] at hinv ⊢
  split at hinv
  · next hconnected =>
    have hsetup := h.inv.session.declared_of_connected hconnected
    rw [if_pos hconnected]
    refine h.quiet hinv rfl rfl rfl ?_ ?_ h.explained
    · show (B.view (B.publish _ _ _ _)).held _ = _
      rw [hsetup.publish_failed hB, View.held_route_of_not_bound]
      simp [hsetup.bound_incoming h.inv.session.own]
    · rw [view_emit]
      exact (List.append_nil _).trans h.trace
  · next hconnected =>
    -- without a connection nothing is in hand, since the process does not run
    have hjob : t.job = none := by
      cases hjob : t.job with
      | none => rfl
      | some j => exact absurd (h.connected (h.inv.alive_of_job (d := j.delivery) hjob)) hconnected
    rw [if_neg hconnected]
    split
    · exact ⟨[], h.crash hB hjob⟩
    · exact ⟨[], h⟩

theorem Follows.deliver (h : Follows B l t s) (hB : B.Laws) (choice : Nat) :
    ∃ fs, Follows B l (step B l t (.deliver choice)) (Run.run (Consume.step l) s fs) := by
  have hinv := h.inv.step (l := l) hB (.deliver choice)
  simp only [step] at hinv ⊢
  split at hinv
  · next hconnected =>
    rw [if_pos hconnected]
    split at hinv
    · exact ⟨[], h⟩
    · next d broker hd =>
      obtain ⟨-, hview⟩ := hB.deliver _ _ _ _ _ hd
      exact h.quiet hinv rfl rfl rfl (by rw [hview]; rfl) h.trace h.explained
  · next hconnected => exact ⟨[], by rwa [if_neg hconnected]⟩

theorem Follows.receive (h : Follows B l t s) (hB : B.Laws) :
    ∃ fs, Follows B l (step B l t .receive) (Run.run (Consume.step l) s fs) := by
  have hinv := h.inv.step (l := l) hB .receive
  simp only [step] at hinv ⊢
  split at hinv
  · next d inbox hjob hinbox =>
    refine h.quiet hinv rfl rfl rfl rfl ?_ (by simp [State.emit, Stage.Explained])
    rw [view_emit]
    show t.trace.filterMap Entry.view ++ _ = _
    rw [h.trace, hjob]
    exact congrArg (· ++ _) (List.append_nil _)
  · exact ⟨[], h⟩

theorem Follows.select (h : Follows B l t s) (hB : B.Laws) (robots : StatusMap) :
    ∃ fs, Follows B l (step B l t (.select robots)) (Run.run (Consume.step l) s fs) := by
  have hinv := h.inv.step (l := l) hB (.select robots)
  simp only [step] at hinv ⊢
  split at hinv
  · next d hjob =>
    have hrejects := h.settles hB hjob .rejects ⟨robots, 0, 0, false⟩
    split at hinv
    · next hdecode =>
      rw [iterate_of_not_decoded hdecode] at hrejects
      exact hrejects rfl rfl
    · next request hdecode =>
      split at hinv
      · next hsel =>
        rw [iterate_of_not_selected hdecode hsel] at hrejects
        exact hrejects rfl rfl
      · next best hsel =>
        refine h.quiet hinv rfl rfl rfl rfl ?_ ?_
        · rw [h.trace, hjob]
          rfl
        · rintro j ⟨⟩
          exact explained_selected hdecode hsel
  · exact ⟨[], h⟩

/-- The iteration goes on, with another entry in the trace. -/
theorem Follows.advance (h : Follows B l t s) (hjob : t.job = some ⟨d, stage⟩) {stage' : Stage}
    {what : What} (hinv : Inv B ({ t with job := some ⟨d, stage'⟩ }.emit d.message what))
    (hentries : Job.entries ⟨d, stage'⟩ =
      Job.entries ⟨d, stage⟩ ++ (Entry.view ⟨d.message, what⟩).toList)
    (hexplained : stage'.Explained l d.message.body) :
    ∃ fs, Follows B l ({ t with job := some ⟨d, stage'⟩ }.emit d.message what)
      (Run.run (Consume.step l) s fs) := by
  refine h.quiet hinv rfl rfl rfl rfl ?_ (by rintro j ⟨⟩; exact hexplained)
  rw [view_emit]
  show t.trace.filterMap Entry.view ++ _ = s.trace ++ Job.entries ⟨d, stage'⟩
  rw [h.trace, hjob, hentries, Option.elim_some, List.append_assoc]

theorem Follows.publish (h : Follows B l t s) (hB : B.Laws) (idNow stampNow : Time) :
    ∃ fs, Follows B l (step B l t (.publish idNow stampNow)) (Run.run (Consume.step l) s fs) := by
  have hinv := h.inv.step (l := l) hB (.publish idNow stampNow)
  simp only [step] at hinv ⊢
  split at hinv
  · next d a hjob =>
    obtain ⟨robots, hiterate⟩ := h.explained _ hjob
    split at hinv
    · next hindex =>
      have hunknown : robotIndex l.numRobots a.robotId = none := hindex
      have hthrows := h.throws hB hjob ⟨robots, idNow, stampNow, false⟩
      rw [hiterate, hunknown] at hthrows
      exact hthrows rfl rfl
    · next i hindex =>
      have hknown : robotIndex l.numRobots a.robotId = some i := hindex
      exact h.advance hjob hinv rfl
        ⟨robots, idNow, stampNow, fun throws => by rw [hiterate, hknown]⟩
  · exact ⟨[], h⟩

theorem Follows.insert (h : Follows B l t s) (hB : B.Laws) (throws : Bool) :
    ∃ fs, Follows B l (step B l t (.insert throws)) (Run.run (Consume.step l) s fs) := by
  have hinv := h.inv.step (l := l) hB (.insert throws)
  simp only [step] at hinv ⊢
  split at hinv
  · next d a hjob =>
    obtain ⟨robots, idNow, stampNow, hiterate⟩ := h.explained _ hjob
    split at hinv
    · next hins =>
      have hthrows := h.throws hB hjob ⟨robots, idNow, stampNow, true⟩
      rw [hiterate] at hthrows
      rw [if_pos hins]
      exact hthrows rfl rfl
    · next hins =>
      rw [if_neg hins]
      exact h.advance hjob hinv rfl ⟨⟨robots, idNow, stampNow, false⟩, hiterate false⟩
  · exact ⟨[], h⟩

theorem Follows.ack (h : Follows B l t s) (hB : B.Laws) :
    ∃ fs, Follows B l (step B l t .ack) (Run.run (Consume.step l) s fs) := by
  simp only [step]
  split
  · next d a hjob =>
    obtain ⟨c, hiterate⟩ := h.explained _ hjob
    have hacks := h.settles hB hjob (.acks a) c
    rw [hiterate] at hacks
    exact hacks rfl rfl
  · exact ⟨[], h⟩

theorem Follows.step (h : Follows B l t s) (hB : B.Laws) (ev : Event) (hev : Undisturbed t ev) :
    ∃ fs, Follows B l (step B l t ev) (Run.run (Consume.step l) s fs) := by
  cases ev with
  | start => exact h.start hB
  | crash => exact ⟨[], h.crash hB hev⟩
  | disconnect kept => exact hev.elim
  | submit body => exact h.submit hB body
  | failed body throws => exact h.report hB body throws
  | deliver choice => exact h.deliver hB choice
  | receive => exact h.receive hB
  | select robots => exact h.select hB robots
  | publish idNow stampNow => exact h.publish hB idNow stampNow
  | insert throws => exact h.insert hB throws
  | ack => exact h.ack hB

/-! ## Runs -/

theorem follows_init {b : β} (hb : Fresh (B.view b)) (l : Loop K) :
    Follows B l { broker := b } {} where
  held := hb.incoming
  nextId := rfl
  alive := by simp
  trace := rfl
  inv := inv_init hb
  connected := by simp
  explained := by simp

/-- **The loop taken apart.** As long as only the loop itself and the pauses between its iterations
end the process, and the connection holds, whatever its calls, the broker and the clients do in
between is a run of `ConsumeLoop`, with the same queue and the same trace. -/
theorem calls_simulated (hB : B.Laws) {b : β} (hb : Fresh (B.view b)) (l : Loop K)
    (es : List Event) (hes : Run.Along (TaskQueues.step B l) Undisturbed { broker := b } es) :
    ∃ fs, Shows B (run B l b es) (Consume.run l fs) := by
  obtain ⟨fs, hfs⟩ := hes.exists_simulating (R := Follows B l)
    (fun t s ev h hev => h.step hB ev hev) (follows_init hb l)
  exact ⟨fs, hfs.toShows⟩

end

/-- The database is away when the task is recorded, and back after the restart. -/
def awayRun : List Event :=
  [.start, .submit "task", .deliver 0, .receive, .select (Consume.sampleConditions false).robots,
   .publish 1 1, .insert true,
   .start, .deliver 0, .receive, .select (Consume.sampleConditions false).robots, .publish 2 2,
   .insert false, .ack, .crash]

theorem calls_simulated_away : ∃ fs,
    Shows Memory.broker (run Memory.broker Consume.sampleLoop {} awayRun)
      (Consume.run Consume.sampleLoop fs) ∧
    Consume.publishes (Consume.history 0 (Consume.run Consume.sampleLoop fs).trace) = 2 := by
  have hes : Run.Along (step Memory.broker Consume.sampleLoop) Undisturbed { broker := {} }
      awayRun := by
    simp only [awayRun, Run.Along, Undisturbed, true_and, and_true]
    exact Option.isNone_iff_eq_none.mp (by decide +kernel)
  obtain ⟨fs, hfs⟩ :=
    calls_simulated Memory.broker_laws fresh_memory Consume.sampleLoop awayRun hes
  have hjob : (run Memory.broker Consume.sampleLoop {} awayRun).job = none :=
    Option.isNone_iff_eq_none.mp (by decide +kernel)
  have htrace := hfs.trace
  rw [hjob, Option.elim_none, List.append_nil] at htrace
  refine ⟨fs, hfs, ?_⟩
  rw [← htrace]
  decide +kernel

end FleetServer.TaskQueues

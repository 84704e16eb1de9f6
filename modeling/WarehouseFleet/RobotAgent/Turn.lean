import WarehouseFleet.RobotAgent.Tick

/-!
# The turn of TaskExecution

`chargeYields` is when the first child of the root returns FAILURE and the second one is ticked;
`Yielded` is what the first child has done to the world by then. `Turn` is the tick rule for a
tick from a given position and world, so that what is known there, and conditions on it, reach
the leaf of TaskExecution that is resumed.
-/

namespace RobotAgent

open BehaviorTree
open Fms

/-- `onRunning` of a `NavigateToPose` node returns FAILURE. -/
def navFails (n : NavNode) (w : World) : Bool :=
  w.node.faultInjected || match w.nav n with
    | none => true
    | some s => s.responseReceived &&
        (!s.goalAccepted || s.resultReceived && s.resultCode ≠ .succeeded)

/-- ChargeWhenLow returns FAILURE: the battery is fine, or the robot cannot get to the charger. -/
def chargeYields (e : TickEnv) : Pos → World → Bool
  | .charger, w => navFails .toCharger w
  | .charging, _ => false
  | _, w => 20 ≤ w.node.battery.soc || !e.navReady .toCharger

theorem NavigateToPose.Runs.navFails {n : NavNode} {w w' : World}
    (h : NavigateToPose.Runs w n (.failure, w')) : navFails n w = true := by
  generalize hr : (NodeStatus.failure, w') = r at h
  cases h with
  | fault hf => simp [RobotAgent.navFails, hf]
  | gone hf hs => simp [RobotAgent.navFails, hs]
  | waiting => cases hr
  | rejected s hf hs hr' ha => simp [RobotAgent.navFails, hs, hr', ha]
  | reached => cases hr
  | missed s hf hs hr' ha hd hc => simp [RobotAgent.navFails, hs, hr', hd, hc]

/-- The tick starts `NavToCharger`, and halts TaskExecution. -/
def startsCharger (e : TickEnv) : Pos → World → Bool
  | .charger, _ => false
  | .charging, _ => false
  | _, w => w.node.battery.soc < 20 && e.navReady .toCharger

theorem startsCharger_of {e : TickEnv} {p : Pos} {w : World} (ha : p.away)
    (hsoc : w.node.battery.soc < 20) (hr : e.navReady .toCharger = true) :
    startsCharger e p w = true := by
  cases p with
  | charger => exact ha.elim
  | charging => exact ha.elim
  | _ => simp [startsCharger, hsoc, hr]

/-- ChargeWhenLow keeps the turn when it has started `NavToCharger`. -/
theorem not_yields_of_startsCharger {e : TickEnv} {p : Pos} {w : World}
    (h : startsCharger e p w = true) : p.away ∧ chargeYields e p w = false := by
  cases p with
  | charger => cases h
  | charging => cases h
  | _ => simpa [startsCharger, chargeYields, Pos.away] using h

theorem chargeYields_of_soc {e : TickEnv} {p : Pos} {w : World} (ha : p.away)
    (h : 20 ≤ w.node.battery.soc) : chargeYields e p w = true := by
  cases p with
  | charger => exact ha.elim
  | charging => exact ha.elim
  | _ => simp [chargeYields, h]

theorem chargeYields_of_notReady {e : TickEnv} {p : Pos} {w : World} (ha : p.away)
    (h : e.navReady .toCharger = false) : chargeYields e p w = true := by
  cases p with
  | charger => exact ha.elim
  | charging => exact ha.elim
  | _ => simp [chargeYields, h]

/-- ChargeWhenLow has returned FAILURE in a tick that found the tree at a position and in a world;
the last argument is the world it leaves. -/
inductive Yielded (e : TickEnv) : Pos → World → World → Prop where
  | batteryOk (p : Pos) (w : World) (ha : p.away) (hsoc : 20 ≤ w.node.battery.soc) :
      Yielded e p w (w.emit (.returned .batteryOK .success))
  | notReady (p : Pos) (w : World) (ha : p.away) (hsoc : w.node.battery.soc < 20)
      (hr : e.navReady .toCharger = false) : Yielded e p w
        ((w.emit (.returned .batteryOK .failure)).emit
          (.returned (.navigateToPose .toCharger) .failure))
  | charger (w w' : World) (hr : NavigateToPose.Runs w .toCharger (.failure, w')) :
      Yielded e .charger w (w'.emit (.returned (.navigateToPose .toCharger) .failure))

namespace Yielded

variable {e : TickEnv} {p : Pos} {w w' : World}

theorem yields (h : Yielded e p w w') : chargeYields e p w = true := by
  cases h with
  | batteryOk _ _ ha hsoc => exact chargeYields_of_soc ha hsoc
  | notReady _ _ ha _ hr => exact chargeYields_of_notReady ha hr
  | charger _ _ hr => exact hr.navFails

theorem recov (h : Yielded e p w w') : w'.recov = w.recov := by
  cases h with
  | batteryOk => rfl
  | notReady => rfl
  | charger _ _ hr => exact hr.recov

theorem exec (h : Yielded e p w w') : w'.exec = w.exec := by
  cases h with
  | batteryOk => rfl
  | notReady => rfl
  | charger _ _ hr => exact hr.exec

theorem nav_to (h : Yielded e p w w') (leg : Leg) : w'.nav (.to leg) = w.nav (.to leg) := by
  cases h with
  | batteryOk => rfl
  | notReady => rfl
  | charger _ _ hr => exact hr.nav_of_ne (by simp)

theorem node_of_away (h : Yielded e p w w') (ha : p.away) : w'.node = w.node := by
  cases h with
  | batteryOk => rfl
  | notReady => rfl
  | charger => exact ha.elim

end Yielded

/-! ## The rule -/

/-- The outline of a tick from `p₀` and `w₀`. -/
def turnOutline (e : TickEnv) (p₀ : Pos) (w₀ : World) (start : Point → World → Prop)
    (after : Pos → World → Prop) : TickOutline where
  before p w := p = p₀ ∧ w = w₀
  task p w := p = p₀.rest ∧ Yielded e p₀ w₀ w
  start := start
  after := after

section
variable {start start' : Point → World → Prop} {after after' : Pos → World → Prop} {pt : Point}
  {r : NodeStatus × World}

/-- A leaf only has to keep a `Q` that is enough wherever TaskExecution may go on from it. -/
theorem leafPost_at {Q : World → Prop}
    (hstart : ∀ b pt' w, pt.next b = .inl pt' → Q w → start pt' w)
    (hdone : ∀ w, Q w → after .idle w) (hrun : ∀ w, Q w → after (.task pt) w) (h : Q r.2) :
    leafPost start after pt r := by
  have hreach : ∀ b w, Q w → leafReach start after (pt.next b) w := by
    intro b w hw
    cases hn : pt.next b with
    | inl pt' => exact hstart b pt' w hn hw
    | inr b' => exact hdone w hw
  match r, h with
  | (.running, w), h => exact hrun w h
  | (.success, w), h => exact hreach _ w h
  | (.failure, w), h => exact hreach _ w h

theorem leafPost_of {Q : World → Prop}
    (hstart : ∀ b pt' w, pt.next b = .inl pt' → Q w → start pt' w)
    (hafter : ∀ p w, p.away → Q w → after p w) (h : Q r.2) : leafPost start after pt r :=
  leafPost_at hstart (fun w => hafter .idle w trivial) (fun w => hafter (.task pt) w trivial) h

theorem leafPost.mono (hr : leafPost start after pt r) (h : ∀ p w, after p w → after' p w) :
    leafPost start after' pt r := by
  have hreach : ∀ n w, leafReach start after n w → leafReach start after' n w := by
    intro n w hw
    cases n with
    | inl pt => exact hw
    | inr b => exact h _ _ hw
  match r, hr with
  | (.running, w), hr => exact h _ _ hr
  | (.success, w), hr => exact hreach _ _ hr
  | (.failure, w), hr => exact hreach _ _ hr

theorem leafPost.and (h : leafPost start after pt r) (h' : leafPost start' after' pt r) :
    leafPost (fun pt w => start pt w ∧ start' pt w) (fun p w => after p w ∧ after' p w) pt r := by
  have hreach : ∀ n w, leafReach start after n w → leafReach start' after' n w →
      leafReach (fun pt w => start pt w ∧ start' pt w) (fun p w => after p w ∧ after' p w) n w := by
    intro n w hw hw'
    cases n <;> exact ⟨hw, hw'⟩
  match r, h, h' with
  | (.running, w), h, h' => exact ⟨h, h'⟩
  | (.success, w), h, h' => exact hreach _ _ h h'
  | (.failure, w), h, h' => exact hreach _ _ h h'

end

/-- The callbacks of a tick from `p₀` and `w₀`: `start` holds when a leaf of TaskExecution is
about to be started, `after` at the end of the tick. -/
structure Turn (e : TickEnv) (p₀ : Pos) (w₀ : World) (start : Point → World → Prop)
    (after : Pos → World → Prop) : Prop where
  chargerStarted : p₀.away → w₀.node.battery.soc < 20 → e.navReady .toCharger = true →
    after .charger (haltTask e p₀
      ((NavigateToPose.send e .toCharger w₀.node.chargerPose
        (w₀.emit (.returned .batteryOK .failure))).emit
          (.returned (.navigateToPose .toCharger) .running)))
  chargerRunning : p₀ = .charger →
    after .charger (w₀.emit (.returned (.navigateToPose .toCharger) .running))
  chargerReached : ∀ s, p₀ = .charger → w₀.nav .toCharger = some s → s.resultReceived = true →
    after .charging (returns .chargeBattery ChargeBattery.onStart
      ((NavigateToPose.finish .toCharger .navSucceeded w₀).emit
        (.returned (.navigateToPose .toCharger) .success))).2
  charging : p₀ = .charging → w₀.node.battery.soc < 95 →
    after .charging (w₀.emit (.returned .chargeBattery .running))
  charged : p₀ = .charging → 95 ≤ w₀.node.battery.soc →
    after .idle (({ w₀ with node := { w₀.node with isCharging := false } }.post .chargeBattery
      .batteryFull).emit (.returned .chargeBattery .success))
  requestTask : ∀ w r, Yielded e p₀ w₀ w → p₀.rest = .idle ∨ p₀ = .task .requestTask →
    RequestTask.Runs e w r →
    leafPost start after .requestTask (r.1, r.2.emit (.returned .requestTask r.1))
  navSent : ∀ leg k w goal, k < 3 → start (.nav leg k) w → w.goalPort (.to leg) = some goal →
    e.navReady (.to leg) = true → after (.task (.nav leg k))
      ((NavigateToPose.send e (.to leg) goal w).emit
        (.returned (.navigateToPose (.to leg)) .running))
  navNotSent : ∀ leg k w, k < 3 → start (.nav leg k) w →
    w.goalPort (.to leg) = none ∨ e.navReady (.to leg) = false →
    start (.recover leg k) (w.emit (.returned (.navigateToPose (.to leg)) .failure))
  nav : ∀ leg k w r, k < 3 → Yielded e p₀ w₀ w → p₀ = .task (.nav leg k) →
    NavigateToPose.Runs w (.to leg) r →
    leafPost start after (.nav leg k) (r.1, r.2.emit (.returned (.navigateToPose (.to leg)) r.1))
  recoverStarted : ∀ leg k w, k < 3 → start (.recover leg k) w →
    after (.task (.recover leg k))
      (returns (.requestRecovery leg) (RequestRecovery.onStart e leg) w).2
  recover : ∀ leg k w r, k < 3 → Yielded e p₀ w₀ w → p₀ = .task (.recover leg k) →
    RequestRecovery.Runs e w leg r →
    leafPost start after (.recover leg k) (r.1, r.2.emit (.returned (.requestRecovery leg) r.1))
  execStarted : ∀ leg w, start (.exec leg) w →
    after (.task (.exec leg)) (returns (.executePickDrop leg) (ExecutePickDrop.onStart e leg) w).2
  exec : ∀ leg w r, Yielded e p₀ w₀ w → p₀ = .task (.exec leg) → ExecutePickDrop.Runs e w leg r →
    leafPost start after (.exec leg) (r.1, r.2.emit (.returned (.executePickDrop leg) r.1))
  report : ∀ w, start .report w →
    after .idle (returns .reportStatus (ReportStatus.tick e) w).2

namespace Turn

variable {e : TickEnv} {p₀ : Pos} {w₀ : World} {start : Point → World → Prop}
  {after : Pos → World → Prop}

theorem holds (h : Turn e p₀ w₀ start after) : (turnOutline e p₀ w₀ start after).Holds e where
  batteryOk := by
    rintro p w - ha ⟨rfl, rfl⟩ hsoc
    exact ⟨(Pos.rest_of_away ha).symm, .batteryOk p w ha hsoc⟩
  chargerStarted := by
    rintro p w - ha ⟨rfl, rfl⟩ hsoc hr
    exact h.chargerStarted ha hsoc hr
  chargerNotReady := by
    rintro p w - ha ⟨rfl, rfl⟩ hsoc hr
    exact ⟨(Pos.rest_of_away ha).symm, .notReady p w ha hsoc hr⟩
  charger := by
    rintro w r ⟨rfl, rfl⟩ hr
    cases hr with
    | fault hf => exact ⟨rfl, .charger w _ (.fault hf)⟩
    | gone hf hs => exact ⟨rfl, .charger w _ (.gone hf hs)⟩
    | waiting => exact h.chargerRunning rfl
    | rejected s hf hs hr ha => exact ⟨rfl, .charger w _ (.rejected s hf hs hr ha)⟩
    | reached s hf hs hr ha hd hc => exact h.chargerReached s rfl hs hd
    | missed s hf hs hr ha hd hc => exact ⟨rfl, .charger w _ (.missed s hf hs hr ha hd hc)⟩
  charging := by
    rintro w ⟨hp, rfl⟩ hsoc
    exact h.charging hp.symm hsoc
  charged := by
    rintro w ⟨hp, rfl⟩ hsoc
    exact h.charged hp.symm hsoc
  requestTask := by
    rintro w r (⟨hp, hy⟩ | ⟨hp, hy⟩) hr
    · exact (h.requestTask w r hy (Or.inl hp.symm) hr)
    · exact (h.requestTask w r hy (Or.inr (Pos.eq_of_rest_eq hp.symm)) hr)
  navSent := h.navSent
  navNotSent := h.navNotSent
  nav := by
    rintro leg k w r hk ⟨hp, hy⟩ hr
    exact (h.nav leg k w r hk hy (Pos.eq_of_rest_eq hp.symm) hr)
  recoverStarted := h.recoverStarted
  recover := by
    rintro leg k w r hk ⟨hp, hy⟩ hr
    exact (h.recover leg k w r hk hy (Pos.eq_of_rest_eq hp.symm) hr)
  execStarted := h.execStarted
  exec := by
    rintro leg w r ⟨hp, hy⟩ hr
    exact (h.exec leg w r hy (Pos.eq_of_rest_eq hp.symm) hr)
  report := h.report

theorem trivial_turn (e : TickEnv) (p₀ : Pos) (w₀ : World) :
    Turn e p₀ w₀ (fun _ _ => True) (fun _ _ => True) := by
  have post : ∀ pt r, leafPost (fun _ _ => True) (fun _ _ => True) pt r := fun _ _ =>
    leafPost_of (fun _ _ _ _ h => h) (fun _ _ _ h => h) True.intro
  constructor <;> intros <;> first | trivial | exact post _ _

/-- When ChargeWhenLow does not give way, only its own callbacks count. -/
theorem of_not_yields (hy : chargeYields e p₀ w₀ = false)
    (chargerStarted : p₀.away → w₀.node.battery.soc < 20 → e.navReady .toCharger = true →
      after .charger (haltTask e p₀
        ((NavigateToPose.send e .toCharger w₀.node.chargerPose
          (w₀.emit (.returned .batteryOK .failure))).emit
            (.returned (.navigateToPose .toCharger) .running))))
    (chargerRunning : p₀ = .charger →
      after .charger (w₀.emit (.returned (.navigateToPose .toCharger) .running)))
    (chargerReached : ∀ s, p₀ = .charger → w₀.nav .toCharger = some s → s.resultReceived = true →
      after .charging (returns .chargeBattery ChargeBattery.onStart
        ((NavigateToPose.finish .toCharger .navSucceeded w₀).emit
          (.returned (.navigateToPose .toCharger) .success))).2)
    (charging : p₀ = .charging → w₀.node.battery.soc < 95 →
      after .charging (w₀.emit (.returned .chargeBattery .running)))
    (charged : p₀ = .charging → 95 ≤ w₀.node.battery.soc →
      after .idle (({ w₀ with node := { w₀.node with isCharging := false } }.post .chargeBattery
        .batteryFull).emit (.returned .chargeBattery .success))) :
    Turn e p₀ w₀ (fun _ _ => False) after := by
  have no : ∀ {w}, ¬ Yielded e p₀ w₀ w := fun h => by simpa [hy] using h.yields
  exact
    { chargerStarted, chargerRunning, chargerReached, charging, charged
      requestTask := fun _ _ h => (no h).elim
      navSent := fun _ _ _ _ _ h => h.elim
      navNotSent := fun _ _ _ _ h => h.elim
      nav := fun _ _ _ _ _ h => (no h).elim
      recoverStarted := fun _ _ _ _ h => h.elim
      recover := fun _ _ _ _ _ h => (no h).elim
      execStarted := fun _ _ h => h.elim
      exec := fun _ _ _ h => (no h).elim
      report := fun _ h => h.elim }

theorem mono {after' : Pos → World → Prop} (h : Turn e p₀ w₀ start after)
    (ha : ∀ p w, after p w → after' p w) : Turn e p₀ w₀ start after' where
  chargerStarted h₁ h₂ h₃ := ha _ _ (h.chargerStarted h₁ h₂ h₃)
  chargerRunning h₁ := ha _ _ (h.chargerRunning h₁)
  chargerReached s h₁ h₂ h₃ := ha _ _ (h.chargerReached s h₁ h₂ h₃)
  charging h₁ h₂ := ha _ _ (h.charging h₁ h₂)
  charged h₁ h₂ := ha _ _ (h.charged h₁ h₂)
  requestTask w r hy hp hr := (h.requestTask w r hy hp hr).mono ha
  navSent leg k w goal hk hs hg hr := ha _ _ (h.navSent leg k w goal hk hs hg hr)
  navNotSent := h.navNotSent
  nav leg k w r hk hy hp hr := (h.nav leg k w r hk hy hp hr).mono ha
  recoverStarted leg k w hk hs := ha _ _ (h.recoverStarted leg k w hk hs)
  recover leg k w r hk hy hp hr := (h.recover leg k w r hk hy hp hr).mono ha
  execStarted leg w hs := ha _ _ (h.execStarted leg w hs)
  exec leg w r hy hp hr := (h.exec leg w r hy hp hr).mono ha
  report w hs := ha _ _ (h.report w hs)

theorem and {start' : Point → World → Prop} {after' : Pos → World → Prop}
    (h : Turn e p₀ w₀ start after) (h' : Turn e p₀ w₀ start' after') :
    Turn e p₀ w₀ (fun pt w => start pt w ∧ start' pt w) (fun p w => after p w ∧ after' p w) where
  chargerStarted h₁ h₂ h₃ := ⟨h.chargerStarted h₁ h₂ h₃, h'.chargerStarted h₁ h₂ h₃⟩
  chargerRunning h₁ := ⟨h.chargerRunning h₁, h'.chargerRunning h₁⟩
  chargerReached s h₁ h₂ h₃ := ⟨h.chargerReached s h₁ h₂ h₃, h'.chargerReached s h₁ h₂ h₃⟩
  charging h₁ h₂ := ⟨h.charging h₁ h₂, h'.charging h₁ h₂⟩
  charged h₁ h₂ := ⟨h.charged h₁ h₂, h'.charged h₁ h₂⟩
  requestTask w r hy hp hr := (h.requestTask w r hy hp hr).and (h'.requestTask w r hy hp hr)
  navSent leg k w goal hk hs hg hr :=
    ⟨h.navSent leg k w goal hk hs.1 hg hr, h'.navSent leg k w goal hk hs.2 hg hr⟩
  navNotSent leg k w hk hs hn :=
    ⟨h.navNotSent leg k w hk hs.1 hn, h'.navNotSent leg k w hk hs.2 hn⟩
  nav leg k w r hk hy hp hr := (h.nav leg k w r hk hy hp hr).and (h'.nav leg k w r hk hy hp hr)
  recoverStarted leg k w hk hs :=
    ⟨h.recoverStarted leg k w hk hs.1, h'.recoverStarted leg k w hk hs.2⟩
  recover leg k w r hk hy hp hr :=
    (h.recover leg k w r hk hy hp hr).and (h'.recover leg k w r hk hy hp hr)
  execStarted leg w hs := ⟨h.execStarted leg w hs.1, h'.execStarted leg w hs.2⟩
  exec leg w r hy hp hr := (h.exec leg w r hy hp hr).and (h'.exec leg w r hy hp hr)
  report w hs := ⟨h.report w hs.1, h'.report w hs.2⟩

theorem btTick {s : State} (h : Turn e s.pos s.world start after) (hv : s.pos.Valid)
    (hp : s.tree = s.pos.path) :
    ∃ p' : Pos, p'.Valid ∧ (btTickCb e s).tree = p'.path ∧ after p' (btTickCb e s).world :=
  h.holds.btTick hp hv ⟨rfl, rfl⟩

end Turn

end RobotAgent

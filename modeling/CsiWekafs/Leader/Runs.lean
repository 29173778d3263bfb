import CsiWekafs.Leader.Gate

namespace CsiWekafs

def GateEvent.isSystem : GateEvent → Bool
  | .signal | .childExit _ _ => true
  | _ => false

/-- What the main goroutine did and saw. -/
def mainEvents (es : List GateEvent) : List GateEvent := es.filter fun e => !e.isSystem

theorem mainEvents_append_system {es : List GateEvent} {e : GateEvent} (h : e.isSystem = true) :
    mainEvents (es ++ [e]) = mainEvents es := by
  simp [mainEvents, h]

theorem mainEvents_append_main {es : List GateEvent} {e : GateEvent} (h : e.isSystem = false) :
    mainEvents (es ++ [e]) = mainEvents es ++ [e] := by
  simp [mainEvents, h]

/-- The event does not show the file and is not the start of another child. -/
def GateEvent.KeepsMissing (e : GateEvent) : Prop := e ≠ .fileExists true ∧ ∀ ok, e ≠ .start ok

/-- A look at the file missed it at this clock reading, and no later one saw it. -/
def MissingSince (ms : List GateEvent) (t : Int) : Prop :=
  ∃ before after, ms = before ++ [.fileExists false, .clock t] ++ after ∧
    ∀ e ∈ after, e.KeepsMissing

theorem MissingSince.append {ms : List GateEvent} {t : Int} {e : GateEvent}
    (h : MissingSince ms t) (he : e.KeepsMissing) : MissingSince (ms ++ [e]) t := by
  obtain ⟨before, after, rfl, hafter⟩ := h
  refine ⟨before, after ++ [e], by simp, fun x hx => ?_⟩
  rcases List.mem_append.mp hx with hx | hx
  · exact hafter x hx
  · rw [List.mem_singleton.mp hx]
    exact he

def GatePhase.hasChild : GatePhase → Bool
  | .monitorSelect _ | .monitorFile _ | .monitorMissing _ | .terminateSelect _ | .killed _ => true
  | _ => false

/-- A child is alive only in the phases that have one and until its result is there to receive. -/
def GateState.ChildrenOk (s : GateState) : Prop :=
  if s.phase.hasChild ∧ s.childDone = none then ∃ n, s.alive = [n] ∧ s.started = n + 1
  else s.alive = []

/-- What the main goroutine saw on its way to a phase. -/
def GatePhase.Follows (ms : List GateEvent) : GatePhase → Prop
  | .socketDial => ∃ before, ms = before ++ [.fileExists true]
  | .startChild => ∃ before, ms = before ++ [.fileExists true, .dial true]
  | .monitorSelect missingSince | .monitorFile missingSince =>
    missingSince = zeroTime ∨ MissingSince ms missingSince
  | .monitorMissing missingSince =>
    ∃ before, ms = before ++ [.fileExists false] ∧
      (missingSince = zeroTime ∨ MissingSince before missingSince)
  | _ => True

structure GateState.Ok (es : List GateEvent) (s : GateState) : Prop where
  children : s.ChildrenOk
  follows : s.phase.Follows (mainEvents es)

namespace GateState

variable {s s' : GateState} {e : GateEvent} {a : Option GateAction} {es : List GateEvent}
  {phase : GatePhase}

theorem ChildrenOk.alive_eq_nil (hs : s.ChildrenOk)
    (h : ¬ (s.phase.hasChild = true ∧ s.childDone = none)) : s.alive = [] := by
  unfold ChildrenOk at hs
  rwa [if_neg h] at hs

theorem childrenOk_of_phase (hs : s.ChildrenOk) (hchild : phase.hasChild = s.phase.hasChild) :
    ({ s with phase } : GateState).ChildrenOk := by
  unfold ChildrenOk at hs ⊢
  rwa [hchild]

theorem goTo_ok (h : s.goTo phase = some (s', a)) (hs : s.Ok es) (he : e.isSystem = false)
    {old : GatePhase} (hphase : s.phase = old) (hchild : phase.hasChild = old.hasChild)
    (hfollows : old.Follows (mainEvents es) → phase.Follows (mainEvents es ++ [e])) :
    s'.Ok (es ++ [e]) := by
  cases h
  subst hphase
  refine ⟨childrenOk_of_phase hs.children hchild, ?_⟩
  rw [mainEvents_append_main he]
  exact hfollows hs.follows

theorem onTerm_eq {next : Option (GateState × Option GateAction)}
    (h : s.onTerm next = some (s', a)) : next = some (s', a) := by
  unfold onTerm at h
  split at h
  · exact h
  · cases h

/-- The child is gone where its result is received. -/
theorem onChildDone_ok {next : ChildResult → GatePhase} (h : s.onChildDone next = some (s', a))
    (hs : s.Ok es) (he : e.isSystem = false)
    (hnext : ∀ result, (next result).hasChild = false ∧
      (next result).Follows (mainEvents es ++ [e])) :
    s'.Ok (es ++ [e]) := by
  obtain ⟨result, hresult, h⟩ := Option.bind_eq_some_iff.mp h
  cases h
  have hgone := hs.children.alive_eq_nil (by simp [hresult])
  refine ⟨?_, ?_⟩
  · unfold ChildrenOk
    rw [if_neg (by simp [(hnext result).1])]
    exact hgone
  · rw [mainEvents_append_main he]
    exact (hnext result).2

theorem onChildDone_action {next : ChildResult → GatePhase}
    (h : s.onChildDone next = some (s', a)) : a = none := by
  obtain ⟨result, -, h⟩ := Option.bind_eq_some_iff.mp h
  cases h
  rfl

theorem terminateChild_ok {reason : StopReason} (h : s.terminateChild reason = some (s', a))
    (hs : s.Ok es) (hchild : s.phase.hasChild = true) : s'.Ok (es ++ [e]) := by
  cases h
  exact ⟨childrenOk_of_phase hs.children hchild.symm, trivial⟩

theorem afterTerminate_ok (reason : StopReason) (ms : List GateEvent) :
    (afterTerminate reason).hasChild = false ∧ (afterTerminate reason).Follows ms := by
  cases reason <;> exact ⟨rfl, trivial⟩

end GateState

namespace WaitForLeader

open GateState

variable {w : WaitForLeader} {s s' : GateState} {e : GateEvent} {a : Option GateAction}
  {es : List GateEvent}

theorem mainStep_ok (h : w.mainStep s e = some (s', a)) (hs : s.Ok es)
    (he : e.isSystem = false) : s'.Ok (es ++ [e]) := by
  unfold mainStep at h
  split at h
  -- waitForLeaderFile
  next hphase => exact goTo_ok h hs he hphase rfl fun _ => trivial
  next hphase => exact goTo_ok h hs he hphase rfl fun _ => trivial
  next hphase => exact goTo_ok (onTerm_eq h) hs he hphase rfl fun _ => trivial
  next hphase => exact goTo_ok h hs he hphase rfl fun _ => trivial
  -- waitForSocket, which leaves only after a look and a dial
  next hphase => exact goTo_ok h hs he hphase rfl fun _ => trivial
  next hphase => exact goTo_ok h hs he hphase rfl fun _ => ⟨_, rfl⟩
  next hphase =>
    refine goTo_ok h hs he hphase rfl fun hfollows => ?_
    obtain ⟨before, hbefore⟩ := hfollows
    exact ⟨before, by simp [hbefore]⟩
  next hphase => exact goTo_ok h hs he hphase rfl fun _ => trivial
  next hphase => exact goTo_ok (onTerm_eq h) hs he hphase rfl fun _ => trivial
  next hphase => exact goTo_ok h hs he hphase rfl fun _ => trivial
  -- startChild
  next hphase => exact goTo_ok h hs he hphase rfl fun _ => trivial
  next hphase =>
    have halive := hs.children.alive_eq_nil (by simp [hphase, GatePhase.hasChild])
    cases h
    exact ⟨by simp [ChildrenOk, GatePhase.hasChild, halive], Or.inl rfl⟩
  -- the monitor loop: a look that sees the file starts missingSince over
  next hphase => exact terminateChild_ok (onTerm_eq h) hs (by rw [hphase]; rfl)
  next hphase => exact onChildDone_ok h hs he fun _ => ⟨rfl, trivial⟩
  next hphase =>
    refine goTo_ok h hs he hphase rfl fun hfollows => ?_
    exact hfollows.imp_right fun hmissing => hmissing.append ⟨by simp, by simp⟩
  next hphase => exact goTo_ok h hs he hphase rfl fun _ => Or.inl rfl
  next hphase => exact goTo_ok h hs he hphase rfl fun hfollows => ⟨_, rfl, hfollows⟩
  next hphase =>
    split at h
    next =>
      refine goTo_ok h hs he hphase rfl fun hfollows => ?_
      obtain ⟨before, hbefore, -⟩ := hfollows
      exact Or.inr ⟨before, [], by simp [hbefore], by simp⟩
    next hzero =>
      split at h
      next =>
        refine goTo_ok h hs he hphase rfl fun hfollows => Or.inr ?_
        obtain ⟨before, hbefore, hmissing⟩ := hfollows
        rw [hbefore]
        have hagain := (hmissing.resolve_left hzero).append (e := .fileExists false) ⟨by simp, by simp⟩
        exact hagain.append ⟨by simp, by simp⟩
      next => exact terminateChild_ok h hs (by rw [hphase]; rfl)
  -- terminateChild, which returns only with the result of the child
  next hphase => exact onChildDone_ok h hs he fun _ => afterTerminate_ok _ _
  next hphase => exact goTo_ok h hs he hphase rfl fun _ => trivial
  next hphase => exact onChildDone_ok h hs he fun _ => afterTerminate_ok _ _
  next => cases h

theorem step_ok (h : w.step s e = some (s', a)) (hs : s.Ok es) : s'.Ok (es ++ [e]) := by
  cases e with
  | signal =>
    cases h
    refine ⟨hs.children, ?_⟩
    rw [mainEvents_append_system rfl]
    exact hs.follows
  | childExit child result =>
    simp only [step] at h
    split at h
    next hmem =>
      have hchildren := hs.children
      unfold ChildrenOk at hchildren
      split at hchildren
      next hhas =>
        obtain ⟨n, halive, hstarted⟩ := hchildren
        rw [halive, List.mem_singleton] at hmem
        cases h
        refine ⟨?_, ?_⟩
        · simp [ChildrenOk, halive, hstarted, hmem]
        · rw [mainEvents_append_system rfl]
          exact hs.follows
      next =>
        rw [hchildren] at hmem
        cases hmem
    next => cases h
  | _ => exact mainStep_ok h hs rfl

theorem initial_ok (w : WaitForLeader) : w.initial.Ok [] := by
  have hphase : w.initialPhase.hasChild = false ∧ w.initialPhase.Follows [] := by
    unfold initialPhase
    split
    · exact ⟨rfl, trivial⟩
    · split <;> exact ⟨rfl, trivial⟩
  exact ⟨by simp [ChildrenOk, initial, hphase.1], hphase.2⟩

theorem run_ok {as : List (Option GateAction)}
    (h : Machine.run w.step w.initial es = some (s, as)) : s.Ok es :=
  Machine.run_history (fun _ _ _ _ _ hs hstep => step_ok hstep hs) h w.initial_ok

theorem alive_of_childrenOk (hs : s.ChildrenOk) : s.alive.length ≤ 1 := by
  unfold ChildrenOk at hs
  split at hs
  next =>
    obtain ⟨n, halive, -⟩ := hs
    simp [halive]
  next => simp [hs]

/-- The steps that act on a child: its start, its stop after a termination signal, and its stop
after the debounce interval. -/
theorem mainStep_action {action : GateAction} (h : w.mainStep s e = some (s', some action)) :
    (s.phase = .startChild ∧ action = .start s.started) ∨ action = .terminate .signal ∨
    (action = .terminate .leadershipLost ∧ ∃ missingSince now, s.phase = .monitorMissing missingSince ∧
      missingSince ≠ zeroTime ∧ e = .clock now ∧
      w.leaderLossDebounce.toInt ≤ now - missingSince) := by
  unfold mainStep at h
  split at h
  case h_12 hphase =>
    cases h
    exact Or.inl ⟨hphase, rfl⟩
  case h_13 =>
    cases onTerm_eq h
    exact Or.inr (Or.inl rfl)
  case h_18 missingSince now hphase =>
    split at h
    next => cases h
    next hzero =>
      split at h
      next => cases h
      next hlate =>
        cases h
        exact Or.inr (Or.inr ⟨rfl, missingSince, now, hphase, hzero, rfl, not_lt.mp hlate⟩)
  all_goals first | cases h | cases onTerm_eq h | cases onChildDone_action h

theorem mainStep_of_action {action : GateAction} (h : w.step s e = some (s', some action)) :
    w.mainStep s e = some (s', some action) := by
  cases e with
  | signal => cases h
  | childExit child result =>
    simp only [step] at h
    split at h <;> cases h
  | _ => exact h

/-- In every run at most one child is alive, a child is started only right after a look that saw
the file and a dial that connected, and it is stopped for loss of leadership only where the looks
missed the file from one on to the last one, whose clock reading is at least the debounce interval
later. -/
theorem run_child_safety {as : List (Option GateAction)}
    (h : Machine.run w.step w.initial es = some (s, as)) :
    s.alive.length ≤ 1 ∧
    (∀ e s' child, w.step s e = some (s', some (.start child)) →
      ∃ before, mainEvents es = before ++ [.fileExists true, .dial true]) ∧
    (∀ e s', w.step s e = some (s', some (.terminate .leadershipLost)) →
      ∃ before t between now,
        mainEvents es = before ++ [.fileExists false, .clock t] ++ between ++ [.fileExists false] ∧
        e = .clock now ∧ (∀ x ∈ between, x ≠ .fileExists true ∧ ∀ ok, x ≠ .start ok) ∧
        w.leaderLossDebounce.toInt ≤ now - t) := by
  have hok := run_ok h
  refine ⟨alive_of_childrenOk hok.children, fun e s' child hstep => ?_, fun e s' hstep => ?_⟩
  · obtain ⟨hphase, -⟩ | hact | ⟨hact, -⟩ := mainStep_action (mainStep_of_action hstep)
    · have hfollows := hok.follows
      rwa [hphase] at hfollows
    · cases hact
    · cases hact
  · obtain ⟨-, hact⟩ | hact | ⟨-, t, now, hphase, hzero, rfl, hlate⟩ :=
      mainStep_action (mainStep_of_action hstep)
    · cases hact
    · cases hact
    · have hfollows := hok.follows
      rw [hphase] at hfollows
      obtain ⟨looks, hlooks, hmissing⟩ := hfollows
      obtain ⟨before, between, rfl, hbetween⟩ := hmissing.resolve_left hzero
      exact ⟨before, t, between, now, hlooks, rfl, hbetween, hlate⟩

/-- A sidecar under the default settings. -/
def sidecarGate : WaitForLeader := { args := ["wait-for-leader", "sidecar"], getenv := fun _ => [] }

/-- The sidecar is started, and two looks miss the file. -/
def missedTwice : List GateEvent :=
  [.fileExists true, .fileExists true, .dial true, .start true, .tick, .fileExists false, .clock 5,
    .tick, .signal, .fileExists false]

def missedTwiceState : GateState :=
  { phase := .monitorMissing 5, alive := [0], started := 1, childDone := none, terminated := true }

theorem run_child_safety_missedTwice :
    missedTwiceState.alive.length ≤ 1 ∧
    ∃ before t between now,
      mainEvents missedTwice =
        before ++ [.fileExists false, .clock t] ++ between ++ [.fileExists false] ∧
      GateEvent.clock 3000000005 = .clock now ∧
      (∀ x ∈ between, x ≠ .fileExists true ∧ ∀ ok, x ≠ .start ok) ∧
      sidecarGate.leaderLossDebounce.toInt ≤ now - t := by
  have hrun : Machine.run sidecarGate.step sidecarGate.initial missedTwice =
      some (missedTwiceState, [none, none, none, some (.start 0), none, none, none, none, none,
        none]) := by
    decide
  have hstop : sidecarGate.step missedTwiceState (.clock 3000000005) =
      some ({ missedTwiceState with phase := .terminateSelect .leadershipLost },
        some (.terminate .leadershipLost)) := by
    decide
  obtain ⟨halive, -, hlost⟩ := run_child_safety hrun
  exact ⟨halive, hlost _ _ hstop⟩

end WaitForLeader

end CsiWekafs

import Gestalt.Graph.Reference

/-!
# Gestalt.Graph.Ledger

The execution reports of a cycle as its ledger.

Every visit that returns enters one report, and the commands, the memories and
the `last_error` marker of the state change with it and in no other way, so
they can be read back off the reports.  The reports are in the order of time
as long as the clock does not step back.
-/

namespace Gestalt

open Effects Program

/-! ## entries -/

/-- How the state changes with the report a visit enters. -/
structure Entered (s out : GestaltGraphState) (report : AgentExecutionReport) : Prop where
  reports : out.executionReports = s.executionReports ++ [report]
  commands : out.commands = s.commands ++ report.emittedCommands
  memories : out.memories = s.memories ++ report.emittedMemories
  marker :
    (report.status = .completed ∧
      out.metadata.get? "last_error" = s.metadata.get? "last_error") ∨
    (report.status = .failed ∧ report.emittedCommands = [] ∧ report.emittedMemories = [] ∧
      ∃ text, out.metadata.get? "last_error" = some (.str text) ∧
        report.summary.val = report.agentName.val ++ " failed: " ++ text)

section Visits

variable {allows : Event Services → Prop} {rt : Runtime} {s s' out : GestaltGraphState}
variable {node : AgentName}

theorem CompletedAs.entered {art : AgentArtifacts} (h : CompletedAs node s art out)
    (hmarker : (s.metadata.update art.metadataUpdates).get? "last_error" =
      s.metadata.get? "last_error") : ∃ report, Entered s out report := by
  obtain ⟨messages, report, -, hreport, rfl⟩ := h
  refine ⟨report, rfl, ?_, ?_, Or.inl ⟨hreport.status_eq, hmarker⟩⟩
  · rw [hreport.commands]
    rfl
  · rw [hreport.memories]
    rfl

theorem FailedAs.entered (h : FailedAs rt node s out) : ∃ report, Entered s out report := by
  obtain ⟨e, report, hreport, rfl⟩ := h
  have hcommands : report.emittedCommands = [] := hreport.commands
  have hmemories : report.emittedMemories = [] := hreport.memories
  refine ⟨report, rfl, by simp [applyStateUpdate, failureArtifacts, hcommands],
    by simp [applyStateUpdate, failureArtifacts, hmemories],
    Or.inr ⟨hreport.status_eq, hcommands, hmemories, rt.excText e, by simp, ?_⟩⟩
  rw [hreport.summary, hreport.agentName]
  simp [failureArtifacts, AgentName.field, String.append_assoc]

theorem AtMostIssued.entered {report : AgentExecutionReport} (hleft : AtMostIssued allows rt s s')
    (h : Entered s' out report) : Entered s out report := by
  rcases hleft with rfl | ⟨approval, -, rfl⟩
  · exact h
  · exact ⟨h.reports, h.commands, h.memories, h.marker⟩

/-- A routing does not touch the marker. -/
theorem Routing.marker {art : AgentArtifacts} (h : Routing allows rt s art s') :
    (s'.metadata.update art.metadataUpdates).get? "last_error" =
      s'.metadata.get? "last_error" := by
  cases h with
  | dispatch _ _ dispatches => simp [dispatches.metadata]
  | finalize _ finalizes => simp [finalizes.metadata]

/-- **Every visit that returns enters one report.** -/
theorem VisitEffect.entered (h : VisitEffect allows rt s node out) :
    ∃ report, Entered s out report := by
  cases h with
  | completed _ _ artifacts _ update => exact update.entered (by simp [artifacts.metadata])
  | failed _ update => exact update.entered
  | routed _ routing _ _ update =>
      obtain ⟨report, hentered⟩ := update.entered routing.marker
      exact ⟨report, routing.atMostIssued.entered hentered⟩
  | routeFailed left _ _ update =>
      obtain ⟨report, hentered⟩ := update.entered
      exact ⟨report, left.entered hentered⟩

end Visits

/-! ## the balance -/

/-- The last report of a failure. -/
def lastFailure? (reports : List AgentExecutionReport) : Option AgentExecutionReport :=
  (reports.filter fun report => report.status = .failed).getLast?

/-- The marker belongs to the last failure. -/
def GestaltGraphState.Marked (s : GestaltGraphState) : Prop :=
  ∀ report, lastFailure? s.executionReports = some report →
    ∃ text, s.metadata.get? "last_error" = some (.str text) ∧
      report.summary.val = report.agentName.val ++ " failed: " ++ text

/-- An entry keeps the marker that of the last failure. -/
theorem GestaltGraphState.Marked.entered {s out : GestaltGraphState}
    {report : AgentExecutionReport} (hs : s.Marked) (h : Entered s out report) : out.Marked := by
  intro r hr
  obtain ⟨hstatus, hmarker⟩ | ⟨hstatus, -, -, text, hmarker, hsummary⟩ := h.marker
  · rw [hmarker]
    refine hs r ?_
    simpa [lastFailure?, h.reports, hstatus] using hr
  · obtain rfl : report = r := by simpa [lastFailure?, h.reports, hstatus] using hr
    exact ⟨text, hmarker, hsummary⟩

/-- The state agrees with its reports. -/
structure GestaltGraphState.Balanced (s : GestaltGraphState) : Prop where
  commands : s.commands = s.executionReports.flatMap fun report => report.emittedCommands
  memories : s.memories = s.executionReports.flatMap fun report => report.emittedMemories
  failed : ∀ report ∈ s.executionReports, report.status = .failed →
    report.emittedCommands = [] ∧ report.emittedMemories = []
  marked : (∃ v, s.metadata.get? "last_error" = some v) ↔
    ∃ report ∈ s.executionReports, report.status = .failed
  lastError : ∀ report, lastFailure? s.executionReports = some report →
    ∃ text, s.metadata.get? "last_error" = some (.str text) ∧
      report.summary.val = report.agentName.val ++ " failed: " ++ text

/-- An entry keeps the balance. -/
theorem GestaltGraphState.Balanced.entered {s out : GestaltGraphState}
    {report : AgentExecutionReport} (hs : s.Balanced) (h : Entered s out report) :
    out.Balanced := by
  have hcommands : out.commands =
      out.executionReports.flatMap fun report => report.emittedCommands := by
    rw [h.commands, h.reports, hs.commands]
    simp
  have hmemories : out.memories =
      out.executionReports.flatMap fun report => report.emittedMemories := by
    rw [h.memories, h.reports, hs.memories]
    simp
  have hmem : ∀ {p : AgentExecutionReport → Prop}, (∀ r ∈ s.executionReports, p r) → p report →
      ∀ r ∈ out.executionReports, p r := by
    intro p hall hlast r hr
    rw [h.reports, List.mem_append, List.mem_singleton] at hr
    exact hr.elim (hall r) fun heq => heq ▸ hlast
  have hlast : out.Marked := GestaltGraphState.Marked.entered hs.lastError h
  obtain ⟨hstatus, hmarker⟩ | ⟨hstatus, hnocommands, hnomemories, text, hmarker, -⟩ := h.marker
  · have hnot : report.status ≠ .failed := by simp [hstatus]
    refine ⟨hcommands, hmemories, hmem hs.failed fun hfailed => absurd hfailed hnot, ?_, hlast⟩
    rw [hmarker, hs.marked, h.reports]
    simp [hnot]
  · refine ⟨hcommands, hmemories, hmem hs.failed fun _ => ⟨hnocommands, hnomemories⟩, ?_, hlast⟩
    rw [h.reports]
    exact ⟨fun _ => ⟨report, by simp, hstatus⟩, fun _ => ⟨_, hmarker⟩⟩

/-! ## time -/

/-- The clock readings among the events, in order. -/
def readings (events : List (Event Services)) : List Int :=
  events.filterMap fun
    | ⟨.utcNow _, now⟩ => some now
    | _ => none

theorem mem_readings {events : List (Event Services)} {site : ClockSite} {now : Int}
    (h : ⟨.utcNow site, now⟩ ∈ events) : now ∈ readings events :=
  List.mem_filterMap.mpr ⟨_, h, rfl⟩

/-- The events of the first `n` steps of a cycle. -/
def Cycle.history (rt : Runtime) (visits : Nat → Visit) (c : Cycle) : Nat → List (Event Services)
  | 0 => []
  | n + 1 => history rt visits c n ++ (after rt visits c n).events rt (visits n)

/-- The reports of a state are in the order of time, and the clock has read the
end of each. -/
structure Chronicled (past : List Int) (s : GestaltGraphState) : Prop where
  ordered : s.executionReports.Pairwise fun r r' => r.finishedAt ≤ r'.startedAt
  past : ∀ report ∈ s.executionReports, report.finishedAt ∈ past

/-- A report timed by later readings keeps the order. -/
theorem Chronicled.entered {past now : List Int} {s out : GestaltGraphState}
    {report : AgentExecutionReport} {events : List (Event Services)} (hs : Chronicled past s)
    (h : Entered s out report) (htimed : Timed (· ∈ events) out)
    (hnow : now = readings events) (hsorted : (past ++ now).Pairwise (· ≤ ·)) :
    Chronicled (past ++ now) out := by
  subst hnow
  obtain ⟨last, hlast, hstarted, hfinished⟩ := htimed
  obtain rfl : report = last := by simpa [h.reports] using hlast
  have hlater := (List.pairwise_append.mp hsorted).2.2
  refine ⟨?_, fun r hr => ?_⟩
  · rw [h.reports, List.pairwise_append]
    refine ⟨hs.ordered, List.pairwise_singleton .., fun r hr last hlast => ?_⟩
    obtain rfl := List.mem_singleton.mp hlast
    exact hlater _ (hs.past r hr) _ (mem_readings hstarted)
  · rw [h.reports, List.mem_append, List.mem_singleton] at hr
    rw [List.mem_append]
    rcases hr with hr | rfl
    · exact Or.inl (hs.past r hr)
    · exact Or.inr (mem_readings hfinished)

/-! ## runs -/

/-- **Induction on the entries**: what holds of the state at the start and is
kept by every entry holds of every reachable state. -/
theorem Cycle.of_entered {P : GestaltGraphState → Prop} {fresh : Fresh} {request : CycleRequest}
    (hstart : P (buildGraphState fresh request))
    (hentered : ∀ {s out report}, P s → Entered s out report → P out) (rt : Runtime)
    (visits : Nat → Visit) (n : Nat) : P (after rt visits (start fresh request) n).state := by
  induction n with
  | zero => exact hstart
  | succ n ih =>
      have hrange := (sound_after rt fresh request visits n).inRange
      rw [after]
      obtain hkept | ⟨node, -, -, hrun⟩ := (moves hrange rt (visits n)).state_cases
      · rw [hkept]
        exact ih
      · obtain ⟨report, hreport⟩ := (visitEffect_of_ok hrun).1.entered
        exact hentered ih hreport

theorem Cycle.balanced_after (rt : Runtime) (fresh : Fresh) {request : CycleRequest}
    (visits : Nat → Visit) (hrequest : request.metadata.get? "last_error" = none) (n : Nat) :
    (after rt visits (start fresh request) n).state.Balanced := by
  refine of_entered ?_ GestaltGraphState.Balanced.entered rt visits n
  refine ⟨rfl, rfl, by simp [buildGraphState], ?_, ?_⟩ <;>
    simp [buildGraphState, lastFailure?, hrequest]

theorem Cycle.marked_after (rt : Runtime) (fresh : Fresh) (request : CycleRequest)
    (visits : Nat → Visit) (n : Nat) : (after rt visits (start fresh request) n).state.Marked := by
  refine of_entered ?_ GestaltGraphState.Marked.entered rt visits n
  simp [GestaltGraphState.Marked, buildGraphState, lastFailure?]

theorem Cycle.chronicled_after (rt : Runtime) (fresh : Fresh) (request : CycleRequest)
    (visits : Nat → Visit) {n : Nat}
    (hclock : (readings (history rt visits (start fresh request) n)).Pairwise (· ≤ ·)) :
    Chronicled (readings (history rt visits (start fresh request) n))
      (after rt visits (start fresh request) n).state := by
  induction n with
  | zero => exact ⟨by simp [after, start, buildGraphState], by simp [after, start, buildGraphState]⟩
  | succ n ih =>
      have hrange := (sound_after rt fresh request visits n).inRange
      have hsplit : readings (history rt visits (start fresh request) (n + 1)) =
          readings (history rt visits (start fresh request) n) ++
            readings ((after rt visits (start fresh request) n).events rt (visits n)) :=
        List.filterMap_append
      rw [hsplit] at hclock ⊢
      have hbefore := ih (List.pairwise_append.mp hclock).1
      have hkept : ∀ {now}, Chronicled (readings (history rt visits (start fresh request) n) ++ now)
          (after rt visits (start fresh request) n).state :=
        ⟨hbefore.ordered, fun r hr => List.mem_append_left _ (hbefore.past r hr)⟩
      rw [after]
      obtain hsame | ⟨node, hcursor, hover, hrun⟩ := (moves hrange rt (visits n)).state_cases
      · rw [hsame]
        exact hkept
      · obtain ⟨heffect, htimed⟩ := visitEffect_of_ok hrun
        obtain ⟨report, hentered⟩ := heffect.entered
        exact hbefore.entered hentered htimed
          (by rw [events_of_handsOver hcursor hrange hover]) hclock

/-- **The ledger is reconciled.**  In every reachable state of every cycle whose
request does not bring a `last_error` along, whatever fails on the way, and as
long as the clock does not step back: the commands and the memories are those
of the execution reports in order, a failed report emits neither, the reports
follow each other in time, and `last_error` is there exactly after a failure
and belongs to the last one. -/
theorem Cycle.ledger_reconciled (rt : Runtime) (fresh : Fresh) (request : CycleRequest)
    (visits : Nat → Visit) (n : Nat) (hrequest : request.metadata.get? "last_error" = none)
    (hclock : (readings (history rt visits (start fresh request) n)).Pairwise (· ≤ ·)) :
    let s := (after rt visits (start fresh request) n).state
    s.commands = s.executionReports.flatMap (fun report => report.emittedCommands) ∧
    s.memories = s.executionReports.flatMap (fun report => report.emittedMemories) ∧
    (∀ report ∈ s.executionReports, report.status = .failed →
      report.emittedCommands = [] ∧ report.emittedMemories = []) ∧
    (∀ report ∈ s.executionReports, report.startedAt ≤ report.finishedAt) ∧
    s.executionReports.Pairwise (fun r r' => r.finishedAt ≤ r'.startedAt) ∧
    ((∃ v, s.metadata.get? "last_error" = some v) ↔
      ∃ report ∈ s.executionReports, report.status = .failed) ∧
    ∀ report, lastFailure? s.executionReports = some report →
      ∃ text, s.metadata.get? "last_error" = some (.str text) ∧
        report.summary.val = report.agentName.val ++ " failed: " ++ text := by
  intro s
  have hbalanced := balanced_after rt fresh visits hrequest n
  have hchronicled := chronicled_after rt fresh request visits hclock
  exact ⟨hbalanced.commands, hbalanced.memories, hbalanced.failed, fun report _ => report.timing,
    hchronicled.ordered, hbalanced.marked, hbalanced.lastError⟩

/-- A visit in which the calls `failing` names fail and the clock stands still. -/
def Reference.frozen (failing : Call → Bool) : Visit where
  received := ⟨0, 0⟩
  answers _
    | .utcNow _ => 0
    | op => answer failing op

/-- A clock that stands still never steps back. -/
theorem Reference.pairwise_readings {failing : Call → Bool} {events : List (Event Services)}
    (h : ∀ ev ∈ events, ∃ i, ev = ⟨ev.op, (frozen failing).answers i ev.op⟩) :
    (readings events).Pairwise (· ≤ ·) := by
  have hzero : ∀ t ∈ readings events, t = 0 := by
    intro t ht
    obtain ⟨ev, hev, hread⟩ := List.mem_filterMap.mp ht
    obtain ⟨i, hi⟩ := h ev hev
    obtain ⟨op, answer⟩ := ev
    cases op with
    | utcNow site =>
        injection hi with _ hanswer
        rw [← Option.some.inj hread, hanswer]
        rfl
    | uuid4 => contradiction
    | call c => contradiction
  refine List.pairwise_of_forall_mem_list ?_
  intro t ht t' ht'
  rw [hzero t ht, hzero t' ht']

/-- The events of a cycle on a frozen day. -/
theorem Reference.eq_of_mem_history {rt : Runtime} {failing : Call → Bool} {c : Cycle} (n : Nat) :
    ∀ ev ∈ c.history rt (fun _ => frozen failing) n,
      ∃ i, ev = ⟨ev.op, (frozen failing).answers i ev.op⟩ := by
  induction n with
  | zero => simp [Cycle.history]
  | succ n ih =>
      intro ev hev
      rw [Cycle.history, List.mem_append] at hev
      rcases hev with hev | hev
      · exact ih ev hev
      · unfold Cycle.events at hev
        split at hev
        · contradiction
        · contradiction
        · split at hev
          · contradiction
          · exact answer_of_mem_trace _ _ _ ev hev

/-- The calls of the blackboard fail. -/
def Reference.blackboardDown : Call → Bool
  | .queryMemory _ | .writeMemory _ | .writeCommand _ => true
  | _ => false

/-- A cycle on a day on which the blackboard is down. -/
theorem Cycle.ledger_reconciled_frozen :
    let s := (after Reference.runtime (fun _ => Reference.frozen Reference.blackboardDown)
      (start Reference.fresh Reference.watchRequest) 3).state
    s.commands = s.executionReports.flatMap (fun report => report.emittedCommands) ∧
    s.executionReports.Pairwise (fun r r' => r.finishedAt ≤ r'.startedAt) ∧
    ((∃ v, s.metadata.get? "last_error" = some v) ↔
      ∃ report ∈ s.executionReports, report.status = .failed) := by
  intro s
  have h := ledger_reconciled Reference.runtime Reference.fresh Reference.watchRequest
    (fun _ => Reference.frozen Reference.blackboardDown) 3 (by decide)
    (Reference.pairwise_readings (Reference.eq_of_mem_history 3))
  exact ⟨h.1, h.2.2.2.2.1, h.2.2.2.2.2.1⟩

end Gestalt

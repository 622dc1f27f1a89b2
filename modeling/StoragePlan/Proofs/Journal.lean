import StoragePlan.Proofs.Lifecycle

/-!
# The log as a journal

Every record of the log names the action that it is about and what happened to it.  A ledger is what
a reader of the log alone can keep: the actions constructed so far, each with its state, and the
list of the registered ones (`Ledger.ofLog`).

* `Journaled.record`: a change that its record tells keeps the ledger of the log and **the ledger of
  the session the same**.
* `Journaled.perform`: so does every command, the ones that are made of others included.
* `ofLog_log`: therefore **the log tells the registry and the state of every action**, as long as it
  is not cleared.
-/

namespace StoragePlan

/-- The actions constructed so far, each with its state, and the registered ones in order. -/
structure Ledger where
  states : List (ObjectId × ActionState) := []
  registry : List ObjectId := []
deriving DecidableEq, Repr, Inhabited

namespace Ledger

/-- Move an action to a state. -/
def mark (l : Ledger) (id : ObjectId) (state : ActionState) : Ledger :=
  { l with states := l.states.map fun entry => if entry.1 = id then (entry.1, state) else entry }

/-- Take an action off the list and move it to a state. -/
def strike (l : Ledger) (id : ObjectId) (state : ActionState) : Ledger :=
  { l with registry := l.registry.filter (· ≠ id) }.mark id state

/-- What a record about an action tells. -/
def enter (l : Ledger) (event : LogEvent) (id : ObjectId) : Ledger :=
  match event with
  | .construct => { l with states := l.states ++ [(id, .constructed)] }
  | .register => { l with registry := l.registry ++ [id] }.mark id .registered
  | .cancel => l.strike id .cancelled
  | .prune => l.strike id .pruned
  | .reject | .sort | .populate => l

/-- What the records of a log tell, read in order. -/
def ofLog (log : List LogRecord) : Ledger :=
  log.foldl (fun l record => l.enter record.event record.action) {}

theorem ofLog_append (log : List LogRecord) (record : LogRecord) :
    ofLog (log ++ [record]) = (ofLog log).enter record.event record.action := by
  rw [ofLog, List.foldl_append]
  rfl

/-- A state that is set twice is set. -/
theorem mark_mark (l : Ledger) (id : ObjectId) (state : ActionState) :
    (l.mark id state).mark id state = l.mark id state := by
  simp only [mark, List.map_map]
  congr 1
  refine List.map_congr_left fun entry _ => ?_
  simp only [Function.comp]
  by_cases h : entry.1 = id <;> simp [h]

/-- An action that is not on the list is only moved to its state. -/
theorem strike_of_notMem {l : Ledger} {id : ObjectId} (h : id ∉ l.registry) (state : ActionState) :
    l.strike id state = l.mark id state := by
  have hFilter : l.registry.filter (· ≠ id) = l.registry := by
    rw [List.filter_eq_self]
    intro other hOther
    rw [decide_eq_true_eq]
    rintro rfl
    exact h hOther
  rw [strike, hFilter]

end Ledger

namespace Session

variable {s s' : Session} {id : ObjectId} {a : Action}

/-- The ledger of a session: its actions with their states, and its registry. -/
def ledger (s : Session) : Ledger where
  states := s.actions.items.map fun a => (a.id, a.state)
  registry := s.registry

/-- The log tells the ledger of the session, and its records are numbered from one. -/
structure Journaled (s : Session) : Prop where
  tells : Ledger.ofLog s.log = s.ledger
  numbers : s.log.map LogRecord.sequence = List.range' 1 s.log.length
  next : s.nextSequence = s.log.length + 1

theorem journaled_empty : ({} : Session).Journaled := ⟨rfl, rfl, rfl⟩

/-! ## The ledger of a session -/

theorem ledger_setState (s : Session) (id : ObjectId) (state : ActionState) :
    (s.setState id state).ledger = s.ledger.mark id state := by
  simp only [ledger, Ledger.mark, setState, Arena.items_modify, List.map_map]
  congr 1
  refine List.map_congr_left fun a _ => ?_
  simp only [Function.comp, Identified.id]
  by_cases h : a.id = id <;> simp [h]

theorem ledger_drop (s : Session) (id : ObjectId) (state : ActionState) :
    (s.drop id state).ledger = s.ledger.strike id state :=
  ledger_setState { s with registry := s.registry.filter (· ≠ id) } id state

/-- A new action is entered as constructed. -/
theorem ledger_insert {actions : Arena Action} (hInsert : s.actions.insert? a = some actions)
    (hState : a.state = .constructed) (hActions : s'.actions = actions)
    (hRegistry : s'.registry = s.registry) : s'.ledger = s.ledger.enter .construct a.id := by
  simp only [ledger, Ledger.enter, hActions, hRegistry, (Arena.insert?_eq_some hInsert).1,
    List.map_append, List.map_cons, List.map_nil, hState]

/-! ## Records -/

theorem Journaled.of_same (h : s.Journaled) (hLog : s'.log = s.log)
    (hNext : s'.nextSequence = s.nextSequence) (hLedger : s'.ledger = s.ledger) : s'.Journaled :=
  ⟨by rw [hLog, hLedger, h.tells], by rw [hLog, h.numbers], by rw [hLog, hNext, h.next]⟩

/-- A change is journaled when its record tells it. -/
theorem Journaled.record (h : s.Journaled) (event : LogEvent) (action : ObjectId)
    (hLedger : s'.ledger = s.ledger.enter event action) (hLog : s'.log = s.log)
    (hNext : s'.nextSequence = s.nextSequence) (level : LogLevel) (message : String) :
    (s'.record level event action message).Journaled := by
  have hAfter : (s'.record level event action message).log
      = s.log ++ [⟨s.nextSequence, level, event, action, message⟩] := by
    rw [← hLog, ← hNext]
    rfl
  refine ⟨?_, ?_, ?_⟩
  · rw [hAfter, Ledger.ofLog_append, h.tells]
    exact hLedger.symm
  · rw [hAfter, List.map_append, h.numbers, List.length_append, List.length_singleton,
      List.range'_concat, List.map_singleton, h.next]
    simp [Nat.add_comm]
  · rw [hAfter, List.length_append, List.length_singleton, ← h.next, ← hNext]
    rfl

/-- A record of what is no change. -/
theorem Journaled.note (h : s.Journaled) {event : LogEvent} {action : ObjectId}
    (hQuiet : s.ledger.enter event action = s.ledger) (level : LogLevel) (message : String) :
    (s.record level event action message).Journaled :=
  h.record event action hQuiet.symm rfl rfl level message

/-! ## Calls -/

theorem Journaled.propose (h : s.Journaled) (p : Proposal) : (s.propose p).2.Journaled := by
  rcases propose_cases s p with
    hSame | ⟨preparation, _, ⟨_, hSame⟩ | ⟨actions, _, hInsert, hNew⟩⟩
  · rw [hSame]
    exact h
  · rw [hSame]
    exact h.of_same rfl rfl rfl
  · rw [hNew]
    have hLedger : ({ s.carryOut preparation with actions } : Session).ledger
        = s.ledger.enter .construct (s.actionOf preparation).id :=
      ledger_insert hInsert rfl rfl rfl
    exact h.record .construct _ hLedger rfl rfl _ _

theorem Journaled.register (h : s.Journaled) (id : ObjectId) : (s.register id).2.Journaled := by
  rcases register_cases s id with hSame | ⟨_, hSame⟩ | ⟨a, t, _, _, _, _, _, hNew⟩
  · rw [hSame]
    exact h
  · rw [hSame]
    exact h.note rfl _ _
  · rw [hNew]
    exact h.record .register id
      (ledger_setState { s with tree := t, registry := s.registry ++ [id] } id .registered)
      rfl rfl _ _

/-- A withdrawn action leaves the registry if it is there; a registered one is marked twice. -/
theorem Journaled.cancel (h : s.Journaled) (hListed : s.Listed) (id : ObjectId) :
    (s.cancel id).2.Journaled := by
  rcases cancel_cases s id with hSame | ⟨_, hSame⟩ | ⟨a, _, ha, hState, hNew⟩ |
    ⟨a, t, _, _, _, _, _, hNew⟩
  · rw [hSame]
    exact h
  · rw [hSame]
    exact h.note rfl _ _
  · rw [hNew]
    have hAbsent : id ∉ s.registry := hListed.notMem_of_state ha (by simp [hState])
    have hLedger := ledger_setState { s with tree := (s.tree.undoConstruction a).1 } id .cancelled
    have hStrike : s.ledger.strike id .cancelled = s.ledger.mark id .cancelled :=
      Ledger.strike_of_notMem hAbsent .cancelled
    exact h.record .cancel id (hLedger.trans hStrike.symm) rfl rfl _ _
  · rw [hNew]
    have hLedger := ledger_setState
      { s.drop id .cancelled with tree := (t.undoConstruction a).1 } id .cancelled
    have hTwice :
        (s.drop id .cancelled).ledger.mark id .cancelled = s.ledger.strike id .cancelled := by
      rw [ledger_drop, Ledger.strike, Ledger.mark_mark]
    exact h.record .cancel id (hLedger.trans hTwice) rfl rfl _ _

theorem Journaled.pruneAction (h : s.Journaled) (reason : String) (id : ObjectId) :
    (s.pruneAction reason id).Journaled :=
  h.record .prune id (ledger_drop s id .pruned) rfl rfl _ _

theorem Journaled.answerTree (h : s.Journaled) (result : Except Refusal (ObjectId × DeviceTree))
    (changes : ObjectId → Changes) : (s.answerTree result changes).2.Journaled := by
  obtain ⟨t, hTree⟩ := answerTree_snd s result changes
  rw [hTree]
  exact h.of_same rfl rfl rfl

theorem Journaled.adoptDevice (h : s.Journaled) (draft : DeviceDraft)
    (typeName mountPoint : String) : (s.adoptDevice draft typeName mountPoint).2.Journaled := by
  obtain ⟨t, hTree⟩ := adoptDevice_snd s draft typeName mountPoint
  rw [hTree]
  exact h.of_same rfl rfl rfl

/-! ## Commands -/

-- whether a withdrawn action is on the list is known from the registry, so both go together

theorem journaled_schedule (h : s.Listed ∧ s.Journaled) (p : Proposal) :
    (s.schedule p).2.Listed ∧ (s.schedule p).2.Journaled :=
  schedule_preserves (P := fun s => s.Listed ∧ s.Journaled)
    (fun _ h => ⟨h.1.propose p, h.2.propose p⟩) (fun _ id h => ⟨h.1.register id, h.2.register id⟩)
    (fun _ id h => ⟨h.1.cancel id, h.2.cancel h.1 id⟩) h

/-- **A command that leaves the log alone writes down what it does.** -/
theorem Journaled.perform (h : s.Journaled) (hListed : s.Listed) {command : Command}
    (hKeeps : command ≠ .clearLog) : (s.perform command).2.Journaled := by
  cases command with
  | newDevice | newFormat | addDevice | removeDevice => exact h.answerTree _ _
  | editDevice | editFormat | setNextId => exact h.of_same rfl rfl rfl
  | adoptDevice draft typeName mountPoint => exact h.adoptDevice draft typeName mountPoint
  | adoptDemo =>
    exact adoptDemo_preserves (fun _ draft typeName mountPoint h =>
      h.adoptDevice draft typeName mountPoint) (fun _ _ h => h.note rfl _ _) h
  | propose p => exact h.propose p
  | schedule p => exact (journaled_schedule ⟨hListed, h⟩ p).2
  | register action => exact h.register action
  | cancel action => exact h.cancel hListed action
  | registerOrCancel action =>
    exact (registerOrCancel_preserves (P := fun s => s.Listed ∧ s.Journaled)
      (fun _ id h => ⟨h.1.register id, h.2.register id⟩)
      (fun _ id h => ⟨h.1.cancel id, h.2.cancel h.1 id⟩) ⟨hListed, h⟩ action).2
  | removeStack device includeSelf =>
    exact (removeStack_preserves (P := fun s => s.Listed ∧ s.Journaled)
      (fun _ _ h => journaled_schedule h _) (fun _ _ h => journaled_schedule h _)
      ⟨hListed, h⟩ device includeSelf).2
  | prune => exact prune_preserves (fun _ reason id h => h.pruneAction reason id) h
  | sort =>
    obtain ⟨level, message, hSame⟩ := sort_cases s
    show s.sort.2.Journaled
    rw [hSame]
    exact h.note rfl _ _
  | clearLog => exact absurd rfl hKeeps

theorem Journaled.performAll (h : s.Journaled) (hListed : s.Listed) {commands : List Command}
    (hKeeps : .clearLog ∉ commands) : (s.performAll commands).Journaled := by
  induction commands generalizing s with
  | nil => exact h
  | cons command commands ih =>
    rw [List.mem_cons, not_or] at hKeeps
    exact ih (h.perform hListed (Ne.symm hKeeps.1)) (hListed.perform command) hKeeps.2

/-- **The log is a journal of the plan.**  As long as it is not cleared, reading its records in
order gives every stored action with its state and the registered actions in order, and the records
are numbered from one without a gap; direct writes into devices and formats and a replaced id
counter change nothing about it. -/
theorem ofLog_log (commands : List Command) (hKeeps : .clearLog ∉ commands) :
    let s := ({} : Session).performAll commands
    (Ledger.ofLog s.log).registry = s.registry ∧
    (Ledger.ofLog s.log).states = s.actions.items.map (fun a => (a.id, a.state)) ∧
    s.log.map LogRecord.sequence = List.range' 1 s.log.length := by
  intro s
  have hs : s.Journaled := journaled_empty.performAll listed_empty hKeeps
  exact ⟨congrArg Ledger.registry hs.tells, congrArg Ledger.states hs.tells, hs.numbers⟩

/-- A stack is taken down, one of its actions is withdrawn out of turn, a device is destroyed that
is not in the tree any more, and the plan is pruned. -/
theorem ofLog_log_of_pruned_stack :
    let commands : List Command := [
      .adoptDevice { name := "sda", kind := .disk, size := gibibytes 100 } "disklabel" "",
      .adoptDevice { name := "sda1", kind := .partition, size := gibibytes 10, parents := [2] }
        "ext4" "/",
      .newDevice { name := "sdb", kind := .disk, size := gibibytes 100 },
      .schedule (.createDevice 8), .removeStack 2 false, .cancel 11, .schedule (.destroyDevice 5),
      .schedule (.destroyDevice 8), .prune, .sort]
    let s := ({} : Session).performAll commands
    (.clearLog ∉ commands ∧ s.registry = [12] ∧ s.log.length = 15) ∧
    (Ledger.ofLog s.log).registry = s.registry ∧
    (Ledger.ofLog s.log).states = s.actions.items.map (fun a => (a.id, a.state)) ∧
    s.log.map LogRecord.sequence = List.range' 1 s.log.length := by
  intro commands s
  have hKeeps : .clearLog ∉ commands := by decide
  exact ⟨⟨hKeeps, by decide +kernel, by decide +kernel⟩, ofLog_log commands hKeeps⟩

end Session

end StoragePlan

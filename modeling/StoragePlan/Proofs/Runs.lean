import StoragePlan.Session.Command

/-!
# Runs

A run is a list of commands, carried out in turn.  Conditions that depend on the session at each
step are stated with `Along`; they can be decided.

* `Along.performAll`: what every allowed step keeps holds after an allowed run.
* `along_iff`: if a step meets a condition exactly when it is safe, so does a run.
* `along_good_iff`: if a step leads from a good session to a good one **exactly when** it is safe,
  a run passes through good sessions only exactly when all its steps are safe.
-/

namespace StoragePlan.Session

/-- A condition on a session and the command that it carries out next holds at every step of a
run. -/
def Along (P : Session → Command → Prop) (s : Session) : List Command → Prop
  | [] => True
  | command :: commands => P s command ∧ Along P (s.perform command).2 commands

instance decidableAlong {P : Session → Command → Prop} [∀ s command, Decidable (P s command)]
    (s : Session) : (commands : List Command) → Decidable (s.Along P commands)
  | [] => isTrue trivial
  | command :: commands =>
    have := decidableAlong (P := P) (s.perform command).2 commands
    inferInstanceAs (Decidable (P s command ∧ Along P (s.perform command).2 commands))

theorem along_of_forall {Q : Command → Prop} {commands : List Command}
    (h : ∀ command ∈ commands, Q command) (s : Session) :
    s.Along (fun _ command => Q command) commands := by
  induction commands generalizing s with
  | nil => exact trivial
  | cons command commands ih =>
    exact ⟨h command List.mem_cons_self,
      ih (fun other hOther => h other (List.mem_cons_of_mem command hOther)) _⟩

theorem Along.and {P Q : Session → Command → Prop} {s : Session} {commands : List Command}
    (hP : s.Along P commands) (hQ : s.Along Q commands) :
    s.Along (fun s command => P s command ∧ Q s command) commands := by
  induction commands generalizing s with
  | nil => exact trivial
  | cons command commands ih => exact ⟨⟨hP.1, hQ.1⟩, ih hP.2 hQ.2⟩

/-- What every allowed step keeps holds after an allowed run. -/
theorem Along.performAll {I : Session → Prop} {Allowed : Session → Command → Prop}
    (hStep : ∀ s command, Allowed s command → I s → I (s.perform command).2)
    {s : Session} (hs : I s)
    {commands : List Command} (h : s.Along Allowed commands) : I (s.performAll commands) := by
  induction commands generalizing s with
  | nil => exact hs
  | cons command commands ih => exact ih (hStep s command h.1 hs) h.2

/-- If a step meets a condition exactly when it is safe, and safe steps keep an invariant on which
this rests, then all steps of a run meet the condition exactly when all are safe. -/
theorem along_iff (I : Session → Prop) {Allowed P Safe : Session → Command → Prop}
    (hStep : ∀ s command, Allowed s command → I s →
      (P s command ↔ Safe s command) ∧ (Safe s command → I (s.perform command).2))
    {s : Session} (hs : I s) {commands : List Command} (h : s.Along Allowed commands) :
    s.Along P commands ↔ s.Along Safe commands := by
  induction commands generalizing s with
  | nil => exact Iff.rfl
  | cons command commands ih =>
    obtain ⟨hIff, hKeep⟩ := hStep s command h.1 hs
    exact (and_congr_left' hIff).trans (and_congr_right fun hSafe => ih (hKeep hSafe) h.2)

/-- If a step from a good session leads to a good one exactly when it is safe, then a run passes
through good sessions only exactly when all its steps are safe. -/
theorem along_good_iff (I Good : Session → Prop) {Allowed Safe : Session → Command → Prop}
    (hKeep : ∀ s command, Allowed s command → I s → I (s.perform command).2)
    (hStep : ∀ s command, Allowed s command → I s → Good s →
      (Good (s.perform command).2 ↔ Safe s command))
    {s : Session} (hs : I s) (hGood : Good s) {commands : List Command}
    (h : s.Along Allowed commands) :
    s.Along (fun s command => Good (s.perform command).2) commands ↔ s.Along Safe commands := by
  refine along_iff (fun s => I s ∧ Good s) (fun s command hAllowed hs => ?_) ⟨hs, hGood⟩ h
  have hIff := hStep s command hAllowed hs.1 hs.2
  exact ⟨hIff, fun hSafe => ⟨hKeep s command hAllowed hs.1, hIff.mpr hSafe⟩⟩

end StoragePlan.Session

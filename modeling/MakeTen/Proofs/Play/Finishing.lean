import MakeTen.Proofs.Play.Attempts
/-!
# Going on to the end

Asking for the end repeats steps until the attempt is over or a step fails.  At an
accepted template a step fails for one reason only, which is that no solution has been
taken, and then nothing has changed.  An attempt that has taken a solution is at most two
steps away from its end, so that asking for the end is asking for two steps; what is asked
for after the end is without effect.

All this holds for each judge, and so for one that writes down what it was asked: where
the state of the judge is said to be the same, the judge has been asked the same.

Main results:

- Predicate `Attempt.Reachable`: the attempts at a template that calls lead to.
- Predicate `Attempt.EndsAfter`: how many steps the end is away.
- Theorem `Attempt.EndsAfter.finish_eq`: asking for the end takes exactly these steps.
- Theorem `Attempt.exists_endsAfter`: the end of an attempt that has taken a solution.
- Theorem `Attempt.driving_terminates`: what steps, the end and texts come to.
-/

namespace MakeTen
namespace Attempt

variable {σ : Type}

/-! ## Attempts at a template -/

/-- The attempts at a template that calls lead to.  Each call may bring a judge of its
own, in any state. -/
inductive Reachable (t : Template) : Attempt → Prop where
  | start : Reachable t (start t)
  | call {σ : Type} {a : Attempt} (judge : Judge σ) (j : σ) (call : Call) :
      Reachable t a → Reachable t (afterCall judge (a, j) call).1

theorem template_submit (a : Attempt) (text : String) :
    (a.submit text).2.template = a.template := by
  unfold submit
  split
  · split <;> rfl
  · rfl

theorem template_step (judge : Judge σ) (a : Attempt) (j : σ) :
    (step judge a j).2.1.template = a.template := by
  unfold step
  split
  · rfl
  · split <;> rfl
  · rfl
  · rfl
  · rfl

theorem template_finish (judge : Judge σ) (a : Attempt) (j : σ) :
    (finish judge a j).2.1.template = a.template := by
  fun_induction finish judge a j with
  | case1 a j report hover => rfl
  | case2 a j hover fault b k hstep =>
    have htemplate := template_step judge a j
    rwa [hstep] at htemplate
  | case3 a j hover b k hstep ih =>
    have htemplate := template_step judge a j
    rw [hstep] at htemplate
    exact ih.trans htemplate

/-- No call exchanges the template. -/
theorem Reachable.template_eq {t : Template} {a : Attempt} (h : Reachable t a) :
    a.template = t := by
  induction h with
  | start => rfl
  | @call _ a judge j call _ ih =>
    cases call with
    | submit text => exact (template_submit a text).trans ih
    | step => exact (template_step judge a j).trans ih
    | finish => exact (template_finish judge a j).trans ih

/-! ## How many steps the end is away -/

/-- The end is `n` steps away: each of them succeeds, the attempt is not over before the
last of them, and after it the attempt is over with the report. -/
inductive EndsAfter (judge : Judge σ) (report : Report) : Nat → Attempt × σ → Prop where
  | done {p : Attempt × σ} (hover : p.1.stage.report? = some report) : EndsAfter judge report 0 p
  | step {n : Nat} {p q : Attempt × σ} (hnone : p.1.stage.report? = none)
      (hstep : p.1.step judge p.2 = (.ok (), q)) (hrest : EndsAfter judge report n q) :
      EndsAfter judge report (n + 1) p

/-- The attempt and the state of the judge after some steps. -/
def afterSteps (judge : Judge σ) (p : Attempt × σ) (n : Nat) : Attempt × σ :=
  afterCalls judge p (List.replicate n .step)

theorem afterSteps_succ {judge : Judge σ} {p q : Attempt × σ}
    (h : p.1.step judge p.2 = (.ok (), q)) (n : Nat) :
    afterSteps judge p (n + 1) = afterSteps judge q n := by
  rw [afterSteps, List.replicate_succ, afterCalls_cons, afterCall, h, afterSteps]

namespace EndsAfter

variable {judge : Judge σ} {report : Report} {n : Nat} {p : Attempt × σ}

/-- After these steps the attempt is over. -/
theorem report?_eq (h : EndsAfter judge report n p) :
    (afterSteps judge p n).1.stage.report? = some report := by
  induction h with
  | done hover => exact hover
  | step _ hstep _ ih =>
    rw [afterSteps_succ hstep]
    exact ih

/-- Asking for the end takes exactly these steps. -/
theorem finish_eq (h : EndsAfter judge report n p) :
    finish judge p.1 p.2 = (.ok report, afterSteps judge p n) := by
  induction h with
  | done hover => exact finish_of_report hover _
  | step hnone hstep _ ih =>
    rw [finish_of_step hnone hstep, afterSteps_succ hstep]
    exact ih

/-- More steps change nothing. -/
theorem afterSteps_eq (h : EndsAfter judge report n p) {m : Nat} (hle : n ≤ m) :
    afterSteps judge p m = afterSteps judge p n := by
  induction h generalizing m with
  | done hover => exact afterCalls_of_report hover _
  | step _ hstep _ ih =>
    obtain ⟨l, rfl⟩ := Nat.exists_eq_succ_of_ne_zero (Nat.ne_zero_of_lt hle)
    rw [afterSteps_succ hstep, afterSteps_succ hstep]
    exact ih (Nat.le_of_succ_le_succ hle)

end EndsAfter

/-- An attempt that has taken a solution ends after the steps that are left. -/
theorem exists_endsAfter (judge : Judge σ) {a : Attempt} (j : σ)
    (hresolve : ∀ s, ∃ resolved, a.template.resolve s = .ok resolved)
    (hstage : a.stage ≠ .awaiting) :
    ∃ report, EndsAfter judge report a.stage.remaining (a, j) := by
  obtain ⟨t, stage, n⟩ := a
  cases stage with
  | awaiting => exact absurd rfl hstage
  | resolving s =>
    obtain ⟨resolved, hresolved⟩ := hresolve s
    exact ⟨_, .step rfl (step_resolving hresolved) (.step rfl step_judging (.done report?_judged))⟩
  | judging s resolved => exact ⟨_, .step rfl step_judging (.done report?_judged)⟩
  | solved report => exact ⟨report, .done rfl⟩
  | rejected report => exact ⟨report, .done rfl⟩

/-- At most two steps are left once a solution has been taken. -/
theorem remaining_le_two {stage : Stage} (h : stage ≠ .awaiting) : stage.remaining ≤ 2 := by
  cases stage with
  | awaiting => exact absurd rfl h
  | resolving s => exact Nat.le_refl 2
  | judging s resolved => exact Nat.le_succ 1
  | solved report => exact Nat.zero_le 2
  | rejected report => exact Nat.zero_le 2

/-! ## With and without a solution -/

/-- An attempt without a solution does not go on, and stays as it is. -/
theorem step_of_awaiting {judge : Judge σ} {a : Attempt} (h : a.stage = .awaiting) (j : σ) :
    step judge a j = (.error notReady, a, j) := by
  simp only [step, h]

theorem finish_of_awaiting {judge : Judge σ} {a : Attempt} (h : a.stage = .awaiting) (j : σ) :
    finish judge a j = (.error notReady, a, j) :=
  finish_of_fault (by rw [h]; rfl) (step_of_awaiting h j)

/-- The step of an attempt that has taken a solution succeeds. -/
theorem step_ok_of_endsAfter {judge : Judge σ} {report : Report} {n : Nat} {a : Attempt} {j : σ}
    (h : EndsAfter judge report n (a, j)) : (step judge a j).1 = .ok () := by
  cases h with
  | done hover => rw [step_of_report hover]
  | step _ hstep _ => rw [hstep]

section Refusals

variable (judge : Judge σ) {a : Attempt} (j : σ)
  (hresolve : ∀ s, ∃ resolved, a.template.resolve s = .ok resolved)
include hresolve

/-- A step fails for want of a solution only. -/
theorem exists_step_error_iff :
    (∃ fault, (a.step judge j).1 = .error fault) ↔ a.stage = .awaiting := by
  constructor
  · rintro ⟨fault, hfault⟩
    by_contra hstage
    obtain ⟨report, hends⟩ := exists_endsAfter judge j hresolve hstage
    rw [step_ok_of_endsAfter hends] at hfault
    simp at hfault
  · exact fun hstage => ⟨notReady, by rw [step_of_awaiting hstage]⟩

/-- Asking for the end fails for want of a solution only. -/
theorem exists_finish_error_iff :
    (∃ fault, (a.finish judge j).1 = .error fault) ↔ a.stage = .awaiting := by
  constructor
  · rintro ⟨fault, hfault⟩
    by_contra hstage
    obtain ⟨report, hends⟩ := exists_endsAfter judge j hresolve hstage
    rw [hends.finish_eq] at hfault
    simp at hfault
  · exact fun hstage => ⟨notReady, by rw [finish_of_awaiting hstage]⟩

/-- An attempt without a solution can still be brought to its end. -/
theorem exists_finish_submit {text : String} {s : Solution} (hstage : a.stage = .awaiting)
    (htext : Solution.ofText? text = some s) :
    ∃ report, ((a.submit text).2.finish judge j).1 = .ok report ∧ report.solution = s := by
  obtain ⟨resolved, hresolved⟩ := hresolve s
  have hsubmit : (a.submit text).2 = ⟨a.template, .resolving s, a.invalidInputs⟩ := by
    simp only [submit, hstage, htext]
  rw [hsubmit, finish_resolving hresolved]
  exact ⟨_, rfl, rfl⟩

/-- Asking for the end comes to what two steps come to. -/
theorem exists_finish_eq_two_steps (hstage : a.stage ≠ .awaiting) :
    ∃ n ≤ 2, ∃ report, EndsAfter judge report n (a, j) ∧
      afterCalls judge (a, j) [.step, .step] = afterSteps judge (a, j) n ∧
      a.finish judge j = (.ok report, afterCalls judge (a, j) [.step, .step]) ∧
      (afterCalls judge (a, j) [.step, .step]).1.stage.report? = some report := by
  obtain ⟨report, hends⟩ := exists_endsAfter judge j hresolve hstage
  have hle := remaining_le_two hstage
  have htwo : afterCalls judge (a, j) [.step, .step] =
      afterSteps judge (a, j) a.stage.remaining := hends.afterSteps_eq hle
  refine ⟨a.stage.remaining, hle, report, hends, htwo, ?_⟩
  rw [htwo]
  exact ⟨hends.finish_eq, hends.report?_eq⟩

end Refusals

/-! ## Texts -/

/-- A text that is turned away is counted, and nothing else changes. -/
theorem submit_of_invalid {a : Attempt} {text : String} (h : (a.submit text).1 = .invalid) :
    (a.submit text).2 = { a with invalidInputs := a.invalidInputs + 1 } := by
  unfold submit at h ⊢
  split at h
  · split at h
    · simp at h
    · rfl
  · simp at h

/-- A text that is ignored changes nothing. -/
theorem submit_of_ignored {a : Attempt} {text : String} (h : (a.submit text).1 = .ignored) :
    (a.submit text).2 = a := by
  unfold submit at h ⊢
  split at h
  · split at h
    · simp at h
    · simp at h
  · rfl

/-! ## Main theorem -/

/-- Driving an attempt at an accepted template terminates, and what is refused changes
nothing.

Whatever was done before, and whatever the judge: a step fails, and asking for the end
fails, exactly if no solution has been taken; both say so, the attempt and the judge are
as before, and any text that is a solution still takes the attempt to its end.  Otherwise
the end is at most two steps away, and asking for it takes these steps: it comes to what
two steps come to, for the attempt and for the judge, and gives out the report that the
attempt then holds.  From there on neither a step nor asking for the end changes anything
or asks any judge, and the report stays the same.  A text that is turned away is counted,
and nothing else changes; one that is ignored changes nothing. -/
theorem driving_terminates {id : Nat} {code : List UInt8} {t : Template} {a : Attempt}
    (ht : Template.ofCode id code = .ok t) (ha : Reachable t a) :
    (∀ (σ : Type) (judge : Judge σ) (j : σ),
      ((∃ fault, (a.step judge j).1 = .error fault) ↔ a.stage = .awaiting) ∧
      ((∃ fault, (a.finish judge j).1 = .error fault) ↔ a.stage = .awaiting) ∧
      (a.stage = .awaiting →
        a.step judge j = (.error (.attemptNotReady "no valid solution submitted"), a, j) ∧
        a.finish judge j = (.error (.attemptNotReady "no valid solution submitted"), a, j) ∧
        ∀ text s, Solution.ofText? text = some s →
          ∃ report, ((a.submit text).2.finish judge j).1 = .ok report ∧ report.solution = s) ∧
      (a.stage ≠ .awaiting → ∃ n ≤ 2, ∃ report, EndsAfter judge report n (a, j) ∧
        let p := afterCalls judge (a, j) [.step, .step]
        a.finish judge j = (.ok report, p) ∧ p = afterSteps judge (a, j) n ∧
          p.1.stage.report? = some report ∧
          ∀ (τ : Type) (other : Judge τ) (k : τ),
            p.1.step other k = (.ok (), p.1, k) ∧ p.1.finish other k = (.ok report, p.1, k))) ∧
    (∀ text, (a.submit text).1 = .invalid →
      (a.submit text).2 = { a with invalidInputs := a.invalidInputs + 1 }) ∧
    (∀ text, (a.submit text).1 = .ignored → (a.submit text).2 = a) := by
  have hplayable := (Template.ofCode_eq_ok_iff.1 ht).2.2
  have hresolve : ∀ s, ∃ resolved, a.template.resolve s = .ok resolved := by
    rw [ha.template_eq]
    exact fun s => ⟨_, hplayable.resolve_eq s⟩
  refine ⟨fun σ judge j => ⟨exists_step_error_iff judge j hresolve,
    exists_finish_error_iff judge j hresolve, ?_, ?_⟩, ?_, ?_⟩
  · intro hstage
    refine ⟨step_of_awaiting hstage j, finish_of_awaiting hstage j, fun text s htext => ?_⟩
    exact exists_finish_submit judge j hresolve hstage htext
  · intro hstage
    obtain ⟨n, hle, report, hends, htwo, hfinish, hover⟩ :=
      exists_finish_eq_two_steps judge j hresolve hstage
    refine ⟨n, hle, report, hends, hfinish, htwo, hover, fun τ other k => ?_⟩
    exact ⟨step_of_report hover k, finish_of_report hover k⟩
  · exact fun text hinvalid => submit_of_invalid hinvalid
  · exact fun text hignored => submit_of_ignored hignored

/-- A new attempt cannot go on; once it has turned a text away and taken a solution, its
end is reached with one run, which is the one that two steps make. -/
theorem driving_terminates_at_sample :
    ∃ t, Template.ofCode 0 [0xCC, 0xCC, 0xCC] = .ok t ∧
      (start t).finish Judge.scripted.traced ([.ok true], []) =
        (.error (.attemptNotReady "no valid solution submitted"), start t, ([.ok true], [])) ∧
      let a := ((((start t).submit "0401").2).submit "040201").2
      Reachable t a ∧ a.invalidInputs = 1 ∧
        ∃ report, a.finish Judge.scripted.traced ([.ok true], []) =
          (.ok report, afterCalls Judge.scripted.traced (a, ([.ok true], [])) [.step, .step]) ∧
        (a.finish Judge.scripted.traced ([.ok true], [])).2.2 =
          ([], [.run [4, 2, 1] (.ok true), .page [4, 2, 1] (playgroundLink "00" [4, 2, 1])]) := by
  let t : Template :=
    ⟨0, [0xCC, 0xCC, 0xCC], [.bare 0 placeholder, .bare 1 placeholder, .bare 2 placeholder]⟩
  have ht : Template.ofCode 0 [0xCC, 0xCC, 0xCC] = .ok t :=
    Template.ofCode_eq_ok_iff.2 ⟨rfl, rfl, disassemble_eq_ok_iff.2 (by decide), by decide, rfl⟩
  let a : Attempt := ((((start t).submit "0401").2).submit "040201").2
  have ha : Reachable t a :=
    .call Judge.scripted [] (.submit "040201") (.call Judge.scripted [] (.submit "0401") .start)
  have hstage : a.stage ≠ .awaiting := by
    have hresolving : a.stage = .resolving ⟨.div, .mul, .add⟩ := rfl
    rw [hresolving]
    exact Stage.noConfusion
  have hwaiting :=
    ((driving_terminates ht .start).1 _ Judge.scripted.traced ([.ok true], [])).2.2.1 rfl
  obtain ⟨_, _, report, _, hfinish, _⟩ :=
    ((driving_terminates ht ha).1 _ Judge.scripted.traced ([.ok true], [])).2.2.2 hstage
  refine ⟨t, ht, hwaiting.2.1, ha, rfl, report, hfinish, ?_⟩
  rw [hfinish]
  rfl

end Attempt
end MakeTen

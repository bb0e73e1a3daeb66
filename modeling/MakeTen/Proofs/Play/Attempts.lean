import MakeTen.Play.Attempt
import MakeTen.Proofs.Puzzle.Filling
/-!
# The course of an attempt

A caller may hand in texts, ask for single steps and ask for the end, in any
order.  Whatever it does, an attempt waits for the first text that is a
solution, and from then on it can only be in one of three places: about to
resolve that solution, about to judge the resolved code, or over with the
report of that one run.

Main results:

- Function `Attempt.afterCalls`: where some calls lead.
- Theorems `Attempt.finish_resolving`, `Attempt.finish_judging`: asking for the
  end takes the remaining steps at once.
- Theorem `Attempt.Underway.afterCalls`: no call leaves the three places.
- Theorem `Attempt.afterCalls_awaiting`: what an attempt comes to, by the first
  text that is a solution.
- Theorem `Attempt.course_of_calls`: the same for accepted templates, with the
  runs that the judge was asked for.
-/

namespace MakeTen
namespace Attempt

variable {σ : Type}

/-! ## Calls -/

/-- What a caller may do with an attempt. -/
inductive Call where
  | submit (text : String)
  | step
  | finish
  deriving Repr, DecidableEq

/-- Whether a call hands in a text. -/
def Call.isSubmit : Call → Bool
  | .submit _ => true
  | _ => false

/-- None of the texts that are handed in is a solution. -/
def NoSolution (calls : List Call) : Prop :=
  ∀ text, .submit text ∈ calls → Solution.ofText? text = none

/-- The attempt and the state of the judge after a call. -/
def afterCall (judge : Judge σ) (p : Attempt × σ) : Call → Attempt × σ
  | .submit text => ((p.1.submit text).2, p.2)
  | .step => (p.1.step judge p.2).2
  | .finish => (p.1.finish judge p.2).2

/-- The attempt and the state of the judge after some calls. -/
def afterCalls (judge : Judge σ) (p : Attempt × σ) (calls : List Call) : Attempt × σ :=
  calls.foldl (afterCall judge) p

@[simp]
theorem afterCalls_cons (judge : Judge σ) (p : Attempt × σ) (call : Call) (calls : List Call) :
    afterCalls judge p (call :: calls) = afterCalls judge (afterCall judge p call) calls := rfl

/-! ## Going on to the end -/

/-- An attempt that is over gives out its report. -/
theorem finish_of_report {judge : Judge σ} {a : Attempt} {report : Report}
    (h : a.stage.report? = some report) (j : σ) : finish judge a j = (.ok report, a, j) := by
  rw [finish]
  split
  · rename_i other hother
    obtain rfl : report = other := by simpa [h] using hother
    rfl
  · rename_i hnone
    simp [h] at hnone

/-- Going on to the end begins with one step. -/
theorem finish_of_step {judge : Judge σ} {a b : Attempt} {j k : σ}
    (h : a.stage.report? = none) (hstep : step judge a j = (.ok (), b, k)) :
    finish judge a j = finish judge b k := by
  rw [finish]
  split
  · rename_i report hreport
    simp [h] at hreport
  · split
    · rename_i fault c l hfault
      simp [hstep] at hfault
    · rename_i c l hok
      obtain ⟨rfl, rfl⟩ : b = c ∧ k = l := by simpa [hstep] using hok
      rfl

/-- Going on to the end fails where a step fails. -/
theorem finish_of_fault {judge : Judge σ} {a b : Attempt} {j k : σ} {fault : PuzzleFault}
    (h : a.stage.report? = none) (hstep : step judge a j = (.error fault, b, k)) :
    finish judge a j = (.error fault, b, k) := by
  rw [finish]
  split
  · rename_i report hreport
    simp [h] at hreport
  · split
    · rename_i other c l hother
      obtain ⟨rfl, rfl, rfl⟩ : fault = other ∧ b = c ∧ k = l := by simpa [hstep] using hother
      rfl
    · rename_i c l hok
      simp [hstep] at hok

/-- The report that going on to the end gives out is the one that the attempt
holds then. -/
theorem report?_of_finish {judge : Judge σ} {a : Attempt} {j : σ} {report : Report}
    (h : (finish judge a j).1 = .ok report) :
    (finish judge a j).2.1.stage.report? = some report := by
  fun_induction finish judge a j with
  | case1 a j other hother =>
    obtain rfl : other = report := by simpa using h
    exact hother
  | case2 a j hnone fault b k hstep => simp at h
  | case3 a j hnone b k hstep ih => exact ih h

/-! ## The end stays the end -/

/-- An attempt that is over drops every text. -/
theorem submit_of_report {a : Attempt} {report : Report} (h : a.stage.report? = some report)
    (text : String) : a.submit text = (.ignored, a) := by
  unfold submit
  split
  · rename_i hstage
    simp [hstage, Stage.report?] at h
  · rfl

/-- An attempt that is over stays as it is, and asks the judge nothing. -/
theorem step_of_report {judge : Judge σ} {a : Attempt} {report : Report}
    (h : a.stage.report? = some report) (j : σ) : step judge a j = (.ok (), a, j) := by
  unfold step
  split
  · rename_i hstage
    simp [hstage, Stage.report?] at h
  · rename_i hstage
    simp [hstage, Stage.report?] at h
  · rename_i hstage
    simp [hstage, Stage.report?] at h
  · rfl
  · rfl

theorem afterCall_of_report {judge : Judge σ} {p : Attempt × σ} {report : Report}
    (h : p.1.stage.report? = some report) (call : Call) : afterCall judge p call = p := by
  cases call with
  | submit text => rw [afterCall, submit_of_report h]
  | step => rw [afterCall, step_of_report h]
  | finish => rw [afterCall, finish_of_report h]

/-- Once an attempt is over, no calls change anything. -/
theorem afterCalls_of_report {judge : Judge σ} {p : Attempt × σ} {report : Report}
    (h : p.1.stage.report? = some report) (calls : List Call) : afterCalls judge p calls = p := by
  induction calls with
  | nil => rfl
  | cons call calls ih => rw [afterCalls_cons, afterCall_of_report h, ih]

/-! ## From a solution to the end -/

/-- The report on the run of some resolved code, made by a judge in state `j`. -/
def reportOn (judge : Judge σ) (j : σ) (s : Solution) (resolved : List UInt8)
    (invalidInputs : Nat) : Report where
  outcome := if (judge.execute j resolved).1.passed then .solved else .rejected
  solution := s
  resolved := resolved
  link := (judge.page j resolved).1
  invalidInputs := invalidInputs

/-- The attempt and the judge after the run of some resolved code. -/
def judged (judge : Judge σ) (j : σ) (t : Template) (s : Solution) (resolved : List UInt8)
    (invalidInputs : Nat) : Attempt × σ :=
  let report := reportOn judge j s resolved invalidInputs
  (⟨t, if (judge.execute j resolved).1.passed then .solved report else .rejected report,
    invalidInputs⟩, (judge.page j resolved).2)

section Course

variable {judge : Judge σ} {j : σ} {t : Template} {s : Solution} {resolved : List UInt8} {n : Nat}

theorem report?_judged :
    (judged judge j t s resolved n).1.stage.report? = some (reportOn judge j s resolved n) := by
  simp only [judged]
  split <;> rfl

theorem step_resolving (h : t.resolve s = .ok resolved) :
    step judge ⟨t, .resolving s, n⟩ j = (.ok (), ⟨t, .judging s resolved, n⟩, j) := by
  simp only [step, h]

theorem step_judging :
    step judge ⟨t, .judging s resolved, n⟩ j = (.ok (), judged judge j t s resolved n) := rfl

/-- Asking for the end before the run takes the one step that is left. -/
theorem finish_judging :
    finish judge ⟨t, .judging s resolved, n⟩ j =
      (.ok (reportOn judge j s resolved n), judged judge j t s resolved n) := by
  calc
    finish judge ⟨t, .judging s resolved, n⟩ j =
        finish judge (judged judge j t s resolved n).1 (judged judge j t s resolved n).2 :=
      finish_of_step rfl step_judging
    _ = (.ok (reportOn judge j s resolved n), judged judge j t s resolved n) :=
      finish_of_report report?_judged _

/-- Asking for the end before the solution is resolved takes the two steps that
are left. -/
theorem finish_resolving (h : t.resolve s = .ok resolved) :
    finish judge ⟨t, .resolving s, n⟩ j =
      (.ok (reportOn judge j s resolved n), judged judge j t s resolved n) := by
  rw [finish_of_step rfl (step_resolving h), finish_judging]

/-- The places of an attempt that has taken a solution: before it is resolved,
before the resolved code is judged, and after. -/
inductive Underway (judge : Judge σ) (j : σ) (t : Template) (s : Solution)
    (resolved : List UInt8) (n : Nat) : Attempt × σ → Prop where
  | resolving : Underway judge j t s resolved n (⟨t, .resolving s, n⟩, j)
  | judging : Underway judge j t s resolved n (⟨t, .judging s resolved, n⟩, j)
  | judged : Underway judge j t s resolved n (judged judge j t s resolved n)

/-- No call leaves the three places. -/
theorem Underway.afterCall {p : Attempt × σ} (hresolve : t.resolve s = .ok resolved)
    (h : Underway judge j t s resolved n p) (call : Call) :
    Underway judge j t s resolved n (afterCall judge p call) := by
  cases h with
  | resolving =>
    cases call with
    | submit text => exact .resolving
    | step =>
      rw [Attempt.afterCall, step_resolving hresolve]
      exact .judging
    | finish =>
      rw [Attempt.afterCall, finish_resolving hresolve]
      exact .judged
  | judging =>
    cases call with
    | submit text => exact .judging
    | step => exact .judged
    | finish =>
      rw [Attempt.afterCall, finish_judging]
      exact .judged
  | judged =>
    rw [afterCall_of_report report?_judged]
    exact .judged

/-- No sequence of calls leaves the three places. -/
theorem Underway.afterCalls {p : Attempt × σ} (hresolve : t.resolve s = .ok resolved)
    (h : Underway judge j t s resolved n p) (calls : List Call) :
    Underway judge j t s resolved n (afterCalls judge p calls) := by
  induction calls generalizing p with
  | nil => exact h
  | cons call calls ih => exact ih (h.afterCall hresolve call)

theorem Underway.invalidInputs_eq {p : Attempt × σ} (h : Underway judge j t s resolved n p) :
    p.1.invalidInputs = n := by
  cases h <;> rfl

/-- What the three places show of a judge that writes down all that it was asked. -/
theorem Underway.of_traced {p : Attempt × σ × List Judge.Inquiry}
    (h : Underway judge.traced (j, []) t s resolved n p) :
    (p.1.stage = .resolving s ∧ p.2 = (j, [])) ∨
      (p.1.stage = .judging s resolved ∧ p.2 = (j, [])) ∨
      ∃ verdict k address l, judge.execute j resolved = (verdict, k) ∧
        judge.link k resolved = (address, l) ∧
        p.2 = (l, [.run resolved verdict, .page resolved address]) ∧
        ((verdict = .ok true ∧ p.1.stage = .solved ⟨.solved, s, resolved, address, n⟩) ∨
          (verdict ≠ .ok true ∧ p.1.stage = .rejected ⟨.rejected, s, resolved, address, n⟩)) := by
  cases h with
  | resolving => exact .inl ⟨rfl, rfl⟩
  | judging => exact .inr (.inl ⟨rfl, rfl⟩)
  | judged =>
    refine .inr (.inr ⟨_, _, (judge.page j resolved).1, (judge.page j resolved).2, rfl, rfl, rfl, ?_⟩)
    by_cases hverdict : (judge.execute j resolved).1 = .ok true
    · have hpassed := Verdict.passed_eq_true_iff.2 hverdict
      refine .inl ⟨hverdict, ?_⟩
      simp [Attempt.judged, reportOn, Judge.page, Judge.traced, hpassed]
    · have hpassed := mt Verdict.passed_eq_true_iff.1 hverdict
      refine .inr ⟨hverdict, ?_⟩
      simp [Attempt.judged, reportOn, Judge.page, Judge.traced, hpassed]

end Course

/-! ## From the first text on -/

theorem noSolution_cons {call : Call} {calls : List Call} :
    NoSolution (call :: calls) ↔
      (∀ text, call = .submit text → Solution.ofText? text = none) ∧ NoSolution calls := by
  simp only [NoSolution, List.mem_cons]
  constructor
  · intro h
    exact ⟨fun text htext => h text (.inl htext.symm), fun text htext => h text (.inr htext)⟩
  · rintro ⟨hfirst, hrest⟩ text (htext | htext)
    · exact hfirst text htext.symm
    · exact hrest text htext

/-- A call without a solution leaves an attempt waiting, and only a text is
counted. -/
theorem afterCall_awaiting (judge : Judge σ) (j : σ) (t : Template) (n : Nat) {call : Call}
    (h : ∀ text, call = .submit text → Solution.ofText? text = none) :
    afterCall judge (⟨t, .awaiting, n⟩, j) call =
      (⟨t, .awaiting, n + [call].countP Call.isSubmit⟩, j) := by
  cases call with
  | submit text =>
    simp only [afterCall, submit, h text rfl]
    rfl
  | step => rfl
  | finish =>
    have hstep : step judge ⟨t, .awaiting, n⟩ j = (.error notReady, ⟨t, .awaiting, n⟩, j) := rfl
    rw [afterCall, finish_of_fault rfl hstep]
    rfl

/-- What an attempt that waits comes to: it still waits, having counted every
text, or it has taken the first text that is a solution, having counted those
before. -/
theorem afterCalls_awaiting (judge : Judge σ) (j : σ) {t : Template}
    (hresolve : ∀ s, ∃ resolved, t.resolve s = .ok resolved) (n : Nat) (calls : List Call) :
    (NoSolution calls ∧
      afterCalls judge (⟨t, .awaiting, n⟩, j) calls =
        (⟨t, .awaiting, n + calls.countP Call.isSubmit⟩, j)) ∨
    (∃ before text s after resolved, calls = before ++ .submit text :: after ∧
      NoSolution before ∧ Solution.ofText? text = some s ∧ t.resolve s = .ok resolved ∧
      Underway judge j t s resolved (n + before.countP Call.isSubmit)
        (afterCalls judge (⟨t, .awaiting, n⟩, j) calls)) := by
  induction calls generalizing n with
  | nil => exact .inl ⟨by simp [NoSolution], rfl⟩
  | cons call calls ih =>
    rw [afterCalls_cons]
    -- The first solution ends the waiting: from there on `Underway` is kept by
    -- whatever follows.  Any other call only moves the counter `n`.
    by_cases hcall : ∃ text s, call = .submit text ∧ Solution.ofText? text = some s
    · obtain ⟨text, s, rfl, htext⟩ := hcall
      obtain ⟨resolved, hresolved⟩ := hresolve s
      refine .inr ⟨[], text, s, calls, resolved, rfl, by simp [NoSolution], htext, hresolved, ?_⟩
      have htaken : afterCall judge (⟨t, .awaiting, n⟩, j) (.submit text) =
          (⟨t, .resolving s, n⟩, j) := by
        simp only [afterCall, submit, htext]
      rw [htaken]
      exact Underway.resolving.afterCalls hresolved calls
    · have hnone : ∀ text, call = .submit text → Solution.ofText? text = none := by
        intro text htext
        by_contra hsome
        obtain ⟨s, hs⟩ := Option.ne_none_iff_exists'.1 hsome
        exact hcall ⟨text, s, htext, hs⟩
      have hcount : ∀ more : List Call, n + [call].countP Call.isSubmit +
          more.countP Call.isSubmit = n + (call :: more).countP Call.isSubmit := by
        intro more
        simp only [List.countP_cons, List.countP_nil]
        omega
      rw [afterCall_awaiting judge j t n hnone]
      rcases ih (n + [call].countP Call.isSubmit) with
        ⟨hrest, hafter⟩ | ⟨before, text, s, after, resolved, rfl, hbefore, htext, hresolved, h⟩
      · rw [hafter, hcount]
        exact .inl ⟨noSolution_cons.2 ⟨hnone, hrest⟩, rfl⟩
      · rw [hcount] at h
        exact .inr ⟨call :: before, text, s, after, resolved, rfl,
          noSolution_cons.2 ⟨hnone, hbefore⟩, htext, hresolved, h⟩

/-! ## Main theorem -/

/-- The course of an attempt at an accepted template, after any calls.

Until a text is a solution, the attempt waits, has counted every text, and the
judge has been asked nothing.  From the first text that is a solution on, the
attempt holds that solution and the code resolved with it, and has counted the
texts before it and no other; the judge is asked to run that code once at most, and
then for its page, and for nothing else; and the attempt is solved exactly if the
verdict is that the run passed.  The report says all of this.  Once over, an attempt never changes, and asking for
the end gives out the report that it holds. -/
theorem course_of_calls (judge : Judge σ) (j : σ) {id : Nat} {code : List UInt8} {t : Template}
    (ht : Template.ofCode id code = .ok t) (calls : List Call) :
    let p := afterCalls judge.traced (start t, (j, [])) calls
    ((NoSolution calls ∧ p.1.stage = .awaiting ∧
        p.1.invalidInputs = calls.countP Call.isSubmit ∧ p.2 = (j, [])) ∨
      (∃ before text s after resolved, calls = before ++ .submit text :: after ∧
        NoSolution before ∧ Solution.ofText? text = some s ∧ t.resolve s = .ok resolved ∧
        p.1.invalidInputs = before.countP Call.isSubmit ∧
        ((p.1.stage = .resolving s ∧ p.2 = (j, [])) ∨
          (p.1.stage = .judging s resolved ∧ p.2 = (j, [])) ∨
          (∃ verdict k address l, judge.execute j resolved = (verdict, k) ∧
            judge.link k resolved = (address, l) ∧
            p.2 = (l, [.run resolved verdict, .page resolved address]) ∧
            ((verdict = .ok true ∧ p.1.stage = .solved ⟨.solved, s, resolved, address,
                before.countP Call.isSubmit⟩) ∨
              (verdict ≠ .ok true ∧ p.1.stage = .rejected ⟨.rejected, s, resolved, address,
                before.countP Call.isSubmit⟩)))))) ∧
    (∀ report, p.1.stage = .solved report ∨ p.1.stage = .rejected report →
      ∀ more, afterCalls judge.traced p more = p) ∧
    (∀ report, (p.1.finish judge.traced p.2).1 = .ok report →
      (p.1.finish judge.traced p.2).2.1.stage.report? = some report) := by
  intro p
  refine ⟨?_, ?_, ?_⟩
  · have hplayable := (Template.ofCode_eq_ok_iff.1 ht).2.2
    have hresolve : ∀ s, ∃ resolved, t.resolve s = .ok resolved :=
      fun s => ⟨_, hplayable.resolve_eq s⟩
    rcases afterCalls_awaiting judge.traced (j, []) hresolve 0 calls with
      ⟨hnone, hp⟩ | ⟨before, text, s, after, resolved, hcalls, hbefore, htext, hresolved, hp⟩
    · have hp' : p = (⟨t, .awaiting, calls.countP Call.isSubmit⟩, (j, [])) := by
        rw [← Nat.zero_add (calls.countP Call.isSubmit)]
        exact hp
      exact .inl ⟨hnone, by rw [hp'], by rw [hp'], by rw [hp']⟩
    · have hp' : Underway judge.traced (j, []) t s resolved (before.countP Call.isSubmit) p := by
        rw [← Nat.zero_add (before.countP Call.isSubmit)]
        exact hp
      exact .inr ⟨before, text, s, after, resolved, hcalls, hbefore, htext, hresolved,
        hp'.invalidInputs_eq, hp'.of_traced⟩
  · rintro report (hover | hover) more
    · exact afterCalls_of_report (by rw [hover]; rfl) more
    · exact afterCalls_of_report (by rw [hover]; rfl) more
  · exact fun report h => report?_of_finish h

/-- A text that is no solution, one that is, and two steps: the attempt is over
after one run, and stays so. -/
theorem course_of_calls_sample :
    ∃ t, Template.ofCode 0 [0xCC, 0xCC, 0xCC] = .ok t ∧
      let p := afterCalls Judge.scripted.traced (start t, ([.ok true], []))
        [.submit "0401", .submit "040201", .step, .step]
      p.1.invalidInputs = 1 ∧
        p.2 = ([], [.run [4, 2, 1] (.ok true), .page [4, 2, 1] (playgroundLink "00" [4, 2, 1])]) ∧
        ∀ more, afterCalls Judge.scripted.traced p more = p := by
  let t : Template :=
    ⟨0, [0xCC, 0xCC, 0xCC], [.bare 0 placeholder, .bare 1 placeholder, .bare 2 placeholder]⟩
  have ht : Template.ofCode 0 [0xCC, 0xCC, 0xCC] = .ok t :=
    Template.ofCode_eq_ok_iff.2 ⟨rfl, rfl, disassemble_eq_ok_iff.2 (by decide), by decide, rfl⟩
  refine ⟨t, ht, rfl, rfl, ?_⟩
  exact (course_of_calls Judge.scripted [.ok true] ht _).2.1 _ (.inl rfl)

end Attempt
end MakeTen

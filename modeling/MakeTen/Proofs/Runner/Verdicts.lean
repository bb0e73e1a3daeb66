import MakeTen.Proofs.Play.Attempts
import MakeTen.Proofs.Text.Parts
import MakeTen.Runner.Verdict
/-!
# The verdict weighs the whole output

The output of a program is looked at line by line, the error output first, and the first
line with a failure marker settles the verdict.  Lines are a matter of looking only: as
long as a marker is not empty and holds no line ending, it is in some line exactly if it
is anywhere in the output.  So neither the order of the two outputs nor the places where
they break into lines matter.

Main results:

- Predicates `RunnerSettings.Mentions`, `RunnerSettings.IsClean`: what is looked for, and
  the executions in which it is not found.
- Theorem `RunnerSettings.reportsFailure_iff`: looking line by line finds what is there.
- Theorem `RunnerSettings.passed_verdict_iff`: what passes.
- Theorem `RunnerSettings.warnings_eq_nil_iff`: what is warned of.
- Theorem `RunnerSettings.verdict_weighs_whole_output`: the verdict on an execution, and
  what an attempt comes to that is judged by it.
-/

namespace MakeTen

/-! ## Letter case -/

/-- A character that stands before the small letters is the small form of none but
itself. -/
theorem eq_of_toLower_eq_of_lt {c d : Char} (h : c.toLower = d) (hd : d.toNat < 97) : c = d := by
  subst h
  unfold Char.toLower at hd ⊢
  split
  · rename_i hupper
    rw [dif_pos hupper] at hd
    have hlow : 65 ≤ c.val.toNat := UInt32.le_iff_toNat_le.1 hupper.1
    have hhigh : c.val.toNat ≤ 90 := UInt32.le_iff_toNat_le.1 hupper.2
    have hfits : c.val.toNat + 32 < 4294967296 := by omega
    have hsum : (c.val + 32).toNat = c.val.toNat + 32 := Nat.mod_eq_of_lt hfits
    have hsmall : (c.val + 32).toNat < 97 := hd
    omega
  · rfl

namespace RunnerSettings

variable {marker : String} {s : RunnerSettings}

/-! ## What is looked for -/

/-- What can be looked for line by line: a word that is not empty and holds neither of
the characters that end lines. -/
def IsMarker (marker : String) : Prop :=
  marker.toList ≠ [] ∧ '\n' ∉ marker.toList ∧ '\r' ∉ marker.toList

instance (marker : String) : Decidable (IsMarker marker) :=
  inferInstanceAs (Decidable (_ ∧ _ ∧ _))

/-- Some part of the text is the word, the case of ASCII letters aside. -/
def Mentions (text : List Char) (word : String) : Prop :=
  ∃ part, part <:+: text ∧ foldCase part = foldCase word.toList

/-- The executions that give nothing to object to: the program was started, it ended
well, and neither of its outputs mentions a failure marker. -/
def IsClean (s : RunnerSettings) (execution : Execution) : Prop :=
  ∃ output errors, execution = .ended (.exit 0) output errors ∧
    ∀ marker ∈ s.failureMarkers, ¬ Mentions (Utf8.decodeLossy errors) marker ∧
      ¬ Mentions (Utf8.decodeLossy output) marker

/-! ## Looking line by line -/

theorem mentions_iff {text : List Char} :
    Mentions text marker ↔ foldCase marker.toList <:+: foldCase text := by
  unfold Mentions foldCase
  rw [List.infix_map_iff]
  constructor
  · rintro ⟨part, hpart, hfold⟩
    exact ⟨part, hpart, hfold.symm⟩
  · rintro ⟨part, hpart, hfold⟩
    exact ⟨part, hpart, hfold.symm⟩

/-- A character that is its own small form and stands before the small letters is not
made or lost by folding. -/
theorem mem_foldCase_iff {c : Char} (hc : c.toLower = c) (hlt : c.toNat < 97) {cs : List Char} :
    c ∈ foldCase cs ↔ c ∈ cs := by
  rw [foldCase, List.mem_map]
  constructor
  · rintro ⟨d, hd, hlower⟩
    rwa [← eq_of_toLower_eq_of_lt hlower hlt]
  · exact fun hmem => ⟨c, hmem, hc⟩

/-- What has the letters of a marker holds no line ending either. -/
theorem IsMarker.of_foldCase_eq (h : IsMarker marker) {part : List Char}
    (hfold : foldCase part = foldCase marker.toList) :
    part ≠ [] ∧ '\n' ∉ part ∧ '\r' ∉ part := by
  obtain ⟨hne, hfeed, hreturn⟩ := h
  refine ⟨?_, ?_, ?_⟩
  · rintro rfl
    exact hne (List.map_eq_nil_iff.1 hfold.symm)
  · rwa [← mem_foldCase_iff rfl (by decide), hfold, mem_foldCase_iff rfl (by decide)]
  · rwa [← mem_foldCase_iff rfl (by decide), hfold, mem_foldCase_iff rfl (by decide)]

/-- A marker is mentioned in some line exactly if it is mentioned in the text. -/
theorem IsMarker.exists_mentions_lines_iff (h : IsMarker marker) {text : List Char} :
    (∃ line ∈ Replace.lines text, Mentions line marker) ↔ Mentions text marker := by
  constructor
  · rintro ⟨line, hline, part, hpart, hfold⟩
    obtain ⟨hne, hfeed, hreturn⟩ := h.of_foldCase_eq hfold
    exact ⟨part, (Replace.exists_infix_lines_iff hne hfeed hreturn).1 ⟨line, hline, hpart⟩, hfold⟩
  · rintro ⟨part, hpart, hfold⟩
    obtain ⟨hne, hfeed, hreturn⟩ := h.of_foldCase_eq hfold
    obtain ⟨line, hline, hinfix⟩ := (Replace.exists_infix_lines_iff hne hfeed hreturn).2 hpart
    exact ⟨line, hline, part, hinfix, hfold⟩

theorem isFailureLine_iff {line : List Char} :
    s.isFailureLine line = true ↔ ∃ marker ∈ s.failureMarkers, Mentions line marker := by
  simp only [isFailureLine, List.any_eq_true, Replace.hasPart_iff, mentions_iff]

theorem verdict_of_exit_zero {output errors : List UInt8} :
    s.verdict (.ended (.exit 0) output errors) =
      .ok !(s.reportsFailure errors || s.reportsFailure output) := rfl

theorem verdict_of_ended_badly {status : ExitStatus} (h : status ≠ .exit 0)
    {output errors : List UInt8} :
    s.verdict (.ended status output errors) =
      .error (.runner (String.ofList (Blank.trim (Utf8.decodeLossy errors)))) :=
  if_neg (by simpa [ExitStatus.isWell] using h)

section Markers

variable (hmarkers : ∀ marker ∈ s.failureMarkers, IsMarker marker)
include hmarkers

/-- An output reports a failure exactly if it mentions a marker anywhere. -/
theorem reportsFailure_iff {output : List UInt8} :
    s.reportsFailure output = true ↔
      ∃ marker ∈ s.failureMarkers, Mentions (Utf8.decodeLossy output) marker := by
  simp only [reportsFailure, List.any_eq_true, isFailureLine_iff]
  constructor
  · rintro ⟨line, hline, marker, hmarker, hmentions⟩
    exact ⟨marker, hmarker,
      (hmarkers marker hmarker).exists_mentions_lines_iff.1 ⟨line, hline, hmentions⟩⟩
  · rintro ⟨marker, hmarker, hmentions⟩
    obtain ⟨line, hline, hin⟩ := (hmarkers marker hmarker).exists_mentions_lines_iff.2 hmentions
    exact ⟨line, hline, marker, hmarker, hin⟩

/-- Both outputs of a program that ended well are weighed alike. -/
theorem verdict_of_ended_well {output errors : List UInt8} :
    s.verdict (.ended (.exit 0) output errors) = .ok true ↔
      ∀ marker ∈ s.failureMarkers, ¬ Mentions (Utf8.decodeLossy errors) marker ∧
        ¬ Mentions (Utf8.decodeLossy output) marker := by
  rw [verdict_of_exit_zero, Except.ok.injEq, Bool.not_eq_true', Bool.or_eq_false_iff,
    ← Bool.not_eq_true, ← Bool.not_eq_true, reportsFailure_iff hmarkers,
    reportsFailure_iff hmarkers]
  constructor
  · rintro ⟨herrors, houtput⟩ marker hmarker
    exact ⟨fun h => herrors ⟨marker, hmarker, h⟩, fun h => houtput ⟨marker, hmarker, h⟩⟩
  · intro h
    constructor
    · rintro ⟨marker, hmarker, hmentions⟩
      exact (h marker hmarker).1 hmentions
    · rintro ⟨marker, hmarker, hmentions⟩
      exact (h marker hmarker).2 hmentions

/-- Exactly the executions pass that give nothing to object to. -/
theorem passed_verdict_iff {execution : Execution} :
    (s.verdict execution).passed = true ↔ s.IsClean execution := by
  rw [Verdict.passed_eq_true_iff]
  cases execution with
  | notStarted cause => simp [verdict, IsClean]
  | ended status output errors =>
    by_cases hwell : status = .exit 0
    · subst hwell
      rw [verdict_of_ended_well hmarkers]
      constructor
      · exact fun h => ⟨output, errors, rfl, h⟩
      · rintro ⟨_, _, hended, h⟩
        obtain ⟨-, rfl, rfl⟩ := Execution.ended.inj hended
        exact h
    · simp [verdict_of_ended_badly hwell, IsClean, hwell]

end Markers

/-! ## Warnings -/

/-- A run is warned of exactly if there is no verdict on it. -/
theorem warnings_eq_nil_iff {execution : Execution} :
    s.warnings execution = [] ↔ ∃ passed, s.verdict execution = .ok passed := by
  cases execution with
  | notStarted cause => simp [warnings, verdict, Verdict.warnings]
  | ended status output errors =>
    by_cases hwell : status = .exit 0
    · subst hwell
      simp [warnings, verdict_of_exit_zero, Verdict.warnings, ExitStatus.isWell]
    · simp [warnings, verdict_of_ended_badly hwell, Verdict.warnings]

/-- Keeping the warnings changes no verdict and no program; a run adds its own to them. -/
theorem execute_judge_logging {σ : Type} (launch : String → List String → σ → Execution × σ)
    (j : σ) (log : List Warning) (code : List UInt8) :
    (s.judge (s.logging launch)).execute (j, log) code =
      let (verdict, after) := (s.judge launch).execute j code
      (verdict, after, log ++ s.warnings (launch s.program (s.fillArguments code) j).1) :=
  rfl

end RunnerSettings

/-! ## Attempts -/

namespace Attempt

/-- What becomes of an attempt that has taken a solution is settled by the verdict on the
code that its report names, given by the judge as it was before. -/
theorem Underway.stage_iff {σ : Type} {judge : Judge σ} {j : σ} {t : Template} {s : Solution}
    {resolved : List UInt8} {n : Nat} {p : Attempt × σ}
    (h : Underway judge j t s resolved n p) (report : Report) :
    (p.1.stage = .solved report ↔
        p.1.stage.report? = some report ∧ (judge.execute j report.resolved).1.passed = true) ∧
      (p.1.stage = .rejected report ↔
        p.1.stage.report? = some report ∧ ¬ (judge.execute j report.resolved).1.passed = true) := by
  cases h with
  | resolving => simp [Stage.report?]
  | judging => simp [Stage.report?]
  | judged =>
    by_cases hpassed : (judge.execute j resolved).1.passed = true
    · have hstage : (Attempt.judged judge j t s resolved n).1.stage =
          .solved (reportOn judge j s resolved n) := if_pos hpassed
      rw [hstage]
      refine ⟨⟨?_, ?_⟩, ⟨?_, ?_⟩⟩
      · rintro ⟨⟩
        exact ⟨rfl, hpassed⟩
      · rintro ⟨⟨⟩, -⟩
        rfl
      · rintro ⟨⟩
      · rintro ⟨⟨⟩, hnot⟩
        exact absurd hpassed hnot
    · have hstage : (Attempt.judged judge j t s resolved n).1.stage =
          .rejected (reportOn judge j s resolved n) := if_neg hpassed
      rw [hstage]
      refine ⟨⟨?_, ?_⟩, ⟨?_, ?_⟩⟩
      · rintro ⟨⟩
      · rintro ⟨⟨⟩, hok⟩
        exact absurd hok hpassed
      · rintro ⟨⟩
        exact ⟨rfl, hpassed⟩
      · rintro ⟨⟨⟩, -⟩
        rfl

/-- The same, after any calls of a new attempt. -/
theorem stage_afterCalls_iff {σ : Type} (judge : Judge σ) (j : σ) {t : Template}
    (hresolve : ∀ s, ∃ resolved, t.resolve s = .ok resolved) (calls : List Call)
    (report : Report) :
    let stage := (afterCalls judge (start t, j) calls).1.stage
    (stage = .solved report ↔
        stage.report? = some report ∧ (judge.execute j report.resolved).1.passed = true) ∧
      (stage = .rejected report ↔
        stage.report? = some report ∧ ¬ (judge.execute j report.resolved).1.passed = true) := by
  rcases afterCalls_awaiting judge j hresolve 0 calls with
    ⟨-, hp⟩ | ⟨_, _, _, _, _, -, -, -, -, hunderway⟩
  · have hstage : (afterCalls judge (start t, j) calls).1.stage = .awaiting :=
      congrArg (·.1.stage) hp
    rw [hstage]
    simp [Stage.report?]
  · exact hunderway.stage_iff report

end Attempt

/-! ## Main theorem -/

namespace RunnerSettings

/-- The verdict of a program is a verdict on all that it wrote.

Whatever program is started and whatever becomes of it, as long as the failure markers
can be looked for: the judge fails to launch exactly if the program was not started, it
reports the program's own failure exactly if the program did not end well, whatever was
written, and otherwise it gives a verdict, which lets the run pass exactly if no marker is
mentioned anywhere in the error output or anywhere in the output.  So an attempt at an
accepted template that is brought to its end with this judge, by whatever calls, is solved
exactly if the program started for the resolved code gave nothing to object to. -/
theorem verdict_weighs_whole_output {σ : Type} {s : RunnerSettings}
    (hmarkers : ∀ marker ∈ s.failureMarkers, IsMarker marker)
    (launch : String → List String → σ → Execution × σ) (j : σ) :
    (∀ code,
      let execution := (launch s.program (s.fillArguments code) j).1
      let verdict := ((s.judge launch).execute j code).1
      ((∃ program cause, verdict = .error (.launch program cause)) ↔
        ∃ cause, execution = .notStarted cause) ∧
      ((∃ report, verdict = .error (.runner report)) ↔
        ∃ status output errors, status ≠ .exit 0 ∧ execution = .ended status output errors) ∧
      ∀ output errors, execution = .ended (.exit 0) output errors →
        ∃ passed, verdict = .ok passed ∧
          (passed = true ↔ ∀ marker ∈ s.failureMarkers,
            ¬ Mentions (Utf8.decodeLossy errors) marker ∧
              ¬ Mentions (Utf8.decodeLossy output) marker)) ∧
    ∀ id code t, Template.ofCode id code = .ok t → ∀ calls report,
      let stage := (Attempt.afterCalls (s.judge launch) (Attempt.start t, j) calls).1.stage
      let execution := (launch s.program (s.fillArguments report.resolved) j).1
      (stage = .solved report ↔ stage.report? = some report ∧ s.IsClean execution) ∧
        (stage = .rejected report ↔ stage.report? = some report ∧ ¬ s.IsClean execution) := by
  constructor
  · intro code execution verdict
    have hverdict : verdict = s.verdict execution := rfl
    clear_value execution verdict
    subst hverdict
    cases execution with
    | notStarted cause => simp [RunnerSettings.verdict]
    | ended status output errors =>
      by_cases hwell : status = .exit 0
      · subst hwell
        refine ⟨by simp [verdict_of_exit_zero], by simp [verdict_of_exit_zero], ?_⟩
        rintro _ _ ⟨⟩
        refine ⟨_, verdict_of_exit_zero, ?_⟩
        rw [← verdict_of_ended_well hmarkers, verdict_of_exit_zero, Except.ok.injEq]
      · simp [verdict_of_ended_badly hwell, hwell]
  · intro id code t ht calls report stage execution
    have hplayable := (Template.ofCode_eq_ok_iff.1 ht).2.2
    have hpassed : ((s.judge launch).execute j report.resolved).1.passed = true ↔
        s.IsClean execution := passed_verdict_iff hmarkers
    rw [← hpassed]
    exact Attempt.stage_afterCalls_iff _ j (fun s => ⟨_, hplayable.resolve_eq s⟩) calls report

/-- A marker is found in the error output in other letters, at the end of a line and behind
a byte that is no text, and the attempt is rejected; a program that writes no marker in one
piece lets it be solved. -/
theorem verdict_on_two_programs :
    (∀ marker ∈ usual.failureMarkers, IsMarker marker) ∧
    ∃ t, Template.ofCode 0 [0xCC, 0xCC, 0xCC] = .ok t ∧
      let loud : String → List String → Unit → Execution × Unit := fun _ _ _ =>
        (.ended (.exit 0) [0x30, 0x78] (0xFF :: Utf8.encodeString "execution REVERT\r\n"), ())
      let quiet : String → List String → Unit → Execution × Unit := fun _ _ _ =>
        (.ended (.exit 0) (Utf8.encodeString "rever\nt\n") [], ())
      let calls : List Attempt.Call := [.submit "040201", .step, .step]
      (∃ report, (Attempt.afterCalls (usual.judge loud) (Attempt.start t, ()) calls).1.stage =
          .rejected report) ∧
        ∃ report, (Attempt.afterCalls (usual.judge quiet) (Attempt.start t, ()) calls).1.stage =
          .solved report := by
  have hmarkers : ∀ marker ∈ usual.failureMarkers, IsMarker marker := by decide
  let t : Template :=
    ⟨0, [0xCC, 0xCC, 0xCC], [.bare 0 placeholder, .bare 1 placeholder, .bare 2 placeholder]⟩
  have ht : Template.ofCode 0 [0xCC, 0xCC, 0xCC] = .ok t :=
    Template.ofCode_eq_ok_iff.2 ⟨rfl, rfl, disassemble_eq_ok_iff.2 (by decide), by decide, rfl⟩
  refine ⟨hmarkers, t, ht, ?_⟩
  intro loud quiet calls
  have hloud : ¬ usual.IsClean (loud "evm" [] ()).1 := by
    rw [← passed_verdict_iff hmarkers]
    decide
  have hquiet : usual.IsClean (quiet "evm" [] ()).1 := by
    rw [← passed_verdict_iff hmarkers]
    decide
  exact ⟨⟨_, ((verdict_weighs_whole_output hmarkers loud ()).2 0 _ t ht calls _).2.2 ⟨rfl, hloud⟩⟩,
    _, ((verdict_weighs_whole_output hmarkers quiet ()).2 0 _ t ht calls _).1.2 ⟨rfl, hquiet⟩⟩

end RunnerSettings
end MakeTen

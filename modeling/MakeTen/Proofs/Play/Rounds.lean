import MakeTen.Proofs.Play.Scores
/-!
# Rounds

A player sees rounds: a puzzle with its number, texts that are turned away, and
at last, unless the lines run out, a solution that is tried.  Its trial is shown
as a second listing, a verdict, a link and a question.  A round says word by word
what is shown in it, which lines are heard in it and which code is judged.

Rounds that belong together make a tale.  The last round of a tale may go on: one
more line may be turned away, a solution may be tried, a line may be no answer, an
answer may end the round, and the next round may follow.

Main results:

- Theorem `titleBanner_eq`: what the title of a puzzle looks like.
- Structures `Opening`, `Trial`, `Round`: what a round consists of.
- Structures `Trial.Sound`, `Round.Sound`: what holds of a round.
- Relation `Round.Leads`: how a round leads to the next.
- Structure `Tale`: rounds that belong together and tell a text, lines and runs.
- Theorems `Tale.turnAway`, `Tale.trial`, `Tale.unclear`, `Tale.reply`,
  `Tale.again`, `Tale.next`: how a tale goes on.
-/

namespace MakeTen

variable {π σ : Type}

/-! ## What is shown in a round -/

/-- The line that is shown for a verdict. -/
def Verdict.line : Verdict → String
  | .ok true => "Puzzle solved!"
  | _ => "Wrong solution :("

/-- The question that is asked after a verdict. -/
def Verdict.question : Verdict → String
  | .ok true => "Do you want to play the next puzzle? (Y/n)"
  | _ => "Do you want to try again? (Y/n)"

/-- The line and the question are those for the outcome of the verdict. -/
theorem Verdict.line_eq (v : Verdict) : v.line = (Display.verdictSpan v.outcome).text := by
  cases v with
  | error fault => rfl
  | ok passed => cases passed <;> rfl

theorem Verdict.question_eq (v : Verdict) : v.question = (Prompt.goOn v.outcome).text := by
  cases v with
  | error fault => rfl
  | ok passed => cases passed <;> rfl

/-- A trial solves the puzzle exactly if the verdict is that the run passed. -/
theorem Verdict.outcome_eq_solved_iff {v : Verdict} : v.outcome = .solved ↔ v = .ok true := by
  rw [← Verdict.passed_eq_true_iff, Verdict.outcome]
  split <;> simp [*]

/-- A question asked a number of times in a row. -/
def asked (question : String) (times : Nat) : String :=
  String.join (List.replicate times ("? " ++ question ++ " "))

theorem asked_succ (question : String) (n : Nat) :
    asked question (n + 1) = asked question n ++ asked question 1 := by
  rw [asked, List.replicate_succ', String.join_append]
  rfl

/-- A line between two lines of hash signs, which are as long as it is. -/
def framed (line : String) : String :=
  let rule := String.ofList (List.replicate line.length '#')
  rule ++ "\n" ++ line ++ "\n" ++ rule ++ "\n"

/-- The title of a puzzle is its number between hash signs, in a frame of them. -/
theorem titleBanner_eq (number : Nat) :
    titleBanner number = framed ("# Puzzle " ++ toString number ++ " #") := by
  have hfront : "# Puzzle " = "# " ++ "Puzzle " := rfl
  have hopen : "\n# " = "\n" ++ "# " := rfl
  have hclose : " #\n" = " #" ++ "\n" := rfl
  have hlength : ("# " ++ "Puzzle " ++ toString number ++ " #").length =
      ("Puzzle " ++ toString number).length + 4 := by
    have hmarks : "# ".length = 2 ∧ " #".length = 2 := ⟨rfl, rfl⟩
    simp only [String.length_append, hmarks]
    omega
  rw [titleBanner, framed, hfront, hopen, hclose, hlength]
  simp only [String.append_assoc]

example : titleBanner 7 = "############\n# Puzzle 7 #\n############\n" := by decide

/-- What a round starts from. -/
structure Opening (σ : Type) where
  score : Score
  judge : σ
  template : Template

/-- The number of the puzzle in its frame, and the first listing. -/
def Opening.text (o : Opening σ) : String :=
  framed ("# Puzzle " ++ toString o.score.puzzleNumber ++ " #") ++ "\n" ++
    Listing.render o.template.instructions ++ "\n"

/-- A solution that is tried, and what comes of it. -/
structure Trial where
  line : String
  solution : Solution
  code : List UInt8
  instructions : List Instruction
  verdict : Verdict
  link : String
  /-- The lines that are no answer to the question. -/
  unclear : List String
  /-- The line that is an answer, unless the lines run out. -/
  reply : Option String

namespace Trial

/-- The second listing, the verdict and the link. -/
def report (t : Trial) : String :=
  "\n" ++ Listing.render t.instructions ++ "\n" ++ t.verdict.line ++ "\n" ++ "\n" ++
    "Run it in evm.codes: " ++ t.link ++ "\n" ++ "\n"

/-- The report and the question, with an end to its line once it has been answered. -/
def text (t : Trial) : String :=
  t.report ++ asked t.verdict.question (t.unclear.length + 1) ++
    if t.reply.isSome then "\n" else ""

/-- The lines that are heard from the solution on. -/
def lines (t : Trial) : List String :=
  t.line :: t.unclear ++ t.reply.toList

end Trial

/-- A round: an opening, lines that are no solutions, and a trial unless the lines
run out. -/
structure Round (σ : Type) extends Opening σ where
  /-- The lines that are no solutions. -/
  turnedAway : List String
  trial : Option Trial

namespace Round

/-- Everything that is shown in a round. -/
def text (r : Round σ) : String :=
  r.toOpening.text ++ asked "Enter the opcodes unseparated:" (r.turnedAway.length + 1) ++
    (r.trial.map Trial.text).getD ""

/-- The lines that are heard in a round. -/
def lines (r : Round σ) : List String :=
  r.turnedAway ++ (r.trial.map Trial.lines).getD []

/-- The code that is judged in a round, with the verdict. -/
def runs (r : Round σ) : List (List UInt8 × Verdict) :=
  (r.trial.map fun t => (t.code, t.verdict)).toList

/-- The counters after a round. -/
def scoreAfter (r : Round σ) : Score :=
  match r.trial with
  | none => r.score
  | some t => r.score.record t.verdict.outcome r.turnedAway.length

end Round

/-! ## What a round has to be like -/

/-- Two lists of instructions are the same but for three slots in the first one, in
whose places the second one has the operators of the solution. -/
def FillsSlots (shown : List Instruction) (s : Solution) (filled : List Instruction) : Prop :=
  ∃ a b c d p q r, (∀ i ∈ a ++ b ++ c ++ d, i.isSlot = false) ∧
    shown = a ++ ⟨p, placeholder, .insert, []⟩ :: (b ++ ⟨q, placeholder, .insert, []⟩ ::
      (c ++ ⟨r, placeholder, .insert, []⟩ :: d)) ∧
    filled = a ++ ⟨p, s.first.byte, s.first.mnemonic, []⟩ ::
      (b ++ ⟨q, s.second.byte, s.second.mnemonic, []⟩ ::
        (c ++ ⟨r, s.third.byte, s.third.mnemonic, []⟩ :: d))

/-- A trial is what it has to be: the line names the solution, the code is the
puzzle with the solution in its slots, what is shown is that code and the link to
it, and the verdict is the one that the judge gives on it. -/
structure Trial.Sound (judge : Judge σ) (o : Opening σ) (t : Trial) : Prop where
  named : Solution.ofText? (Blank.trimmed t.line) = some t.solution
  resolved : o.template.resolve t.solution = .ok t.code
  decoded : disassemble t.code = .ok t.instructions
  /-- They are those of the puzzle, with the solution in the slots. -/
  filled : FillsSlots o.template.instructions t.solution t.instructions
  judged : t.verdict = (judge.execute o.judge t.code).1
  linked : t.link = (judge.link (judge.execute o.judge t.code).2 t.code).1
  unclear : ∀ line ∈ t.unclear, answer? line = none
  replied : ∀ line ∈ t.reply, (answer? line).isSome = true

/-- A round is what it has to be: the puzzle is the one of the counters, the lines
that are passed over are no solutions, and the trial is sound. -/
structure Round.Sound (g : Game π σ) (r : Round σ) : Prop where
  shown : g.corpus.get? r.score.puzzleIndex = some r.template
  turnedAway : ∀ line ∈ r.turnedAway, Solution.ofText? (Blank.trimmed line) = none
  trial : ∀ t ∈ r.trial, t.Sound g.judge r.toOpening

/-- A round leads to the opening of the next one: the player has said yes, the
judge and the counters go on, and the puzzle is the next one that is picked if the
verdict was that the run passed, and otherwise the same one under the same
number. -/
def Round.Leads (g : Game π σ) (picker : π) (r : Round σ) (next : Opening σ) : Prop :=
  ∃ t line, r.trial = some t ∧ t.reply = some line ∧ answer? line = some true ∧
    next.judge = (g.judge.link (g.judge.execute r.judge t.code).2 t.code).2 ∧
    (t.verdict = .ok true →
      next.score = r.scoreAfter.advance (g.picked picker r.score.puzzleNumber)) ∧
    (t.verdict ≠ .ok true → next.score = r.scoreAfter ∧
      next.score.puzzleNumber = r.score.puzzleNumber ∧ next.template = r.template)

/-- A round is the last one, with some lines left that nobody hears: the player has
said no, or has said nothing and there are no lines left. -/
def Round.Ends (r : Round σ) (unheard : List String) : Prop :=
  (∃ t line, r.trial = some t ∧ t.reply = some line ∧ answer? line = some false) ∨
    ((∀ t ∈ r.trial, t.reply = none) ∧ unheard = [])

/-- Rounds that belong together: the first one starts a session, each one leads to
the next, and all of them together tell a text, lines and runs. -/
structure Tale (g : Game π σ) (picker : π) (judge : σ) (rounds : List (Round σ)) (text : String)
    (lines : List String) (runs : List (List UInt8 × Verdict)) : Prop where
  text_eq : text = String.join (rounds.map Round.text)
  lines_eq : lines = rounds.flatMap Round.lines
  runs_eq : runs = rounds.flatMap Round.runs
  sound : ∀ r ∈ rounds, r.Sound g
  leads : rounds.IsChain fun r next => r.Leads g picker next.toOpening
  /-- The first round starts with the first puzzle that is picked. -/
  first : ∃ r ∈ rounds.head?, r.score = .start (g.picked picker 0) ∧ r.judge = judge

namespace Tale

variable {g : Game π σ} {picker : π} {judge : σ} {earlier : List (Round σ)} {last : Round σ}
  {text : String} {lines : List String} {runs : List (List UInt8 × Verdict)}

theorem sound_last (h : Tale g picker judge (earlier ++ [last]) text lines runs) :
    last.Sound g :=
  h.sound last (List.mem_append_right earlier (List.mem_singleton_self last))

/-- The last round of a tale may go on. -/
theorem update (h : Tale g picker judge (earlier ++ [last]) text lines runs) (last' : Round σ)
    {moreText : String} {moreLines : List String} {moreRuns : List (List UInt8 × Verdict)}
    (hopening : last'.toOpening = last.toOpening) (hsound : last'.Sound g)
    (htext : last'.text = last.text ++ moreText) (hlines : last'.lines = last.lines ++ moreLines)
    (hruns : last'.runs = last.runs ++ moreRuns) :
    Tale g picker judge (earlier ++ [last']) (text ++ moreText) (lines ++ moreLines)
      (runs ++ moreRuns) where
  text_eq := by
    rw [h.text_eq]
    simp only [List.map_append, String.join_append, List.map_cons, List.map_nil, String.join_cons,
      String.join_nil, String.append_empty, htext, String.append_assoc]
  lines_eq := by
    rw [h.lines_eq]
    simp only [List.flatMap_append, List.flatMap_singleton, hlines, List.append_assoc]
  runs_eq := by
    rw [h.runs_eq]
    simp only [List.flatMap_append, List.flatMap_singleton, hruns, List.append_assoc]
  sound := by
    have hearlier := h.sound
    rw [List.forall_mem_append] at hearlier ⊢
    exact ⟨hearlier.1, by simpa using hsound⟩
  leads := by
    -- The round before leads to an opening only, and that stays.
    have hchain := h.leads
    rw [List.isChain_append] at hchain ⊢
    refine ⟨hchain.1, .singleton _, ?_⟩
    simpa [hopening] using hchain.2.2
  first := by
    obtain ⟨r, hr, hscore, hjudge⟩ := h.first
    cases earlier with
    | nil =>
      obtain rfl : last = r := by simpa using hr
      exact ⟨last', rfl, by rw [hopening, hscore], by rw [hopening, hjudge]⟩
    | cons r' earlier => exact ⟨r, hr, hscore, hjudge⟩

/-- A tale goes on with the round to which the last one leads. -/
theorem push (h : Tale g picker judge (earlier ++ [last]) text lines runs) {next : Opening σ}
    (hleads : last.Leads g picker next)
    (hnext : g.corpus.get? next.score.puzzleIndex = some next.template) :
    Tale g picker judge (earlier ++ [last] ++ [⟨next, [], none⟩])
      (text ++ Round.text ⟨next, [], none⟩) lines runs where
  text_eq := by
    simp [h.text_eq, String.append_assoc]
  lines_eq := by
    rw [h.lines_eq, List.flatMap_append]
    simp [Round.lines]
  runs_eq := by
    rw [h.runs_eq, List.flatMap_append]
    simp [Round.runs]
  sound := by
    rw [List.forall_mem_append]
    exact ⟨h.sound, by simpa using ⟨hnext, by simp, by simp⟩⟩
  leads := by
    rw [List.isChain_append]
    exact ⟨h.leads, .singleton _, by simpa using hleads⟩
  first := by
    obtain ⟨r, hr, hscore, hjudge⟩ := h.first
    refine ⟨r, ?_, hscore, hjudge⟩
    rw [List.head?_append, Option.mem_def.1 hr]
    rfl

end Tale

/-! ## How a round goes on -/

namespace Round

variable (o : Opening σ) (away : List String) (line : String) (t : Trial)

/-- A line that is turned away has the prompt shown once more. -/
theorem text_turnedAway_append :
    (⟨o, away ++ [line], none⟩ : Round σ).text =
      (⟨o, away, none⟩ : Round σ).text ++ asked "Enter the opcodes unseparated:" 1 := by
  simp only [text, List.length_append, List.length_singleton, asked_succ _ (away.length + 1),
    Option.map_none, Option.getD_none, String.append_empty, String.append_assoc]

/-- A trial is shown behind the prompts. -/
theorem text_some :
    (⟨o, away, some t⟩ : Round σ).text = (⟨o, away, none⟩ : Round σ).text ++ t.text := by
  simp [text]

end Round

namespace Trial

variable {t : Trial}

/-- A line that is no answer has the question shown once more. -/
theorem text_unclear_append (hreply : t.reply = none) (line : String) :
    Trial.text { t with unclear := t.unclear ++ [line] } =
      t.text ++ asked t.verdict.question 1 := by
  have hreport : Trial.report { t with unclear := t.unclear ++ [line] } = t.report := rfl
  rw [text, hreport, text]
  simp [hreply, asked_succ _ (t.unclear.length + 1), String.append_assoc]

/-- An answer ends the line of the question. -/
theorem text_reply (hreply : t.reply = none) (line : String) :
    Trial.text { t with reply := some line } = t.text ++ "\n" := by
  have hreport : Trial.report { t with reply := some line } = t.report := rfl
  rw [text, hreport, text]
  simp [hreply]

end Trial

/-- The trial that comes of a line with a solution. -/
def Opening.trialOf (judge : Judge σ) (o : Opening σ) (line : String) (s : Solution) : Trial where
  line := line
  solution := s
  code := fill o.template.code s.bytes
  instructions := fillSlots o.template.instructions s.bytes
  verdict := (judge.execute o.judge (fill o.template.code s.bytes)).1
  link := (judge.page o.judge (fill o.template.code s.bytes)).1
  unclear := []
  reply := none

/-- A trial at a playable puzzle is sound. -/
theorem Opening.sound_trialOf {judge : Judge σ} {o : Opening σ} (ht : o.template.Playable)
    {line : String} {s : Solution} (hline : Solution.ofText? (Blank.trimmed line) = some s) :
    (o.trialOf judge line s).Sound judge o where
  named := hline
  resolved := ht.resolve_eq s
  decoded := ht.disassemble_resolved s
  filled := ht.exists_fillSlots_eq s
  judged := rfl
  linked := rfl
  unclear := by simp [trialOf]
  replied := by simp [trialOf]

namespace Tale

variable {g : Game π σ} {picker : π} {judge : σ} {earlier : List (Round σ)} {o : Opening σ}
  {away : List String} {t : Trial} {text : String} {lines : List String}
  {runs : List (List UInt8 × Verdict)} {line : String}

/-- One more line may be turned away in the last round. -/
theorem turnAway (h : Tale g picker judge (earlier ++ [⟨o, away, none⟩]) text lines runs)
    (hline : Solution.ofText? (Blank.trimmed line) = none) :
    Tale g picker judge (earlier ++ [⟨o, away ++ [line], none⟩])
      (text ++ asked "Enter the opcodes unseparated:" 1) (lines ++ [line]) runs := by
  have hsound : (⟨o, away ++ [line], none⟩ : Round σ).Sound g := by
    refine ⟨h.sound_last.shown, ?_, h.sound_last.trial⟩
    simpa only [List.forall_mem_append, List.forall_mem_singleton] using
      ⟨h.sound_last.turnedAway, hline⟩
  have hlines : (⟨o, away ++ [line], none⟩ : Round σ).lines =
      (⟨o, away, none⟩ : Round σ).lines ++ [line] := by simp [Round.lines]
  have htale := h.update ⟨o, away ++ [line], none⟩ rfl hsound
    (Round.text_turnedAway_append o away line) hlines (List.append_nil _).symm
  rwa [List.append_nil] at htale

/-- A solution may be tried in the last round. -/
theorem trial (h : Tale g picker judge (earlier ++ [⟨o, away, none⟩]) text lines runs)
    (ht : t.Sound g.judge o) (hlines : t.lines = [line]) :
    Tale g picker judge (earlier ++ [⟨o, away, some t⟩]) (text ++ t.text) (lines ++ [line])
      (runs ++ [(t.code, t.verdict)]) := by
  have hsound : (⟨o, away, some t⟩ : Round σ).Sound g :=
    ⟨h.sound_last.shown, h.sound_last.turnedAway, by simpa using ht⟩
  refine h.update ⟨o, away, some t⟩ rfl hsound (Round.text_some o away t) ?_ rfl
  simp [Round.lines, hlines]

/-- The trial of the last round may go on. -/
theorem updateTrial (h : Tale g picker judge (earlier ++ [⟨o, away, some t⟩]) text lines runs)
    (t' : Trial) {moreText : String} (ht : t'.Sound g.judge o)
    (htext : t'.text = t.text ++ moreText) (hlines : t'.lines = t.lines ++ [line])
    (hcode : t'.code = t.code) (hverdict : t'.verdict = t.verdict) :
    Tale g picker judge (earlier ++ [⟨o, away, some t'⟩]) (text ++ moreText) (lines ++ [line])
      runs := by
  have hsound : (⟨o, away, some t'⟩ : Round σ).Sound g :=
    ⟨h.sound_last.shown, h.sound_last.turnedAway, by simpa using ht⟩
  have hmore : (⟨o, away, some t'⟩ : Round σ).text =
      (⟨o, away, some t⟩ : Round σ).text ++ moreText := by
    rw [Round.text_some, Round.text_some, htext, String.append_assoc]
  have hheard : (⟨o, away, some t'⟩ : Round σ).lines =
      (⟨o, away, some t⟩ : Round σ).lines ++ [line] := by simp [Round.lines, hlines]
  have hjudged : (⟨o, away, some t'⟩ : Round σ).runs =
      (⟨o, away, some t⟩ : Round σ).runs ++ [] := by simp [Round.runs, hcode, hverdict]
  have htale := h.update ⟨o, away, some t'⟩ rfl hsound hmore hheard hjudged
  rwa [List.append_nil] at htale

/-- One more line may be no answer. -/
theorem unclear (h : Tale g picker judge (earlier ++ [⟨o, away, some t⟩]) text lines runs)
    (hreply : t.reply = none) (hline : answer? line = none) :
    Tale g picker judge (earlier ++ [⟨o, away, some { t with unclear := t.unclear ++ [line] }⟩])
      (text ++ asked t.verdict.question 1) (lines ++ [line]) runs := by
  have ht := h.sound_last.trial t rfl
  refine h.updateTrial _ ⟨ht.named, ht.resolved, ht.decoded, ht.filled, ht.judged, ht.linked, ?_,
    ht.replied⟩ (Trial.text_unclear_append hreply line) ?_ rfl rfl
  · simpa only [List.forall_mem_append, List.forall_mem_singleton] using ⟨ht.unclear, hline⟩
  · simp [Trial.lines, hreply]

/-- The last round may end with an answer. -/
theorem reply (h : Tale g picker judge (earlier ++ [⟨o, away, some t⟩]) text lines runs)
    (hreply : t.reply = none) (hline : (answer? line).isSome = true) :
    Tale g picker judge (earlier ++ [⟨o, away, some { t with reply := some line }⟩])
      (text ++ "\n") (lines ++ [line]) runs := by
  have ht := h.sound_last.trial t rfl
  refine h.updateTrial _ ⟨ht.named, ht.resolved, ht.decoded, ht.filled, ht.judged, ht.linked,
    ht.unclear, by simpa using hline⟩ (Trial.text_reply hreply line) ?_ rfl rfl
  simp [Trial.lines, hreply]

/-- After a rejection the player may go on with the same puzzle. -/
theorem again (h : Tale g picker judge (earlier ++ [⟨o, away, some t⟩]) text lines runs)
    (hreply : t.reply = none) (hline : answer? line = some true) (hverdict : t.verdict ≠ .ok true)
    {next : Opening σ} (hjudge : next.judge = (g.judge.page o.judge t.code).2)
    (hscore : next.score = (⟨o, away, some t⟩ : Round σ).scoreAfter)
    (hnext : g.corpus.get? next.score.puzzleIndex = some next.template) :
    Tale g picker judge
      (earlier ++ [⟨o, away, some { t with reply := some line }⟩] ++ [⟨next, [], none⟩])
      (text ++ ("\n" ++ (⟨next, [], none⟩ : Round σ).text)) (lines ++ [line]) runs := by
  have hsame : next.template = o.template := by
    rw [hscore] at hnext
    exact Option.some.inj (hnext.symm.trans h.sound_last.shown)
  have hnumber : next.score.puzzleNumber = o.score.puzzleNumber := by
    rw [hscore]
    rfl
  have hleads : (⟨o, away, some { t with reply := some line }⟩ : Round σ).Leads g picker next :=
    ⟨_, line, rfl, rfl, hline, hjudge, fun hok => absurd hok hverdict,
      fun _ => ⟨hscore, hnumber, hsame⟩⟩
  rw [← String.append_assoc]
  exact (h.reply hreply (by simp [hline])).push hleads hnext

/-- After a solution the player may go on with the next puzzle. -/
theorem next (h : Tale g picker judge (earlier ++ [⟨o, away, some t⟩]) text lines runs)
    (hreply : t.reply = none) (hline : answer? line = some true) (hverdict : t.verdict = .ok true)
    {next : Opening σ} (hjudge : next.judge = (g.judge.page o.judge t.code).2)
    (hscore : next.score = (⟨o, away, some t⟩ : Round σ).scoreAfter.advance
      (g.picked picker o.score.puzzleNumber))
    (hnext : g.corpus.get? next.score.puzzleIndex = some next.template) :
    Tale g picker judge
      (earlier ++ [⟨o, away, some { t with reply := some line }⟩] ++ [⟨next, [], none⟩])
      (text ++ ("\n" ++ (⟨next, [], none⟩ : Round σ).text)) (lines ++ [line]) runs := by
  have hleads : (⟨o, away, some { t with reply := some line }⟩ : Round σ).Leads g picker next :=
    ⟨_, line, rfl, rfl, hline, hjudge, fun _ => hscore, fun hnot => absurd hverdict hnot⟩
  rw [← String.append_assoc]
  exact (h.reply hreply (by simp [hline])).push hleads hnext

end Tale

end MakeTen

import MakeTen.Proofs.Play.Rounds
/-!
# Playthroughs told in rounds

A session stands in the last round of a tale, which tells what has been played so
far: everything that was shown, the lines that were heard and the code that was
judged.  Each of the six things that hearing a line can do is one way in which a
tale goes on.

Main results:

- Function `transcript`: what events show on a plain terminal.
- Relation `Session.At`: where a session stands in its last round.
- Theorem `Session.Played.told`: what has been played is told by rounds.
- Theorem `Playthrough.shown_is_judged`: so is every plain playthrough that comes
  to its end.
-/

namespace MakeTen

variable {π σ : Type}

/-! ## What events show -/

/-- What an event shows on a plain terminal. -/
def Event.text : Event → String
  | .shown display => display.render false
  | _ => ""

/-- What events show on a plain terminal. -/
def transcript (events : List Event) : String :=
  String.join (events.map Event.text)

theorem transcript_cons (event : Event) (events : List Event) :
    transcript (event :: events) = event.text ++ transcript events := by
  rw [transcript, List.map_cons, String.join_cons]
  rfl

theorem transcript_append (events more : List Event) :
    transcript (events ++ more) = transcript events ++ transcript more := by
  rw [transcript, List.map_append, String.join_append]
  rfl

/-- What events send to a plain terminal is what they show. -/
theorem flatMap_output_false (events : List Event) :
    events.flatMap (Event.output false) = Utf8.encodeString (transcript events) := by
  have hbytes : Event.output false = fun e => Utf8.encode e.text.toList := by
    funext e
    cases e <;> rfl
  rw [hbytes, Utf8.encodeString, transcript, String.toList_join, Utf8.encode, List.flatMap_map,
    List.flatMap_assoc]
  rfl

namespace Event

/-- What a session shows, word by word. -/
theorem text_shown (display : Display) :
    (Event.shown display).text = Span.words display.spans := by
  rw [Event.text, Display.render, Span.renderAll_false]

@[simp]
theorem text_welcome : (Event.shown .welcome).text = Display.welcomeText ++ "\n" := by
  simp [text_shown, Span.words, Display.spans, Span.plain]

@[simp]
theorem text_banner (n : Nat) :
    (Event.shown (.banner n)).text = framed ("# Puzzle " ++ toString n ++ " #") ++ "\n" := by
  simp [text_shown, Span.words, Display.spans, Span.plain, titleBanner_eq]

@[simp]
theorem text_listing (is : List Instruction) :
    (Event.shown (.listing is)).text = Listing.render is := rfl

@[simp]
theorem text_blankLine : (Event.shown .blankLine).text = "\n" := by
  simp [text_shown, Span.words, Display.spans, Span.plain]

/-- A prompt shows its question once. -/
@[simp]
theorem text_prompt (p : Prompt) : (Event.shown (.prompt p)).text = asked p.text 1 := by
  simp [text_shown, Span.words, Display.spans, Span.plain, Span.tinted, asked, String.append_assoc]

@[simp]
theorem text_verdict (v : Verdict) :
    (Event.shown (.verdict v.outcome)).text = v.line ++ "\n" := by
  simp [text_shown, Span.words, Display.spans, Span.plain, Verdict.line_eq]

@[simp]
theorem text_link (address : String) :
    (Event.shown (.link address)).text = "Run it in evm.codes: " ++ address ++ "\n" := by
  simp [text_shown, Span.words, Display.spans, Span.plain]

@[simp]
theorem text_farewell : (Event.shown .farewell).text = "Thanks for playing!\n" := by
  simp [text_shown, Span.words, Display.spans, Span.plain, Display.farewellText]

@[simp]
theorem text_heard (line : String) (use : Use) : (Event.heard line use).text = "" := rfl

@[simp]
theorem text_judged (code : List UInt8) (outcome : Outcome) :
    (Event.judged code outcome).text = "" := rfl

@[simp]
theorem text_drew (index : Nat) : (Event.drew index).text = "" := rfl

end Event

namespace Session

/-- The start of a round shows its opening and the prompt. -/
theorem transcript_roundEvents (o : Opening σ) :
    transcript (roundEvents o.score.puzzleNumber o.template) =
      Round.text (⟨o, [], none⟩ : Round σ) := by
  simp [transcript, roundEvents, Round.text, Opening.text, Prompt.text, String.append_assoc]

/-- A yes shows the end of its line and the start of the next round. -/
theorem transcript_yes_again (o : Opening σ) (line : String) :
    transcript (.heard line .yes :: .shown .blankLine ::
        roundEvents o.score.puzzleNumber o.template) =
      "\n" ++ Round.text (⟨o, [], none⟩ : Round σ) := by
  simp [transcript_cons, transcript_roundEvents]

theorem transcript_yes_next (o : Opening σ) (line : String) (index : Nat) :
    transcript (.heard line .yes :: .shown .blankLine :: .drew index ::
        roundEvents o.score.puzzleNumber o.template) =
      "\n" ++ Round.text (⟨o, [], none⟩ : Round σ) := by
  simp [transcript_cons, transcript_roundEvents]

/-- The report on a trial shows everything up to the question. -/
theorem transcript_reportEvents {t : Trial} {report : Report} (hreply : t.reply = none)
    (hunclear : t.unclear = []) (houtcome : report.outcome = t.verdict.outcome)
    (hlink : report.link = t.link) :
    transcript (reportEvents report t.instructions) = t.text := by
  simp [transcript, reportEvents, houtcome, hlink, Trial.text, Trial.report, hreply, hunclear,
    Verdict.question_eq, String.append_assoc, -String.reduceAppend]

/-- The report of a judge with a record shows the trial that is made of it. -/
theorem transcript_reportOn (g : Game π σ) (o : Opening σ) (log : List (List UInt8 × Verdict))
    (line : String) (s : Solution) (n : Nat) :
    transcript (reportEvents
        (Attempt.reportOn g.recorded.judge (o.judge, log) s (fill o.template.code s.bytes) n)
        (fillSlots o.template.instructions s.bytes)) =
      (o.trialOf g.judge line s).text := by
  have houtcome : (Attempt.reportOn g.recorded.judge (o.judge, log) s
      (fill o.template.code s.bytes) n).outcome = (o.trialOf g.judge line s).verdict.outcome := rfl
  have hlink : (Attempt.reportOn g.recorded.judge (o.judge, log) s
      (fill o.template.code s.bytes) n).link = (o.trialOf g.judge line s).link := rfl
  rw [← transcript_reportEvents rfl rfl houtcome hlink]
  rfl

/-! ## The tale of a session -/

/-- Where a session stands in its last round. -/
inductive At (g : Game π σ) (s : Session π (σ × List (List UInt8 × Verdict))) :
    Round σ → Prop where
  | solving {o : Opening σ} {away : List String}
      (hphase : s.phase = .solving ⟨o.template, .awaiting, away.length⟩)
      (hscore : s.score = o.score) (hjudge : s.judge.1 = o.judge) : At g s ⟨o, away, none⟩
  | asking {o : Opening σ} {away : List String} {t : Trial} (hreply : t.reply = none)
      (hphase : s.phase = .asking t.verdict.outcome)
      (hscore : s.score = (⟨o, away, some t⟩ : Round σ).scoreAfter)
      (hjudge : s.judge.1 = (g.judge.page o.judge t.code).2) : At g s ⟨o, away, some t⟩
  | closed {o : Opening σ} {away : List String} {t : Trial} {line : String}
      (hreply : t.reply = some line) (hline : answer? line = some false)
      (hphase : s.phase = .closed)
      (hscore : s.score = (⟨o, away, some t⟩ : Round σ).scoreAfter) : At g s ⟨o, away, some t⟩

namespace At

variable {g : Game π σ} {s : Session π (σ × List (List UInt8 × Verdict))} {last : Round σ}

theorem of_solving (h : At g s last) {a : Attempt} (hphase : s.phase = .solving a) :
    ∃ o away, last = ⟨o, away, none⟩ ∧ a = ⟨o.template, .awaiting, away.length⟩ ∧
      s.score = o.score ∧ s.judge.1 = o.judge := by
  cases h with
  | solving hphase' hscore hjudge =>
    rw [hphase, Phase.solving.injEq] at hphase'
    exact ⟨_, _, rfl, hphase', hscore, hjudge⟩
  | asking _ hphase' => simp [hphase] at hphase'
  | closed _ _ hphase' => simp [hphase] at hphase'

theorem of_asking (h : At g s last) {outcome : Outcome} (hphase : s.phase = .asking outcome) :
    ∃ o away t, last = ⟨o, away, some t⟩ ∧ t.reply = none ∧ outcome = t.verdict.outcome ∧
      s.score = o.score.record t.verdict.outcome away.length ∧
      s.judge.1 = (g.judge.page o.judge t.code).2 := by
  cases h with
  | solving hphase' => simp [hphase] at hphase'
  | asking hreply hphase' hscore hjudge =>
    rw [hphase, Phase.asking.injEq] at hphase'
    exact ⟨_, _, _, rfl, hreply, hphase', hscore, hjudge⟩
  | closed _ _ hphase' => simp [hphase] at hphase'

/-- The counters of a session are those after its last round. -/
theorem scoreAfter_eq (h : At g s last) : last.scoreAfter = s.score := by
  cases h with
  | solving _ hscore => exact hscore.symm
  | asking _ _ hscore => exact hscore.symm
  | closed _ _ _ hscore => exact hscore.symm

/-- The last round is over once the player has left or the lines have run out. -/
theorem ends (h : At g s last) {unheard : List String}
    (hover : s.phase = .closed ∨ unheard = []) : last.Ends unheard := by
  cases h with
  | solving hphase =>
    refine .inr ⟨by simp, ?_⟩
    simpa [hphase] using hover
  | asking hreply hphase =>
    refine .inr ⟨by simpa using hreply, ?_⟩
    simpa [hphase] using hover
  | closed hreply hline => exact .inl ⟨_, _, rfl, hreply, hline⟩

end At

/-- What a session that is over has shown behind its last round. -/
def ending (s : Session π σ) : String :=
  if s.phase.isOver then "Thanks for playing!\n" else ""

theorem ending_of_isOver_eq_false {s : Session π σ} (h : s.phase.isOver = false) :
    s.ending = "" := by
  rw [ending, if_neg (by simp [h])]

/-- What has been played so far, told by rounds. -/
def Told (g : Game π σ) (picker : π) (judge : σ) (lines : List String) (events : List Event)
    (s : Session π (σ × List (List UInt8 × Verdict))) : Prop :=
  ∃ text earlier last, Tale g picker judge (earlier ++ [last]) text lines s.judge.2 ∧
    transcript events = Display.welcomeText ++ "\n" ++ text ++ s.ending ∧ At g s last

section Played

variable {g : Game π σ} {picker : π} {judge : σ} {lines : List String} {events more : List Event}
  {s s' : Session π (σ × List (List UInt8 × Verdict))} {line : String}

/-- A tale that goes on tells what is played further. -/
theorem told_append {text moreText : String} {earlier : List (Round σ)} {last : Round σ}
    (htale : Tale g picker judge (earlier ++ [last]) (text ++ moreText) lines s'.judge.2)
    (htext : transcript events = Display.welcomeText ++ "\n" ++ text)
    (hmore : transcript more = moreText ++ s'.ending) (hat : At g s' last) :
    Told g picker judge lines (events ++ more) s' := by
  refine ⟨text ++ moreText, earlier, last, htale, ?_, hat⟩
  rw [transcript_append, htext, hmore]
  simp only [String.append_assoc]

theorem told_append_of_open {text moreText : String} {earlier : List (Round σ)} {last : Round σ}
    (htale : Tale g picker judge (earlier ++ [last]) (text ++ moreText) lines s'.judge.2)
    (htext : transcript events = Display.welcomeText ++ "\n" ++ text)
    (hmore : transcript more = moreText) (hat : At g s' last)
    (hopen : s'.phase.isOver = false) : Told g picker judge lines (events ++ more) s' := by
  refine told_append htale htext ?_ hat
  rw [hmore, ending_of_isOver_eq_false hopen, String.append_empty]

/-- The start of a session is the start of a tale. -/
theorem told_start {index : Nat} {next : π} {t : Template}
    (hpick : g.pick picker g.corpus.size = (index, next)) (ht : g.corpus.get? index = some t) :
    Told g picker judge [] (.shown .welcome :: .drew index :: roundEvents 1 t)
      ⟨next, (judge, []), .start index, .solving (.start t)⟩ := by
  let o : Opening σ := ⟨.start index, judge, t⟩
  have hsound : (⟨o, [], none⟩ : Round σ).Sound g := ⟨ht, by simp, by simp⟩
  have hindex : index = g.picked picker 0 := (congrArg Prod.fst hpick).symm
  have hshown : transcript (roundEvents 1 t) = (⟨o, [], none⟩ : Round σ).text :=
    transcript_roundEvents o
  refine ⟨(⟨o, [], none⟩ : Round σ).text, [], ⟨o, [], none⟩, ?_, ?_, .solving rfl rfl rfl⟩
  · exact ⟨by simp, rfl, rfl, by simpa using hsound, .singleton _,
      _, rfl, congrArg Score.start hindex, rfl⟩
  · simp [transcript_cons, hshown, ending, Phase.isOver]

/-- Each of the six things that hearing a line can do makes a tale go on. -/
theorem Heard.told (hg : ∀ t ∈ g.corpus.templates, t.Playable)
    (hpicker : s.picker = g.pickerAfter picker s.score.puzzleNumber)
    (hheard : Heard g.recorded s line more s') (h : Told g picker judge lines events s) :
    Told g picker judge (lines ++ [line]) (events ++ more) s' := by
  obtain ⟨text, earlier, last, htale, htext, hat⟩ := h
  rw [ending_of_isOver_eq_false hheard.isOver_eq_false, String.append_empty] at htext
  cases hheard with
  | turnedAway hphase ht hline =>
    obtain ⟨o, away, rfl, ha, hscore, hjudge⟩ := hat.of_solving hphase
    obtain ⟨rfl, -, rfl⟩ := Attempt.mk.inj ha
    refine told_append_of_open (htale.turnAway hline) htext ?_ (.solving ?_ hscore hjudge) rfl
    · simp [transcript, Prompt.text]
    · simp
  | @taken t n solution report hphase ht hline hreport =>
    obtain ⟨⟨score, state, template⟩, away, rfl, ha, hscore, hjudge⟩ := hat.of_solving hphase
    obtain ⟨rfl, -, rfl⟩ := Attempt.mk.inj ha
    -- With the opening and the session taken apart, the report is the trial by computation.
    obtain ⟨picker', ⟨inner, log⟩, _, _⟩ := s
    obtain rfl : inner = state := hjudge
    subst hreport hscore
    have hplayable := hg _ (List.mem_of_getElem? htale.sound_last.shown)
    have hnext := htale.trial (Opening.sound_trialOf hplayable hline) rfl
    refine told_append_of_open hnext htext ?_ (.asking rfl rfl rfl rfl) rfl
    rw [transcript_cons, Event.text_heard, String.empty_append]
    exact transcript_reportOn g ⟨_, _, _⟩ log line solution _
  | unclear hphase hline =>
    obtain ⟨o, away, t, rfl, hreply, rfl, hscore, hjudge⟩ := hat.of_asking hphase
    refine told_append_of_open (htale.unclear hreply hline) htext ?_
      (.asking hreply hphase hscore hjudge) (by rw [hphase]; rfl)
    simp [transcript, Verdict.question_eq]
  | no hphase hline =>
    obtain ⟨o, away, t, rfl, hreply, rfl, hscore, hjudge⟩ := hat.of_asking hphase
    refine told_append (htale.reply hreply (by simp [hline])) htext ?_
      (.closed rfl hline rfl hscore)
    simp [transcript, ending, Phase.isOver]
  | @again template hphase hline ht =>
    obtain ⟨o, away, t, rfl, hreply, hrejected, hscore, hjudge⟩ := hat.of_asking hphase
    let next : Opening σ := ⟨s.score, s.judge.1, template⟩
    have hverdict : t.verdict ≠ .ok true := by
      intro hok
      rw [Verdict.outcome_eq_solved_iff.2 hok] at hrejected
      simp at hrejected
    have hsame : next.score = (⟨o, away, some t⟩ : Round σ).scoreAfter := hscore
    have hnext := htale.again hreply hline hverdict hjudge hsame ht
    exact told_append_of_open hnext htext (transcript_yes_again next line) (.solving rfl rfl rfl) rfl
  | @next template index picker' hphase hline hpick ht =>
    obtain ⟨o, away, t, rfl, hreply, hsolved, hscore, hjudge⟩ := hat.of_asking hphase
    let next : Opening σ := ⟨s.score.advance index, s.judge.1, template⟩
    have hindex : index = g.picked picker o.score.puzzleNumber := by
      rw [hpicker, hscore] at hpick
      exact (congrArg Prod.fst hpick).symm
    have hadvance : next.score = (⟨o, away, some t⟩ : Round σ).scoreAfter.advance
        (g.picked picker o.score.puzzleNumber) := by
      rw [← hindex]
      exact congrArg (Score.advance · index) hscore
    have hnext := htale.next hreply hline (Verdict.outcome_eq_solved_iff.1 hsolved.symm) hjudge
      hadvance ht
    exact told_append_of_open hnext htext (transcript_yes_next next line index)
      (.solving rfl rfl rfl) rfl

/-- What has been played is told by rounds. -/
theorem Played.told (hg : ∀ t ∈ g.corpus.templates, t.Playable)
    (h : Played g.recorded picker (judge, []) lines events s) :
    Told g picker judge lines events s := by
  induction h with
  | start hpick ht => exact told_start hpick ht
  | hear hplayed hheard ih =>
    obtain ⟨_, hpicker, _⟩ := hplayed.picks_eq
    rw [Game.pickerAfter_recorded] at hpicker
    exact hheard.told hg hpicker ih

end Played

/-- A session that takes its leave shows the farewell, unless it has done so. -/
theorem ending_append_leave (s : Session π σ) :
    s.ending ++ transcript s.leave.1 = "Thanks for playing!\n" := by
  cases hover : s.phase.isOver with
  | true =>
    rw [leave_of_isOver hover, ending, if_pos hover]
    rfl
  | false =>
    rw [leave_of_not_isOver hover, ending_of_isOver_eq_false hover, String.empty_append,
      transcript_cons, Event.text_farewell]
    rfl

end Session

/-! ## Main theorem -/

namespace Playthrough

variable {texts : List String} {g : Game π σ} {picker : π} {judge : σ} {input : Input}
  {t : Terminal} {score : Score}

/-- What the player is shown is what was judged.

For every corpus that was read, whatever the picker, the judge and the input, a
playthrough on a plain terminal that comes to its end is told by rounds: between
the welcome and the farewell it has shown what its rounds show, it has heard the
lines that are heard in them, and the judge was asked for the runs in them.

A round shows its puzzle under its number.  If it reaches a verdict, the line that
was taken names three operators, the code that was judged is the puzzle with these
in its slots, the second listing is that of the code, which is that of the puzzle
with the operators in the three slots, the link is that of the code, and the
verdict and the question that are shown are those for the judge's verdict on it.
A round after a rejection shows the same puzzle under the same number, and a round
after a solution shows the next one that is picked. -/
theorem shown_is_judged (hcorpus : Corpus.ofTexts texts = .ok g.corpus)
    (hplain : t.colored = false)
    (hok : (run g.recorded picker (judge, []) input t).result = .ok score) :
    let p := run g.recorded picker (judge, []) input t
    ∃ rounds text lines unheard last, Tale g picker judge rounds text lines p.judge.2 ∧
      p.output = Utf8.encodeString
        (Display.welcomeText ++ "\n" ++ text ++ "Thanks for playing!\n") ∧
      input.lines = lines ++ unheard ∧
      rounds.getLast? = some last ∧ last.scoreAfter = score ∧ last.Ends unheard := by
  have hplayable := Corpus.playable_of_ofTexts hcorpus
  obtain ⟨lines, unheard, events, s, hlines, hplayed, rfl, hends⟩ :=
    exists_played_of_ok (g := g.recorded) hplayable hok
  obtain ⟨text, earlier, last, htale, htext, hat⟩ := hplayed.told hplayable
  intro p
  refine ⟨earlier ++ [last], text, lines, unheard, last, ?_, ?_, hlines, List.getLast?_concat,
    hat.scoreAfter_eq, hat.ends (hends.ended.imp_right And.left)⟩
  · rw [← hends.judge_eq] at htale
    exact htale
  · rw [hends.output_eq, hplain, flatMap_output_false, hends.events_eq, transcript_append, htext,
      String.append_assoc, s.ending_append_leave]

/-- A wrong solution, a blank line for yes, a right solution, an unclear answer and a
no are told by rounds with two runs. -/
theorem shown_is_judged_of_two_runs :
    let p := run Game.sample.recorded 0 ([.ok false, .ok true], [])
      ⟨Utf8.encodeString "040404\n\n010203\nwhat\nn\n", .exhausted⟩ ⟨false, none, none⟩
    Corpus.ofTexts ["0xXXXXXX"] = .ok Game.sample.corpus ∧ p.result = .ok ⟨1, 0, 2, 2, 1, 0⟩ ∧
      ∃ rounds text lines, Tale Game.sample 0 [.ok false, .ok true] rounds text lines
          [([4, 4, 4], .ok false), ([1, 2, 3], .ok true)] ∧
        p.output = Utf8.encodeString
          (Display.welcomeText ++ "\n" ++ text ++ "Thanks for playing!\n") := by
  intro p
  have hok : p.result = .ok ⟨1, 0, 2, 2, 1, 0⟩ := by decide +kernel
  have hruns : p.judge.2 = [([4, 4, 4], .ok false), ([1, 2, 3], .ok true)] := by decide +kernel
  obtain ⟨rounds, text, lines, _, _, htale, houtput, _⟩ :=
    shown_is_judged Game.ofTexts_sample rfl hok
  exact ⟨Game.ofTexts_sample, hok, rounds, text, lines, hruns ▸ htale, houtput⟩

end Playthrough
end MakeTen

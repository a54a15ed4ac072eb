import IssueBridge.Proofs.Correlation.Rendered
import IssueBridge.Proofs.Projection.Result
import IssueBridge.Proofs.Text.Words

/-! # What can come of converting a text

A converter that cannot be started, that takes too long or that ends badly leaves the text as it is. A conversion fails
where there is no converter to start, where nobody can wait for it, and where it writes something that is no text.
-/

namespace IssueBridge

open Logged

namespace Text.Utf8

theorem decode_eq_ok_iff {bytes : ByteArray} {s : String} : decode bytes = .ok s ↔ bytes = s.toUTF8 := by
  unfold decode
  constructor
  · intro h
    split at h
    · rename_i hread
      obtain rfl := Except.ok.inj h
      unfold String.fromUTF8? at hread
      split at hread
      · exact Option.some.inj hread ▸ rfl
      · cases hread
    · cases h
  · rintro rfl
    have hread : String.fromUTF8? s.toUTF8 = some s := dif_pos s.isValidUTF8
    rw [hread]

end Text.Utf8

namespace Projection

variable {programs : Programs} {s : Settings} {text line : String} {command : List String} {seconds : Float}

section Commands

/-- The line names a program to start, and its arguments can be handed over. -/
structure Runnable (line : String) : Prop where
  closed : Text.Words.Closed line.toList
  named : ∃ c ∈ line.toList, Text.Words.isSeparator c = false
  clean : '\x00' ∉ line.toList

def Startable (command : List String) : Prop := command ≠ [] ∧ ∀ word ∈ command, '\x00' ∉ word.toList

theorem commandWords_eq_ok_iff : commandWords line = .ok command ↔ Text.Words.split line = .ok command := by
  unfold commandWords
  cases Text.Words.split line with
  | ok words => simp
  | error fault => cases fault <;> simp

theorem startable_iff (h : commandWords line = .ok command) : Startable command ↔
    (∃ c ∈ line.toList, Text.Words.isSeparator c = false) ∧ '\x00' ∉ line.toList := by
  rw [commandWords_eq_ok_iff] at h
  have hblank : command = [] ↔ ∀ c ∈ line.toList, Text.Words.isSeparator c = true := by
    rw [← Text.Words.split_eq_nil_iff, h, Except.ok.injEq]
  have hnull := Text.Words.mem_words_iff (x := '\x00') ⟨by decide, by decide, by decide⟩ h
  unfold Startable
  rw [← hnull, ne_eq, hblank]
  simp

/-- The lines whose words start a program. -/
theorem runnable_iff : Runnable line ↔ ∃ command, commandWords line = .ok command ∧ Startable command := by
  constructor
  · rintro ⟨hclosed, hnamed, hclean⟩
    obtain ⟨command, hsplit⟩ := Text.Words.exists_split_iff.mpr hclosed
    have hwords := commandWords_eq_ok_iff.mpr hsplit
    exact ⟨command, hwords, (startable_iff hwords).mpr ⟨hnamed, hclean⟩⟩
  · rintro ⟨command, hwords, hstart⟩
    obtain ⟨hnamed, hclean⟩ := (startable_iff hwords).mp hstart
    exact ⟨Text.Words.exists_split_iff.mp ⟨command, commandWords_eq_ok_iff.mp hwords⟩, hnamed, hclean⟩

end Commands

section Answers

/-- What a program that is run answers with, if it can be waited for and writes texts only. -/
inductive Answered (programs : Programs) (command : List String) (seconds : Float) (text : String) :
    Except RunFault String → Prop
  | refused {program : String} {why : RunRefusal} (hprogram : command.head? = some program)
    (hrun : programs command text seconds = .refused why) :
    Answered programs command seconds text (.error (.refused program why))
  | timedOut (hrun : programs command text seconds = .timedOut) (hwait : waiting seconds = .ok ()) :
    Answered programs command seconds text (.error (.timedOut command seconds))
  | failed {how : ProgramEnd} {output errors : String}
    (hrun : programs command text seconds = .ended how output.toUTF8 errors.toUTF8) (hhow : how ≠ .status 0)
    (hwait : waiting seconds = .ok ()) :
    Answered programs command seconds text (.error (.ended command how))
  | converted {output errors : String}
    (hrun : programs command text seconds = .ended (.status 0) output.toUTF8 errors.toUTF8)
    (hwait : waiting seconds = .ok ()) :
    Answered programs command seconds text (.ok (String.ofList (Text.unifyLineEnds output.toList)))

theorem outputText_eq_ok_iff {bytes : ByteArray} {s : String} : outputText bytes = .ok s ↔
    ∃ output : String, bytes = output.toUTF8 ∧ s = String.ofList (Text.unifyLineEnds output.toList) := by
  unfold outputText
  constructor
  · intro h
    split at h
    · rename_i output hread
      exact ⟨output, Text.Utf8.decode_eq_ok_iff.mp hread, (Except.ok.inj h).symm⟩
    · cases h
  · rintro ⟨output, hbytes, rfl⟩
    rw [Text.Utf8.decode_eq_ok_iff.mpr hbytes]

def concludeRun (command : List String) (seconds : Float) (how : ProgramEnd) (output errors : ByteArray) :
    Except Failure (Except RunFault String) := do
  waiting seconds
  let s ← outputText output
  let _ ← outputText errors
  return if how = .status 0 then .ok s else .error (.ended command how)

theorem runConverter_of_startable (h : Startable command) {program : String}
    (hprogram : command.head? = some program) :
    runConverter programs command seconds text =
      match programs command text seconds with
      | .refused why => .ok (.error (.refused program why))
      | .timedOut => (waiting seconds).map fun _ => .error (.timedOut command seconds)
      | .ended how output errors => concludeRun command seconds how output errors := by
  obtain ⟨first, rest, rfl⟩ := List.exists_cons_of_ne_nil h.1
  obtain rfl : first = program := Option.some.inj hprogram
  have hclean : (first :: rest).any (·.contains '\x00') = false := by
    rw [List.any_eq_false]
    intro word hword
    rw [String.contains_char_eq, decide_eq_true_eq]
    exact h.2 word hword
  unfold runConverter
  dsimp only
  rw [if_neg (by rw [hclean]; decide)]
  rfl

theorem concludeRun_eq_ok_iff {how : ProgramEnd} {output errors : ByteArray} {a : Except RunFault String} :
    concludeRun command seconds how output errors = .ok a ↔ waiting seconds = .ok () ∧
      ∃ s complaint : String, output = s.toUTF8 ∧ errors = complaint.toUTF8 ∧
        a = if how = .status 0 then .ok (String.ofList (Text.unifyLineEnds s.toList))
          else .error (.ended command how) := by
  unfold concludeRun
  constructor
  · intro h
    obtain ⟨_, hwait, h⟩ := Except.bind_eq_ok_iff.mp h
    obtain ⟨_, houtput, h⟩ := Except.bind_eq_ok_iff.mp h
    obtain ⟨_, herrors, h⟩ := Except.bind_eq_ok_iff.mp h
    obtain ⟨s, hs, rfl⟩ := outputText_eq_ok_iff.mp houtput
    obtain ⟨complaint, hcomplaint, -⟩ := outputText_eq_ok_iff.mp herrors
    exact ⟨hwait, s, complaint, hs, hcomplaint, (Except.ok.inj h).symm⟩
  · rintro ⟨hwait, s, complaint, houtput, herrors, rfl⟩
    rw [hwait, outputText_eq_ok_iff.mpr ⟨s, houtput, rfl⟩, outputText_eq_ok_iff.mpr ⟨complaint, herrors, rfl⟩]
    rfl

theorem runConverter_eq_ok_iff {a : Except RunFault String} (h : Startable command) :
    runConverter programs command seconds text = .ok a ↔ Answered programs command seconds text a := by
  obtain ⟨program, hprogram⟩ : ∃ program, command.head? = some program :=
    ⟨_, List.head?_eq_some_head h.1⟩
  rw [runConverter_of_startable h hprogram]
  constructor
  · intro hrun
    cases hanswer : programs command text seconds with
    | refused why =>
      rw [hanswer] at hrun
      obtain rfl := Except.ok.inj hrun
      exact .refused hprogram hanswer
    | timedOut =>
      rw [hanswer] at hrun
      cases hwait : waiting seconds with
      | error f =>
        rw [hwait] at hrun
        cases hrun
      | ok u =>
        rw [hwait] at hrun
        obtain rfl := Except.ok.inj hrun
        exact .timedOut hanswer hwait
    | ended how output errors =>
      rw [hanswer] at hrun
      obtain ⟨hwait, s, complaint, rfl, rfl, rfl⟩ := concludeRun_eq_ok_iff.mp hrun
      by_cases hhow : how = .status 0
      · subst hhow
        exact .converted hanswer hwait
      · rw [if_neg hhow]
        exact .failed hanswer hhow hwait
  · intro hanswered
    cases hanswered with
    | refused hname hrun =>
      rw [hrun, Option.some.inj (hprogram.symm.trans hname)]
    | timedOut hrun hwait =>
      rw [hrun, hwait]
      rfl
    | failed hrun hhow hwait =>
      rw [hrun]
      exact concludeRun_eq_ok_iff.mpr ⟨hwait, _, _, rfl, rfl, (if_neg hhow).symm⟩
    | converted hrun hwait =>
      rw [hrun]
      exact concludeRun_eq_ok_iff.mpr ⟨hwait, _, _, rfl, rfl, (if_pos rfl).symm⟩

end Answers

section Conversions

/-- The conversion that an answer is taken for. -/
def conclusion (text : String) : Except RunFault String → Conversion
  | .ok converted => ⟨Text.cutBody converted, none⟩
  | .error fault => ⟨Text.cutBody text, some fault⟩

theorem convert_of_unasked (h : s.converterCommand.getD "" = "") (programs : Programs) (text : String) :
    convert programs s text = .ok ⟨Text.cutBody text, none⟩ := by
  unfold convert
  rw [h]
  rfl

theorem convert_of_asked (h : s.converterCommand.getD "" = line) (hne : line ≠ "") :
    convert programs s text = (commandWords line).bind fun command =>
      (runConverter programs command s.converterTimeout text).map (conclusion text) := by
  unfold convert
  rw [h]
  split
  · exact absurd rfl hne
  · cases commandWords line with
    | error f => rfl
    | ok command =>
      show runConverter programs command s.converterTimeout text >>= _ =
        (runConverter programs command s.converterTimeout text).map (conclusion text)
      cases runConverter programs command s.converterTimeout text with
      | error f => rfl
      | ok a => cases a <;> rfl

theorem startable_of_runConverter {a : Except RunFault String}
    (h : runConverter programs command seconds text = .ok a) : Startable command := by
  unfold runConverter at h
  cases command with
  | nil => cases h
  | cons program rest =>
    dsimp only at h
    split at h
    · cases h
    · rename_i hclean
      refine ⟨nofun, fun word hword hnull => hclean (List.any_eq_true.mpr ⟨word, hword, ?_⟩)⟩
      rw [String.contains_char_eq, decide_eq_true_eq]
      exact hnull

/-- A conversion comes out exactly if the line starts a program and the program answers. -/
theorem convert_eq_ok_iff (h : s.converterCommand.getD "" = line) (hne : line ≠ "") {o : Conversion} :
    convert programs s text = .ok o ↔ Runnable line ∧ ∃ command a, commandWords line = .ok command ∧
      Answered programs command s.converterTimeout text a ∧ o = conclusion text a := by
  rw [convert_of_asked h hne, runnable_iff, Except.bind_eq_ok_iff]
  constructor
  · rintro ⟨command, hwords, hconvert⟩
    obtain ⟨a, hrun, rfl⟩ := Except.map_eq_ok_iff.mp hconvert
    have hstart := startable_of_runConverter hrun
    exact ⟨⟨command, hwords, hstart⟩, command, a, hwords, (runConverter_eq_ok_iff hstart).mp hrun, rfl⟩
  · rintro ⟨⟨_, hwords', hstart⟩, command, a, hwords, hanswered, rfl⟩
    obtain rfl := Except.ok.inj (hwords'.symm.trans hwords)
    exact ⟨_, hwords, Except.map_eq_ok_iff.mpr ⟨a, (runConverter_eq_ok_iff hstart).mpr hanswered, rfl⟩⟩

/-- Where no converter is named, every text is taken as it is. Where one is named, a conversion comes out exactly if
its line starts a program and the program answers: with the text that it wrote or, if it failed, with the text itself
and the fault. Nothing but the conversion and the time keeps a description or a comment from being rendered. -/
theorem conversions_come_out (p : Projector) :
    (p.settings.converterCommand.getD "" = "" →
      ∀ text, convert p.programs p.settings text = .ok ⟨Text.cutBody text, none⟩) ∧
    (∀ line, p.settings.converterCommand.getD "" = line → line ≠ "" → ∀ text o,
      (convert p.programs p.settings text = .ok o ↔ Runnable line ∧
        ∃ command a, commandWords line = .ok command ∧
          Answered p.programs command p.settings.converterTimeout text a ∧ o = conclusion text a)) ∧
    (∀ i : GitHub.Issue, (∃ d, result (p.description i) = .ok d) ↔
      (∃ o, convert p.programs p.settings (i.body.getD "") = .ok o) ∧ ∃ stamp, p.stamp i.createdAt = .ok stamp) ∧
    ∀ c : GitHub.Comment, (∃ d, result (p.commentBody c) = .ok d) ↔
      (∃ o, convert p.programs p.settings (c.body.getD "") = .ok o) ∧ ∃ stamp, p.stamp c.createdAt = .ok stamp := by
  refine ⟨fun h text => convert_of_unasked h _ text, fun line h hne text o => convert_eq_ok_iff h hne, ?_, ?_⟩
  · intro i
    rw [p.result_description]
    exact Except.exists_bind_map_iff
  · intro c
    rw [p.result_commentBody]
    exact Except.exists_bind_map_iff

def converting (line : String) (outcome : RunOutcome) : Projector where
  settings := { converterCommand := some line }
  fieldIds := ⟨"10", none⟩
  zone := .fixed 0
  programs _ _ _ := outcome

/-- A missing program leaves the text as it is, and the issue has a description. -/
theorem conversions_come_out_missing :
    convert (converting "pandoc -f 'gfm raw'" (.refused .missing)).programs
        (converting "pandoc -f 'gfm raw'" (.refused .missing)).settings "*x*" =
      .ok ⟨"*x*", some (.refused "pandoc" .missing)⟩ ∧
    ∃ d, result ((converting "pandoc -f 'gfm raw'" (.refused .missing)).description
      { id := 1, number := 1, body := some "*x*" }) = .ok d := by
  obtain ⟨-, hconvert, hdescription, -⟩ :=
    conversions_come_out (converting "pandoc -f 'gfm raw'" (.refused .missing))
  have hwords : commandWords "pandoc -f 'gfm raw'" = .ok ["pandoc", "-f", "gfm raw"] := rfl
  have hrunnable : Runnable "pandoc -f 'gfm raw'" := runnable_iff.mpr ⟨_, hwords, nofun, by decide +kernel⟩
  have hmissing := (hconvert _ rfl (by decide) "*x*" ⟨"*x*", some (.refused "pandoc" .missing)⟩).mpr
    ⟨hrunnable, _, _, hwords, .refused rfl rfl, rfl⟩
  exact ⟨hmissing, (hdescription _).mpr ⟨⟨_, hmissing⟩, "", rfl⟩⟩

/-- No conversion comes out of a line with an open quote, of a blank line and of an output that is no text. -/
theorem conversions_come_out_unreadable :
    convert (converting "cat 'unclosed" .timedOut).programs (converting "cat 'unclosed" .timedOut).settings "x" =
      .error .unclosedQuote ∧
    convert (converting " " .timedOut).programs (converting " " .timedOut).settings "x" = .error .emptyCommand ∧
    ∀ o, convert (converting "cat" (.ended (.status 0) ⟨#[0xFF]⟩ ⟨#[]⟩)).programs
      (converting "cat" (.ended (.status 0) ⟨#[0xFF]⟩ ⟨#[]⟩)).settings "x" ≠ .ok o := by
  refine ⟨rfl, rfl, fun o ho => ?_⟩
  obtain ⟨-, command, a, -, hanswered, -⟩ := (convert_eq_ok_iff rfl (by decide)).mp ho
  have hread : ∀ output : String, (⟨#[0xFF]⟩ : ByteArray) ≠ output.toUTF8 := by
    intro output h
    have hdecode := Text.Utf8.decode_eq_ok_iff.mpr h
    revert hdecode
    rw [show Text.Utf8.decode ⟨#[0xFF]⟩ = .error _ from rfl]
    nofun
  cases hanswered with
  | converted hrun hwait => exact hread _ (RunOutcome.ended.inj hrun).2.1
  | failed hrun hhow hwait => exact hread _ (RunOutcome.ended.inj hrun).2.1
  | refused hprogram hrun => cases hrun
  | timedOut hrun hwait => cases hrun

end Conversions

end Projection

end IssueBridge

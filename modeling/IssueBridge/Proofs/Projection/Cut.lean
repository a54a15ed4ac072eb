import IssueBridge.Proofs.Projection.Converter

/-! # Long texts

A text that is longer than the tracker accepts beside an attribution is cut and closed with a notice. It is cut after it
was converted, and never with its attribution.
-/

namespace IssueBridge

open Logged Projection

namespace Text

structure CutTo (t part : String) : Prop where
  short : t.length ≤ 30000 → part = t
  long : 30000 < t.length → part = String.ofList (t.toList.take 30000) ++ tooLongNotice

variable {t part : String}

theorem cut_of_lt {limit : Nat} (h : limit < t.length) :
    cut limit t = String.ofList (t.toList.take limit) ++ tooLongNotice := by
  unfold cut before
  rw [if_neg (by omega), if_pos (by omega), Int.toNat_natCast]

theorem cut_cut (limit : Nat) (t : String) : cut limit (cut limit t) = cut limit t := by
  by_cases h : t.length ≤ limit
  · have hwhole : cut limit t = t := cut_of_length_le (Int.ofNat_le.mpr h)
    rw [hwhole, hwhole]
  · have hstart : (t.toList.take limit).length = limit := by
      rw [List.length_take, String.length_toList]
      omega
    have hcut := cut_of_lt (Nat.lt_of_not_le h)
    rw [hcut, cut_of_lt, String.toList_append, String.toList_ofList, List.take_left' hstart]
    rw [String.length_append, String.length_ofList, hstart]
    exact Nat.lt_add_of_pos_right (by decide)

theorem cutTo_iff : CutTo t part ↔ part = cutBody t := by
  have hshort : t.length ≤ 30000 → cutBody t = t := fun h => cut_of_length_le (Int.ofNat_le.mpr h)
  have hlong : 30000 < t.length → cutBody t = String.ofList (t.toList.take 30000) ++ tooLongNotice := cut_of_lt
  constructor
  · intro h
    rcases Nat.lt_or_ge 30000 t.length with hlt | hle
    · rw [h.long hlt, hlong hlt]
    · rw [h.short hle, hshort hle]
  · rintro rfl
    exact ⟨hshort, hlong⟩

theorem CutTo.cutBody_eq (h : CutTo t part) : cutBody part = part := by
  rw [cutTo_iff.mp h]
  exact cut_cut bodyLimit t

theorem CutTo.length_le (h : CutTo t part) : part.length ≤ 30090 := by
  have hnotice : tooLongNotice.length = 90 := by decide +kernel
  rcases Nat.lt_or_ge 30000 t.length with hlt | hle
  · rw [h.long hlt, String.length_append, String.length_ofList, List.length_take, hnotice]
    omega
  · rw [h.short hle]
    omega

end Text

namespace Projector

variable {p : Projector} {text : String}

/-- The converter gives the text `t`: what it wrote, or the text as it was if there is no converter or it failed. -/
inductive Gives (p : Projector) (text : String) : String → Prop
  | unasked (h : p.settings.converterCommand.getD "" = "") : Gives p text text
  | converted {line t : String} {command : List String} (h : p.settings.converterCommand.getD "" = line) (hne : line ≠ "")
    (hrun : Runnable line) (hwords : commandWords line = .ok command)
    (hanswered : Answered p.programs command p.settings.converterTimeout text (.ok t)) : Gives p text t
  | failed {line : String} {command : List String} {fault : RunFault} (h : p.settings.converterCommand.getD "" = line)
    (hne : line ≠ "") (hrun : Runnable line) (hwords : commandWords line = .ok command)
    (hanswered : Answered p.programs command p.settings.converterTimeout text (.error fault)) : Gives p text text

theorem exists_convert_iff {part : String} :
    (∃ o, convert p.programs p.settings text = .ok o ∧ o.text = part) ↔ ∃ t, p.Gives text t ∧ Text.CutTo t part := by
  simp only [Text.cutTo_iff]
  constructor
  · rintro ⟨o, ho, rfl⟩
    by_cases hasked : p.settings.converterCommand.getD "" = ""
    · rw [convert_of_unasked hasked] at ho
      obtain rfl := Except.ok.inj ho
      exact ⟨text, .unasked hasked, rfl⟩
    · obtain ⟨hrun, command, a, hwords, hanswered, rfl⟩ := (convert_eq_ok_iff rfl hasked).mp ho
      cases a with
      | ok t => exact ⟨t, .converted rfl hasked hrun hwords hanswered, rfl⟩
      | error fault => exact ⟨text, .failed rfl hasked hrun hwords hanswered, rfl⟩
  · rintro ⟨t, hgives, rfl⟩
    cases hgives with
    | unasked h => exact ⟨_, convert_of_unasked h _ _, rfl⟩
    | converted h hne hrun hwords hanswered =>
      exact ⟨_, (convert_eq_ok_iff h hne).mpr ⟨hrun, _, _, hwords, hanswered, rfl⟩, rfl⟩
    | failed h hne hrun hwords hanswered =>
      exact ⟨_, (convert_eq_ok_iff h hne).mpr ⟨hrun, _, _, hwords, hanswered, rfl⟩, rfl⟩

/-- A text that is put together from a converted one and the time of an attribution. -/
theorem rendering_eq_ok_iff {stamp : Except Failure String} {f : String → String → String} {whole : String} :
    ((convert p.programs p.settings text).bind fun o => stamp.map (f o.text)) = .ok whole ↔
      ∃ t part s, p.Gives text t ∧ Text.CutTo t part ∧ stamp = .ok s ∧ whole = f part s := by
  rw [Except.bind_eq_ok_iff]
  constructor
  · rintro ⟨o, ho, h⟩
    obtain ⟨s, hs, rfl⟩ := Except.map_eq_ok_iff.mp h
    obtain ⟨t, hgives, hcut⟩ := exists_convert_iff.mp ⟨o, ho, rfl⟩
    exact ⟨t, _, s, hgives, hcut, hs, rfl⟩
  · rintro ⟨t, part, s, hgives, hcut, hs, rfl⟩
    obtain ⟨o, ho, rfl⟩ := exists_convert_iff.mpr ⟨t, hgives, hcut⟩
    exact ⟨o, ho, Except.map_eq_ok_iff.mpr ⟨s, hs, rfl⟩⟩

theorem described_eq (i : GitHub.Issue) (part stamp : String) :
    described i part stamp = part ++ "\n\n----\n\n" ++ issueAttribution i stamp := by
  have hrule : "\n\n----\n\n" = "\n" ++ rule ++ "\n" := rfl
  simp only [described, hrule, String.append_assoc]

theorem attributed_eq (c : GitHub.Comment) (part stamp : String) :
    attributed c stamp part = commentAttribution c stamp ++ "\n\n----\n\n" ++ part ++ "\n" := by
  have hrule : "\n\n----\n\n" = "\n" ++ rule ++ "\n" := rfl
  simp only [attributed, hrule, String.append_assoc]

/-- A description is what the converter gives, cut, and then the attribution; a comment is the attribution and then what
the converter gives, cut. What was cut is not cut again, and with an attribution of at most 2668 characters the whole has
no more characters than the tracker accepts. -/
theorem long_texts_are_cut (p : Projector) :
    (∀ (i : GitHub.Issue) (d : String), result (p.description i) = .ok d ↔
      ∃ t part stamp, p.Gives (i.body.getD "") t ∧ Text.CutTo t part ∧ p.stamp i.createdAt = .ok stamp ∧
        d = part ++ "\n\n----\n\n" ++ issueAttribution i stamp) ∧
    (∀ (c : GitHub.Comment) (d : String), result (p.commentBody c) = .ok d ↔
      ∃ t part stamp, p.Gives (c.body.getD "") t ∧ Text.CutTo t part ∧ p.stamp c.createdAt = .ok stamp ∧
        d = commentAttribution c stamp ++ "\n\n----\n\n" ++ part ++ "\n") ∧
    ∀ t part attribution : String, Text.CutTo t part → Text.cutBody part = part ∧ (attribution.length ≤ 2668 →
      (part ++ "\n\n----\n\n" ++ attribution).length ≤ 32767 ∧
        (attribution ++ "\n\n----\n\n" ++ part ++ "\n").length ≤ 32767) := by
  refine ⟨fun i d => ?_, fun c d => ?_, fun t part attribution hcut => ⟨hcut.cutBody_eq, fun hshort => ?_⟩⟩
  · rw [p.result_description, rendering_eq_ok_iff]
    simp only [described_eq]
  · rw [p.result_commentBody, rendering_eq_ok_iff (f := fun part stamp => attributed c stamp part)]
    simp only [attributed_eq]
  · have hpart := hcut.length_le
    have hrule : "\n\n----\n\n".length = 8 := by decide +kernel
    have hend : "\n".length = 1 := by decide +kernel
    simp only [String.length_append, hrule, hend]
    omega

def filler (n : Nat) : String := String.ofList (List.replicate n 'x')

theorem length_filler (n : Nat) : (filler n).length = n := by
  rw [filler, String.length_ofList, List.length_replicate]

def lengthy (address text : Nat) : GitHub.Comment where
  id := 5
  url := filler address
  body := some (filler text)

theorem length_attribution_lengthy (address text : Nat) :
    (commentAttribution (lengthy address text) "").length = 45 + address := by
  have hstart : ("Comment [(ID " ++ toString (5 : Int) ++ ")|").length = 16 := by decide +kernel
  have hend : ("] " : String).length = 2 ∧ (userText none).length = 27 ∧ "".length = 0 := by decide +kernel
  unfold commentAttribution lengthy
  rw [String.length_append, String.length_append, String.length_append, String.length_append, hstart, length_filler]
  dsimp only
  omega

theorem long_texts_are_cut_lengthy : ∃ part, Text.CutTo (filler 30001) part ∧ 30000 < (filler 30001).length ∧
    Text.cutBody part = part ∧ (commentAttribution (lengthy 2623 30001) "").length ≤ 2668 ∧
    result (Correlation.verbatim.commentBody (lengthy 2623 30001)) =
      .ok (commentAttribution (lengthy 2623 30001) "" ++ "\n\n----\n\n" ++ part ++ "\n") ∧
    (commentAttribution (lengthy 2623 30001) "" ++ "\n\n----\n\n" ++ part ++ "\n").length ≤ 32767 := by
  obtain ⟨-, hcomment, hbound⟩ := long_texts_are_cut Correlation.verbatim
  have hcut : Text.CutTo (filler 30001) (Text.cutBody (filler 30001)) := Text.cutTo_iff.mpr rfl
  have hattribution := Nat.le_of_eq (length_attribution_lengthy 2623 30001)
  obtain ⟨hagain, hlength⟩ := hbound _ _ (commentAttribution (lengthy 2623 30001) "") hcut
  exact ⟨_, hcut, Nat.le_of_eq (length_filler 30001).symm, hagain, hattribution,
    (hcomment (lengthy 2623 30001) _).mpr ⟨_, _, "", .unasked rfl, hcut, rfl, rfl⟩, (hlength hattribution).2⟩

end Projector

end IssueBridge

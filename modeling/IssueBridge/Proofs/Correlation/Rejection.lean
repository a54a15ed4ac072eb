import IssueBridge.Correlation.Rejection
import Mathlib.Computability.Language

/-! # Which refusals are about the assignee

A refusal is about the assignee if one line of what is searched has three pieces in their order. Such texts are those
with a word of the pattern `assignee.*User.*does not exist\.` in them, whose gaps do not reach over a line feed. What is
searched is the message with the text of the refusal behind it, on the last line of the message. This adds nothing where
the refusal shows no request and no answer, but the end of an answer and the text may say together what neither says.
-/

namespace IssueBridge

open scoped Computability

namespace Text

section Pieces

variable {piece cs rest : List Char} {pieces : List (List Char)}

/-- The pieces stand in the text in this order, without overlap. -/
def InOrder : List (List Char) → List Char → Prop
  | [], _ => True
  | piece :: pieces, cs => ∃ before rest, cs = before ++ piece ++ rest ∧ InOrder pieces rest

theorem InOrder.of_suffix (h : InOrder pieces rest) (hsuffix : rest <:+ cs) : InOrder pieces cs := by
  obtain ⟨skipped, rfl⟩ := hsuffix
  cases pieces with
  | nil => trivial
  | cons piece pieces =>
    obtain ⟨before, rest, rfl, h⟩ := h
    exact ⟨skipped ++ before, rest, by simp only [List.append_assoc], h⟩

theorem after?_of_prefix (piece rest : List Char) : after? piece (piece ++ rest) = some rest := by
  cases h : piece ++ rest with
  | nil =>
    obtain ⟨rfl, rfl⟩ := List.append_eq_nil_iff.mp h
    rfl
  | cons c cs =>
    have hstarts : piece.isPrefixOf (c :: cs) := by
      rw [← h, List.isPrefixOf_iff_prefix]
      exact List.prefix_append piece rest
    rw [after?, if_pos hstarts, ← h, List.drop_left]

theorem eq_append_of_after? : ∀ {cs : List Char}, after? piece cs = some rest →
    ∃ before, cs = before ++ piece ++ rest
  | [], h => by
    rw [after?] at h
    split at h
    · rename_i hempty
      rw [List.isEmpty_iff.mp hempty, ← Option.some.inj h]
      exact ⟨[], rfl⟩
    · cases h
  | c :: cs, h => by
    rw [after?] at h
    split at h
    · rename_i hstarts
      obtain ⟨tail, htail⟩ := List.isPrefixOf_iff_prefix.mp hstarts
      rw [← htail, List.drop_left, Option.some.injEq] at h
      exact ⟨[], by rw [← htail, h, List.nil_append]⟩
    · obtain ⟨before, rfl⟩ := eq_append_of_after? h
      exact ⟨c :: before, rfl⟩

/-- The first occurrence of a piece leaves at least what any other leaves. -/
theorem exists_after? (piece rest : List Char) : ∀ before : List Char,
    ∃ left, after? piece (before ++ piece ++ rest) = some left ∧ rest <:+ left
  | [] => ⟨rest, after?_of_prefix piece rest, List.suffix_rfl⟩
  | c :: before => by
    obtain ⟨left, hleft, hsuffix⟩ := exists_after? piece rest before
    rw [List.cons_append, List.cons_append, after?]
    split
    -- The piece occurs earlier than where it is known to stand, so all of `rest` is left and more.
    · have hlength : piece.length ≤ (c :: (before ++ piece)).length := by
        simp only [List.length_cons, List.length_append]
        omega
      refine ⟨_, rfl, ?_⟩
      rw [← List.cons_append, List.drop_append_of_le_length hlength]
      exact List.suffix_append _ rest
    · exact ⟨left, hleft, hsuffix⟩

theorem holdsInOrder_cons (piece : List Char) (pieces : List (List Char)) (cs : List Char) :
    holdsInOrder (piece :: pieces) cs = (after? piece cs).any (holdsInOrder pieces) := by
  unfold holdsInOrder
  rw [List.foldlM_cons]
  cases after? piece cs <;> rfl

/-- To search each piece behind the first occurrence of the one before misses nothing. -/
theorem holdsInOrder_iff : holdsInOrder pieces cs ↔ InOrder pieces cs := by
  induction pieces generalizing cs with
  | nil => exact iff_of_true rfl trivial
  | cons piece pieces ih =>
    rw [holdsInOrder_cons, Option.any_eq_true]
    constructor
    · rintro ⟨rest, hrest, hholds⟩
      obtain ⟨before, rfl⟩ := eq_append_of_after? hrest
      exact ⟨before, rest, rfl, ih.mp hholds⟩
    · rintro ⟨before, rest, rfl, h⟩
      obtain ⟨left, hleft, hsuffix⟩ := exists_after? piece rest before
      exact ⟨left, hleft, ih.mpr (h.of_suffix hsuffix)⟩

end Pieces

section Lines

variable {c : Char} {word a b : List Char}

theorem lines_eq_splitOn (cs : List Char) : lines cs = cs.splitOn '\n' := by
  induction cs with
  | nil => rfl
  | cons c cs ih =>
    obtain ⟨l, ls, hls⟩ := List.exists_cons_of_ne_nil (List.splitOn_ne_nil '\n' cs)
    rw [List.splitOn_cons_eq_if_modifyHead, hls]
    by_cases hc : c = '\n'
    · subst hc
      simp [lines, ih, hls]
    · simp [lines, ih, hls, hc]

theorem not_mem_of_mem_splitOn {l : List Char} : ∀ {cs : List Char}, l ∈ cs.splitOn c → c ∉ l
  | [], h => by
    rw [List.splitOn_nil, List.mem_singleton] at h
    simp [h]
  | d :: cs, h => by
    obtain ⟨first, others, hsplit⟩ := List.exists_cons_of_ne_nil (List.splitOn_ne_nil c cs)
    have hrest : ∀ l ∈ first :: others, c ∉ l := fun l hl => not_mem_of_mem_splitOn (hsplit ▸ hl)
    rw [List.splitOn_cons_eq_if_modifyHead, hsplit] at h
    split at h
    · rcases List.mem_cons.mp h with rfl | hl
      · exact List.not_mem_nil
      · exact hrest l hl
    · rename_i hne
      rcases List.mem_cons.mp h with rfl | hl
      · rw [List.mem_cons, not_or]
        exact ⟨fun hcd => hne (beq_iff_eq.mpr hcd.symm), hrest first List.mem_cons_self⟩
      · exact hrest l (List.mem_cons_of_mem first hl)

theorem eq_nil_of_prefix_cons (h : c ∉ word) (hstarts : word <+: c :: b) : word = [] := by
  cases word with
  | nil => rfl
  | cons d word =>
    obtain rfl := (List.cons_prefix_cons.mp hstarts).1
    exact absurd List.mem_cons_self h

theorem infix_append_cons_iff (h : c ∉ word) : word <:+: a ++ c :: b ↔ word <:+: a ∨ word <:+: b := by
  rw [List.infix_append_iff]
  constructor
  · rintro (ha | hb | ⟨start, tail, rfl, ha, hb⟩)
    · exact .inl ha
    · rcases List.infix_cons_iff.mp hb with hstarts | hb
      · exact .inl (eq_nil_of_prefix_cons h hstarts ▸ List.nil_infix)
      · exact .inr hb
    · obtain rfl := eq_nil_of_prefix_cons (fun hmem => h (List.mem_append_right start hmem)) hb
      rw [List.append_nil]
      exact .inl ha.isInfix
  · rintro (ha | hb)
    · exact .inl ha
    · exact .inr (.inl (List.infix_cons hb))

theorem infix_intercalate_iff (h : c ∉ word) : ∀ {parts : List (List Char)}, parts ≠ [] →
    (word <:+: [c].intercalate parts ↔ ∃ part ∈ parts, word <:+: part)
  | [], hne => absurd rfl hne
  | [part], _ => by simp
  | part :: part' :: parts, _ => by
    rw [List.intercalate_cons_cons, List.append_assoc, List.singleton_append, infix_append_cons_iff h,
      infix_intercalate_iff h (List.cons_ne_nil part' parts)]
    simp only [List.mem_cons, exists_eq_or_imp]

theorem infix_cons_iff_of_ne {d : Char} (h : c ≠ d) : d :: word <:+: c :: a ↔ d :: word <:+: a := by
  rw [List.infix_cons_iff, List.cons_prefix_cons]
  exact or_iff_right fun hstarts => h hstarts.1.symm

/-- A word without a line feed stands in a text exactly if it stands on one of its lines. -/
theorem infix_iff_exists_line (h : '\n' ∉ word) (cs : List Char) :
    word <:+: cs ↔ ∃ line ∈ cs.splitOn '\n', word <:+: line := by
  rw [← infix_intercalate_iff h (List.splitOn_ne_nil '\n' cs), List.intercalate_splitOn]

def firstLine (cs : List Char) : List Char := cs.takeWhile (· ≠ '\n')

def lastLine (cs : List Char) : List Char := (firstLine cs.reverse).reverse

theorem firstLine_cases (cs : List Char) : firstLine cs = cs ∨ ∃ rest, cs = firstLine cs ++ '\n' :: rest := by
  have hsplit : firstLine cs ++ cs.dropWhile (· ≠ '\n') = cs := List.takeWhile_append_dropWhile
  cases hrest : cs.dropWhile (· ≠ '\n') with
  | nil =>
    rw [hrest, List.append_nil] at hsplit
    exact .inl hsplit
  | cons d rest =>
    have hd : d = '\n' := by
      have hhead := List.head?_dropWhile_not (fun d => decide (d ≠ '\n')) cs
      rw [hrest] at hhead
      simpa using hhead
    rw [hrest, hd] at hsplit
    exact .inr ⟨rest, hsplit.symm⟩

theorem lastLine_cases (cs : List Char) : lastLine cs = cs ∨ ∃ before, cs = before ++ '\n' :: lastLine cs := by
  rcases firstLine_cases cs.reverse with h | ⟨rest, h⟩
  · exact .inl (by rw [lastLine, h, List.reverse_reverse])
  · refine .inr ⟨rest.reverse, ?_⟩
    have hreverse := congrArg List.reverse h
    simpa [lastLine] using hreverse

theorem firstLine_prefix (cs : List Char) : firstLine cs <+: cs := List.takeWhile_prefix _

theorem lastLine_suffix (cs : List Char) : lastLine cs <:+ cs := by
  have h := firstLine_prefix cs.reverse
  rw [← List.reverse_suffix, List.reverse_reverse] at h
  exact h

/-- Where a text goes on with another on its last line, a word without a line feed stands in one of the two, or on the
line that they share. -/
theorem infix_joined_iff (h : '\n' ∉ word) : word <:+: a ++ ' ' :: b ↔
    word <:+: a ∨ word <:+: b ∨ word <:+: lastLine a ++ ' ' :: firstLine b := by
  constructor
  · intro hstands
    have hfirst : word <:+: b ∨ word <:+: a ++ ' ' :: firstLine b := by
      rcases firstLine_cases b with hb | ⟨rest, hb⟩
      · rw [hb]
        exact .inr hstands
      · rw [hb, ← List.cons_append, ← List.append_assoc, infix_append_cons_iff h] at hstands
        rcases hstands with hstands | hstands
        · exact .inr hstands
        · rw [hb]
          exact .inl ((infix_append_cons_iff h).mpr (.inr hstands))
    rcases hfirst with hb | hjoined
    · exact .inr (.inl hb)
    · rcases lastLine_cases a with ha | ⟨before, ha⟩
      · rw [← ha] at hjoined
        exact .inr (.inr hjoined)
      · rw [ha, List.append_assoc, List.cons_append, infix_append_cons_iff h] at hjoined
        rcases hjoined with hjoined | hjoined
        · rw [ha]
          exact .inl ((infix_append_cons_iff h).mpr (.inl hjoined))
        · exact .inr (.inr hjoined)
  · rintro (ha | hb | hseam)
    · exact ha.trans (List.prefix_append a _).isInfix
    · exact hb.trans ((List.suffix_cons ' ' b).trans (List.suffix_append a _)).isInfix
    · obtain ⟨before, hbefore⟩ := lastLine_suffix a
      obtain ⟨rest, hrest⟩ := firstLine_prefix b
      refine hseam.trans ⟨before, rest, ?_⟩
      conv_rhs => rw [← hbefore, ← hrest]
      simp only [List.append_assoc, List.cons_append]

end Lines

end Text

namespace Failure

section Pattern

def dot : Language Char := {word | ∃ c, c ≠ '\n' ∧ word = [c]}

/-- The words of the pattern `assignee.*User.*does not exist\.`. -/
def rejection : Language Char :=
  {"assignee".toList} * dot∗ * {"User".toList} * dot∗ * {"does not exist.".toList}

/-- The words of the pattern that stand somewhere in a text. -/
def rejectionsIn (text : String) : Set (List Char) := {word ∈ rejection | word <:+: text.toList}

variable {word line : List Char}

theorem mem_star_dot_iff : word ∈ dot∗ ↔ '\n' ∉ word := by
  rw [Language.mem_kstar]
  constructor
  · rintro ⟨parts, rfl, hparts⟩ hmem
    obtain ⟨part, hpart, hmem⟩ := List.mem_flatten.mp hmem
    obtain ⟨c, hc, rfl⟩ := hparts part hpart
    exact hc (List.mem_singleton.mp hmem).symm
  · intro h
    have hparts : (word.map fun c => [c]).flatten = word := by
      rw [← List.flatMap_def, List.flatMap_singleton']
    refine ⟨word.map fun c => [c], hparts.symm, fun part hpart => ?_⟩
    obtain ⟨c, hc, rfl⟩ := List.mem_map.mp hpart
    exact ⟨c, fun hline => h (hline ▸ hc), rfl⟩

theorem mem_rejection_iff : word ∈ rejection ↔ ∃ gap gap' : List Char, '\n' ∉ gap ∧ '\n' ∉ gap' ∧
    word = "assignee".toList ++ gap ++ "User".toList ++ gap' ++ "does not exist.".toList := by
  simp only [rejection, Language.mem_mul, mem_star_dot_iff]
  constructor
  · rintro ⟨_, ⟨_, ⟨_, ⟨_, rfl, gap, hgap, rfl⟩, _, rfl, rfl⟩, gap', hgap', rfl⟩, _, rfl, rfl⟩
    exact ⟨gap, gap', hgap, hgap', rfl⟩
  · rintro ⟨gap, gap', hgap, hgap', rfl⟩
    exact ⟨_, ⟨_, ⟨_, ⟨_, rfl, gap, hgap, rfl⟩, _, rfl, rfl⟩, gap', hgap', rfl⟩, _, rfl, rfl⟩

theorem not_mem_of_mem_rejection (h : word ∈ rejection) : '\n' ∉ word := by
  obtain ⟨gap, gap', hgap, hgap', rfl⟩ := mem_rejection_iff.mp h
  have hpieces : '\n' ∉ "assignee".toList ∧ '\n' ∉ "User".toList ∧ '\n' ∉ "does not exist.".toList := by decide
  simp only [List.mem_append, not_or]
  exact ⟨⟨⟨⟨hpieces.1, hgap⟩, hpieces.2.1⟩, hgap'⟩, hpieces.2.2⟩

theorem exists_cons_of_mem_rejection (h : word ∈ rejection) : ∃ tail, word = 'a' :: tail := by
  obtain ⟨gap, gap', -, -, rfl⟩ := mem_rejection_iff.mp h
  exact ⟨_, rfl⟩

theorem inOrder_rejectionPieces_iff : Text.InOrder rejectionPieces line ↔ ∃ before gap gap' rest : List Char,
    line = before ++ "assignee".toList ++ gap ++ "User".toList ++ gap' ++ "does not exist.".toList ++ rest := by
  constructor
  · rintro ⟨before, _, rfl, gap, _, rfl, gap', rest, rfl, -⟩
    exact ⟨before, gap, gap', rest, by simp only [List.append_assoc]⟩
  · rintro ⟨before, gap, gap', rest, rfl⟩
    exact ⟨before, _, by simp only [List.append_assoc], gap, _, rfl, gap', rest, rfl, trivial⟩

theorem inOrder_iff_exists_rejection (h : '\n' ∉ line) :
    Text.InOrder rejectionPieces line ↔ ∃ word ∈ rejection, word <:+: line := by
  rw [inOrder_rejectionPieces_iff]
  constructor
  · rintro ⟨before, gap, gap', rest, rfl⟩
    simp only [List.mem_append, not_or] at h
    refine ⟨_, mem_rejection_iff.mpr ⟨gap, gap', h.1.1.1.1.2, h.1.1.2, rfl⟩, before, rest, ?_⟩
    simp only [List.append_assoc]
  · rintro ⟨word, hword, before, rest, rfl⟩
    obtain ⟨gap, gap', -, -, rfl⟩ := mem_rejection_iff.mp hword
    exact ⟨before, gap, gap', rest, by simp only [List.append_assoc]⟩

end Pattern

section Messages

variable {text : String} {word : List Char}

/-- One of the lines into which line feeds part the text has the pieces in this order, without overlap. -/
def HasRejectingLine (text : String) : Prop :=
  ∃ line ∈ text.toList.splitOn '\n', ∃ before gap gap' rest : List Char,
    line = before ++ "assignee".toList ++ gap ++ "User".toList ++ gap' ++ "does not exist.".toList ++ rest

theorem saysRejected_iff : saysRejected text ↔ HasRejectingLine text := by
  simp only [saysRejected, HasRejectingLine, Text.lines_eq_splitOn, List.any_eq_true, Text.holdsInOrder_iff,
    inOrder_rejectionPieces_iff]

/-- To search the lines for the pieces is to search the whole text for the pattern. -/
theorem hasRejectingLine_iff_nonempty : HasRejectingLine text ↔ (rejectionsIn text).Nonempty := by
  constructor
  · rintro ⟨line, hline, hpieces⟩
    obtain ⟨word, hword, hstands⟩ := (inOrder_iff_exists_rejection (Text.not_mem_of_mem_splitOn hline)).mp
      (inOrder_rejectionPieces_iff.mpr hpieces)
    have hfeed := not_mem_of_mem_rejection hword
    exact ⟨word, hword, (Text.infix_iff_exists_line hfeed _).mpr ⟨line, hline, hstands⟩⟩
  · rintro ⟨word, hword, hstands⟩
    obtain ⟨line, hline, hstands⟩ := (Text.infix_iff_exists_line (not_mem_of_mem_rejection hword) _).mp hstands
    have hpieces := (inOrder_iff_exists_rejection (Text.not_mem_of_mem_splitOn hline)).mpr ⟨word, hword, hstands⟩
    exact ⟨line, hline, inOrder_rejectionPieces_iff.mp hpieces⟩

/-- The message of a refusal has its text, unless the details are in a file. -/
theorem text_infix_message (r : TrackerRefusal) (h : ∀ name, r.form ≠ .filed name) :
    r.text.toList <:+: r.message.toList := by
  have htext : r.text.toList <:+: r.textLines.toList := by
    unfold TrackerRefusal.textLines
    split
    · rename_i hempty
      rw [hempty]
    · rw [String.toList_append]
      exact (List.suffix_append _ _).isInfix
  have hmiddle : ∀ rest : String, r.text.toList <:+: (r.heading ++ r.textLines ++ rest).toList := fun rest => by
    rw [String.toList_append, String.toList_append]
    exact htext.trans (List.infix_append _ _ _)
  unfold TrackerRefusal.message
  cases hform : r.form with
  | usual =>
    dsimp only
    rw [String.append_assoc]
    exact hmiddle _
  | compact => exact hmiddle _
  | filed name => exact absurd hform (h name)

theorem toList_fullText (r : TrackerRefusal) (h : r.text ≠ "") :
    (fullText (.tracker r)).toList = r.message.toList ++ ' ' :: r.text.toList := by
  unfold fullText
  dsimp only
  rw [if_neg h, String.toList_append, String.toList_append]
  rfl

/-- Behind the message the text says again what it says, or something together with the last line of the message. -/
theorem rejectionsIn_fullText (r : TrackerRefusal) (h : r.text ≠ "") : rejectionsIn (fullText (.tracker r)) =
    rejectionsIn r.message ∪ rejectionsIn r.text ∪
      {word ∈ rejection | word <:+: Text.lastLine r.message.toList ++ ' ' :: Text.firstLine r.text.toList} := by
  ext word
  simp only [rejectionsIn, Set.mem_union, Set.mem_ofPred_eq, toList_fullText r h, ← and_or_left, or_assoc]
  exact and_congr_right fun hword => Text.infix_joined_iff (not_mem_of_mem_rejection hword)

/-- The last line of the message and the first line of the text, which follows it there. -/
def sharedLine (r : TrackerRefusal) : String :=
  String.ofList (Text.lastLine r.message.toList ++ ' ' :: Text.firstLine r.text.toList)

theorem rejectionsIn_sharedLine (r : TrackerRefusal) : rejectionsIn (sharedLine r) =
    {word ∈ rejection | word <:+: Text.lastLine r.message.toList ++ ' ' :: Text.firstLine r.text.toList} := by
  simp only [rejectionsIn, sharedLine, String.toList_ofList]

/-- A refusal that shows no request and no answer and is printed as usual. -/
def Bare (r : TrackerRefusal) : Prop := r.request = {} ∧ r.response = {} ∧ r.form = .usual

theorem Bare.details_eq {r : TrackerRefusal} (h : Bare r) : r.details = "" := by
  unfold TrackerRefusal.details
  rw [h.1, h.2.1]
  rfl

theorem Bare.lastLine_message {r : TrackerRefusal} (h : Bare r) : Text.lastLine r.message.toList = ['\t'] := by
  unfold TrackerRefusal.message
  rw [h.2.2, h.details_eq]
  simp [Text.lastLine, Text.firstLine]

theorem Bare.rejectionsIn_fullText {r : TrackerRefusal} (h : Bare r) :
    rejectionsIn (fullText (.tracker r)) = rejectionsIn r.message := by
  by_cases hempty : r.text = ""
  · unfold fullText
    dsimp only
    rw [if_pos hempty, String.append_empty]
  · have htext := text_infix_message r fun name hform => by
      rw [h.2.2] at hform
      cases hform
    rw [Failure.rejectionsIn_fullText r hempty, h.lastLine_message, Set.union_assoc, Set.union_eq_left]
    have hcopy : ∀ {word}, word <:+: r.text.toList → word <:+: r.message.toList := fun hstands => hstands.trans htext
    rintro word (⟨hword, hstands⟩ | ⟨hword, hstands⟩)
    · exact ⟨hword, hcopy hstands⟩
    -- What stands between the two copies of the text starts no word of the pattern.
    · obtain ⟨tail, rfl⟩ := exists_cons_of_mem_rejection hword
      rw [List.singleton_append, Text.infix_cons_iff_of_ne (by decide), Text.infix_cons_iff_of_ne (by decide)] at hstands
      exact ⟨hword, hcopy (hstands.trans (Text.firstLine_prefix _).isInfix)⟩

theorem isRejectedAssignee_iff (f : Failure) : f.isRejectedAssignee ↔ (rejectionsIn f.fullText).Nonempty :=
  saysRejected_iff.trans hasRejectingLine_iff_nonempty

theorem isRejectedAssignee_tracker_iff (r : TrackerRefusal) (h : r.text ≠ "") :
    (Failure.tracker r).isRejectedAssignee ↔
      HasRejectingLine r.message ∨ HasRejectingLine r.text ∨ HasRejectingLine (sharedLine r) := by
  rw [isRejectedAssignee_iff, rejectionsIn_fullText r h, ← rejectionsIn_sharedLine, Set.union_assoc,
    Set.union_nonempty, Set.union_nonempty]
  simp only [hasRejectingLine_iff_nonempty]

/-- A failure is taken for a rejection of the assignee exactly if one line of what is searched says so, and exactly if
the pattern is found there. This is the message, and behind that of a refusal its text. A refusal that shows no request
and no answer has its text in the message, and the text behind it adds no word of the pattern, so that to search the
message alone gives the same answer. Of any other, a line of the message or of the text has to say so, or the line that
they share. -/
theorem rejections_are_recognised :
    (∀ f : Failure, (f.isRejectedAssignee ↔ HasRejectingLine f.fullText) ∧
      (f.isRejectedAssignee ↔ (rejectionsIn f.fullText).Nonempty)) ∧
    (∀ f : Failure, (∀ r, f ≠ .tracker r) → f.fullText = f.message) ∧
    (∀ r : TrackerRefusal, Bare r → r.text.toList <:+: (message (.tracker r)).toList ∧
      rejectionsIn (fullText (.tracker r)) = rejectionsIn (message (.tracker r)) ∧
      (tracker r).isRejectedAssignee = saysRejected (message (.tracker r))) ∧
    ∀ r : TrackerRefusal, (tracker r).isRejectedAssignee ↔
      HasRejectingLine (message (.tracker r)) ∨
        (r.text ≠ "" ∧ (HasRejectingLine r.text ∨ HasRejectingLine (sharedLine r))) := by
  refine ⟨fun f => ⟨saysRejected_iff, isRejectedAssignee_iff f⟩, fun f hf => ?_, fun r hr => ?_, fun r => ?_⟩
  · cases f with
    | tracker r => exact absurd rfl (hf r)
    | _ => rfl
  · refine ⟨text_infix_message r fun name hform => ?_, hr.rejectionsIn_fullText, Bool.eq_iff_iff.mpr ?_⟩
    · rw [hr.2.2] at hform
      cases hform
    · rw [isRejectedAssignee_iff, hr.rejectionsIn_fullText, saysRejected_iff, hasRejectingLine_iff_nonempty]
      rfl
  · by_cases hempty : r.text = ""
    · have hmessage : fullText (.tracker r) = message (.tracker r) := by
        unfold fullText
        dsimp only
        rw [if_pos hempty, String.append_empty]
        rfl
      rw [← hmessage]
      exact saysRejected_iff.trans (by simp [hempty])
    · rw [isRejectedAssignee_tracker_iff r hempty]
      exact or_congr Iff.rfl (by simp [hempty])

theorem rejections_are_recognised_ghost :
    let r : TrackerRefusal := { text := "assignee: User 'ghost' does not exist.", status := .int 400, url := "" }
    Bare r ∧ (tracker r).isRejectedAssignee = true ∧
      rejectionsIn (fullText (.tracker r)) = rejectionsIn (message (.tracker r)) := by
  intro r
  have hbare : Bare r := ⟨rfl, rfl, rfl⟩
  have hr := rejections_are_recognised.2.2.1 r hbare
  exact ⟨hbare, hr.2.2.trans (by decide +kernel), hr.2.1⟩

/-- An answer may end with a line that names an assignee, behind which the text says that a user does not exist. No line
of the message says so much. -/
theorem rejections_over_the_seam :
    let said := "User 'bob' does not exist. Check the assignee"
    let r : TrackerRefusal := { text := said, status := .int 400, url := "", response := { text := some said } }
    r.text.toList <:+: (message (.tracker r)).toList ∧ (tracker r).isRejectedAssignee = true ∧
      saysRejected (message (.tracker r)) = false ∧ ¬HasRejectingLine (message (.tracker r)) := by
  intro said r
  have hsays : saysRejected (message (.tracker r)) = false := by decide +kernel
  refine ⟨text_infix_message r nofun, by decide +kernel, hsays, fun h => ?_⟩
  rw [← saysRejected_iff, hsays] at h
  cases h

/-- The address of a refusal ends its line, so the text has to say all by itself. -/
example :
    let r : TrackerRefusal := { text := "User 'ghost' does not exist.", status := .int 400, url := "jira/assignee" }
    (tracker r).isRejectedAssignee = false := by
  decide +kernel

end Messages

end Failure

end IssueBridge

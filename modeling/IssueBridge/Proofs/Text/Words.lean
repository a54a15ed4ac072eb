import IssueBridge.Text.Words

/-! # Which command lines have words

A line has words exactly if its quotes are closed and each backslash is followed by a character that it can take. It has
none at all if it holds nothing but separators. Characters without a meaning for the reader are all kept.
-/

namespace IssueBridge.Text.Words

/-- What can stand between two equal marks: anything but the mark. Between double quotes a backslash takes the
character after it along. -/
inductive Quotable (mark : Char) : List Char → Prop
  | nil : Quotable mark []
  | plain {c : Char} {cs : List Char} (hmark : c ≠ mark) (hplain : ¬ (c = '\\' ∧ mark = '"')) (h : Quotable mark cs) :
    Quotable mark (c :: cs)
  | escaped {c : Char} {cs : List Char} (hmark : mark = '"') (h : Quotable mark cs) : Quotable mark ('\\' :: c :: cs)

/-- Quotes are closed, and outside them a backslash is followed by a character. -/
inductive Closed : List Char → Prop
  | nil : Closed []
  | plain {c : Char} {cs : List Char} (hmark : isMark c = false) (hplain : c ≠ '\\') (h : Closed cs) : Closed (c :: cs)
  | escaped {c : Char} {cs : List Char} (h : Closed cs) : Closed ('\\' :: c :: cs)
  | quoted {mark : Char} {body cs : List Char} (hmark : isMark mark = true) (hbody : Quotable mark body)
    (h : Closed cs) : Closed (mark :: (body ++ mark :: cs))

theorem not_isMark_of_isSeparator {c : Char} (h : isSeparator c = true) : isMark c = false ∧ c ≠ '\\' := by
  simp only [isSeparator, Bool.or_eq_true, decide_eq_true_eq] at h
  rcases h with ((rfl | rfl) | rfl) | rfl <;> decide

section Modes

/-- Where in a word the reader is after one more character. -/
def Mode.next : Mode → Char → Mode
  | .plain, c => if isMark c then .quote c else if c = '\\' then .escape else .plain
  | .escape, _ => .plain
  | .quote mark, c => if c = mark then .plain else if c = '\\' ∧ mark = '"' then .escapeInQuote mark else .quote mark
  | .escapeInQuote mark, _ => .quote mark

namespace Mode

variable {mark c : Char}

theorem next_plain_of_isMark (h : isMark c = true) : next .plain c = .quote c := if_pos h

theorem next_plain_of_escape : next .plain '\\' = .escape := rfl

theorem next_plain_of_plain (hmark : isMark c = false) (hplain : c ≠ '\\') : next .plain c = .plain := by
  simp [next, hmark, hplain]

theorem next_quote_of_mark : next (.quote mark) mark = .plain := if_pos rfl

theorem next_quote_of_escape : next (.quote '"') '\\' = .escapeInQuote '"' := rfl

theorem next_quote_of_plain (hmark : c ≠ mark) (hplain : ¬ (c = '\\' ∧ mark = '"')) :
    next (.quote mark) c = .quote mark := by
  simp [next, hmark, hplain]

end Mode

theorem Reader.mode_step (r : Reader) (c : Char) : (r.step c).mode = r.mode.next c := by
  obtain ⟨mode, word, done⟩ := r
  unfold step Mode.next
  cases mode with
  | plain =>
    dsimp only
    split
    · rename_i hsep
      obtain ⟨hmark, hplain⟩ := not_isMark_of_isSeparator hsep
      rw [if_neg (by rw [hmark]; decide), if_neg hplain]
    · split
      · rfl
      · split <;> rfl
  | escape => rfl
  | quote mark =>
    dsimp only
    split
    · rfl
    · split <;> rfl
  | escapeInQuote mark => rfl

theorem Reader.mode_foldl (cs : List Char) (r : Reader) : (cs.foldl step r).mode = cs.foldl Mode.next r.mode := by
  induction cs generalizing r with
  | nil => rfl
  | cons c cs ih => rw [List.foldl_cons, List.foldl_cons, ih, mode_step]

theorem Reader.result_eq_ok_iff {r : Reader} {ws : List String} :
    r.result = .ok ws ↔ r.mode = .plain ∧ ws = r.finish.reverse := by
  unfold result
  cases r.mode <;> simp [eq_comm]

theorem foldl_next_of_quotable {mark : Char} {body : List Char} (h : Quotable mark body) :
    body.foldl Mode.next (.quote mark) = .quote mark := by
  induction h with
  | nil => rfl
  | plain hmark hplain _ ih => rw [List.foldl_cons, Mode.next_quote_of_plain hmark hplain, ih]
  | escaped hmark _ ih =>
    subst hmark
    rw [List.foldl_cons, Mode.next_quote_of_escape]
    exact ih

theorem foldl_next_of_closed {cs : List Char} (h : Closed cs) : cs.foldl Mode.next .plain = .plain := by
  induction h with
  | nil => rfl
  | plain hmark hplain _ ih => rw [List.foldl_cons, Mode.next_plain_of_plain hmark hplain, ih]
  | escaped _ ih =>
    rw [List.foldl_cons, Mode.next_plain_of_escape]
    exact ih
  | quoted hmark hbody _ ih =>
    rw [List.foldl_cons, Mode.next_plain_of_isMark hmark, List.foldl_append, foldl_next_of_quotable hbody,
      List.foldl_cons, Mode.next_quote_of_mark, ih]

/-- What has to follow at some place in a line for the line to be closed. -/
def Mode.Completed : Mode → List Char → Prop
  | .plain, cs => Closed cs
  | .escape, cs => ∃ c rest, cs = c :: rest ∧ Closed rest
  | .quote mark, cs => ∃ body rest, cs = body ++ mark :: rest ∧ Quotable mark body ∧ Closed rest
  | .escapeInQuote mark, cs => ∃ c body rest, cs = c :: (body ++ mark :: rest) ∧ Quotable mark body ∧ Closed rest

theorem completed_of_foldl_next : ∀ (cs : List Char) (m : Mode), cs.foldl Mode.next m = .plain → m.Completed cs
  | [], .plain, _ => .nil
  | [], .escape, h => nomatch h
  | [], .quote _, h => nomatch h
  | [], .escapeInQuote _, h => nomatch h
  | c :: cs, .plain, h => by
    have hrest := completed_of_foldl_next cs (Mode.next .plain c) h
    by_cases hmark : isMark c = true
    · rw [Mode.next_plain_of_isMark hmark] at hrest
      obtain ⟨body, rest, rfl, hbody, hclosed⟩ := hrest
      exact .quoted hmark hbody hclosed
    · rw [Bool.not_eq_true] at hmark
      by_cases hescape : c = '\\'
      · subst hescape
        obtain ⟨d, rest, rfl, hclosed⟩ := hrest
        exact .escaped hclosed
      · rw [Mode.next_plain_of_plain hmark hescape] at hrest
        exact .plain hmark hescape hrest
  | c :: cs, .escape, h => ⟨c, cs, rfl, completed_of_foldl_next cs .plain h⟩
  | c :: cs, .quote mark, h => by
    have hrest := completed_of_foldl_next cs (Mode.next (.quote mark) c) h
    by_cases hmark : c = mark
    · subst hmark
      rw [Mode.next_quote_of_mark] at hrest
      exact ⟨[], cs, rfl, .nil, hrest⟩
    · by_cases hescape : c = '\\' ∧ mark = '"'
      · obtain ⟨rfl, rfl⟩ := hescape
        obtain ⟨d, body, rest, rfl, hbody, hclosed⟩ := hrest
        exact ⟨'\\' :: d :: body, rest, rfl, .escaped rfl hbody, hclosed⟩
      · rw [Mode.next_quote_of_plain hmark hescape] at hrest
        obtain ⟨body, rest, rfl, hbody, hclosed⟩ := hrest
        exact ⟨c :: body, rest, rfl, .plain hmark hescape hbody, hclosed⟩
  | c :: cs, .escapeInQuote mark, h => by
    obtain ⟨body, rest, rfl, hbody, hclosed⟩ := completed_of_foldl_next cs (.quote mark) h
    exact ⟨c, body, rest, rfl, hbody, hclosed⟩

theorem closed_iff {cs : List Char} : Closed cs ↔ cs.foldl Mode.next .plain = .plain :=
  ⟨foldl_next_of_closed, completed_of_foldl_next cs .plain⟩

/-- A line has words exactly if it is closed. -/
theorem exists_split_iff {line : String} : (∃ ws, split line = .ok ws) ↔ Closed line.toList := by
  unfold split
  simp only [Reader.result_eq_ok_iff, Reader.mode_foldl, closed_iff]
  exact ⟨fun ⟨_, h, _⟩ => h, fun h => ⟨_, h, rfl⟩⟩

end Modes

section Blank

namespace Reader

def Begun (r : Reader) : Prop := r.mode = .escape ∨ r.word ≠ none ∨ r.done ≠ []

theorem finish_ne_nil {r : Reader} (h : r.Begun) (hmode : r.mode = .plain) : r.finish ≠ [] := by
  unfold finish
  rcases h with hescape | hword | hdone
  · exact absurd (hmode.symm.trans hescape) nofun
  · split
    · exact absurd ‹_› hword
    · exact List.cons_ne_nil _ _
  · split
    · exact hdone
    · exact List.cons_ne_nil _ _

theorem Begun.step {r : Reader} (h : r.Begun) (c : Char) : (r.step c).Begun := by
  obtain ⟨mode, word, done⟩ := r
  cases mode with
  | plain =>
    have hfinish := finish_ne_nil h rfl
    unfold Reader.step Begun
    dsimp only
    split
    · exact .inr (.inr hfinish)
    · split
      · exact .inr (.inl nofun)
      · split
        · exact .inl rfl
        · exact .inr (.inl nofun)
  | escape => exact .inr (.inl nofun)
  | quote mark =>
    have hkept : word ≠ none ∨ done ≠ [] := h.resolve_left nofun
    unfold Reader.step Begun
    dsimp only
    split
    · exact .inr hkept
    · split
      · exact .inr hkept
      · exact .inr (.inl nofun)
  | escapeInQuote mark => exact .inr (.inl nofun)

theorem Begun.foldl {r : Reader} (h : r.Begun) (cs : List Char) : (cs.foldl Reader.step r).Begun := by
  induction cs generalizing r with
  | nil => exact h
  | cons c cs ih => exact ih (h.step c)

end Reader

theorem split_eq_nil_iff {line : String} : split line = .ok [] ↔ ∀ c ∈ line.toList, isSeparator c = true := by
  unfold split
  rw [Reader.result_eq_ok_iff]
  generalize line.toList = cs
  induction cs with
  | nil => simp [Reader.finish]
  | cons c cs ih =>
    rw [List.foldl_cons, List.forall_mem_cons]
    by_cases hsep : isSeparator c = true
    · have hstay : ({} : Reader).step c = {} := if_pos hsep
      rw [hstay, ih]
      simp [hsep]
    · have hbegun : (({} : Reader).step c).Begun := by
        unfold Reader.step Reader.Begun
        dsimp only
        rw [if_neg hsep]
        split
        · simp
        · split <;> simp [Reader.put]
      constructor
      · rintro ⟨hmode, hnil⟩
        exact absurd (List.reverse_eq_nil_iff.mp hnil.symm) (Reader.finish_ne_nil (hbegun.foldl cs) hmode)
      · exact fun h => absurd h.1 hsep

end Blank

section Kept

structure Ordinary (x : Char) : Prop where
  separator : isSeparator x = false
  mark : isMark x = false
  escape : x ≠ '\\'

/-- What is quoted stands between marks. -/
def Mode.Marked : Mode → Prop
  | .plain => True
  | .escape => True
  | .quote mark => isMark mark = true
  | .escapeInQuote mark => isMark mark = true

theorem Mode.Marked.next {m : Mode} (h : m.Marked) (c : Char) : (m.next c).Marked := by
  cases m with
  | plain =>
    unfold Mode.next
    dsimp only
    split
    · assumption
    · split <;> trivial
  | escape => trivial
  | quote mark =>
    unfold Mode.next
    dsimp only
    split
    · trivial
    · split <;> exact h
  | escapeInQuote mark => exact h

namespace Reader

def chars (r : Reader) : List Char := r.word.getD [] ++ r.done.flatMap String.toList

variable {r : Reader} {x : Char}

theorem mem_chars_finish : (∃ w ∈ r.finish, x ∈ w.toList) ↔ x ∈ r.chars := by
  unfold finish chars
  cases r.word <;> simp

theorem chars_put (c : Char) : (r.put c).chars = c :: r.chars := rfl

theorem mem_chars_step (hx : Ordinary x) (hr : r.mode.Marked) (c : Char) :
    x ∈ (r.step c).chars ↔ x ∈ r.chars ∨ x = c := by
  have hput (s : Reader) : x ∈ (s.put c).chars ↔ x ∈ s.chars ∨ x = c := by
    rw [chars_put, List.mem_cons]
    exact or_comm
  have hlost (h : x ≠ c) : x ∈ r.chars ↔ x ∈ r.chars ∨ x = c := by simp [h]
  have hsep : isSeparator c = true → x ≠ c := by
    rintro h rfl
    exact absurd h (by simp [hx.separator])
  have hmark {m : Char} (h : isMark m = true) : x ≠ m := by
    rintro rfl
    exact absurd h (by simp [hx.mark])
  obtain ⟨mode, word, done⟩ := r
  cases mode with
  | plain =>
    unfold step
    dsimp only
    split
    · rename_i h
      have hfinish := mem_chars_finish (r := ⟨.plain, word, done⟩) (x := x)
      rw [← hlost (hsep h), ← hfinish]
      simp [chars]
    · split
      · rename_i h
        exact hlost (hmark h)
      · split
        · rename_i h
          exact hlost (h ▸ hx.escape)
        · exact hput _
  | escape => exact hput _
  | quote mark =>
    unfold step
    dsimp only
    split
    · rename_i h
      exact hlost (h ▸ hmark hr)
    · split
      · rename_i h
        exact hlost (h.1 ▸ hx.escape)
      · exact hput _
  | escapeInQuote mark =>
    unfold step
    dsimp only
    split
    · exact hput _
    · refine (hput _).trans ?_
      rw [chars_put, List.mem_cons, or_iff_right hx.escape]

theorem mem_chars_foldl (hx : Ordinary x) (cs : List Char) (hr : r.mode.Marked) :
    x ∈ (cs.foldl step r).chars ↔ x ∈ r.chars ∨ x ∈ cs := by
  induction cs generalizing r with
  | nil => simp
  | cons c cs ih =>
    rw [List.foldl_cons, ih (mode_step r c ▸ hr.next c), mem_chars_step hx hr, List.mem_cons, or_assoc]

end Reader

theorem mem_words_iff {x : Char} (hx : Ordinary x) {line : String} {ws : List String} (h : split line = .ok ws) :
    (∃ w ∈ ws, x ∈ w.toList) ↔ x ∈ line.toList := by
  obtain ⟨-, rfl⟩ := Reader.result_eq_ok_iff.mp h
  have hkept := Reader.mem_chars_foldl (r := {}) hx line.toList trivial
  rw [← Reader.mem_chars_finish] at hkept
  simpa [Reader.chars] using hkept

end Kept

end IssueBridge.Text.Words

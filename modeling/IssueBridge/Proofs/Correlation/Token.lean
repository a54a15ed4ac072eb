import IssueBridge.Projection.Text
import IssueBridge.Proofs.Projection.Result
import IssueBridge.Proofs.Text.Digits

/-! # Tokens of comments

A comment is found by the token at the front of its body. The body that is written for a comment carries
the comment's id, unless the id has more digits than a token may have.
-/

namespace IssueBridge.Correlation

open Text

section Finding

variable {α β : Type} {body : α → Option String} {id : Int}

theorem findToken?_cons (body : α → Option String) (id : Int) (a : α) (l : List α) :
    findToken? body id (a :: l) =
      match token? (body a) with
      | .error f => .error f
      | .ok none => findToken? body id l
      | .ok (some n) => if (n : Int) = id then .ok (some a) else findToken? body id l := by
  rw [findToken?]
  cases token? (body a) with
  | error f => rfl
  | ok o => cases o <;> rfl

theorem of_findToken? {a : α} : ∀ {l : List α}, findToken? body id l = .ok (some a) →
    a ∈ l ∧ ∃ n : Nat, token? (body a) = .ok (some n) ∧ (n : Int) = id
  | [], h => by cases h
  | c :: l, h => by
    have hrest : findToken? body id l = .ok (some a) → a ∈ c :: l ∧
        ∃ n : Nat, token? (body a) = .ok (some n) ∧ (n : Int) = id := fun h =>
      (of_findToken? h).imp_left (List.mem_cons_of_mem _)
    rw [findToken?_cons] at h
    cases ht : token? (body c) with
    | error f =>
      rw [ht] at h
      cases h
    | ok o =>
      rw [ht] at h
      cases o with
      | none => exact hrest h
      | some n =>
        dsimp only at h
        split at h
        · cases h
          exact ⟨List.mem_cons_self, n, ht, ‹_›⟩
        · exact hrest h

theorem mem_of_findToken? {a : α} {l : List α} (h : findToken? body id l = .ok (some a)) : a ∈ l :=
  (of_findToken? h).1

theorem findToken?_map (body : β → Option String) (id : Int) (g : α → β) (l : List α) :
    findToken? body id (l.map g) = (findToken? (fun a => body (g a)) id l).map (Option.map g) := by
  induction l with
  | nil => rfl
  | cons a l ih =>
    rw [List.map_cons, findToken?_cons, findToken?_cons, ih]
    cases token? (body (g a)) with
    | error f => rfl
    | ok o =>
      cases o with
      | none => rfl
      | some n =>
        dsimp only
        split <;> rfl

def carries (id : Int) (body : Option String) : Bool :=
  match token? body with
  | .ok (some n) => (n : Int) = id
  | _ => false

theorem carries_unique {text : Option String} {id' : Int} (h : carries id text) (h' : carries id' text) :
    id = id' := by
  unfold carries at h h'
  split at h
  · rename_i n hn
    rw [hn] at h'
    exact (of_decide_eq_true h).symm.trans (of_decide_eq_true h')
  · cases h

/-- Where all tokens can be read, the first member with the id in its token is found. -/
theorem findToken?_eq_find? {l : List α} (h : ∀ a ∈ l, ∃ o, token? (body a) = .ok o) :
    findToken? body id l = .ok (l.find? fun a => carries id (body a)) := by
  induction l with
  | nil => rfl
  | cons a l ih =>
    obtain ⟨o, ho⟩ := h a List.mem_cons_self
    rw [findToken?_cons, ho, ih fun b hb => h b (List.mem_cons_of_mem _ hb), List.find?_cons]
    unfold carries
    rw [ho]
    cases o with
    | none => rfl
    | some n =>
      dsimp only
      by_cases hn : (n : Int) = id
      · rw [if_pos hn, decide_eq_true hn]
      · rw [if_neg hn, decide_eq_false hn]

end Finding

section Digits

theorem tokenDigits?_append {ds : List Char} (h : ∀ c ∈ ds, isDigit c) (hne : ds ≠ [])
    (rest : List Char) : tokenDigits? (tokenStart ++ (ds ++ (tokenEnd ++ rest))) = some ds := by
  have hrun : (ds ++ (tokenEnd ++ rest)).takeWhile isDigit = ds :=
    takeWhile_run (c := ')') h (by decide) _
  unfold tokenDigits?
  simp only [dropStart?_append, Option.bind_eq_bind, Option.bind_some, hrun, List.drop_left]
  rw [if_neg (by simpa using hne)]

theorem tokenDigits?_eq_some_iff {cs ds : List Char} : tokenDigits? cs = some ds ↔
    ds ≠ [] ∧ (∀ c ∈ ds, isDigit c) ∧ ∃ rest, cs = tokenStart ++ (ds ++ (tokenEnd ++ rest)) := by
  constructor
  · intro h
    unfold tokenDigits? at h
    obtain ⟨run, hstart, h⟩ := Option.bind_eq_some_iff.mp h
    obtain ⟨rest, hend, h⟩ := Option.bind_eq_some_iff.mp h
    split at h
    · cases h
    · rename_i hne
      obtain rfl := Option.some.inj h
      have hrun := List.prefix_iff_eq_append.mp (List.takeWhile_prefix (p := isDigit) (l := run))
      rw [eq_append_of_dropStart? hend] at hrun
      refine ⟨by simpa using hne, List.all_eq_true.mp List.all_takeWhile, rest, ?_⟩
      rw [eq_append_of_dropStart? hstart, hrun]
  · rintro ⟨hne, hdigits, rest, rfl⟩
    exact tokenDigits?_append hdigits hne rest

/-- An id that was read from a token has no more digits than a token may have. -/
theorem length_digits_of_token? {body : Option String} {n : Nat} (h : token? body = .ok (some n)) :
    (Nat.toDigits 10 n).length ≤ maxDigits := by
  unfold token? at h
  cases hd : tokenDigits? (body.getD "").toList with
  | none =>
    rw [hd] at h
    cases h
  | some ds =>
    rw [hd] at h
    dsimp only at h
    split at h
    · rename_i hlen
      rw [← Option.some.inj (Except.ok.inj h)]
      exact Nat.le_trans (length_digits_number_le (tokenDigits?_eq_some_iff.mp hd).1) hlen
    · cases h

theorem token?_of_toList {body : String} {n : Nat} {rest : List Char}
    (h : body.toList = tokenStart ++ (Nat.toDigits 10 n ++ (tokenEnd ++ rest))) :
    token? (some body) = if (Nat.toDigits 10 n).length ≤ maxDigits then .ok (some n)
      else .error (.digitLimit (Nat.toDigits 10 n).length) := by
  have hdigits : tokenDigits? body.toList = some (Nat.toDigits 10 n) := by
    rw [h]
    exact tokenDigits?_append (fun _ hc => isDigit_of_isDigit (isDigit_of_mem_digits hc))
      (List.ne_nil_of_length_pos Nat.length_toDigits_pos) rest
  unfold token?
  rw [Option.getD_some, hdigits]
  dsimp only
  rw [number_digits]

end Digits

section Bodies

open Logged

variable {p : Projector} {c : GitHub.Comment} {body : String}

theorem eq_append_of_commentBody (h : result (p.commentBody c) = .ok body) :
    ∃ stamp rest, body = Projector.commentAttribution c stamp ++ rest := by
  unfold Projector.commentBody at h
  obtain ⟨t, log, h⟩ := resultFrom_bind_eq_ok h
  have hend : ∀ stamp, Projector.commentAttribution c stamp ++ "\n" ++ Projector.rule ++ "\n" ++
      t.text ++ "\n" = body → ∃ stamp rest, body = Projector.commentAttribution c stamp ++ rest := by
    rintro stamp rfl
    exact ⟨stamp, "\n" ++ (Projector.rule ++ ("\n" ++ (t.text ++ "\n"))),
      by simp only [String.append_assoc]⟩
  split at h
  · obtain ⟨_, log, h⟩ := resultFrom_bind_eq_ok h
    obtain ⟨stamp, log, h⟩ := resultFrom_bind_eq_ok h
    exact hend stamp (Except.ok.inj h)
  · obtain ⟨stamp, log, h⟩ := resultFrom_bind_eq_ok h
    exact hend stamp (Except.ok.inj h)

theorem toList_commentAttribution (c : GitHub.Comment) (stamp : String) :
    ∃ tail, (Projector.commentAttribution c stamp).toList =
      tokenStart ++ ((toString c.id).toList ++ (tokenEnd ++ tail)) := by
  refine ⟨c.url.toList ++ ("] ".toList ++ ((Projector.userText c.user).toList ++ stamp.toList)), ?_⟩
  unfold Projector.commentAttribution tokenStart tokenEnd
  simp only [String.toList_append, List.append_assoc]

/-- The body that is written for a comment carries its id in its token. -/
theorem token?_commentBody (h : result (p.commentBody c) = .ok body) (hid : 0 ≤ c.id) :
    token? (some body) = if (Nat.toDigits 10 c.id.toNat).length ≤ maxDigits then .ok (some c.id.toNat)
      else .error (.digitLimit (Nat.toDigits 10 c.id.toNat).length) := by
  obtain ⟨stamp, rest, rfl⟩ := eq_append_of_commentBody h
  have hdigits : (toString c.id).toList = Nat.toDigits 10 c.id.toNat := by
    obtain ⟨n, hn⟩ := Int.eq_ofNat_of_zero_le hid
    rw [hn]
    exact toList_ofNat n
  obtain ⟨tail, htail⟩ := toList_commentAttribution c stamp
  rw [hdigits] at htail
  have hlist : (Projector.commentAttribution c stamp ++ rest).toList = tokenStart ++
      (Nat.toDigits 10 c.id.toNat ++ (tokenEnd ++ (tail ++ rest.toList))) := by
    rw [String.toList_append, htail]
    simp only [List.append_assoc]
  exact token?_of_toList hlist

/-- The token of a body that takes the place of another for the same comment. -/
theorem token?_rewritten (h : result (p.commentBody c) = .ok body) (hid : 0 ≤ c.id)
    {old : Option String} {n : Nat} (hold : token? old = .ok (some n)) (hn : (n : Int) = c.id) :
    token? (some body) = .ok (some n) := by
  have hnat : c.id.toNat = n := by
    rw [← hn]
    rfl
  rw [token?_commentBody h hid, hnat, if_pos (length_digits_of_token? hold)]

end Bodies

end IssueBridge.Correlation

import IssueBridge.Bridge.Basic
import IssueBridge.Proofs.Correlation.Token
import Mathlib.Algebra.Group.Int.Defs

/-! # Comments that are found by what they were rendered from

The token of a rendered comment is the comment's own id, whatever its text, its address and its author
are. So rendered comments are told apart by their tokens exactly as by their ids.
-/

namespace IssueBridge

namespace Projector

open Logged Projection

variable (p : Projector) (c : GitHub.Comment)

def attributed (stamp text : String) : String :=
  commentAttribution c stamp ++ "\n" ++ rule ++ "\n" ++ text ++ "\n"

/-- Only the conversion of the text and the time can keep a comment from being rendered. -/
theorem result_commentBody : result (p.commentBody c) =
    (convert p.programs p.settings (c.body.getD "")).bind fun o =>
      (p.stamp c.createdAt).map fun stamp => attributed c stamp o.text :=
  p.result_rendering (c.body.getD "") ("Comment " ++ c.url ++ " synced without markup conversion") c.createdAt
    fun text stamp => attributed c stamp text

end Projector

namespace Correlation

open Text Logged Projection Tracker Bridge

theorem length_digits_toNat_le_iff {id : Int} :
    (Nat.toDigits 10 id.toNat).length ≤ maxDigits ↔ id < 10 ^ maxDigits := by
  have hcast : ((10 ^ maxDigits : Nat) : Int) = 10 ^ maxDigits := Int.natCast_pow 10 maxDigits
  have hpos : 0 < 10 ^ maxDigits := Nat.pow_pos (by decide)
  rw [Nat.length_toDigits_le_iff (by decide) (by decide), ← hcast]
  omega

/-- A projector renders the body for the comment, whose id can be read back from a token. -/
structure Rendered (c : GitHub.Comment) (body : String) : Prop where
  natural : 0 ≤ c.id
  readable : c.id < 10 ^ maxDigits
  rendered : ∃ p : Projector, result (p.commentBody c) = .ok body

namespace Rendered

variable {c d : GitHub.Comment} {body other : String}

theorem token?_eq (h : Rendered c body) : token? (some body) = .ok (some c.id.toNat) := by
  obtain ⟨p, hp⟩ := h.rendered
  rw [token?_commentBody hp h.natural, if_pos (length_digits_toNat_le_iff.mpr h.readable)]

theorem token?_eq_iff (h : Rendered c body) (h' : Rendered d other) :
    token? (some body) = token? (some other) ↔ c.id = d.id := by
  have hc := h.natural
  have hd := h'.natural
  rw [h.token?_eq, h'.token?_eq, Except.ok.injEq, Option.some.injEq]
  omega

theorem carries_eq (h : Rendered c body) (n : Int) : carries n (some body) = decide (c.id = n) := by
  unfold carries
  rw [h.token?_eq]
  dsimp only
  rw [Int.toNat_of_nonneg h.natural]

/-- Among rendered comments the first that was rendered from an id is found by it. -/
theorem matching_eq (n : Int) {l : List (CommentRef × GitHub.Comment)}
    (h : ∀ x ∈ l, ∃ body, x.1.body = some body ∧ Rendered x.2 body) :
    matching (l.map (·.1)) n = .ok ((l.find? (·.2.id = n)).map (·.1)) := by
  have hread : ∀ x ∈ l, ∃ o, token? x.1.body = .ok o := by
    intro x hx
    obtain ⟨body, hbody, hrendered⟩ := h x hx
    exact ⟨_, hbody ▸ hrendered.token?_eq⟩
  have hcarries : ∀ x ∈ l, carries n x.1.body = decide (x.2.id = n) := by
    intro x hx
    obtain ⟨body, hbody, hrendered⟩ := h x hx
    rw [hbody, hrendered.carries_eq]
  have hfind : (l.find? fun x => carries n x.1.body) = l.find? (·.2.id = n) := by
    rw [← List.head?_filter, ← List.head?_filter, List.filter_congr hcarries]
  unfold matching
  rw [findToken?_map, findToken?_eq_find? hread, hfind]
  rfl

end Rendered

/-- A comment that can be rendered is rendered with its own id in the token. Rendered comments have equal
tokens exactly if they have equal ids, and one of them is found by an id exactly if it is the first
that was rendered from it. -/
theorem rendered_tokens :
    (∀ (p : Projector) (c : GitHub.Comment) (o : Conversion) (stamp : String),
      0 ≤ c.id → c.id < 10 ^ maxDigits →
      convert p.programs p.settings (c.body.getD "") = .ok o → p.stamp c.createdAt = .ok stamp →
        ∃ body, result (p.commentBody c) = .ok body ∧
          token? (some body) = .ok (some c.id.toNat)) ∧
    (∀ (c d : GitHub.Comment) (body other : String), Rendered c body → Rendered d other →
      (token? (some body) = token? (some other) ↔ c.id = d.id)) ∧
    ∀ (l : List (CommentRef × GitHub.Comment)) (n : Int),
      (∀ x ∈ l, ∃ body, x.1.body = some body ∧ Rendered x.2 body) →
        matching (l.map (·.1)) n = .ok ((l.find? (·.2.id = n)).map (·.1)) := by
  refine ⟨?_, fun c d body other h h' => h.token?_eq_iff h', fun l n h => Rendered.matching_eq n h⟩
  intro p c o stamp hnatural hreadable hconvert hstamp
  have hbody : result (p.commentBody c) = .ok (Projector.attributed c stamp o.text) := by
    rw [p.result_commentBody, hconvert, hstamp]
    rfl
  exact ⟨_, hbody, Rendered.token?_eq ⟨hnatural, hreadable, p, hbody⟩⟩

def verbatim : Projector where
  settings := {}
  fieldIds := ⟨"10", none⟩
  zone := .fixed 0
  programs _ _ _ := .refused .missing

/-- A comment whose text, address and author look like tokens. -/
def misleading (id : Int) : GitHub.Comment where
  id := id
  body := some "Comment [(ID 8)|\nComment [(ID 9)|"
  url := ")|[(ID 8)|"
  user := some { login := "Comment [(ID 8)|", name := some "\nComment [(ID 8)|" }

theorem convert_verbatim (text : String) :
    convert verbatim.programs verbatim.settings text = .ok ⟨Text.cutBody text, none⟩ := rfl

def misleadingBody (id : Int) : String :=
  Projector.attributed (misleading id) "" (Text.cutBody ((misleading id).body.getD ""))

theorem rendered_misleading {id : Int} (h : 0 ≤ id) (h' : (Nat.toDigits 10 id.toNat).length ≤ 1) :
    Rendered (misleading id) (misleadingBody id) where
  natural := h
  readable := length_digits_toNat_le_iff.mp (Nat.le_trans h' (by decide))
  rendered := ⟨verbatim, by
    rw [verbatim.result_commentBody, convert_verbatim]
    rfl⟩

theorem rendered_tokens_misleading :
    (∃ body, result (verbatim.commentBody (misleading 5)) = .ok body ∧
      token? (some body) = .ok (some 5)) ∧
    (token? (some (misleadingBody 5)) = token? (some (misleadingBody 8)) ↔ (5 : Int) = 8) ∧
    matching [⟨none, "a", misleadingBody 5⟩, ⟨none, "b", misleadingBody 8⟩,
        ⟨none, "c", misleadingBody 8⟩] 8 = .ok (some ⟨none, "b", misleadingBody 8⟩) := by
  have h5 : Rendered (misleading 5) (misleadingBody 5) :=
    rendered_misleading (by decide) (by decide)
  have h8 : Rendered (misleading 8) (misleadingBody 8) :=
    rendered_misleading (by decide) (by decide)
  refine ⟨rendered_tokens.1 verbatim (misleading 5) _ "" h5.natural h5.readable
    (convert_verbatim _) rfl, rendered_tokens.2.1 _ _ _ _ h5 h8, ?_⟩
  refine rendered_tokens.2.2 [(⟨none, "a", misleadingBody 5⟩, misleading 5),
    (⟨none, "b", misleadingBody 8⟩, misleading 8), (⟨none, "c", misleadingBody 8⟩, misleading 8)] 8 ?_
  intro x hx
  simp only [List.mem_cons, List.not_mem_nil, or_false] at hx
  rcases hx with rfl | rfl | rfl
  · exact ⟨_, rfl, h5⟩
  · exact ⟨_, rfl, h8⟩
  · exact ⟨_, rfl, h8⟩

end Correlation

end IssueBridge

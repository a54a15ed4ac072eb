import IssueBridge.Proofs.Json.Limit

/-! # Ids in deliveries

The id of a comment in a delivery keeps the limit on digits, whatever way it is written. So the token
that is made of it can be read back.
-/

namespace IssueBridge

open Text

namespace Number

variable {cs : List Char} {negative : Bool} {n : Int}

theorem short_limited (h : limited negative cs = .ok n) : Short n := by
  unfold limited at h
  split at h
  · rw [← Except.ok.inj h]
    exact short_signed ‹_›
  · cases h

theorem short_readLenient (h : readLenient cs = .ok n) : Short n := by
  unfold readLenient at h
  split at h
  split at h
  · cases h
  · unfold readPlain at h
    split at h
    dsimp only at h
    split at h
    · exact short_limited h
    · cases h

end Number

namespace Record

variable {α β : Type} {v : Value} {fs : Fields} {name : String} {n : Int}

theorem Form.short_whole (hv : v.Limited) (h : Form.whole v = .good n) : Short n := by
  unfold Form.whole at h
  split at h
  · rename_i m
    cases hv with
    | int hm => exact Reading.good.inj h ▸ hm
  · rw [← Reading.good.inj h]
    refine short_of_lt ?_
    split <;> decide
  · split at h
    · cases h
    · split at h
      · cases h
      · split at h
        · rename_i m hm
          unfold wholeOfFloat? at hm
          split at hm
          · rename_i hlt
            simp only [Bool.and_eq_true, decide_eq_true_eq] at hlt
            rw [← Reading.good.inj h, ← Option.some.inj hm]
            exact short_of_lt (Nat.lt_trans hlt.2 (by decide))
          · cases hm
        · cases h
  · unfold wholeOfText at h
    split at h
    · rename_i m hm
      exact Reading.good.inj h ▸ Number.short_readLenient hm
    · cases h
    · cases h
  · cases h

namespace Reading

theorem seq_eq_good {f : Reading (α → β)} {x : Reading α} {c : β} (h : f <*> x = .good c) :
    ∃ g a, f = .good g ∧ x = .good a ∧ g a = c := by
  have h' : Reading.seq f (fun _ => x) = .good c := h
  unfold Reading.seq at h'
  cases f with
  | bad ps => cases x <;> cases h'
  | good g =>
    cases x with
    | bad ps => cases h'
    | good a => exact ⟨g, a, rfl, rfl, Reading.good.inj h'⟩

theorem map_eq_good {f : α → β} {x : Reading α} {c : β} (h : f <$> x = .good c) :
    ∃ a, x = .good a ∧ f a = c := by
  have h' : Reading.map f x = .good c := h
  cases x with
  | bad ps => cases h'
  | good a => exact ⟨a, rfl, Reading.good.inj h'⟩

theorem under_eq_good {place : Place} {x : Reading α} {a : α} (h : x.under place = .good a) :
    x = .good a := by
  cases x with
  | bad ps => cases h
  | good a' => exact h

end Reading

theorem required_eq_good {f : Form α} {a : α} (h : required fs name f = .good a) :
    ∃ v, fs.get? name = some v ∧ f v = .good a := by
  unfold required at h
  split at h
  · exact ⟨_, ‹_›, Reading.under_eq_good h⟩
  · cases h

theorem record_eq_good {f : Fields → Reading α} {a : α} (h : Form.record f v = .good a) :
    ∃ fs, v = .obj fs ∧ f (Fields.unique fs) = .good a := by
  unfold Form.record at h
  split at h
  · exact ⟨_, rfl, h⟩
  · cases h

theorem limited_get?_unique (hv : Value.Limited (.obj fs)) (h : (Fields.unique fs).get? name = some v) :
    v.Limited := by
  have hall : ∀ (new done : Fields), (∀ p ∈ new, p.2.Limited) →
      (∀ v, done.get? name = some v → v.Limited) →
      ∀ v, (Fields.overlay done new).get? name = some v → v.Limited := by
    intro new
    induction new with
    | nil => exact fun done _ hdone => hdone
    | cons p new ih =>
      intro done hnew hdone
      refine ih _ (fun q hq => hnew q (List.mem_cons_of_mem _ hq)) fun v hv => ?_
      rw [Fields.get?_set] at hv
      split at hv
      · exact Option.some.inj hv ▸ hnew p List.mem_cons_self
      · exact hdone v hv
  cases hv with
  | obj hfs => exact hall fs [] hfs (fun v hv => by cases hv) v h

end Record

namespace GitHub

open Record

variable {v : Value} {c : Comment} {e : CommentEvent} {body : ByteArray}

theorem Comment.short_id (hv : v.Limited) (h : Comment.form v = .good c) : Short c.id := by
  unfold Comment.form Comment.formWith at h
  obtain ⟨fs, rfl, h⟩ := record_eq_good h
  obtain ⟨_, _, huser, -, rfl⟩ := Reading.seq_eq_good h
  obtain ⟨_, _, hurl, -, rfl⟩ := Reading.seq_eq_good huser
  obtain ⟨_, _, hbody, -, rfl⟩ := Reading.seq_eq_good hurl
  obtain ⟨_, _, hid, -, rfl⟩ := Reading.seq_eq_good hbody
  obtain ⟨id, hread, rfl⟩ := Reading.map_eq_good hid
  obtain ⟨u, hu, hwhole⟩ := required_eq_good hread
  exact Form.short_whole (limited_get?_unique hv hu) hwhole

theorem CommentEvent.short_id (hv : v.Limited) (h : CommentEvent.form v = .good e) :
    Short e.comment.id := by
  unfold CommentEvent.form at h
  obtain ⟨fs, rfl, h⟩ := record_eq_good h
  obtain ⟨_, _, hcomment, -, rfl⟩ := Reading.seq_eq_good h
  obtain ⟨_, c, hissue, hc, rfl⟩ := Reading.seq_eq_good hcomment
  obtain ⟨_, _, haction, -, rfl⟩ := Reading.seq_eq_good hissue
  obtain ⟨action, -, rfl⟩ := Reading.map_eq_good haction
  obtain ⟨u, hu, hform⟩ := required_eq_good hc
  exact Comment.short_id (limited_get?_unique hv hu) hform

theorem CommentEvent.short_of_delivery (h : CommentEvent.model.ofBytes body = .ok e) :
    Short e.comment.id := by
  unfold Model.ofBytes at h
  split at h
  · rename_i v hv
    obtain ⟨s, -, hread⟩ := Option.map_eq_some_iff.mp hv
    unfold Model.ofValue at h
    split at h
    · rename_i e' he
      exact Except.ok.inj h ▸ short_id (Json.limited_read rfl hread) he
    · cases h
  · cases h

end GitHub

end IssueBridge

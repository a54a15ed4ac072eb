import IssueBridge.Proofs.Text.Digits

/-! # Reading a query back

The text of a query stands for that query if the project's key holds no quote and the field's number no
bracket. Whatever query it stands for has the same text, so that it asks for the same id, and texts that
differ in the id only stand for queries that differ in the id only.
-/

namespace IssueBridge.Correlation.Query

open Text

section Id

theorem isAsciiDigit_of_isDigit {c : Char} (h : c.isDigit) : Number.isAsciiDigit c := by
  simpa [Number.isAsciiDigit, Char.isDigit, Char.le_def] using h

theorem all_isAsciiDigit_digits (n : Nat) : (Nat.toDigits 10 n).all Number.isAsciiDigit :=
  List.all_eq_true.mpr fun _ hc => isAsciiDigit_of_isDigit (isDigit_of_mem_digits hc)

theorem readId_neg (cs : List Char) : readId ('-' :: cs) =
    if cs.isEmpty || !cs.all Number.isAsciiDigit then none
    else some (Number.signed true (Text.number cs)) := rfl

theorem readId_of_head_ne {cs : List Char} (h : cs.head? ≠ some '-') : readId cs =
    if cs.isEmpty || !cs.all Number.isAsciiDigit then none
    else some (Number.signed false (Text.number cs)) := by
  cases cs with
  | nil => rfl
  | cons c cs =>
    have hc : c ≠ '-' := fun hc => h (congrArg some hc)
    unfold readId
    split
    rename_i negative ds heq
    have hread : (negative, ds) = (false, c :: cs) := by
      rw [← heq]
      split
      · rename_i hcs
        exact absurd (List.cons.inj hcs).1 hc
      · rfl
    obtain ⟨rfl, rfl⟩ := Prod.mk.inj hread
    rfl

theorem readId_digits (n : Nat) : readId (Nat.toDigits 10 n) = some (n : Int) := by
  have hd : ∀ c ∈ Nat.toDigits 10 n, c.isDigit := fun _ => isDigit_of_mem_digits
  have hhead : (Nat.toDigits 10 n).head? ≠ some '-' := fun h =>
    absurd (hd '-' (List.mem_of_head? h)) (by decide)
  rw [readId_of_head_ne hhead, number_digits]
  simp [all_isAsciiDigit_digits, Number.signed]

theorem readId_neg_digits (n : Nat) : readId ('-' :: Nat.toDigits 10 n) = some (-(n : Int)) := by
  simp [readId_neg, all_isAsciiDigit_digits, number_digits, Number.signed]

theorem readId_toString : ∀ id : Int, readId (toString id).toList = some id
  | .ofNat n => by rw [show Int.ofNat n = (n : Int) from rfl, toList_ofNat, readId_digits]
  | .negSucc n => by
    rw [toList_negSucc, readId_neg_digits]
    rfl

theorem readId_eq_none {c : Char} {cs : List Char} (hc : c ∈ cs) (hd : Number.isAsciiDigit c = false)
    (hm : c ≠ '-') : readId cs = none := by
  by_cases h : cs.head? = some '-'
  · obtain ⟨rest, rfl⟩ := List.head?_eq_some_iff.mp h
    have hrest : c ∈ rest := (List.mem_cons.mp hc).resolve_left hm
    have hall : rest.all Number.isAsciiDigit = false := List.all_eq_false.mpr ⟨c, hrest, by simp [hd]⟩
    simp [readId_neg, hall]
  · have hall : cs.all Number.isAsciiDigit = false := List.all_eq_false.mpr ⟨c, hc, by simp [hd]⟩
    simp [readId_of_head_ne h, hall]

end Id

variable {q q' : Query}

def stem (q : Query) : List Char :=
  projectMark.toList ++ (q.project.toList ++ (fieldMark.toList ++ (q.field.toList ++ idMark.toList)))

theorem toList_text (q : Query) : q.text.toList = q.stem ++ (toString q.id).toList := by
  simp only [text, stem, String.toList_append, List.append_assoc]

theorem takeWhile_before {mark : Char} {l : List Char} (h : mark ∉ l) (rest : List Char) :
    (l ++ mark :: rest).takeWhile (· ≠ mark) = l := by
  refine takeWhile_run (c := mark) (fun c hc => ?_) (by simp) rest
  simp only [ne_eq, decide_not, Bool.not_eq_eq_eq_not, Bool.not_true, decide_eq_false_iff_not]
  rintro rfl
  exact h hc

theorem notMem_takeWhile (mark : Char) (l : List Char) : mark ∉ l.takeWhile (· ≠ mark) := by
  intro h
  have hne := List.all_eq_true.mp (List.all_takeWhile (p := (· ≠ mark)) (l := l)) mark h
  simp at hne

theorem read?_text_eq_some (hp : '\x27' ∉ q.project.toList) (hf : ']' ∉ q.field.toList) :
    read? q.text = some q := by
  have hproject := takeWhile_before hp ("' AND cf[".toList.drop 1 ++ (q.field.toList ++ (idMark.toList ++
    (toString q.id).toList)))
  have hfield := takeWhile_before hf (" = ".toList ++ (toString q.id).toList)
  have hrest : q.text.toList = projectMark.toList ++ (q.project.toList ++ (fieldMark.toList ++
      (q.field.toList ++ (idMark.toList ++ (toString q.id).toList)))) := by
    simp only [toList_text, stem, List.append_assoc]
  have hproject' : (q.project.toList ++ (fieldMark.toList ++ (q.field.toList ++ (idMark.toList ++
      (toString q.id).toList)))).takeWhile (· ≠ '\x27') = q.project.toList := hproject
  have hfield' : (q.field.toList ++ (idMark.toList ++ (toString q.id).toList)).takeWhile (· ≠ ']') =
      q.field.toList := hfield
  unfold read?
  rw [hrest]
  simp only [dropStart?_append, Option.bind_eq_bind, Option.bind_some, hproject', List.drop_left, hfield',
    readId_toString, String.ofList_toList]
  rfl

/-- A text that stands for a query consists of its stem and what its id is read from. -/
theorem read?_eq_some {text : String} (h : read? text = some q) : '\x27' ∉ q.project.toList ∧
    ∃ rest, text.toList = q.stem ++ rest ∧ readId rest = some q.id := by
  unfold read? at h
  obtain ⟨cs, hcs, h⟩ := Option.bind_eq_some_iff.mp h
  obtain ⟨cs', hcs', h⟩ := Option.bind_eq_some_iff.mp h
  obtain ⟨rest, hrest, h⟩ := Option.bind_eq_some_iff.mp h
  obtain ⟨id, hid, h⟩ := Option.bind_eq_some_iff.mp h
  obtain rfl := Option.some.inj h
  have hproject := List.prefix_iff_eq_append.mp (List.takeWhile_prefix (p := (· ≠ '\x27')) (l := cs))
  have hfield := List.prefix_iff_eq_append.mp (List.takeWhile_prefix (p := (· ≠ ']')) (l := cs'))
  rw [eq_append_of_dropStart? hcs'] at hproject
  rw [eq_append_of_dropStart? hrest] at hfield
  refine ⟨?_, rest, ?_, hid⟩
  · rw [String.toList_ofList]
    exact notMem_takeWhile _ _
  · rw [eq_append_of_dropStart? hcs]
    simp only [stem, String.toList_ofList, List.append_assoc, hfield, hproject]

theorem eq_of_append_bracket {before before' rest rest' : List Char} (h : ']' ∉ rest) (h' : ']' ∉ rest')
    (heq : before ++ ']' :: rest = before' ++ ']' :: rest') : rest = rest' := by
  have hrun : ∀ {before rest : List Char}, ']' ∉ rest →
      (before ++ ']' :: rest).reverse.takeWhile (· ≠ ']') = rest.reverse := by
    intro before rest hrest
    rw [List.reverse_append, List.reverse_cons, List.append_assoc, List.singleton_append]
    exact takeWhile_before (fun hmem => hrest (List.mem_reverse.mp hmem)) _
  have hreverse := (hrun h).symm.trans ((congrArg _ (congrArg List.reverse heq)).trans (hrun h'))
  exact List.reverse_inj.mp hreverse

theorem bracket_notMem_of_readId {cs : List Char} {id : Int} (h : readId cs = some id) : ']' ∉ cs := by
  intro hmem
  rw [readId_eq_none hmem (by decide) (by decide)] at h
  cases h

/-- Whatever query the text of a query stands for has the same stem and asks for the same id. -/
theorem stem_of_read?_text (h : read? q.text = some q') : q'.stem = q.stem ∧ q'.id = q.id := by
  obtain ⟨-, rest, htext, hid⟩ := read?_eq_some h
  have hmark : ∀ q : Query, ∃ before, q.stem = before ++ ']' :: " = ".toList := fun q =>
    ⟨projectMark.toList ++ (q.project.toList ++ (fieldMark.toList ++ q.field.toList)), by
      simp only [stem, List.append_assoc]
      rfl⟩
  obtain ⟨before, hbefore⟩ := hmark q
  obtain ⟨before', hbefore'⟩ := hmark q'
  rw [toList_text] at htext
  -- Both the text and what was read of it end in a bracket, the mark of the id and an id.
  have hends : " = ".toList ++ (toString q.id).toList = " = ".toList ++ rest := by
    rw [hbefore, hbefore', List.append_assoc, List.append_assoc, List.cons_append, List.cons_append] at htext
    have hdigits := bracket_notMem_of_readId (readId_toString q.id)
    exact eq_of_append_bracket (by simpa using hdigits) (by simpa using bracket_notMem_of_readId hid) htext
  rw [← List.append_cancel_left hends] at htext hid
  rw [readId_toString] at hid
  exact ⟨(List.append_cancel_right htext).symm, (Option.some.inj hid).symm⟩

theorem id_of_read?_text (h : read? q.text = some q') : q'.id = q.id := (stem_of_read?_text h).2

/-- Without quotes in the projects' keys, a stem belongs to one field of one project. -/
theorem eq_of_stem_eq (h : '\x27' ∉ q.project.toList) (h' : '\x27' ∉ q'.project.toList)
    (heq : q.stem = q'.stem) : q.project = q'.project ∧ q.field = q'.field := by
  have hfront := List.append_cancel_left heq
  have hproject : q.project.toList = q'.project.toList :=
    (takeWhile_before h _).symm.trans ((congrArg _ hfront).trans (takeWhile_before h' _))
  rw [hproject] at hfront
  have hfield := List.append_cancel_right (List.append_cancel_left (List.append_cancel_left hfront))
  exact ⟨String.toList_injective hproject, String.toList_injective hfield⟩

/-- Without a quote in the project's key, the text stands for its query or for none. -/
theorem read?_text_of_eq_some (hp : '\x27' ∉ q.project.toList) (h : read? q.text = some q') : q' = q := by
  obtain ⟨hstem, hid⟩ := stem_of_read?_text h
  obtain ⟨hproject, hfield⟩ := eq_of_stem_eq (read?_eq_some h).1 hp hstem
  cases q
  cases q'
  simp_all

/-- Texts that differ in the id only stand for queries of one field of one project. -/
theorem same_field_of_read? {project field : String} {id id' : Int}
    (h : read? (text ⟨project, field, id⟩) = some q) (h' : read? (text ⟨project, field, id'⟩) = some q') :
    q.project = q'.project ∧ q.field = q'.field :=
  eq_of_stem_eq (read?_eq_some h).1 (read?_eq_some h').1
    ((stem_of_read?_text h).1.trans (stem_of_read?_text h').1.symm)

end IssueBridge.Correlation.Query

import IssueBridge.Proofs.Step.Outcome
import IssueBridge.Web.App

/-! # What the routes answer

Two routes take deliveries. They hand on the posts that are complete and nothing else. No route refuses a request
for want of a signature.
-/

namespace IssueBridge.Web

open Step

variable {r : Request} {b : Option Bridge} {process process' : Handling} {kind delivery : String}

section Headers

variable {name value : String} {headers : List (String × String)}

end Headers

section Paths

def Route.path : Route → String
  | .root => "/"
  | .webhook => "/webhook"
  | .health => "/health"
  | .trigger => "/api/sync/trigger"
  | .logs => "/api/sync/logs"
  | .watermark => "/api/sync/watermark"

/-- The request asks for an address of deliveries; a line end behind it changes nothing. -/
def Request.Arrives (r : Request) : Prop :=
  ∃ path ∈ deliveryPaths, r.target.path = path ∨ r.target.path = path ++ "\n"

/-- What the guard is shown is an address of deliveries. -/
def Request.Guarded (r : Request) : Prop := ∃ path ∈ deliveryPaths, r.shownPath? = some path

/-- What the guard is shown is another address. -/
def Request.Strays (r : Request) : Prop := ∃ path, path ∉ deliveryPaths ∧ r.shownPath? = some path

theorem Request.Guarded.readable (h : r.Guarded) : r.shownPath? ≠ none := by
  obtain ⟨path, -, hshown⟩ := h
  exact Option.ne_none_iff_exists'.mpr ⟨path, hshown⟩

theorem Request.Strays.readable (h : r.Strays) : r.shownPath? ≠ none := by
  obtain ⟨path, -, hshown⟩ := h
  exact Option.ne_none_iff_exists'.mpr ⟨path, hshown⟩

/-- Where the name of a place ends, and where the path does. -/
def Address.marks : List Char := ['/', '?', '#', '[', ']']

theorem Address.path?_of_plain {host path : String} (hhost : ∀ c ∈ host.toList, c ∉ marks)
    (hpath : path.toList.head? = some '/') :
    path? host path = some (String.ofList ((path.toList.filter (!isBreak ·)).takeWhile (!isEnd ·))) := by
  obtain ⟨rest, hrest⟩ := List.head?_eq_some_iff.mp hpath
  have hname : ∀ c ∈ host.toList.filter (!isBreak ·), c ∉ marks := fun c hc => hhost c (List.mem_filter.mp hc).1
  have hplace : ((host ++ path).toList.filter (!isBreak ·)).takeWhile (fun c => c ≠ '/' && !isEnd c) =
      host.toList.filter (!isBreak ·) := by
    rw [String.toList_append, List.filter_append, hrest, List.filter_cons_of_pos (by decide),
      List.takeWhile_append_of_pos fun c hc => ?_, List.takeWhile_cons_of_neg (by decide), List.append_nil]
    have hmarks := hname c hc
    simp only [marks, List.mem_cons, List.not_mem_nil, or_false, not_or] at hmarks
    simp [isEnd, hmarks]
  have hreadable : isPlace (host.toList.filter (!isBreak ·)) = true := by
    have hopen : '[' ∉ host.toList.filter (!isBreak ·) := fun h => hname _ h (by decide)
    have hclose : ']' ∉ host.toList.filter (!isBreak ·) := fun h => hname _ h (by decide)
    unfold isPlace
    simp only [List.contains_eq_mem, hopen, hclose, decide_false, Bool.and_self, Bool.false_eq_true, if_false,
      Bool.not_false]
  unfold path?
  dsimp only
  rw [hplace, if_pos hreadable, String.toList_append, List.filter_append, List.drop_left]

/-- The header `Host` is left out or holds no mark. -/
def Request.HasPlainHost (r : Request) : Prop :=
  ∀ host, r.header? "host" = some host → ∀ c ∈ host.toList, c ∉ Address.marks

/-- With an ordinary host the guard sees every delivery that the routes see. -/
theorem Request.Arrives.guarded (h : r.Arrives) (hplain : r.HasPlainHost) : r.Guarded := by
  obtain ⟨path, hpath, hread⟩ := h
  refine ⟨path, hpath, ?_⟩
  have hhost : ∀ c ∈ ((r.header? "host").getD "").toList, c ∉ Address.marks := by
    cases hheader : r.header? "host" with
    | none => exact nofun
    | some host => exact hplain host hheader
  unfold Request.shownPath?
  simp only [deliveryPaths, List.mem_cons, List.not_mem_nil, or_false] at hpath
  obtain rfl | rfl := hpath <;> obtain hread | hread := hread <;>
    rw [hread, Address.path?_of_plain hhost (by decide)] <;> decide

end Paths

section Deliveries

/-- The request says what kind of event it delivers and names the delivery, and its body is JSON. -/
structure Request.Complete (r : Request) (kind delivery : String) : Prop where
  event : r.header? eventHeader = some kind
  event_ne : kind ≠ ""
  name : r.header? deliveryHeader = some delivery
  name_ne : delivery ≠ ""
  content : contentKind r = "application/json"

theorem Request.Complete.read (h : r.Complete kind delivery) (hm : r.method = "POST") :
    readDelivery r = .ok (kind, delivery) := by
  unfold readDelivery
  rw [if_neg (not_not_intro hm), h.event, h.name]
  dsimp only [Option.getD_some]
  split
  · exact absurd rfl h.event_ne
  · exact absurd rfl h.name_ne
  · exact if_pos h.content

end Deliveries

section Answers

/-- No answer is a refusal for want of a signature. -/
def Admits (x : Step Response) : Prop := ∀ w response, outcome x w = .ok response → response.status ≠ 401

namespace Admits

variable {α : Type} {response : Response}

theorem pure (h : response.status ≠ 401) : Admits (pure response) := by
  rintro w _ ⟨⟩
  exact h

theorem json {status : Nat} (h : status ≠ 401) (v : Value) : Admits (return .json status v) := pure h

theorem throw (e : Failure) : Admits (throw e) := by
  intro w response hresponse
  cases hresponse

theorem bind {x : Step α} {f : α → Step Response} (h : ∀ a, Admits (f a)) : Admits (x >>= f) := by
  intro w response hresponse
  obtain ⟨a, -, ha⟩ := bind_eq_ok hresponse
  exact h a _ _ ha

theorem ready {next : Bridge → Step Response} (h : ∀ b, Admits (next b)) : Admits (ready b next) := by
  cases b with
  | none => exact pure (by decide)
  | some b => exact h b

end Admits

end Answers

end IssueBridge.Web

/-! # Cutting long texts

A text longer than its limit is cut and closed with a notice that says so.
-/

namespace IssueBridge.Text

/-- The tracker accepts 32767 characters; the rest is left for the attribution. -/
def bodyLimit : Nat := 30000

def tooLongNotice : String :=
  "\n\nNotice: The entered text is too long. It exceeds the allowed limit of 30,000 characters."

/-- The characters before position `limit`; a negative position counts from the end. -/
def before (limit : Int) (cs : List Char) : List Char :=
  if 0 ≤ limit then cs.take limit.toNat else cs.take (cs.length - limit.natAbs)

/-- The text itself if it has at most `limit` characters, else its start and the notice. -/
def cut (limit : Int) (text : String) : String :=
  if (text.length : Int) ≤ limit then text
  else String.ofList (before limit text.toList) ++ tooLongNotice

def cutBody (text : String) : String := cut bodyLimit text

theorem cut_of_length_le {limit : Int} {text : String} (h : (text.length : Int) ≤ limit) :
    cut limit text = text := by
  simp [cut, h]

end IssueBridge.Text

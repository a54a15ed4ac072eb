/-! # What is wrong with a record

A problem is a defect and the place where it was found: member names and list positions from the
outside in.
-/

namespace IssueBridge.Record

inductive Place
  | field (name : String)
  | item (index : Nat)
  deriving DecidableEq, Repr

inductive Defect
  | malformed
  | missing
  | notRecord
  | notText
  | brokenText
  | notList
  | notMap
  | notWhole
  | wholeSyntax
  | wholeSize
  | fractional
  | notFinite
  | notFloat
  | floatSyntax
  | notBool
  | boolSyntax
  | notMoment
  | momentRange
  | momentSyntax
  deriving DecidableEq, Repr

/-- The word that names a defect in answers. -/
def Defect.code : Defect → String
  | .malformed => "json_invalid"
  | .missing => "missing"
  | .notRecord => "model_type"
  | .notText => "string_type"
  | .brokenText => "string_unicode"
  | .notList => "list_type"
  | .notMap => "dict_type"
  | .notWhole => "int_type"
  | .wholeSyntax => "int_parsing"
  | .wholeSize => "int_parsing_size"
  | .fractional => "int_from_float"
  | .notFinite => "finite_number"
  | .notFloat => "float_type"
  | .floatSyntax => "float_parsing"
  | .notBool => "bool_type"
  | .boolSyntax => "bool_parsing"
  | .notMoment => "datetime_type"
  | .momentRange => "datetime_parsing"
  | .momentSyntax => "datetime_from_date_parsing"

structure Problem where
  defect : Defect
  path : List Place
  deriving DecidableEq, Repr

/-- The same problem seen from one level further out. -/
def Problem.under (place : Place) (p : Problem) : Problem := { p with path := place :: p.path }

end IssueBridge.Record

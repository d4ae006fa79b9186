import PowerDelivery.Text.Quoted

/-! # Issues: what is wrong with a part of a record -/
namespace PowerDelivery

inductive IssueKind
  | missing
  | extra
  | frozen
  | intType
  | intText
  | intSize
  | fraction
  | notFinite
  | below (bound : Int)
  | above (bound : Int)
  | boolType
  | boolText
  | textType
  | listType
  | recordType (title : String)
  | notMember (texts : List String)
  | notLiteral (texts : List String)
  | rejected (message : String)
  deriving DecidableEq, Repr

namespace IssueKind

def code : IssueKind → String
  | missing => "missing"
  | extra => "extra_forbidden"
  | frozen => "frozen_instance"
  | intType => "int_type"
  | intText => "int_parsing"
  | intSize => "int_parsing_size"
  | fraction => "int_from_float"
  | notFinite => "finite_number"
  | below _ => "greater_than_equal"
  | above _ => "less_than_equal"
  | boolType => "bool_type"
  | boolText => "bool_parsing"
  | textType => "string_type"
  | listType => "list_type"
  | recordType _ => "model_type"
  | notMember _ => "enum"
  | notLiteral _ => "literal_error"
  | rejected _ => "value_error"

/-- Texts in apostrophes with commas between them, the last one after "or". -/
def alternatives : List String → String
  | [] => ""
  | [a] => s!"'{a}'"
  | [a, b] => s!"'{a}' or '{b}'"
  | a :: rest => s!"'{a}', " ++ alternatives rest

def message : IssueKind → String
  | missing => "Field required"
  | extra => "Extra inputs are not permitted"
  | frozen => "Instance is frozen"
  | intType => "Input should be a valid integer"
  | intText => "Input should be a valid integer, unable to parse string as an integer"
  | intSize => "Unable to parse input string as an integer, exceeded maximum size"
  | fraction => "Input should be a valid integer, got a number with a fractional part"
  | notFinite => "Input should be a finite number"
  | below bound => s!"Input should be greater than or equal to {bound}"
  | above bound => s!"Input should be less than or equal to {bound}"
  | boolType => "Input should be a valid boolean"
  | boolText => "Input should be a valid boolean, unable to interpret input"
  | textType => "Input should be a valid string"
  | listType => "Input should be a valid list"
  | recordType title => s!"Input should be a valid dictionary or instance of {title}"
  | notMember texts => s!"Input should be {alternatives texts}"
  | notLiteral texts => s!"Input should be {alternatives texts}"
  | rejected message => s!"Value error, {message}"

end IssueKind

structure Issue where
  kind : IssueKind
  location : List String
  deriving DecidableEq, Repr

namespace Issue

def path (i : Issue) : String := ".".intercalate i.location

def message (i : Issue) : String := i.kind.message

def within (name : String) (i : Issue) : Issue := { i with location := name :: i.location }

end Issue
end PowerDelivery

import PowerDelivery.Text.Scan
import PowerDelivery.Text.UpperCase
import PowerDelivery.Value

/-! # Letter codes of references -/
namespace PowerDelivery

structure ReferenceCodeError where
  code : Value

namespace ReferenceCode

def letters : List (Char × Reference) :=
  [('F', .fixedOrVariable), ('V', .fixedOrVariable), ('B', .battery), ('P', .pps), ('A', .avs),
   ('E', .avs), ('S', .avs)]

/-- Characters that are one of the letters in upper case. -/
def ofChars? (cs : List Char) : Option Reference :=
  match cs.flatMap Text.upperCase with
  | [c] => letters.lookup c
  | _ => none

def ofText? (s : String) : Option Reference := ofChars? (Text.trim s.toList)

end ReferenceCode

def ReferenceCodeError.message (e : ReferenceCodeError) : String :=
  let codes := ", ".intercalate (ReferenceCode.letters.map fun p => p.1.toString)
  s!"unknown RDO reference code {e.code.shown}, expected one of {codes}"

def Value.toReferenceByCode (v : Value) : Except ReferenceCodeError Reference :=
  match v with
  | text s => match ReferenceCode.ofText? s with
    | some r => .ok r
    | .none => .error ⟨v⟩
  | _ => .error ⟨v⟩

end PowerDelivery

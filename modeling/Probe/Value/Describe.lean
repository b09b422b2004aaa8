import Probe.Decimal.Floating
import Probe.Text.Quoted
import Probe.Value.Basic

namespace Probe

open Text (quoted)

def Handle.describe (h : Handle) : String :=
  "ObjectRef \x7b id: " ++ toString h.id ++ ", runtime_type: " ++ quoted h.typeName ++ " \x7d"

def Value.describe : Value → String
  | null => "Null"
  | void => "Void"
  | boolean v => "Boolean(" ++ (if v then "true" else "false") ++ ")"
  | byte v => "Byte(" ++ toString v.toInt ++ ")"
  | char v => "Char(" ++ toString v.toNat ++ ")"
  | short v => "Short(" ++ toString v.toInt ++ ")"
  | int v => "Int(" ++ toString v.toInt ++ ")"
  | long v => "Long(" ++ toString v.toInt ++ ")"
  | float v => "Float(" ++ Decimal.diagnosticSingle v ++ ")"
  | double v => "Double(" ++ Decimal.diagnosticDouble v ++ ")"
  | object h => "Object(" ++ h.describe ++ ")"

def describeList (items : List String) : String := "[" ++ ", ".intercalate items ++ "]"

def describeValues (values : List Value) : String := describeList (values.map Value.describe)

end Probe

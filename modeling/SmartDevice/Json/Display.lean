import SmartDevice.Json.Basic
import SmartDevice.Decimal.Shortest
import SmartDevice.Text.Quoted

/-! Values as they stand inside a message: texts bare at the top and quoted inside containers. -/

namespace SmartDevice.Json

mutual

def displayInner : Json → List Char
  | null => "None".toList
  | bool true => "True".toList
  | bool false => "False".toList
  | integer n => (toString n).toList
  | real x => x.toText
  | string s => Text.quotedMarks s.marks
  | array [] => ['[', ']']
  | array (item :: items) => ['['] ++ displayInner item ++ displayItems items ++ [']']
  | object [] => ['{', '}']
  | object ((name, value) :: fields) =>
    ['{'] ++ Text.quotedMarks name.marks ++ [':', ' '] ++ displayInner value ++
      displayFields fields ++ ['}']

def displayItems : List Json → List Char
  | [] => []
  | item :: items => [',', ' '] ++ displayInner item ++ displayItems items

def displayFields : List (WideText × Json) → List Char
  | [] => []
  | (name, value) :: fields =>
    [',', ' '] ++ Text.quotedMarks name.marks ++ [':', ' '] ++ displayInner value ++
      displayFields fields

end

def display : Json → WideText
  | string s => s
  | value => String.ofList (displayInner value)

end SmartDevice.Json

import GatewayEvents.Text.Visible

/-! Quoted text, as error messages and descriptions show it: between double quotes,
with short escapes for the usual controls and `\u` escapes for what does not stand
on its own. -/
namespace GatewayEvents.Text

/-- Digits of a code point, without leading zeros. -/
def hexadecimal (n : Nat) : String := String.ofList (Nat.toDigits 16 n)

def escape (c : Char) : String :=
  match c with
  | '\x00' => "\\0"
  | '\t' => "\\t"
  | '\n' => "\\n"
  | '\r' => "\\r"
  | '"' => "\\\""
  | '\\' => "\\\\"
  | _ => if isHidden c then "\\u\x7b" ++ hexadecimal c.toNat ++ "\x7d" else String.singleton c

def escaped (s : String) : String := String.join (s.toList.map escape)

def quoted (s : String) : String := "\"" ++ escaped s ++ "\""

/-- Texts in brackets, each quoted. -/
def quotedList (items : List String) : String :=
  "[" ++ String.intercalate ", " (items.map quoted) ++ "]"

end GatewayEvents.Text

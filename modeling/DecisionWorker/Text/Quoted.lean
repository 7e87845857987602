set_option autoImplicit false

/-!
Text in double quotes, as it stands inside a description of a larger value.

The rule covers ASCII: quotes, backslashes and control characters are escaped, all else
stands for itself.
-/

namespace DecisionWorker.Quoted

def hexadecimal (code : Nat) : String := String.ofList (Nat.toDigits 16 code)

def escape (character : Char) : String :=
  match character with
  | '"' => "\\\""
  | '\\' => "\\\\"
  | '\n' => "\\n"
  | '\t' => "\\t"
  | '\r' => "\\r"
  | '\x00' => "\\0"
  | other =>
      if other.toNat < 32 || other.toNat == 127 then
        "\\u\x7b" ++ hexadecimal other.toNat ++ "\x7d"
      else other.toString

def text (content : String) : String :=
  "\"" ++ String.join (content.toList.map escape) ++ "\""

end DecisionWorker.Quoted

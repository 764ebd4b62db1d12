import ContractLaunch.Text.GraphemeExtend
import ContractLaunch.Text.Unprintable
/-!
Quoting a text inside a message. The text stands between double quotes; a quote, a backslash and the
usual controls are written with a backslash, and every other character that would not show on its
own is written as its code point in hexadecimal.
-/
namespace ContractLaunch.Text

def escapeLetter? : Char → Option Char
  | '\x00' => some '0'
  | '\t' => some 't'
  | '\n' => some 'n'
  | '\r' => some 'r'
  | '"' => some '"'
  | '\\' => some '\\'
  | _ => none

def quotedChar (c : Char) : List Char :=
  match escapeLetter? c with
  | some letter => ['\\', letter]
  | none =>
    if extendsGrapheme c || isUnprintable c then
      '\\' :: 'u' :: '\x7b' :: (Nat.toDigits 16 c.toNat ++ ['\x7d'])
    else [c]

def quoted (s : String) : String :=
  String.ofList ('"' :: (s.toList.flatMap quotedChar ++ ['"']))

end ContractLaunch.Text

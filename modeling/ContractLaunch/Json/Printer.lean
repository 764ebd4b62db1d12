import ContractLaunch.Binary64.Shortest
import ContractLaunch.Json.Basic
/-!
Compact JSON text: no spaces, members in the order of the object, and in texts only quotes,
backslashes and controls escaped.
-/
namespace ContractLaunch.Json

def escapedChar (c : Char) : List Char :=
  match c with
  | '"' => ['\\', '"']
  | '\\' => ['\\', '\\']
  | '\x08' => ['\\', 'b']
  | '\x0c' => ['\\', 'f']
  | '\n' => ['\\', 'n']
  | '\r' => ['\\', 'r']
  | '\t' => ['\\', 't']
  | c =>
    if c.toNat < 0x20 then
      ['\\', 'u', '0', '0', Nat.digitChar (c.toNat / 16), Nat.digitChar (c.toNat % 16)]
    else [c]

def quotedChars (s : String) : List Char := '"' :: (s.toList.flatMap escapedChar ++ ['"'])

def numberChars : JsonNumber → List Char
  | .integer (.ofNat n) => Nat.toDigits 10 n
  | .integer (.negSucc n) => '-' :: Nat.toDigits 10 (n + 1)
  | .real x => x.written

mutual

def chars : Json → List Char
  | .null => ['n', 'u', 'l', 'l']
  | .bool true => ['t', 'r', 'u', 'e']
  | .bool false => ['f', 'a', 'l', 's', 'e']
  | .number n => numberChars n
  | .text s => quotedChars s
  | .array [] => ['[', ']']
  | .array (v :: vs) => '[' :: (chars v ++ moreItems vs)
  | .object [] => ['\x7b', '\x7d']
  | .object ((k, v) :: ms) => '\x7b' :: (quotedChars k ++ ':' :: (chars v ++ moreMembers ms))

def moreItems : List Json → List Char
  | [] => [']']
  | v :: vs => ',' :: (chars v ++ moreItems vs)

def moreMembers : List (String × Json) → List Char
  | [] => ['\x7d']
  | (k, v) :: ms => ',' :: (quotedChars k ++ ':' :: (chars v ++ moreMembers ms))

end

def compact (j : Json) : String := String.ofList (chars j)

end ContractLaunch.Json

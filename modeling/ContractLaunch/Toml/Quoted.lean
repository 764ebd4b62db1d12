import ContractLaunch.Text.Numeral
/-!
Quoted texts in TOML: between double quotes with escapes, between single quotes without, and either
kind over several lines between three quotes. Each function reads what stands after the opening
quotes, and returns the text and what follows the closing quotes.
-/
namespace ContractLaunch.Toml.Quoted

def isPlain (c : Char) : Bool := c = '\t' || (0x20 ≤ c.toNat && c.toNat ≠ 0x7F)

def cons (c : Char) (read : Option (List Char × List Char)) : Option (List Char × List Char) :=
  read.map fun (chars, rest) => (c :: chars, rest)

def codePoint? (digits : List Char) : Option Char := do
  let n ← Numeral.digits? 16 digits
  if h : n.isValidChar then some (Char.ofNatAux n h) else none

def unescape? : Char → Option Char
  | 'b' => some '\x08'
  | 't' => some '\t'
  | 'n' => some '\n'
  | 'f' => some '\x0c'
  | 'r' => some '\r'
  | '"' => some '"'
  | '\\' => some '\\'
  | _ => none

def literal? : List Char → Option (List Char × List Char)
  | [] => none
  | '\'' :: rest => some ([], rest)
  | c :: rest => if isPlain c then cons c (literal? rest) else none

def basic? : List Char → Option (List Char × List Char)
  | [] => none
  | '"' :: rest => some ([], rest)
  | '\\' :: 'u' :: a :: b :: c :: d :: rest =>
    (codePoint? [a, b, c, d]).bind fun x => cons x (basic? rest)
  | '\\' :: 'U' :: a :: b :: c :: d :: e :: f :: g :: h :: rest =>
    (codePoint? [a, b, c, d, e, f, g, h]).bind fun x => cons x (basic? rest)
  | '\\' :: e :: rest => (unescape? e).bind fun x => cons x (basic? rest)
  | c :: rest => if isPlain c then cons c (basic? rest) else none

/-- What closes a text of several lines: three quotes. Up to two more before them belong to the
text. -/
def closing? (quote : Char) : List Char → Option (List Char × List Char)
  | a :: b :: c :: rest =>
    if a = quote && b = quote && c = quote then
      let extra := (rest.take 2).takeWhile (· = quote)
      some (extra, rest.drop extra.length)
    else none
  | _ => none

def literalLines? : List Char → Option (List Char × List Char)
  | [] => none
  | '\r' :: '\n' :: rest => cons '\n' (literalLines? rest)
  | '\n' :: rest => cons '\n' (literalLines? rest)
  | c :: rest =>
    match closing? '\'' (c :: rest) with
    | some closed => some closed
    | none => if isPlain c then cons c (literalLines? rest) else none

def endsLine (cs : List Char) : Bool :=
  match cs.dropWhile fun c => c = ' ' || c = '\t' with
  | '\n' :: _ | '\r' :: '\n' :: _ => true
  | _ => false

/-- The rest of a text of several lines with escapes. A backslash at the end of a line removes all
blanks and line breaks up to the next character; `skipping` says that they are being removed. -/
def basicLines? (skipping : Bool) : List Char → Option (List Char × List Char)
  | [] => none
  | '\r' :: '\n' :: rest =>
    if skipping then basicLines? true rest else cons '\n' (basicLines? false rest)
  | '\n' :: rest =>
    if skipping then basicLines? true rest else cons '\n' (basicLines? false rest)
  | '\\' :: 'u' :: a :: b :: c :: d :: rest =>
    (codePoint? [a, b, c, d]).bind fun x => cons x (basicLines? false rest)
  | '\\' :: 'U' :: a :: b :: c :: d :: e :: f :: g :: h :: rest =>
    (codePoint? [a, b, c, d, e, f, g, h]).bind fun x => cons x (basicLines? false rest)
  | '\\' :: e :: rest =>
    if endsLine (e :: rest) then basicLines? true (e :: rest)
    else (unescape? e).bind fun x => cons x (basicLines? false rest)
  | c :: rest =>
    if skipping && (c = ' ' || c = '\t') then basicLines? true rest
    else
      match closing? '"' (c :: rest) with
      | some closed => some closed
      | none => if isPlain c then cons c (basicLines? false rest) else none

def withoutBreak : List Char → List Char
  | '\r' :: '\n' :: rest | '\n' :: rest => rest
  | cs => cs

def line? : List Char → Option (List Char × List Char)
  | '"' :: rest => basic? rest
  | '\'' :: rest => literal? rest
  | _ => none

def read? : List Char → Option (List Char × List Char)
  | '"' :: '"' :: '"' :: rest => basicLines? false (withoutBreak rest)
  | '\'' :: '\'' :: '\'' :: rest => literalLines? (withoutBreak rest)
  | cs => line? cs

end ContractLaunch.Toml.Quoted

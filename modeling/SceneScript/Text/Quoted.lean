/- Quoted text: a JSON string in which `</` is written `<\/`, so that it cannot end the element
   that encloses the script. -/
namespace SceneScript.Text

def hexDigit (n : Nat) : Char :=
  if n < 10 then Char.ofNat (n + '0'.toNat) else Char.ofNat (n - 10 + 'a'.toNat)

/-- One character inside a quoted text. Controls without a letter of their own take four digits. -/
def quotedChar (c : Char) : List Char :=
  if c = '"' then ['\\', '"']
  else if c = '\\' then ['\\', '\\']
  else if c = '\n' then ['\\', 'n']
  else if c = '\r' then ['\\', 'r']
  else if c = '\t' then ['\\', 't']
  else if c = '\x08' then ['\\', 'b']
  else if c = '\x0c' then ['\\', 'f']
  else if c.toNat < 0x20 then
    ['\\', 'u', '0', '0', hexDigit (c.toNat / 16), hexDigit (c.toNat % 16)]
  else [c]

def quotedChars : List Char → List Char
  | [] => []
  | '<' :: '/' :: rest => '<' :: '\\' :: '/' :: quotedChars rest
  | c :: rest => quotedChar c ++ quotedChars rest

def quote (s : String) : String :=
  String.ofList ('"' :: (quotedChars s.toList ++ ['"']))

end SceneScript.Text

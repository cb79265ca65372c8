import SceneScript.Text.Hidden
import SceneScript.Text.Quoted

/- Text as a message shows it: in quotes, with every hidden character spelled out. -/
namespace SceneScript.Text

def hexChars (n : Nat) : List Char :=
  Nat.toDigits 16 n

def shownChar (c : Char) : List Char :=
  if c = '"' then ['\\', '"']
  else if c = '\\' then ['\\', '\\']
  else if c = '\n' then ['\\', 'n']
  else if c = '\r' then ['\\', 'r']
  else if c = '\t' then ['\\', 't']
  else if c = '\x00' then ['\\', '0']
  else if isHidden c then '\\' :: 'u' :: '\x7b' :: (hexChars c.toNat ++ ['\x7d'])
  else [c]

def shown (s : String) : String :=
  String.ofList ('"' :: (s.toList.flatMap shownChar ++ ['"']))

end SceneScript.Text

import NodeFeed.Text.Unprintable
import NodeFeed.Text.Extending

set_option autoImplicit false

namespace NodeFeed.Text

def isHidden (c : Char) : Bool :=
  c.toNat < 0x20 || c.toNat = 0x7f || isExtending c || isUnprintable c

def codePointEscape (c : Char) : List Char :=
  '\\' :: 'u' :: '\x7b' :: Nat.toDigits 16 c.toNat ++ ['\x7d']

def quoteChar (c : Char) : List Char :=
  if c = '\x00' then ['\\', '0']
  else if c = '\t' then ['\\', 't']
  else if c = '\r' then ['\\', 'r']
  else if c = '\n' then ['\\', 'n']
  else if c = '"' then ['\\', '"']
  else if c = '\\' then ['\\', '\\']
  else if isHidden c then codePointEscape c
  else [c]

def quote (text : String) : String :=
  String.ofList ('"' :: text.toList.flatMap quoteChar ++ ['"'])

end NodeFeed.Text

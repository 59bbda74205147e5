import NodeFeed.Json.Value

set_option autoImplicit false

namespace NodeFeed.Json

def escapeChar (c : Char) : List Char :=
  if c = '"' then ['\\', '"']
  else if c = '\\' then ['\\', '\\']
  else if c = '\x08' then ['\\', 'b']
  else if c = '\x0c' then ['\\', 'f']
  else if c = '\n' then ['\\', 'n']
  else if c = '\r' then ['\\', 'r']
  else if c = '\t' then ['\\', 't']
  else if c.toNat < 0x20 then
    ['\\', 'u', '0', '0', Nat.digitChar (c.toNat / 16), Nat.digitChar (c.toNat % 16)]
  else [c]

def writeString (text : String) : List Char :=
  '"' :: text.toList.flatMap escapeChar ++ ['"']

def Number.write (number : Number) : List Char :=
  (if number.negative then ['-'] else []) ++ Nat.toDigits 10 number.significand ++
    match number.exponent with
    | none => []
    | some exponent =>
        'e' :: (if exponent < 0 then ['-'] else []) ++ Nat.toDigits 10 exponent.natAbs

mutual

def Value.write : Value → List Char
  | .null => ['n', 'u', 'l', 'l']
  | .bool true => ['t', 'r', 'u', 'e']
  | .bool false => ['f', 'a', 'l', 's', 'e']
  | .number value => value.write
  | .string value => writeString value
  | .array [] => ['[', ']']
  | .array (first :: rest) => '[' :: first.write ++ writeElements rest
  | .object [] => ['\x7b', '\x7d']
  | .object ((key, value) :: rest) =>
      '\x7b' :: writeString key ++ ':' :: value.write ++ writeMembers rest

def writeElements : List Value → List Char
  | [] => [']']
  | first :: rest => ',' :: first.write ++ writeElements rest

def writeMembers : List (String × Value) → List Char
  | [] => ['\x7d']
  | (key, value) :: rest => ',' :: writeString key ++ ':' :: value.write ++ writeMembers rest

end

def Value.render (value : Value) : String := String.ofList value.write

end NodeFeed.Json

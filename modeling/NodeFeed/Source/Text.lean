set_option autoImplicit false

namespace NodeFeed

structure SourceText where
  name : String
  text : String
deriving DecidableEq

namespace SourceText

def lineStartsFrom (offset : Nat) : List Char → List Nat
  | [] => []
  | c :: rest =>
      let next := offset + c.utf8Size
      if c = '\n' then next :: lineStartsFrom next rest else lineStartsFrom next rest

def lineStarts (source : SourceText) : List Nat :=
  0 :: lineStartsFrom 0 source.text.toList

def lineCount (source : SourceText) : Nat :=
  source.lineStarts.length

def dropBytes? : Nat → List Char → Option (List Char)
  | 0, text => some text
  | _ + 1, [] => none
  | count + 1, c :: rest =>
      if c.utf8Size ≤ count + 1 then dropBytes? (count + 1 - c.utf8Size) rest else none

def takeBytes? : Nat → List Char → Option (List Char)
  | 0, _ => some []
  | _ + 1, [] => none
  | count + 1, c :: rest =>
      if c.utf8Size ≤ count + 1 then
        (takeBytes? (count + 1 - c.utf8Size) rest).map (c :: ·)
      else none

def slice? (text : List Char) (start stop : Nat) : Option (List Char) :=
  if start ≤ stop then (dropBytes? start text).bind (takeBytes? (stop - start)) else none

def trimReturns (text : List Char) : List Char :=
  (text.reverse.dropWhile (· == '\r')).reverse

def line (source : SourceText) (number : UInt32) : Option String :=
  if number = 0 then none
  else
    let index := number.toNat - 1
    match source.lineStarts[index]? with
    | none => none
    | some start =>
        let stop :=
          match source.lineStarts[index + 1]? with
          | some next => next - 1
          | none => source.text.utf8ByteSize
        (slice? source.text.toList start stop).map fun text => String.ofList (trimReturns text)

end SourceText

end NodeFeed

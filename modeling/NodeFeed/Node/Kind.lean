import NodeFeed.Text.Quoted

set_option autoImplicit false

namespace NodeFeed

inductive PendingKind
  | method
  | package
  | importing
  | typing
  | localName
  | singleValue
  | operation
deriving DecidableEq

inductive Kind
  | pending (kind : PendingKind)
  | error
  | finish
deriving DecidableEq

inductive KindError
  | outOfRange (index count : Nat)
  | unknownName (name : String)
deriving DecidableEq

def KindError.message : KindError → String
  | .outOfRange index count =>
      "node kind index " ++ index.repr ++ " is out of range (expected 0.." ++ count.repr ++ ")"
  | .unknownName name => "unknown node kind name: " ++ Text.quote name

namespace Kind

def all : List Kind :=
  [.pending .method, .pending .package, .pending .importing, .pending .typing,
    .pending .localName, .pending .singleValue, .pending .operation, .error, .finish]

def count : Nat := 9

def index : Kind → Nat
  | .pending .method => 0
  | .pending .package => 1
  | .pending .importing => 2
  | .pending .typing => 3
  | .pending .localName => 4
  | .pending .singleValue => 5
  | .pending .operation => 6
  | .error => 7
  | .finish => 8

def names : List String :=
  ["Method", "Package", "Import", "Type", "Local", "SingleValue", "Operation", "Error", "Finish"]

def name (kind : Kind) : String :=
  names.getD kind.index ""

def isSentinel : Kind → Bool
  | .pending _ => false
  | .error | .finish => true

def ofIndex (index : Nat) : Except KindError Kind :=
  match all[index]? with
  | some kind => .ok kind
  | none => .error (.outOfRange index count)

def nameAt (index : Nat) : Except KindError String :=
  (ofIndex index).map name

def ofName (text : String) : Except KindError Kind :=
  match all.find? (fun kind => kind.name == text) with
  | some kind => .ok kind
  | none => .error (.unknownName text)

end Kind

end NodeFeed

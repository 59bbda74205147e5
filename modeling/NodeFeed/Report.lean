import NodeFeed.Diagnostic

set_option autoImplicit false

namespace NodeFeed

structure Report where
  errors : List Diagnostic
  total : UInt64
deriving DecidableEq

namespace Report

def capacity : Nat := 20

def empty : Report := ⟨[], 0⟩

def hasErrors (report : Report) : Bool := report.total != 0

def push (report : Report) (error : Diagnostic) : Report where
  errors := if report.errors.length < capacity then report.errors ++ [error] else report.errors
  total := report.total + 1

def pushAll (report : Report) (errors : List Diagnostic) : Report :=
  errors.foldl push report

end Report

end NodeFeed

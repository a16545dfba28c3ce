import LeafLayout.Glob.Walk

/-!
What can go wrong with one pattern or one file, and how it is told.
-/

set_option autoImplicit false

namespace LeafLayout

inductive Failure where
  | pattern (text : List Char) (cause : Glob.SyntaxError)
  | read (path : Path) (cause : Fault)
  | write (path : Path) (cause : Fault)
deriving DecidableEq, Repr

namespace Failure

/-- The cause in its own words. -/
def cause : Failure → String
  | .pattern _ error => error.message
  | .read _ fault => fault.message
  | .write _ fault => fault.message

def task : Failure → String
  | .pattern text _ => "invalid pattern `" ++ String.ofList text ++ "`"
  | .read path _ => "failed to read " ++ String.ofList path
  | .write path _ => "failed to write " ++ String.ofList path

def message (failure : Failure) : String :=
  failure.task ++ ": " ++ failure.cause

end Failure

end LeafLayout

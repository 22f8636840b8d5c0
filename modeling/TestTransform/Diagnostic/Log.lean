/-
The record of reported diagnostics. Every diagnostic that is reported is kept in order; the
counts of errors and warnings, the codes in order and the messages under a code are views of
that record, so a handler that keeps only counts agrees with one that keeps everything.
-/
import TestTransform.Diagnostic.Basic

namespace TestTransform
namespace Diagnostic

structure Log where
  /-- the reported diagnostics, oldest first -/
  reported : List Diagnostic
deriving Inhabited

namespace Log

def empty : Log := ⟨[]⟩

def report (log : Log) (d : Diagnostic) : Log := ⟨log.reported ++ [d]⟩

/-- A warning of a code and message, with no file. -/
def warn (log : Log) (code : Nat) (message : String) : Log := log.report (warning code message)

def count (log : Log) (c : Category) : Nat := (log.reported.filter (fun d => d.category == c)).length

def errors (log : Log) : Nat := log.count .error

def warnings (log : Log) : Nat := log.count .warning

def hasErrors (log : Log) : Bool := log.errors > 0

def codes (log : Log) : List Nat := log.reported.map Diagnostic.code

def messagesWithCode (log : Log) (code : Nat) : List String :=
  (log.reported.filter (fun d => d.code == code)).map Diagnostic.message

@[simp] theorem reported_report (log : Log) (d : Diagnostic) :
    (log.report d).reported = log.reported ++ [d] := rfl

end Log

end Diagnostic
end TestTransform

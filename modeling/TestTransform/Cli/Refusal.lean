/-
Why a command line is refused, and the report of it.

A report starts with `error: ` and the reason. Then come the tips: a subcommand or an
argument like the one given, and other advice, each on a line of its own after a blank line.
Then the usage line of the command, when the reason has one, and last a pointer to `--help`.
-/
import TestTransform.Cli.Help

namespace TestTransform
namespace Cli

inductive Refusal where
  /-- a word where a subcommand was due: the similar subcommands, least alike first -/
  | unknownSubcommand (word : String) (similar : List String) (usage : String)
  /-- a word that is no argument of the command: a similar option, and other tips -/
  | unknownArgument (word : String) (similar : Option String) (tips : List String) (usage : String)
  /-- required arguments that were not given, as shown -/
  | missingRequired (missing : List String) (usage : String)
  /-- an option without its value, or with an empty one, as shown -/
  | missingValue (arg : String)
  /-- an argument given twice, as shown -/
  | repeated (arg : String) (usage : String)
  /-- a value attached to a switch -/
  | extraValue (value arg : String) (usage : String)
  /-- a subcommand placed after `--` -/
  | escapedSubcommand (name : String) (usage : String)
deriving Repr

namespace Refusal

def reason : Refusal → String
  | .unknownSubcommand w _ _ => "unrecognized subcommand '" ++ w ++ "'"
  | .unknownArgument w _ _ _ => "unexpected argument '" ++ w ++ "' found"
  | .missingRequired ms _ =>
    "the following required arguments were not provided:" ++ String.join (ms.map ("\n  " ++ ·))
  | .missingValue a => "a value is required for '" ++ a ++ "' but none was supplied"
  | .repeated a _ => "the argument '" ++ a ++ "' cannot be used multiple times"
  | .extraValue v a _ => "unexpected value '" ++ v ++ "' for '" ++ a ++ "' found; no more were expected"
  | .escapedSubcommand _ _ => "unexpected argument '--' found"

/-- The tip that names similar things, if any. -/
def similarTip : Refusal → Option String
  | .unknownSubcommand _ [s] _ => some ("a similar subcommand exists: '" ++ s ++ "'")
  | .unknownSubcommand _ (s :: ss) _ =>
    some ("some similar subcommands exist: " ++ ", ".intercalate ((s :: ss).map (fun x => "'" ++ x ++ "'")))
  | .unknownArgument _ (some a) _ _ => some ("a similar argument exists: '" ++ a ++ "'")
  | _ => none

def tips : Refusal → List String
  | .unknownArgument _ _ ts _ => ts
  | .escapedSubcommand n _ => ["subcommand '" ++ n ++ "' exists; to use it, remove the '--' before it"]
  | _ => []

def usage? : Refusal → Option String
  | .unknownSubcommand _ _ u | .unknownArgument _ _ _ u | .missingRequired _ u | .repeated _ u
  | .extraValue _ _ u | .escapedSubcommand _ u => some u
  | .missingValue _ => none

/-- The report of the refusal, ending in a line break. -/
def report (r : Refusal) : String :=
  let similar := match r.similarTip with
    | some t => "\n\n  tip: " ++ t
    | none => ""
  let others := match r.tips with
    | [] => ""
    | ts => (if r.similarTip.isSome then "" else "\n") ++ String.join (ts.map ("\n  tip: " ++ ·))
  let usage := match r.usage? with
    | some u => "\n\nUsage: " ++ u
    | none => ""
  "error: " ++ r.reason ++ similar ++ others ++ usage ++ "\n\nFor more information, try '--help'.\n"

end Refusal

end Cli
end TestTransform

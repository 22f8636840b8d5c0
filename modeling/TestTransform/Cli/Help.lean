/-
The help of a command and its usage lines.

A help text is the command's about line, its usage, and then its subcommands, its operands
and its options, each section a column of entries with their texts aligned two spaces past
the widest entry. A usage line names the command as invoked, `[OPTIONS]` when it has an
option that is neither required nor a help or version switch, its required options, its
operands and `<COMMAND>` when it has subcommands. A usage line that follows what was given
lists, instead, the required options and those given, then the operands required or given.
-/
import TestTransform.Cli.Grammar
import TestTransform.Text.Blank

namespace TestTransform
namespace Cli

/-- How an option is shown: its long name (else its short one) and its value. -/
def Opt.spec (o : Opt) : String :=
  (match o.long, o.short with
   | some l, _ => "--" ++ l
   | none, some s => "-" ++ s.toString
   | none, none => "") ++
  (match o.takes with
   | .value n => " <" ++ n ++ ">"
   | .switch _ => "")

/-- How an operand is shown: its name, in brackets when it may be left out. -/
def Operand.spec (p : Operand) : String :=
  (if p.required then "<" ++ p.valueName ++ ">" else "[" ++ p.valueName ++ "]") ++
    (if p.many then "..." else "")

/-- How an operand is shown in a usage line that follows what was given. -/
def Operand.givenSpec (p : Operand) : String :=
  "<" ++ p.valueName ++ ">" ++ (if p.many then "..." else "")

def spaces (n : Nat) : String := String.ofList (List.replicate n ' ')

/-- A line of a help section: the entry, then its text two columns past the widest entry. -/
def row (widest : Nat) (entry text : String) : String :=
  "  " ++ entry ++ spaces (widest + 2 - entry.length) ++ text

/-- The entry of an option in the help: its short name or room for one, and its long name. -/
def Opt.entry (o : Opt) : String :=
  let short := match o.short, o.long with
    | some s, some _ => "-" ++ s.toString ++ ", "
    | some s, none => "-" ++ s.toString
    | none, _ => "    "
  let long := match o.long with
    | some l => "--" ++ l
    | none => ""
  let suffix := match o.takes with
    | .value n => " <" ++ n ++ ">"
    | .switch _ => ""
  short ++ long ++ suffix

/-- The text of an option in the help, with its default. -/
def Opt.helpText (o : Opt) : String :=
  match o.defaultValue with
  | some d => if o.help.isEmpty then "[default: " ++ d ++ "]" else o.help ++ " [default: " ++ d ++ "]"
  | none => o.help

namespace Command

/-- Whether the usage line shows `[OPTIONS]`. -/
def showsOptions (c : Command) : Bool :=
  c.opts.any (fun o => !o.required && !(o.takes == .switch .help) && !(o.takes == .switch .version))

/-- The usage line of the help, for the command invoked as `bin`. -/
def usage (c : Command) (bin : String) : String :=
  bin ++ (if c.showsOptions then " [OPTIONS]" else "") ++
    String.join ((c.opts.filter Opt.required).map (" " ++ ·.spec)) ++
    String.join (c.operands.map (" " ++ ·.spec)) ++
    (if c.hasSubcommands then " <COMMAND>" else "")

/-- The usage line that follows the ids given: the required options and those given, in that
order and each once, then the operands required or given. -/
def usageGiven (c : Command) (bin : String) (given : List String) : String :=
  let ids := (c.requiredIds ++ given).foldl (fun acc i => if acc.contains i then acc else acc ++ [i]) []
  bin ++ String.join (ids.filterMap (fun i => (c.find i).map (" " ++ ·.spec))) ++
    String.join ((c.operands.filter (fun p => ids.contains p.id)).map (" " ++ ·.givenSpec)) ++
    (if c.hasSubcommands then " <COMMAND>" else "")

/-- The usage line an error shows: the help's when nothing was given. -/
def usageFor (c : Command) (bin : String) (given : List String) : String :=
  if given.isEmpty then c.usage bin else c.usageGiven bin given

def commandsSection (c : Command) : List String :=
  if c.subcommands.isEmpty then []
  else
    let widest := c.subcommands.foldl (fun w s => max w s.name.length) 2
    ["Commands:\n" ++ "\n".intercalate (c.subcommands.map (fun s => row widest s.name s.about))]

def operandsSection (c : Command) : List String :=
  if c.operands.isEmpty then []
  else
    let widest := c.operands.foldl (fun w p => max w p.spec.length) 2
    ["Arguments:\n" ++ "\n".intercalate (c.operands.map (fun p => row widest p.spec p.help))]

def optionsSection (c : Command) : List String :=
  if c.opts.isEmpty then []
  else
    let widest := c.opts.foldl (fun w o => max w (o.spec.length + 4)) 2
    ["Options:\n" ++ "\n".intercalate (c.opts.map (fun o => row widest o.entry o.helpText))]

/-- The help of the command invoked as `bin`, ending in one line break. -/
def helpText (c : Command) (bin : String) : String :=
  let sections := c.commandsSection ++ c.operandsSection ++ c.optionsSection
  let text := (if c.about.isEmpty then "" else c.about ++ "\n\n") ++ "Usage: " ++ c.usage bin ++
    (if sections.isEmpty then "" else "\n\n" ++ "\n\n".intercalate sections)
  Text.trimRight text ++ "\n"

/-- The version line of the command. -/
def versionText (c : Command) : String := c.name ++ " " ++ c.version.getD "" ++ "\n"

end Command

end Cli
end TestTransform

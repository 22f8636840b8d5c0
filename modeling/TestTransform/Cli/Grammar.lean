/-
The grammar of a command line: a command with its options, its operands and its
subcommands.

An option has a long name, a short one or both; it is a switch or takes one value, and it may
be required or have a default. A switch either records that it was given, or shows the help
or the version at once. Operands are taken in order. Every command gets a help switch; a
command with subcommands also gets a `help` subcommand that shows the help of the commands it
names; the top command gets a version switch when it has a version.
-/
namespace TestTransform
namespace Cli

/-- What a switch does when it is given. -/
inductive Action where
  /-- records that it was given -/
  | record
  /-- shows the help of its command -/
  | help
  /-- shows the version of its command -/
  | version
deriving DecidableEq, Repr

/-- What an option takes. -/
inductive Takes where
  | switch (action : Action)
  /-- one value, shown under its name -/
  | value (name : String)
deriving DecidableEq, Repr

structure Opt where
  id : String
  long : Option String
  short : Option Char
  takes : Takes
  required : Bool
  help : String
  defaultValue : Option String
deriving Repr

structure Operand where
  id : String
  valueName : String
  required : Bool
  help : String
  /-- takes every remaining word -/
  many : Bool
deriving Repr

structure Command where
  name : String
  about : String
  /-- shown by the version switch -/
  version : Option String
  opts : List Opt
  operands : List Operand
  subcommands : List Command
deriving Repr, Inhabited

namespace Opt

/-- An option with a long name that takes a value. -/
def valued (id long valueName help : String) : Opt :=
  ⟨id, some long, none, .value valueName, false, help, none⟩

/-- A switch with a long name that records that it was given. -/
def flag (id long help : String) : Opt := ⟨id, some long, none, .switch .record, false, help, none⟩

def helpSwitch : Opt := ⟨"help", some "help", some 'h', .switch .help, false, "Print help", none⟩

def versionSwitch : Opt := ⟨"version", some "version", some 'V', .switch .version, false, "Print version", none⟩

def takesValue (o : Opt) : Bool :=
  match o.takes with
  | .value _ => true
  | .switch _ => false

end Opt

/-- The `help` subcommand of a command with subcommands. -/
def helpCommand : Command :=
  ⟨"help", "Print this message or the help of the given subcommand(s)", none, [],
    [⟨"subcommand", "COMMAND", false, "Print help for the subcommand(s)", true⟩], []⟩

namespace Command

/-- A command without subcommands, with its help switch. -/
def leaf (name about : String) (opts : List Opt) (operands : List Operand) : Command :=
  ⟨name, about, none, opts ++ [Opt.helpSwitch], operands, []⟩

/-- A command of subcommands, with its help switch and `help` subcommand. -/
def group (name about : String) (subcommands : List Command) : Command :=
  ⟨name, about, none, [Opt.helpSwitch], [], subcommands ++ [helpCommand]⟩

/-- The top command of a program with a version. -/
def program (name about version : String) (subcommands : List Command) : Command :=
  ⟨name, about, some version, [Opt.helpSwitch, Opt.versionSwitch], [], subcommands ++ [helpCommand]⟩

def findLong (c : Command) (name : String) : Option Opt := c.opts.find? (·.long == some name)

def findShort (c : Command) (ch : Char) : Option Opt := c.opts.find? (·.short == some ch)

def findSubcommand (c : Command) (name : String) : Option Command :=
  c.subcommands.find? (·.name == name)

def find (c : Command) (id : String) : Option Opt := c.opts.find? (·.id == id)

def findOperand (c : Command) (id : String) : Option Operand := c.operands.find? (·.id == id)

/-- The long names of the options, in order. -/
def longs (c : Command) : List String := c.opts.filterMap Opt.long

def hasSubcommands (c : Command) : Bool := !c.subcommands.isEmpty

/-- The help switch is the only way this command shows help; a command without one (the `help`
subcommand) has none. -/
def hasHelpSwitch (c : Command) : Bool := c.opts.any (·.takes == .switch .help)

/-- The ids of the required options and operands, options first, each in order. -/
def requiredIds (c : Command) : List String :=
  (c.opts.filter Opt.required).map Opt.id ++ (c.operands.filter Operand.required).map Operand.id

end Command

end Cli
end TestTransform

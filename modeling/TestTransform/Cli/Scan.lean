/-
Reading a command line against a grammar.

Words are read left to right. A subcommand's name hands the rest to that subcommand, and the
name `help` shows the help of the subcommands named after it. `--` makes every later word an
operand. A word `--name` or `--name=value` is a long option, a word `-abc` a cluster of short
ones where the first that takes a value takes the rest of the word (after an optional `=`),
or else the next word. Other words are operands, in order.

The first fault ends the reading: an unknown option or word, an option given twice, a value
attached to a switch, an option left without its value, or an empty value (every value here
is a path, and a path is never empty). The value of an option and an operand wait: they are
checked when the next known option or the next operand comes, or at the end, so an unknown
option or a word where no operand is due is the fault before them. A help or version switch
shows its text at once. At the end, a command with subcommands that got none shows its help
as a fault when nothing else was given, and a required argument that is missing is a fault.
-/
import TestTransform.Cli.Refusal
import TestTransform.Text.Similarity

namespace TestTransform
namespace Cli

/-- What a command line asks for: the subcommands named, outermost first, and the values of
its arguments by id, with the defaults of options not given. -/
structure Matches where
  path : List String
  values : List (String × String)
deriving Repr

/-- How reading a command line stops early: a text to show, where, and the status to exit
with. -/
structure Stop where
  text : String
  toStdout : Bool
  status : Nat
deriving Repr

def Stop.help (c : Command) (bin : String) : Stop := ⟨c.helpText bin, true, 0⟩

def Stop.refuse (r : Refusal) : Stop := ⟨r.report, false, 2⟩

/-- An argument whose value is not yet checked: an option, with the word after it once that
comes, or an operand with its word. -/
structure Waiting where
  id : String
  /-- how the argument is shown in a report -/
  shown : String
  value : Option String
deriving Repr

/-- Where reading one command's words stands. -/
structure Reading where
  /-- the values given, by id, in the order given -/
  given : List (String × String)
  /-- the argument whose value is checked when the next option or operand comes, or at the
  end -/
  pending : Option Waiting
  /-- after `--` -/
  escaped : Bool
  /-- how many operands were taken -/
  taken : Nat

def Reading.start : Reading := ⟨[], none, false, 0⟩

def Reading.ids (r : Reading) : List String := r.given.map Prod.fst

/-- Records a value of the argument `id`, shown as `shown`: once only, and never empty. -/
def Reading.put (c : Command) (bin : String) (r : Reading) (id shown value : String) :
    Except Stop Reading :=
  if r.ids.contains id then .error (.refuse (.repeated shown (c.usage bin)))
  else if value.isEmpty then .error (.refuse (.missingValue shown))
  else .ok { r with given := r.given ++ [(id, value)] }

/-- Checks and records the waiting argument: an option still without its value is left
without it. -/
def Reading.settle (c : Command) (bin : String) (r : Reading) : Except Stop Reading :=
  match r.pending with
  | none => .ok r
  | some w =>
    match w.value with
    | none => .error (.refuse (.missingValue w.shown))
    | some v => { r with pending := none }.put c bin w.id w.shown v

/-- The reading once the waiting argument is settled with its fault passed over, as a report
of a later fault sees it: an option without a value is dropped, one given twice loses its
earlier value, and any other value counts as given. -/
def Reading.settleQuietly (r : Reading) : Reading :=
  match r.pending with
  | none => r
  | some w =>
    let r := { r with pending := none }
    match w.value with
    | none => r
    | some v =>
      if r.ids.contains w.id then { r with given := r.given.filter (·.1 != w.id) }
      else { r with given := r.given ++ [(w.id, v)] }

/-- The ids given that a usage line after a fault names: the required ones stand in it in any
case. -/
def Reading.optionalIds (c : Command) (r : Reading) : List String :=
  r.ids.filter (fun i => !c.requiredIds.contains i)

/-- What a switch does. -/
def Reading.useSwitch (c : Command) (bin : String) (r : Reading) (o : Opt) (action : Action) :
    Except Stop Reading :=
  match action with
  | .help => .error (.help c bin)
  | .version => .error ⟨c.versionText, true, 0⟩
  | .record => r.put c bin o.id o.spec "true"

/-- The help of the subcommands named in `names`, from `c` down. -/
def helpOf (c : Command) (bin : String) : List String → Stop
  | [] => .help c bin
  | name :: rest =>
    match c.findSubcommand name with
    | some s => helpOf s (bin ++ " " ++ s.name) rest
    | none => .refuse (.unknownSubcommand name [] (c.usage bin))

/-- The fault of an unknown long option `--name`, with the words after it. -/
def unknownLong (c : Command) (bin : String) (r : Reading) (name : String) (rest : List String) :
    Stop :=
  let used := r.optionalIds c
  match (Text.similar name c.longs).getLast? with
  | some best =>
    let id := ((c.findLong best).map Opt.id).getD best
    let given := if used.contains id || c.requiredIds.contains id then used else used ++ [id]
    .refuse (.unknownArgument ("--" ++ name) (some ("--" ++ best)) [] (c.usageFor bin given))
  | none =>
    let elsewhere := c.subcommands.filterMap (fun s =>
      match (Text.similar name s.longs).getLast?, rest.idxOf? s.name with
      | some best, some at_ => some (at_, s.name, best)
      | _, _ => none)
    let nearest := elsewhere.foldl (fun (acc : Option (Nat × String × String)) e =>
      match acc with
      | some a => if e.1 < a.1 then some e else some a
      | none => some e) none
    match nearest with
    | some (_, sub, best) =>
      .refuse (.unknownArgument ("--" ++ name) none ["'" ++ sub ++ " --" ++ best ++ "' exists"]
        (c.usageFor bin used))
    | none =>
      let tips := if c.operands.isEmpty then []
        else ["to pass '--" ++ name ++ "' as a value, use '-- --" ++ name ++ "'"]
      .refuse (.unknownArgument ("--" ++ name) none tips (c.usageFor bin used))

/-- The fault of a word that is no operand of the command. -/
def unexpectedWord (c : Command) (bin : String) (r : Reading) (word : String) : Stop :=
  if r.escaped && (c.findSubcommand word).isSome then .refuse (.escapedSubcommand word (c.usage bin))
  else if c.hasSubcommands then
    let similar := Text.similar word (c.subcommands.map Command.name)
    if !similar.isEmpty || c.operands.isEmpty then .refuse (.unknownSubcommand word similar (c.usage bin))
    else .refuse (.unknownArgument word none [] (c.usage bin))
  else .refuse (.unknownArgument word none [] (c.usage bin))

/-- Takes a word as the next operand, which settles the argument waiting before it. -/
def Reading.takeOperand (c : Command) (bin : String) (r : Reading) (word : String) :
    Except Stop Reading :=
  match c.operands[r.taken]? with
  | some p => do
    let r ← r.settle c bin
    if p.many then pure { r with given := r.given ++ [(p.id, word)] }
    else pure { r with pending := some ⟨p.id, p.spec, some word⟩, taken := r.taken + 1 }
  | none => .error (unexpectedWord c bin r word)

/-- Takes a word as a value: of the option waiting for one (before `--`), else as the next
operand. -/
def Reading.takeValue (c : Command) (bin : String) (r : Reading) (word : String) : Except Stop Reading :=
  match r.pending with
  | some ⟨id, shown, none⟩ =>
    if r.escaped then r.takeOperand c bin word
    else .ok { r with pending := some ⟨id, shown, some word⟩ }
  | _ => r.takeOperand c bin word

/-- Reads a long option `--name` or `--name=value`. A known option settles the argument
waiting before it; an unknown one is the fault whatever that argument holds. -/
def Reading.takeLong (c : Command) (bin : String) (r : Reading) (body : String) (rest : List String) :
    Except Stop Reading :=
  let name := (body.splitOn "=").headD ""
  let attached := if body.contains '=' then some ((body.drop (name.length + 1)).toString) else none
  match c.findLong name with
  | none => .error (unknownLong c bin r.settleQuietly name rest)
  | some o =>
    match o.takes, attached with
    | .value _, some v => do
      let r ← r.settle c bin
      r.put c bin o.id o.spec v
    | .value _, none => do
      let r ← r.settle c bin
      pure { r with pending := some ⟨o.id, o.spec, none⟩ }
    | .switch _, some v =>
      .error (.refuse (.extraValue v o.spec (c.usageFor bin (r.optionalIds c ++ [o.id]))))
    | .switch action, none => do
      let r ← r.settle c bin
      r.useSwitch c bin o action

/-- Reads a cluster of short options, given without its leading `-`. -/
def Reading.takeShorts (c : Command) (bin : String) : Reading → List Char → Except Stop Reading
  | r, [] => .ok r
  | r, ch :: more =>
    match c.findShort ch with
    | none =>
      let shown := "-" ++ ch.toString
      let tips := if c.operands.isEmpty then [] else ["to pass '" ++ shown ++ "' as a value, use '-- " ++ shown ++ "'"]
      .error (.refuse (.unknownArgument shown none tips (c.usage bin)))
    | some o =>
      match o.takes with
      | .switch action => do
        let r ← r.settle c bin
        let r ← r.useSwitch c bin o action
        Reading.takeShorts c bin r more
      | .value _ => do
        let r ← r.settle c bin
        if more.isEmpty then pure { r with pending := some ⟨o.id, o.spec, none⟩ }
        else
          let value := match more with
            | '=' :: v => String.ofList v
            | v => String.ofList v
          r.put c bin o.id o.spec value

/-- The matches once every word is read: the checks that close a command's reading. -/
def Reading.finish (c : Command) (bin : String) (r : Reading) : Except Stop Matches := do
  let r ← r.settle c bin
  if c.hasSubcommands then
    throw ⟨c.helpText bin, false, 2⟩
  let missing := c.requiredIds.filter (fun i => !r.ids.contains i)
  if !missing.isEmpty then
    let shown := missing.filterMap (fun i =>
      match c.find i, c.findOperand i with
      | some o, _ => some o.spec
      | none, some p => some p.givenSpec
      | none, none => none)
    throw (.refuse (.missingRequired shown (c.usageFor bin (r.ids ++ missing))))
  let defaults := c.opts.filterMap (fun o =>
    if r.ids.contains o.id then none else o.defaultValue.map (o.id, ·))
  pure ⟨[], r.given ++ defaults⟩

/-- Reads the words of one command, and of the subcommands they name. -/
def Reading.scan (c : Command) (bin : String) : Reading → List String → Except Stop Matches
  | r, [] => r.finish c bin
  | r, word :: rest =>
    match (if r.escaped then none else c.findSubcommand word) with
    | some s =>
      if s.name == "help" && c.hasSubcommands then .error (helpOf c bin rest)
      else do
        let m ← Reading.scan s (bin ++ " " ++ s.name) Reading.start rest
        pure { m with path := s.name :: m.path }
    | none =>
      if !r.escaped && word == "--" then
        Reading.scan c bin { r with escaped := true } rest
      else if !r.escaped && word.startsWith "--" then do
        let r ← r.takeLong c bin (word.drop 2).toString rest
        Reading.scan c bin r rest
      else if !r.escaped && word.startsWith "-" && word != "-" then do
        let r ← r.takeShorts c bin (word.drop 1).toString.toList
        Reading.scan c bin r rest
      else do
        let r ← r.takeValue c bin word
        Reading.scan c bin r rest

/-- Reads a command line (without the program's name) against the grammar of the program. -/
def Command.scan (c : Command) (words : List String) : Except Stop Matches :=
  Reading.scan c c.name Reading.start words

end Cli
end TestTransform

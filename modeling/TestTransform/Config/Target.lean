/-
Language levels and module systems of the emitted JavaScript, with their option spellings.

A spelling is read after dropping `-`, `_` and blanks and lowering ASCII letters, so `ES-Next`
and `es_next` both name `esnext`; `es6` is a second name of `es2015`. Each value is written
back by its one lowercase name.
-/
import TestTransform.Text.Blank

namespace TestTransform
namespace Config

/-- The spelling of an option value as it is matched: without `-`, `_` and blanks, ASCII
letters lowered. -/
def optionKey (s : String) : String :=
  String.ofList ((s.toList.filter (fun c => c != '-' && c != '_' && !Text.isBlank c)).map Char.toLower)

inductive Target where
  | es3 | es5 | es2015 | es2016 | es2017 | es2018 | es2019 | es2020 | es2021 | es2022 | esnext
deriving DecidableEq, Repr, Inhabited

namespace Target

def all : List Target :=
  [.es3, .es5, .es2015, .es2016, .es2017, .es2018, .es2019, .es2020, .es2021, .es2022, .esnext]

def name : Target → String
  | .es3 => "es3" | .es5 => "es5" | .es2015 => "es2015" | .es2016 => "es2016"
  | .es2017 => "es2017" | .es2018 => "es2018" | .es2019 => "es2019" | .es2020 => "es2020"
  | .es2021 => "es2021" | .es2022 => "es2022" | .esnext => "esnext"

/-- The position in the order of language levels, oldest first. -/
def rank (t : Target) : Nat := all.idxOf t

/-- The level used when no configuration names one. -/
def default : Target := .es2015

def isBelowDefault (t : Target) : Bool := t.rank < default.rank

def parse (s : String) : Except String Target :=
  let key := optionKey s
  match (if key == "es6" then some Target.es2015 else all.find? (·.name == key)) with
  | some t => .ok t
  | none => .error ("unsupported compilerOptions.target '" ++ s ++ "'")

end Target

inductive ModuleKind where
  | none | commonjs | amd | umd | system | es2015 | es2020 | es2022 | esnext | node16 | nodenext
deriving DecidableEq, Repr, Inhabited

namespace ModuleKind

def all : List ModuleKind :=
  [.none, .commonjs, .amd, .umd, .system, .es2015, .es2020, .es2022, .esnext, .node16, .nodenext]

def name : ModuleKind → String
  | .none => "none" | .commonjs => "commonjs" | .amd => "amd" | .umd => "umd"
  | .system => "system" | .es2015 => "es2015" | .es2020 => "es2020" | .es2022 => "es2022"
  | .esnext => "esnext" | .node16 => "node16" | .nodenext => "nodenext"

/-- The kinds whose output keeps static `import` and `export`. -/
def isEsModule : ModuleKind → Bool
  | .es2015 | .es2020 | .es2022 | .esnext => true
  | _ => false

def parse (s : String) : Except String ModuleKind :=
  let key := optionKey s
  match (if key == "es6" then some ModuleKind.es2015 else all.find? (·.name == key)) with
  | some m => .ok m
  | Option.none => .error ("unsupported compilerOptions.module '" ++ s ++ "'")

end ModuleKind

end Config
end TestTransform

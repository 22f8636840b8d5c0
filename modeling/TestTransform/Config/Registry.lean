/-
The registry of compiler modules: each module by its name, with its version.

Registering a name again replaces the module it names. Names are listed in ascending order,
and resolving a name that is not registered fails with a fault that lists the names that are.
-/
import TestTransform.Error
import TestTransform.Text.Shown

namespace TestTransform
namespace Config

/-- A compiler module as the settings know it: by name and version. -/
structure ModuleInfo where
  name : String
  version : String

/-- Compiler modules by name, each name once. -/
structure Registry where
  modules : List ModuleInfo

namespace Registry

def empty : Registry := ⟨[]⟩

/-- Registers a module under `name`, replacing any module already registered under it. -/
def register (r : Registry) (name version : String) : Registry :=
  if r.modules.any (·.name == name) then
    ⟨r.modules.map (fun m => if m.name == name then ⟨name, version⟩ else m)⟩
  else ⟨r.modules ++ [⟨name, version⟩]⟩

/-- The registered names, in ascending order. -/
def names (r : Registry) : List String := (r.modules.map ModuleInfo.name).mergeSort (fun a b => a ≤ b)

/-- The module registered under `name`. -/
def resolve (r : Registry) (name : String) : Except ConfigError ModuleInfo :=
  match r.modules.find? (·.name == name) with
  | some m => .ok m
  | none => .error (.unknownCompiler name (", ".intercalate r.names))

/-- The text that lists the registered names. -/
def describe (r : Registry) : String :=
  "CompilerRegistry \x7b modules: [" ++ ", ".intercalate (r.names.map Text.shown) ++ "] \x7d"

end Registry

end Config
end TestTransform

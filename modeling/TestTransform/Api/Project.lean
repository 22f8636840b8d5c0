/-
Operations on project files: reading one with its bases, finding one, and the projects that
one references.
-/
import TestTransform.Api.Store
import TestTransform.Api.Failure
import TestTransform.Config.TsConfig

namespace TestTransform
namespace Api

open Json Config

def patternsValue : Option (List String) → Value
  | some ps => strings ps
  | none => .null

def referenceValue (store : FileStore) (p : Path) : Value :=
  match ProjectReference.load store p with
  | .ok r => .obj [("outDir", optPath r.outDir), ("path", path r.configPath), ("rootDir", path r.rootDir)]
  | .error e => configFailure e

/-- `tsconfig`: a project file read with its bases, its references loaded, its options typed
and its inputs listed. -/
def projectFile (req : Value) : Decoding Value := do
  let store ← storeOf req
  let outDir := (← text? req "out_dir").map Path.mk
  match TsConfig.read store ⟨← text req "path"⟩ with
  | .error e => pure (configFailure e)
  | .ok c =>
    let typed := match CompilerOptions.ofValue (.obj c.compilerOptions) with
      | .ok o => o.toValue
      | .error f => dataFailure f
    let names := match c.fileNames store outDir with
      | .ok ps => paths ps
      | .error e => configFailure e
    pure (ok (.obj [
      ("compilerOptions", .obj c.compilerOptions),
      ("exclude", patternsValue c.excludes),
      ("file_names", names),
      ("files", (c.files.map paths).getD .null),
      ("include", patternsValue c.includes),
      ("path", path c.path),
      ("references", .arr (c.references.map (referenceValue store))),
      ("typed_options", typed)]))

/-- `find_config_file`: the nearest project file at or above a directory. -/
def findProject (req : Value) : Decoding Value := do
  let store ← storeOf req
  pure (ok (optPath (findProjectFile store ⟨← text req "start_dir"⟩)))

/-- `project_reference`: a referenced project, which files it holds and where their output goes. -/
def projectReference (req : Value) : Decoding Value := do
  let store ← storeOf req
  let contained ← texts req "contains"
  let outputs ← texts req "output_for"
  match ProjectReference.load store ⟨← text req "config_path"⟩ with
  | .error e => pure (configFailure e)
  | .ok r =>
    pure (ok (.obj [
      ("config_path", path r.configPath),
      ("contains", .arr (contained.map (fun f => bool (r.contains ⟨f⟩)))),
      ("out_dir", optPath r.outDir),
      ("output_for", paths (outputs.map (fun f => r.outputFor ⟨f⟩))),
      ("root_dir", path r.rootDir)]))

end Api
end TestTransform

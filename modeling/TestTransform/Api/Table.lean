/-
Operations on compiled output and on the compiler's file table.
-/
import TestTransform.Api.Reply
import TestTransform.Compiler.FileTable

namespace TestTransform
namespace Api

open Json Compiler

def outputValue (o : Output) : Value :=
  .obj [("code", .str o.code), ("source_map", optText o.sourceMap)]

/-- `finalize_output`: code with its map inlined. -/
def finalizeOutput (req : Value) : Decoding Value := do
  let o := finalize (← text req "code") (← text? req "map") ⟨← text req "file"⟩
  pure (ok (outputValue o))

/-- One step on a file table: its answer and the table after it. -/
def tableStep (t : FileTable) (step : Value) : Decoding (Value × FileTable) := do
  let op ← text step "op"
  let pathOf : Decoding Path := do pure ⟨← text step "path"⟩
  match op with
  | "update" =>
    let (u, t) := t.update (← pathOf) (← text step "text")
    pure (.str u.name, t)
  | "version" => pure ((t.version? (← pathOf)).elim .null nat, t)
  | "text" => pure (optText (t.text? (← pathOf)), t)
  | "contains" => pure (bool (t.contains (← pathOf)), t)
  | "store_output" =>
    let o : Output := ⟨← text step "code", ← text? step "map"⟩
    pure (.null, t.storeOutput (← pathOf) (← natural? step "project_version" 0) o)
  | "output" =>
    pure ((t.output? (← pathOf) (← natural? step "project_version" 0)).elim .null outputValue, t)
  | "paths" => pure (paths t.paths, t)
  | "len" => pure (.obj [("is_empty", bool t.isEmpty), ("len", nat t.size)], t)
  | "get" =>
    pure ((t.get? (← pathOf)).elim .null (fun r =>
      .obj [("text", .str r.text), ("version", nat r.version)]), t)
  | _ => throw ("unknown memory_table step '" ++ op ++ "'")

/-- The answers of steps run one after another on a state; a step that cannot be understood
is answered by its refusal and leaves the state as it was. -/
def runSteps {σ : Type} (run : σ → Value → Decoding (Value × σ)) (start : σ) (steps : List Value) :
    List Value :=
  (steps.foldl (fun (acc : List Value × σ) step =>
    match run acc.2 step with
    | .ok (v, s) => (ok v :: acc.1, s)
    | .error m => (refusal m :: acc.1, acc.2)) ([], start)).1.reverse

/-- `memory_table`: steps on one file table. -/
def memoryTable (req : Value) : Decoding Value :=
  pure (ok (.arr (runSteps tableStep FileTable.empty (list req "steps"))))

end Api
end TestTransform

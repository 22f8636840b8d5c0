/-
The transformer: the two hooks a test runner calls for each file, transforming it and giving
its cache key.

A transformer builds one set of settings and one compiler per distinct host configuration,
known by its canonical text or by any serialized text it was given as, and reuses them for
every file. A setup fault is not remembered: the next call tries again. The runner hands a
live configuration over as a shared copy, known by its address: the transformer keeps, for each
entry, the latest copy it was given for it, and finds a copy it holds by its address before
it reads the configuration's text. A copy the runner has just built lives at an address no
held copy has.

Transforming a file resolves its path against the root. Declaration files become empty, files
whose content is stringified become a module exporting that text, JavaScript without
`allowJs` and files of unknown kind pass unchanged with a warning, and the rest is compiled.
The result is then handed to the next transformer, if any.

A cache key digests the settings, the root, whether to instrument, the source, the path and
the next transformer's name, and, with a program, every module the file imports with its
modification time.
-/
import TestTransform.Compiler.Checked

namespace TestTransform

open Config Compiler

/-- A compiler of either kind. -/
inductive Compiler.Instance where
  | isolated
  | checked (c : CheckedCompiler)

namespace Compiler.Instance

def start (s : Settings) (store : FileStore) : Compiler.Instance :=
  if s.isolated then .isolated else .checked (CheckedCompiler.start s store)

/-- Runs a compile of the type-checking kind on the instance, or an isolated one. -/
def run {α : Type} (isolated : ExceptT CompileError (StateM Workspace) α)
    (checked : CheckedRun α) : ExceptT CompileError (StateM (Workspace × Compiler.Instance)) α :=
  ExceptT.mk (modifyGet (fun (w, inst) =>
    match inst with
    | .isolated =>
      let (r, w) := isolated.run.run w
      (r, (w, .isolated))
    | .checked c =>
      let (r, (w, c)) := checked.run.run (w, c)
      (r, (w, .checked c))))

def compile (s : Settings) (content : String) (path : Path) (t : TransformOptions) :
    ExceptT CompileError (StateM (Workspace × Compiler.Instance)) Output :=
  run (compileIsolated s content path t) (CheckedCompiler.compile s content path t)

/-- The modules a file imports; none without a program. -/
def resolvedModules (s : Settings) (content : String) (path : Path) :
    ExceptT CompileError (StateM (Workspace × Compiler.Instance)) (List Path) :=
  run (pure []) (CheckedCompiler.resolvedModules s content path)

end Compiler.Instance

/-- The settings and compiler of one host configuration. -/
structure Entry where
  settings : Settings
  compiler : Compiler.Instance

/-- A host configuration as the runner shares it: the configuration, and the address of the
shared copy. -/
structure SharedHost where
  address : Nat
  config : HostConfig

/-- A transformer: its entries, the texts it knows each by, and the copies it holds. -/
structure Transformer where
  entries : Array Entry
  /-- canonical and serialized texts, with the index of their entry -/
  known : List (String × Nat)
  /-- the latest shared copy given for an entry, with the entry's index -/
  slots : List (SharedHost × Nat)

/-- What a transformation gives back. -/
structure Transformed where
  code : String
  map : Option String

/-- A step of a transformer over the shared workspace. -/
abbrev Transforming := ExceptT TransformError (StateM (Workspace × Transformer))

namespace Transformer

def empty : Transformer := ⟨#[], [], []⟩

def entry (t : Transformer) (k : Nat) : Option Entry := t.entries[k]?

/-- The entry of a host configuration by its canonical text, built on first use. -/
def entryByText (h : HostConfig) : Transforming Nat := do
  let (w, t) ← get
  let canonical := h.canonical
  match t.known.lookup canonical with
  | some k => pure k
  | none =>
    match Settings.build h w.store w.registry w.envIgnore with
    | .error e => throw (.config e)
    | .ok s =>
      let k := t.entries.size
      set (w, { t with entries := t.entries.push ⟨s, Compiler.Instance.start s w.store⟩,
                       known := t.known ++ [(canonical, k)] })
      pure k

/-- The slots with `h` in the slot of entry `k`: it takes over the first slot of that entry,
or opens one at the end. -/
def takeSlot (h : SharedHost) (k : Nat) : List (SharedHost × Nat) → List (SharedHost × Nat)
  | [] => [(h, k)]
  | (s, j) :: rest => if j = k then (h, j) :: rest else (s, j) :: takeSlot h k rest

/-- The entry of a shared host configuration: a held copy gives its entry at once; any other
copy finds its entry by text and takes over that entry's slot. -/
def entryForShared (h : SharedHost) : Transforming Nat := do
  let (_, t) ← get
  match t.slots.find? (fun (s, _) => s.address == h.address) with
  | some (_, k) => pure k
  | none =>
    let k ← entryByText h.config
    modify (fun (w, t) => (w, { t with slots := takeSlot h k t.slots }))
    pure k

/-- An address that no copy the transformer holds has. -/
def freshAddress (t : Transformer) : Nat := (t.slots.map (·.1.address)).foldr max 0 + 1

/-- The entry of a host configuration in a copy the runner has just built. -/
def entryFor (h : HostConfig) : Transforming Nat := do
  let (_, t) ← get
  entryForShared ⟨freshAddress t, h⟩

/-- The entry of a serialized host configuration. -/
def entryForText (serialized : String) : Transforming Nat := do
  let (_, t) ← get
  match t.known.lookup serialized with
  | some k => pure k
  | none =>
    match HostConfig.ofJson serialized with
    | .error e => throw (.config e)
    | .ok h =>
      let k ← entryFor h
      modify (fun (w, t) => (w, { t with known := t.known ++ [(serialized, k)] }))
      pure k

def settingsOf (k : Nat) : Transforming Settings := do
  match (← get).2.entry k with
  | some e => pure e.settings
  | none => throw (.fallback "" "no such entry")

/-- Runs a compile step on the compiler of entry `k`. -/
def onCompiler {α : Type} (k : Nat) (f : Settings → ExceptT CompileError (StateM (Workspace × Compiler.Instance)) α) :
    Transforming α := do
  let (w, t) ← get
  match t.entry k with
  | none => throw (.fallback "" "no such entry")
  | some e =>
    let (r, (w, inst)) := ((f e.settings).run).run (w, e.compiler)
    set (w, { t with entries := t.entries.set! k { e with compiler := inst } })
    match r with
    | .ok a => pure a
    | .error ce => throw (.compile ce)

/-- The kinds of files a transformer tells apart by extension. -/
inductive FileKind where
  | typeScript
  | javaScript
  | other
deriving DecidableEq

def FileKind.of (p : Path) : FileKind :=
  match p.extension with
  | some "ts" | some "tsx" | some "mts" | some "cts" => .typeScript
  | some "js" | some "jsx" | some "mjs" | some "cjs" => .javaScript
  | _ => .other

def jsWithoutAllowJsText (p : Path) : String :=
  "Got a `.js` file to compile while `allowJs` option is not set to `true` (file: " ++ p.text ++
    "). If you want TypeScript to process this file, set `allowJs` to `true` in your TypeScript config."

def unknownFileTypeText (p : Path) (fallback : Option Fallback) : String :=
  "Got a unknown file type to compile (file: " ++ p.text ++
    "). Change the transform pattern so that it does not match this kind of files anymore." ++
    (match fallback with
     | some f => " It will be handed to the `" ++ f.name ++ "` transformer as is."
     | none => "")

def warn (code : Nat) (message : String) : Transforming Unit :=
  modify (fun (w, t) => (w.report [Diagnostic.warning code message], t))

/-- Transforms one file with the settings and compiler of entry `k`. -/
def processAt (k : Nat) (source : String) (path : Path) (options : TransformOptions) :
    Transforming Transformed := do
  let s ← settingsOf k
  let path := Path.resolve s.rootDir path
  if path.isDeclarationFile then return ⟨"", none⟩
  if s.shouldStringify path then return ⟨"module.exports=" ++ (Json.Value.str source).compact, none⟩
  let fallback := (← get).1.fallback
  let result ← match FileKind.of path with
    | .javaScript =>
      if !s.allowsJs then do
        warn Diagnostic.jsWithoutAllowJs (jsWithoutAllowJsText path)
        pure ⟨source, none⟩
      else do
        let o ← onCompiler k (fun s => Compiler.Instance.compile s source path options)
        pure ⟨o.code, o.sourceMap⟩
    | .typeScript => do
      let o ← onCompiler k (fun s => Compiler.Instance.compile s source path options)
      pure ⟨o.code, o.sourceMap⟩
    | .other => do
      warn Diagnostic.unknownFileType (unknownFileTypeText path fallback)
      pure ⟨source, none⟩
  match fallback with
  | some (.recording _) =>
    modify (fun (w, t) => ({ w with calls := w.calls ++ [(path, false)] }, t))
    pure ⟨Fallback.marker ++ result.code, none⟩
  | some (.failing name message) => throw (.fallback name message)
  | none => pure result

/-- Transforms one file. -/
def process (source : String) (path : Path) (h : HostConfig) (options : TransformOptions) :
    Transforming Transformed := do
  processAt (← entryFor h) source path options

/-- Transforms one file, with the host configuration in a shared copy. -/
def processShared (source : String) (path : Path) (h : SharedHost) (options : TransformOptions) :
    Transforming Transformed := do
  processAt (← entryForShared h) source path options

/-- The cache key of a file for entry `k`. -/
def computeKey (k : Nat) (source : String) (path : Path) (options : TransformOptions) :
    Transforming String := do
  let s ← settingsOf k
  let path := Path.resolve s.rootDir path
  let w := (← get).1
  let parts := [s.cacheKey, s.rootDir.text, if options.instrument then "instrument:on" else "instrument:off",
    source, path.text] ++ (w.fallback.map (fun f => [f.name])).getD []
  if s.isolated then return Hash.ofParts parts
  let modules ← onCompiler k (fun s => Compiler.Instance.resolvedModules s source path)
  let store := (← get).1.store
  let stamps := modules.flatMap (fun m =>
    [m.text, match store.modified m with
      | .ok n => toString (1000 * n)
      | .error _ => "missing"])
  pure (Hash.ofParts (parts ++ stamps))

/-- The cache key of a file, with the host configuration serialized. -/
def cacheKey (source : String) (path : Path) (serialized : String) (options : TransformOptions) :
    Transforming String := do
  computeKey (← entryForText serialized) source path options

/-- The cache key of a file, with the live host configuration. -/
def cacheKeyFor (source : String) (path : Path) (h : HostConfig) (options : TransformOptions) :
    Transforming String := do
  computeKey (← entryFor h) source path options

/-- The cache key of a file, with the live host configuration in a shared copy. -/
def cacheKeyForShared (source : String) (path : Path) (h : SharedHost) (options : TransformOptions) :
    Transforming String := do
  computeKey (← entryForShared h) source path options

/-- The settings of a host configuration, built on first use. -/
def settingsFor (h : HostConfig) : Transforming Settings := do
  settingsOf (← entryFor h)

/-- The settings of a host configuration in a shared copy. -/
def settingsForShared (h : SharedHost) : Transforming Settings := do
  settingsOf (← entryForShared h)

end Transformer

end TestTransform

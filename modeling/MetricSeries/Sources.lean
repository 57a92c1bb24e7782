import MetricSeries.Provider
import MetricSeries.Registry

/-!
# Sources

`Sources` joins a registry with the providers that are attached to its templates; a provider can
only be attached to a template that is registered. `Sources.Step` lists what can happen to them
over time: templates and providers are added, and snapshots of the registry are taken, which later
additions do not change.
-/

namespace MetricSeries

/-- A registry and the providers that are attached to its templates. -/
structure Sources where
  registry : Registry
  providers : SortedMap String Provider

namespace Sources

def ofRegistry (r : Registry) : Sources := ⟨r, .empty⟩

def register (s : Sources) (t : Template) : Except Error Sources :=
  return { s with registry := ← s.registry.register t }

/-- Attaches a provider to its template, in place of any that was attached to it. -/
def registerProvider (s : Sources) (p : Provider) : Except Error Sources := do
  -- The template has to be registered already.
  let _ ← s.registry.lookup p.template
  return { s with providers := s.providers.insert p.template p }

def providerFor (s : Sources) (template : String) : Except Error Provider :=
  match s.providers.get? template with
  | some p => .ok p
  | none => .error (.templateNotFound template)

/-- The registered templates and the templates with providers, as a developer sees them. -/
def inspected (s : Sources) : String :=
  let list (names : List String) := "[" ++ ", ".intercalate (names.map Text.inspected) ++ "]"
  "DataProviderRegistry \x7b templates: " ++ list s.registry.names ++ ", providers: " ++
    list s.providers.keys ++ " \x7d"

/-! ### Over time -/

inductive Step where
  | register (t : Template)
  | registerProvider (p : Provider)
  | snapshot

/-- The sources with the snapshots that were taken, oldest first. -/
structure History where
  sources : Sources
  snapshots : List Registry

namespace History

/-- The history that starts with sources of which a first snapshot is taken. -/
def start (s : Sources) : History := ⟨s, [s.registry]⟩

/-- The history after a step, and whether the step succeeded. A step that fails changes
nothing. -/
def step (h : History) : Step → History × Except Error Unit
  | .register t =>
    match h.sources.register t with
    | .ok s => ({ h with sources := s }, .ok ())
    | .error e => (h, .error e)
  | .registerProvider p =>
    match h.sources.registerProvider p with
    | .ok s => ({ h with sources := s }, .ok ())
    | .error e => (h, .error e)
  | .snapshot => ({ h with snapshots := h.snapshots ++ [h.sources.registry] }, .ok ())

def run (h : History) (steps : List Step) : History :=
  steps.foldl (fun h s => (h.step s).1) h

end History

end Sources

end MetricSeries

import MorrowindScript.Program.Compile

/-!
# Batches

Many scripts are compiled together. Every source has its own result, in the order of the sources,
and a source that fails does not stop the others. A batch that is canceled before it starts compiles
nothing.

* `Batch.run`: applies a function to every item.
* `Batch.compile`: compiles every source.
-/

namespace MorrowindScript

/-- What became of an item of a batch. -/
inductive JobResult (α : Type) where
  /-- The item was processed. -/
  | done (value : α)
  /-- The batch was canceled before. -/
  | canceled
  deriving DecidableEq, Repr

/-- What is reported for an item that was canceled, and for a batch that was. -/
def cancellationMessage : Bytes :=
  ascii "context canceled"

/-- A named source. -/
structure Source where
  /-- The name, used in warnings. -/
  name : Bytes
  /-- The text. -/
  text : Bytes
  deriving DecidableEq, Repr

namespace Batch

/-- Applies `f` to every item, unless the batch is canceled. -/
def run {α β : Type} (canceled : Bool) (f : α → β) (items : List α) : List (JobResult β) :=
  items.map fun item => if canceled then .canceled else .done (f item)

/-- Compiles every source, unless the batch is canceled. -/
def compile (tables : Tables) (canceled : Bool) (sources : List Source) :
    List (JobResult (ScriptOutcome Program)) :=
  run canceled (fun source => Program.compile tables source.text) sources

/-- The log of a batch: the warnings of all sources in order, each line after `label`. -/
def log (label : Bytes) (sources : List Source)
    (results : List (JobResult (ScriptOutcome Program))) : Bytes :=
  (sources.zip results).flatMap fun (source, result) =>
    match result with
    | .done outcome => outcome.warnings.flatMap (LineWarning.logLine label source.name)
    | .canceled => []

end Batch

end MorrowindScript

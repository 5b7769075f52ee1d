import SessionAuth.Log.Directive

/-!
# Filters for the log

A filter is a list of directives with commas between them. The most specific directive that covers a
record decides, and a record that none covers is left out.
-/

namespace SessionAuth.Log

/-- The directives of a filter that speak of records. Of two for the same records the later one
counts. -/
structure Filter where
  directives : List Directive
deriving DecidableEq, Repr

namespace Filter

/-- The variable that holds the filter. -/
def variableName : String := "RUST_LOG"

/-- Lets only errors through. -/
def errorsOnly : Filter := ⟨[{ limit := Level.error.rank }]⟩

/-- The filter where none is given. -/
def standard : Filter :=
  ⟨["api", "auth", "tower_http"].map fun target =>
    { target := some target, limit := Level.info.rank }⟩

/-- Reads a filter. One without directives lets only errors through. -/
def parse (s : String) : Except Directive.Fault Filter := do
  let parts := (Text.split ',' s.toList).filter (!·.isEmpty)
  let directives ← parts.mapM Directive.parse
  if parts.isEmpty then return errorsOnly else return ⟨directives.filterMap id⟩

/-- The filter that a variable sets if it can be read. There is none if its reading breaks off. -/
def ofVariable? : Option String → Option Filter
  | none => some standard
  | some value =>
    match parse value with
    | .ok filter => some filter
    | .error .malformed => some standard
    | .error .aborted => none

/-- The directive that decides about a record, if one covers it. -/
def decisive? (f : Filter) (r : Record) : Option Directive :=
  (f.directives.filter (·.covers r)).foldl (fun best d =>
    match best with
    | none => some d
    | some b => if d.isAtLeast b then some d else some b) none

/-- Whether a record passes. -/
def passes (f : Filter) (r : Record) : Bool :=
  (f.decisive? r).any fun d => r.event.level.rank ≤ d.limit

end Filter

end SessionAuth.Log

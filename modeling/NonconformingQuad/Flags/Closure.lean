import NonconformingQuad.Run

/-! Closure of a request under dependencies. A table tells, for some quantities, which
quantities are needed with them. One pass over the table closes every request; tables for
which one pass would not be enough are refused. -/
namespace NonconformingQuad

/-- A quantity with the request that it stands for when it is asked for. -/
structure Dependency where
  key : Quantity
  needs : UpdateFlags
deriving DecidableEq, Repr

/-- The dependencies of a table, at most one for each quantity. -/
structure FlagClosure where
  dependencies : List Dependency
deriving DecidableEq, Repr

namespace FlagClosure

/-- An entry put into a table of keys and values. A key that is there already keeps its
place and gets the new value. -/
def put (table : List (Entry × Entry)) (key value : Entry) : List (Entry × Entry) :=
  match table with
  | [] => [(key, value)]
  | (k, v) :: rest => if k.same key then (k, value) :: rest else (k, v) :: put rest key value

/-- The table of a list of pairs, in the order in which the keys first appear. -/
def table (pairs : List (Entry × Entry)) : List (Entry × Entry) :=
  pairs.foldl (fun t (k, v) => put t k v) []

variable {K : Type}

/-- The dependency that an entry of a table states: the key is a single quantity, and its
value is made of quantities, itself among them. -/
def dependency? (key value : Entry) : Except (Fault K) Dependency :=
  match key.flags?.bind UpdateFlags.single? with
  | none => .error (.tableKey key)
  | some q =>
    match value.flags?.filter UpdateFlags.isKnown with
    | none => .error (.tableDependencies q value)
    | some f => if f.has q then .ok ⟨q, f⟩ else .error (.tableKeyMissing q f)

/-- `d` brings in the other key, whose own needs it does not cover. -/
def opens (d other : Dependency) : Bool :=
  d.key != other.key && d.needs.has other.key && !other.needs.within d.needs

/-- The first two dependencies that would make a second pass necessary. -/
def gap? (ds : List Dependency) : Option (Dependency × Dependency) :=
  ds.findSome? fun d => (ds.find? fun other => opens d other).map fun other => (d, other)

/-- The closure for a table. Every entry is looked at before the entries are compared. -/
def ofTable (entries : List (Entry × Entry)) : Except (Fault K) FlagClosure := do
  let ds ← entries.mapM fun (key, value) => dependency? key value
  match gap? ds with
  | some (d, other) => throw (.tableNotClosed d.key other.key other.needs)
  | none => return ⟨ds⟩

def apply (c : FlagClosure) (f : UpdateFlags) : UpdateFlags :=
  c.dependencies.foldl (fun out d => if f.has d.key then out.union d.needs else out) f

def render (c : FlagClosure) : String :=
  "<FlagClosure " ++ String.intercalate ", " (c.dependencies.map fun d =>
    d.key.flagName ++ "->" ++ d.needs.render) ++ ">"

end FlagClosure
end NonconformingQuad

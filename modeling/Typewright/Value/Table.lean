import Typewright.Misuse

/-!
# Tables

A *table* lists values under names, each name once, in the order in which the names were first
given. Other than in an object, a name may be any value that has a key, and two names with one key
are the same name.

A table is read off an object, or off anything that is made of pairs (`Table.ofValue`).
-/

namespace Typewright

/-- Values under names. -/
abbrev Table := List (Value × Value)

namespace Table

/-- The entries of an object as a table. -/
def ofEntries (es : Entries) : Table := es.map fun e => (.str e.1, e.2)

/-- A name given a value: it keeps its place and its first spelling if it has them, and goes to the
end otherwise. -/
def put (t : Table) (name v : Value) : Table :=
  match t with
  | [] => [(name, v)]
  | e :: rest => if e.1.key? = name.key? then (e.1, v) :: rest else e :: put rest name v

/-- Entries given one after the other. -/
def putAll (t new : Table) : Table := new.foldl (fun acc e => acc.put e.1 e.2) t

/-! ## Tables made of pairs -/

/-- An entry given as a pair: anything of two elements, the first of which can name something. -/
def ofPair (position : Nat) (v : Value) : Except Misuse (Value × Value) :=
  match v.elements? with
  | none => .error (.notPair position)
  | some [name, value] => name.key.map fun _ => (name, value)
  | some other => .error (.pairLength position other.length)

/-- Pairs added one after the other, counted from a position. -/
def addPairs (done : Table) (position : Nat) : List Value → Except Misuse Table
  | [] => .ok done
  | v :: vs => do
      let (name, value) ← ofPair position v
      addPairs (done.put name value) (position + 1) vs

/-- The table that an object is, or anything made of pairs. -/
def ofValue (v : Value) : Except Misuse Table :=
  match v with
  | .object es => .ok (ofEntries es)
  | v => do addPairs [] 0 (← v.elements)

end Table

end Typewright

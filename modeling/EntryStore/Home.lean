import EntryStore.Json.Decoder

/-!
# Homes

A home is a place in a world.  It serves as the structured value of an entry.
-/

namespace EntryStore

/-- A world and two coordinates. -/
structure Home where
  world : String
  x : Int64
  z : Int64
  deriving DecidableEq, Repr

namespace Home

/-- A home as a JSON document. -/
def toJson (home : Home) : Json :=
  .ofEntries [("world", .string home.world), ("x", .integer home.x.toInt),
    ("z", .integer home.z.toInt)]

/-- The fields of a home that have been read. -/
structure Pieces where
  world : Option String
  x : Option Int64
  z : Option Int64

/-- The written form of a home. -/
def record : Json.RecordReader Pieces Home where
  title := "struct Home"
  fields :=
    [{ name := "world"
       bound := fun pieces => pieces.world.isSome
       read := fun depth text => do
         let (world, rest) ← Json.Decoder.string.read depth text
         return (fun pieces => { pieces with world := some world }, rest) },
     { name := "x"
       bound := fun pieces => pieces.x.isSome
       read := fun depth text => do
         let (x, rest) ← Json.Decoder.int64.read depth text
         return (fun pieces => { pieces with x := some x }, rest) },
     { name := "z"
       bound := fun pieces => pieces.z.isSome
       read := fun depth text => do
         let (z, rest) ← Json.Decoder.int64.read depth text
         return (fun pieces => { pieces with z := some z }, rest) }]
  empty := ⟨none, none, none⟩
  finish := fun pieces =>
    match pieces.world, pieces.x, pieces.z with
    | none, _, _ => .error (.missingField "world")
    | _, none, _ => .error (.missingField "x")
    | _, _, none => .error (.missingField "z")
    | some world, some x, some z => .ok ⟨world, x, z⟩

def decoder : Json.Decoder Home := .ofRecord record

end Home

end EntryStore

import AnomalyDetection.Store.Basic
import AnomalyDetection.Json.Printer

namespace AnomalyDetection.Store

-- The store in memory. It also counts lookups and keeps the authority of the last one.
structure Memory where
  entries : List (String × Stored)
  lookups : Nat
  lastAuthority : Option Authority

namespace Memory

def empty : Memory := ⟨[], 0, none⟩

-- The document under an id, and the store that has noted the question.
def get (m : Memory) (authority : Authority) (id : String) : Answer × Memory :=
  (.of (m.entries.lookup id),
    { m with lookups := m.lookups + 1, lastAuthority := some authority })

-- Puts any document under an id. Behind the last version there is none, and whoever puts crashes
-- before anything is put.
def insert (m : Memory) (id : String) (source : Octets) : Option UInt64 × Memory :=
  let next := match m.entries.lookup id with
    | some s => succ? s.version
    | none => some 1
  match next with
  | some version =>
    (some version, { m with entries := (id, ⟨source, version⟩) :: m.entries.filter (·.1 ≠ id) })
  | none => (none, m)

def put (m : Memory) (id : String) (d : Detector) : Option UInt64 × Memory :=
  m.insert id (Text.encode d.toJson.compact)

end Memory
end AnomalyDetection.Store

import AnomalyDetection.Detector.Form
import AnomalyDetection.Files.System

namespace AnomalyDetection

namespace Store

-- On whose behalf a store is asked. Requests never reach it with the caller's own identity.
inductive Authority
  | system
  deriving DecidableEq

-- A document and its version.
structure Stored where
  source : Octets
  version : UInt64
  deriving DecidableEq

-- What a store answers about an id. A document counts only if the answer says that there is one.
structure Answer where
  found : Bool
  source : Option Octets
  version : Option UInt64
  deriving DecidableEq

namespace Answer

def missing : Answer := ⟨false, none, none⟩

def holding (s : Stored) : Answer := ⟨true, some s.source, some s.version⟩

def of : Option Stored → Answer
  | some s => holding s
  | none => missing

def document? (a : Answer) : Option Octets :=
  if a.found then a.source else none

end Answer

-- The version behind another one, as long as that is not the last there is.
def succ? (version : UInt64) : Option UInt64 :=
  if version.toNat + 1 < UInt64.size then some (version + 1) else none

theorem toNat_succ {v : UInt64} (h : v.toNat + 1 < UInt64.size) :
    (v + 1).toNat = v.toNat + 1 :=
  (UInt64.toNat_add v 1).trans (Nat.mod_eq_of_lt h)

theorem succ?_eq_some {v w : UInt64} : succ? v = some w ↔ w.toNat = v.toNat + 1 := by
  have hw : w.toNat < UInt64.size := w.toNat_lt
  unfold succ?
  split
  case isTrue h => rw [Option.some.injEq, ← UInt64.toNat_inj, toNat_succ h, eq_comm]
  case isFalse h => exact ⟨nofun, fun he => absurd (he ▸ hw) h⟩

theorem succ?_eq_none {v : UInt64} : succ? v = none ↔ ¬v.toNat + 1 < UInt64.size := by
  unfold succ?
  split <;> simp [*]

-- Why the task of a write has no version to answer with. A task that crashes is told by the number
-- that it has among all tasks of the process; the number is left out.
inductive TaskFault
  | overflow
  | poisonedLock
  deriving DecidableEq

def TaskFault.message : TaskFault → String
  | overflow => "task panicked with message \"attempt to add with overflow\""
  | poisonedLock => "write lock poisoned"

inductive Fault
  | file (fault : FileFault)
  | json (fault : Json.Fault)
  | invalidId (id : String)
  | task (fault : TaskFault)
  | unavailable (reason : String)

def Fault.message : Fault → String
  | file fault => "I/O error: " ++ fault.message
  | json fault => "JSON error: " ++ fault.message
  | invalidId id => "Invalid detector id '" ++ id ++ "'"
  | task fault => "Store task failed: " ++ fault.message
  | unavailable reason => "Store unavailable: " ++ reason

end Store

-- A detector's message when there is none under an id.
def Store.unknownMessage (id : String) : String :=
  "Can't find anomaly detector with id:" ++ id

end AnomalyDetection

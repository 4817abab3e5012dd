namespace AnomalyDetection

-- A number keeps the kind it was written in, so `1` and `1.0` are two numbers. Whole numbers have
-- 64 bits: `natural` the unsigned ones, `negative m` is `-(m + 1)`.
inductive Json.Number
  | natural (n : UInt64)
  | negative (m : Fin (UInt64.size / 2))
  | float (x : Float)
  deriving DecidableEq

-- The members of an object stand in the order of their keys, each key once.
inductive Json
  | null
  | bool (b : Bool)
  | number (n : Json.Number)
  | string (s : String)
  | array (items : List Json)
  | object (members : List (String × Json))

namespace Json

namespace Number

-- The number as a double, the nearest one if there is none of that value.
def toFloat : Number → Float
  | natural n => n.toFloat
  | negative m => -(UInt64.ofNat (m.val + 1)).toFloat
  | float x => x

-- The number as a signed 64-bit integer, if it is written as one.
def toInt? : Number → Option Int
  | natural n => if n.toNat < UInt64.size / 2 then some n.toNat else none
  | negative m => some (-(m.val + 1 : Int))
  | float _ => none

-- Numbers are equal when kind and value agree; doubles compare as doubles.
def same : Number → Number → Bool
  | natural a, natural b => a == b
  | negative a, negative b => a == b
  | float x, float y => x == y
  | _, _ => false

end Number

mutual

-- Equality of values as a filter understands it.
def same : Json → Json → Bool
  | null, null => true
  | bool a, bool b => a == b
  | number a, number b => a.same b
  | string a, string b => a == b
  | array as, array bs => sameItems as bs
  | object as, object bs => sameMembers as bs
  | _, _ => false

def sameItems : List Json → List Json → Bool
  | [], [] => true
  | a :: as, b :: bs => a.same b && sameItems as bs
  | _, _ => false

def sameMembers : List (String × Json) → List (String × Json) → Bool
  | [], [] => true
  | (j, a) :: as, (k, b) :: bs => j == k && a.same b && sameMembers as bs
  | _, _ => false

end

mutual

def decEq : (a b : Json) → Decidable (a = b)
  | null, null => isTrue rfl
  | bool a, bool b => decidable_of_iff (a = b) (by simp)
  | number a, number b => decidable_of_iff (a = b) (by simp)
  | string a, string b => decidable_of_iff (a = b) (by simp)
  | array as, array bs => have := decEqItems as bs; decidable_of_iff (as = bs) (by simp)
  | object as, object bs => have := decEqMembers as bs; decidable_of_iff (as = bs) (by simp)
  | null, bool _ | null, number _ | null, string _ | null, array _ | null, object _
  | bool _, null | bool _, number _ | bool _, string _ | bool _, array _ | bool _, object _
  | number _, null | number _, bool _ | number _, string _ | number _, array _ | number _, object _
  | string _, null | string _, bool _ | string _, number _ | string _, array _ | string _, object _
  | array _, null | array _, bool _ | array _, number _ | array _, string _ | array _, object _
  | object _, null | object _, bool _ | object _, number _ | object _, string _
  | object _, array _ =>
    isFalse nofun

def decEqItems : (as bs : List Json) → Decidable (as = bs)
  | [], [] => isTrue rfl
  | [], _ :: _ | _ :: _, [] => isFalse nofun
  | a :: as, b :: bs =>
    have := decEq a b
    have := decEqItems as bs
    decidable_of_iff (a = b ∧ as = bs) (by simp)

def decEqMembers : (as bs : List (String × Json)) → Decidable (as = bs)
  | [], [] => isTrue rfl
  | [], _ :: _ | _ :: _, [] => isFalse nofun
  | (j, a) :: as, (k, b) :: bs =>
    have := decEq a b
    have := decEqMembers as bs
    decidable_of_iff (j = k ∧ a = b ∧ as = bs) (by simp [and_assoc])

end

instance : DecidableEq Json := decEq

-- The word for the kind of a value.
def kind : Json → String
  | null => "null"
  | bool _ => "boolean"
  | number _ => "number"
  | string _ => "string"
  | array _ => "array"
  | object _ => "object"

def isNull : Json → Bool
  | null => true
  | _ => false

-- The value of a member of an object.
def member? (j : Json) (key : String) : Option Json :=
  match j with
  | object ms => ms.lookup key
  | _ => none

-- The object with one more member, in its place; it replaces a member of the same key.
def insert (key : String) (value : Json) : List (String × Json) → List (String × Json)
  | [] => [(key, value)]
  | (k, v) :: ms =>
    if key < k then (key, value) :: (k, v) :: ms
    else if key = k then (key, value) :: ms
    else (k, v) :: insert key value ms

-- Members in any order made an object. The last of equal keys wins.
def ofMembers (ms : List (String × Json)) : Json :=
  object (ms.foldl (fun done (k, v) => insert k v done) [])

mutual

-- The value with the members of all its objects in order.
def sorted : Json → Json
  | array items => array (sortedItems items)
  | object ms => ofMembers (sortedMembers ms)
  | j => j

def sortedItems : List Json → List Json
  | [] => []
  | j :: js => j.sorted :: sortedItems js

def sortedMembers : List (String × Json) → List (String × Json)
  | [] => []
  | (k, j) :: ms => (k, j.sorted) :: sortedMembers ms

end

-- The members without that of a key.
def without (key : String) : Json → Json
  | object ms => object (ms.filter fun m => m.1 != key)
  | j => j

-- A whole number of 64 bits.
def natural (n : UInt64) : Json :=
  number (.natural n)

end Json
end AnomalyDetection

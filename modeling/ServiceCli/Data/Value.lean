import ServiceCli.Data.Moment

/-!
Values: the data that documents, parameter files and client results hold. A mapping keeps its
entries in order of insertion, and a key occurs once.
-/

set_option autoImplicit false
set_option relaxedAutoImplicit false

namespace ServiceCli.Data

open ServiceCli.Number

/-- An indivisible value. -/
inductive Scalar where
  | null
  | bool (value : Bool)
  | int (value : Int)
  | float (value : Binary64)
  | str (value : String)
  | bytes (value : List UInt8)
  | moment (value : Moment)
  deriving DecidableEq, Repr, Inhabited

/-- What a mapping may be keyed by and a set may hold. -/
inductive Key where
  | atom (value : Scalar)
  | tuple (items : List Key)
  | opaqueText (text : String) (copyable : Bool)
  deriving Repr, Inhabited

/-- A value. Documents hold atoms, lists, mappings, sets and tuples; parameters also hold streams;
client results also hold records, reports (objects that hold a value and turn themselves into it),
accounts (records that turn themselves into a value) and objects known by their text alone, of which
some, such as locks and generators, cannot be copied. -/
inductive Value where
  | atom (value : Scalar)
  | list (items : List Value)
  | tuple (items : List Value)
  | set (items : List Key)
  | map (entries : List (Key × Value))
  | stream (path : String) (position : Nat) (closed : Bool)
  | record (fields : List (String × Value))
  | report (content : Value)
  | account (fields : List (String × Value)) (content : Value)
  | opaqueText (text : String) (copyable : Bool)
  deriving Repr, Inhabited

mutual
/-- Whether two keys are the same, kind by kind. -/
def Key.equal : Key → Key → Bool
  | .atom a, .atom b => a == b
  | .tuple xs, .tuple ys => Key.equalItems xs ys
  | .opaqueText s c, .opaqueText t d => s == t && c == d
  | _, _ => false
/-- Whether the items of two tuples are the same, in order. -/
def Key.equalItems : List Key → List Key → Bool
  | [], [] => true
  | x :: xs, y :: ys => Key.equal x y && Key.equalItems xs ys
  | _, _ => false
end

mutual
/-- Whether two values are the same, kind by kind. -/
def Value.equal : Value → Value → Bool
  | .atom a, .atom b => a == b
  | .list vs, .list ws => Value.equalItems vs ws
  | .tuple vs, .tuple ws => Value.equalItems vs ws
  | .set ks, .set ls => Key.equalItems ks ls
  | .map es, .map fs => Value.equalEntries es fs
  | .stream p i b, .stream q j c => p == q && i == j && b == c
  | .record fs, .record gs => Value.equalFields fs gs
  | .report v, .report w => Value.equal v w
  | .account fs v, .account gs w => Value.equalFields fs gs && Value.equal v w
  | .opaqueText s c, .opaqueText t d => s == t && c == d
  | _, _ => false
termination_by structural v => v
/-- Whether the items of two lists are the same, in order. -/
def Value.equalItems : List Value → List Value → Bool
  | [], [] => true
  | v :: vs, w :: ws => Value.equal v w && Value.equalItems vs ws
  | _, _ => false
termination_by structural vs => vs
/-- Whether the entries of two mappings are the same, in order. -/
def Value.equalEntries : List (Key × Value) → List (Key × Value) → Bool
  | [], [] => true
  | (k, v) :: es, (l, w) :: fs => k.equal l && Value.equal v w && Value.equalEntries es fs
  | _, _ => false
termination_by structural es => es
/-- Whether the fields of two records are the same, in order. -/
def Value.equalFields : List (String × Value) → List (String × Value) → Bool
  | [], [] => true
  | (n, v) :: fs, (m, w) :: gs => n == m && Value.equal v w && Value.equalFields fs gs
  | _, _ => false
termination_by structural fs => fs
end

mutual
theorem Key.equal_iff : ∀ k l : Key, k.equal l = true ↔ k = l
  | .atom a, l => by cases l <;> simp [Key.equal]
  | .tuple xs, l => by cases l <;> simp [Key.equal, Key.equalItems_iff xs]
  | .opaqueText s c, l => by cases l <;> simp [Key.equal]
theorem Key.equalItems_iff : ∀ ks ls : List Key, Key.equalItems ks ls = true ↔ ks = ls
  | [], ls => by cases ls <;> simp [Key.equalItems]
  | k :: ks, ls => by cases ls <;> simp [Key.equalItems, Key.equal_iff k, Key.equalItems_iff ks]
end

mutual
theorem Value.equal_iff : ∀ v w : Value, v.equal w = true ↔ v = w
  | .atom a, w => by cases w <;> simp [Value.equal]
  | .list vs, w => by cases w <;> simp [Value.equal, Value.equalItems_iff vs]
  | .tuple vs, w => by cases w <;> simp [Value.equal, Value.equalItems_iff vs]
  | .set ks, w => by cases w <;> simp [Value.equal, Key.equalItems_iff ks]
  | .map es, w => by cases w <;> simp [Value.equal, Value.equalEntries_iff es]
  | .stream p i b, w => by cases w <;> simp [Value.equal, and_assoc]
  | .record fs, w => by cases w <;> simp [Value.equal, Value.equalFields_iff fs]
  | .report v, w => by cases w <;> simp [Value.equal, Value.equal_iff v]
  | .account fs v, w => by
    cases w <;> simp [Value.equal, Value.equalFields_iff fs, Value.equal_iff v]
  | .opaqueText s c, w => by cases w <;> simp [Value.equal]
theorem Value.equalItems_iff : ∀ vs ws : List Value, Value.equalItems vs ws = true ↔ vs = ws
  | [], ws => by cases ws <;> simp [Value.equalItems]
  | v :: vs, ws => by
    cases ws <;> simp [Value.equalItems, Value.equal_iff v, Value.equalItems_iff vs]
theorem Value.equalEntries_iff :
    ∀ es fs : List (Key × Value), Value.equalEntries es fs = true ↔ es = fs
  | [], fs => by cases fs <;> simp [Value.equalEntries]
  | _ :: _, [] => by simp [Value.equalEntries]
  | (k, v) :: es, (l, w) :: fs => by
    simp [Value.equalEntries, Key.equal_iff, Value.equal_iff v, Value.equalEntries_iff es]
theorem Value.equalFields_iff :
    ∀ fs gs : List (String × Value), Value.equalFields fs gs = true ↔ fs = gs
  | [], gs => by cases gs <;> simp [Value.equalFields]
  | _ :: _, [] => by simp [Value.equalFields]
  | (n, v) :: fs, (m, w) :: gs => by
    simp [Value.equalFields, Value.equal_iff v, Value.equalFields_iff fs]
end

instance : DecidableEq Key := fun k l => decidable_of_iff _ (Key.equal_iff k l)

instance : DecidableEq Value := fun v w => decidable_of_iff _ (Value.equal_iff v w)

namespace Key

@[match_pattern] abbrev str (s : String) : Key := .atom (.str s)

end Key

namespace Value

@[match_pattern] abbrev null : Value := .atom .null
@[match_pattern] abbrev bool (b : Bool) : Value := .atom (.bool b)
@[match_pattern] abbrev int (i : Int) : Value := .atom (.int i)
@[match_pattern] abbrev float (x : Binary64) : Value := .atom (.float x)
@[match_pattern] abbrev str (s : String) : Value := .atom (.str s)
@[match_pattern] abbrev bytes (bs : List UInt8) : Value := .atom (.bytes bs)

end Value

namespace Scalar

/-- The number that a truth value, a whole number or a finite float without fraction counts as. -/
def asInt? : Scalar → Option Int
  | .bool b => some (if b then 1 else 0)
  | .int i => some i
  | .float x => x.toInt?
  | _ => none

/-- Equality of scalars as values: numbers of all kinds compare by size, instants by when they
are. -/
def same (a b : Scalar) : Bool :=
  match a.asInt?, b.asInt? with
  | some i, some j => i == j
  | some _, none => false
  | none, some _ => false
  | none, none =>
    match a, b with
    | .float x, .float y => x.equal y
    | .moment m, .moment n => m.same n
    | a, b => a == b

/-- Null, false, zero and the empty text are empty. -/
def isTruthy : Scalar → Bool
  | .null => false
  | .bool b => b
  | .int i => i != 0
  | .float x => !x.isZero
  | .str s => !s.isEmpty
  | .bytes bs => !bs.isEmpty
  | .moment _ => true

end Scalar

mutual
def Key.same : Key → Key → Bool
  | .atom a, .atom b => a.same b
  | .tuple xs, .tuple ys => Key.sameAll xs ys
  | .opaqueText s c, .opaqueText t d => s == t && c == d
  | _, _ => false
/-- Equality of the members of two tuples, in order. -/
def Key.sameAll : List Key → List Key → Bool
  | [], [] => true
  | x :: xs, y :: ys => Key.same x y && Key.sameAll xs ys
  | _, _ => false
end

/-- The entries of a mapping, in order. -/
abbrev Entries := List (Key × Value)

namespace Entries

def get? (entries : Entries) (name : String) : Option Value :=
  match entries with
  | [] => none
  | (.str s, v) :: rest => if s = name then some v else get? rest name
  | _ :: rest => get? rest name

/-- The entries with a value put under a key: an entry of an equal key keeps its place and its
key, a new one comes last. -/
def put (entries : Entries) (key : Key) (value : Value) : Entries :=
  match entries with
  | [] => [(key, value)]
  | (k, v) :: rest => if k.same key then (k, value) :: rest else (k, v) :: put rest key value

/-- The entries without the one under a text key. -/
def erase (entries : Entries) (name : String) : Entries :=
  entries.filter fun
    | (.str s, _) => s != name
    | _ => true

/-- Entries written one after the other; of equal keys the last value stays. -/
def ofList (pairs : List (Key × Value)) : Entries :=
  pairs.foldl (fun entries (k, v) => put entries k v) []

end Entries

namespace Value

def object (fields : List (String × Value)) : Value :=
  .map (fields.map fun (k, v) => (.str k, v))

/-- The value under a text key of a mapping; null where there is none. -/
def field (entries : Entries) (name : String) : Value := (entries.get? name).getD .null

/-- Empty containers, like empty atoms, do not count as given. -/
def isTruthy : Value → Bool
  | .atom a => a.isTruthy
  | .list xs => !xs.isEmpty
  | .tuple xs => !xs.isEmpty
  | .set xs => !xs.isEmpty
  | .map es => !es.isEmpty
  | _ => true

/-- A given value, or another. -/
def orElse (v w : Value) : Value := if v.isTruthy then v else w

def kindName : Value → String
  | .atom .null => "NoneType"
  | .atom (.bool _) => "bool"
  | .atom (.int _) => "int"
  | .atom (.float _) => "float"
  | .atom (.str _) => "str"
  | .atom (.bytes _) => "bytes"
  | .atom (.moment m) => if m.time.isSome then "datetime" else "date"
  | .list _ => "list"
  | .tuple _ => "tuple"
  | .set _ => "set"
  | .map _ => "dict"
  | .stream _ _ _ => "BufferedReader"
  | _ => "object"

end Value

end ServiceCli.Data

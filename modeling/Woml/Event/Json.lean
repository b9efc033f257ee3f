import Mathlib

/-!
# JSON values and instants

`Value` is the JSON document type of the engine. Objects keep their members in insertion order
(the `preserve_order` feature of the parser), so `JsonMap` is a list; a later insertion of a
present key replaces the value in place. Floating-point numbers are IEEE 754 bit patterns.
-/

namespace Woml

/-- An IEEE 754 binary64 number by its bit pattern. -/
structure F64 where
  bits : Nat
  deriving DecidableEq

namespace F64

def exponent (x : F64) : Nat := x.bits / 2 ^ 52 % 2 ^ 11

def isFinite (x : F64) : Bool := x.exponent ≠ 2 ^ 11 - 1

/-- `x < 0.0` for a number that is not a NaN: the sign bit is set and the rest is not zero. -/
def isNegative (x : F64) : Bool := x.bits / 2 ^ 63 % 2 = 1 && x.bits % 2 ^ 63 ≠ 0

end F64

inductive JsonNumber
  | posInt (n : Nat)
  | negInt (n : Int)
  | float (x : F64)
  deriving DecidableEq

inductive Value
  | null
  | bool (b : Bool)
  | number (n : JsonNumber)
  | string (s : String)
  | array (items : List Value)
  | object (fields : List (String × Value))

abbrev JsonMap := List (String × Value)

namespace JsonMap

def get? (m : JsonMap) (k : String) : Option Value := (m.find? (·.1 = k)).map (·.2)

def containsKey (m : JsonMap) (k : String) : Bool := m.any (·.1 = k)

def insert (m : JsonMap) (k : String) (v : Value) : JsonMap :=
  if m.containsKey k then m.map fun e => if e.1 = k then (k, v) else e else m ++ [(k, v)]

def keys (m : JsonMap) : List String := m.map (·.1)

theorem containsKey_iff {m : JsonMap} {k : String} : m.containsKey k = true ↔ k ∈ m.keys := by
  simp [containsKey, keys]

@[simp] theorem mem_keys_insert {m : JsonMap} {k k₀ : String} {v : Value} :
    k₀ ∈ (m.insert k v).keys ↔ k₀ = k ∨ k₀ ∈ m.keys := by
  unfold insert
  split
  · rename_i h
    rw [containsKey_iff] at h
    have : (m.map fun e => if e.1 = k then (k, v) else e).map (·.1) = m.map (·.1) := by
      rw [List.map_map]
      refine List.map_congr_left fun e _ => ?_
      simp only [Function.comp]
      split <;> simp_all
    simp only [keys, this]
    constructor
    · exact Or.inr
    · rintro (rfl | h')
      · exact h
      · exact h'
  · simp [keys, or_comm]

@[simp] theorem get?_insert_self (m : JsonMap) (k : String) (v : Value) :
    (m.insert k v).get? k = some v := by
  unfold insert
  split
  · rename_i h
    obtain ⟨e, he, hk⟩ := List.any_eq_true.1 h
    have hf : (m.find? (·.1 = k)).isSome = true := List.find?_isSome.2 ⟨e, he, hk⟩
    obtain ⟨e', he'⟩ := Option.isSome_iff_exists.1 hf
    have hke : ((fun e : String × Value => decide (e.1 = k)) ∘
        fun e => if e.1 = k then (k, v) else e) = fun e => decide (e.1 = k) := by
      funext e
      by_cases hk : e.1 = k <;> simp [hk]
    rw [get?, List.find?_map, hke, he', Option.map_some, Option.map_some,
      if_pos (by simpa using List.find?_some he')]
  · rename_i h
    have hn : m.find? (·.1 = k) = none :=
      List.find?_eq_none.2 fun e he hk => h (List.any_eq_true.2 ⟨e, he, hk⟩)
    rw [get?, List.find?_append, hn]
    simp

theorem containsKey_insert {m : JsonMap} {k k₀ : String} {v : Value} :
    (m.insert k v).containsKey k₀ = (decide (k₀ = k) || m.containsKey k₀) := by
  rw [Bool.eq_iff_iff]
  simp [containsKey_iff]

end JsonMap

namespace Value

def isObject : Value → Bool
  | object _ => true
  | _ => false

def isScalar : Value → Bool
  | null | bool _ | number _ | string _ => true
  | _ => false

def asStr : Value → Option String
  | string s => some s
  | _ => none

def asU64 : Value → Option Nat
  | number (.posInt n) => some n
  | _ => none

end Value

/-- An instant: nanoseconds since the Unix epoch. -/
abbrev DateTime := Int

/-- Milliseconds since the Unix epoch, rounded down. -/
def DateTime.timestampMillis (t : DateTime) : Int := t / 1000000

/-- The instant a number of milliseconds later. -/
def DateTime.addMillis (t : DateTime) (milliseconds : Nat) : DateTime := t + milliseconds * 1000000

end Woml

/-
  JSON values as the loader handles them: what `orjson` decodes a message body into, and the few
  Python operations the loader applies to the result without checking its type first.

  * an integer and a float are different values (`isinstance(x, int)` tells them apart), and a
    float is kept as the text Python prints for it, since the loader never computes with one;
  * `True` and `False` are `int` to `isinstance`, as in Python;
  * an object's members stand in one canonical order with distinct keys, so that equality of values
    is equality of the `jsonb` documents they are stored as;
  * a missing key and an explicit null read the same through `dict.get`;
  * iterating what is not iterable answers `none`, the `TypeError`.

  The source reads a record with very few operations, and what it does with a malformed one is
  decided by exactly which: `d.get(k)` and `d.get(k, v)` differ on an explicit null, a bare test and
  a comparison with `None` differ on an empty list, and a loop over a text goes over its characters.
  So each operation is a function of its own here, and a translated function uses the one the source
  uses.

  Equality is decided by hand, since the type is nested (`beq_iff` and its two companions, by a
  mutual induction): two values are equal exactly when they are the same tree.
-/
import Mathlib.Data.List.Basic

/-- A decoded JSON value. -/
inductive Json where
  | null
  | bool (b : Bool)
  | int (n : Int)
  | float (repr : String)
  | str (s : String)
  | arr (items : List Json)
  | obj (members : List (String × Json))

namespace Json

/-! ## Decidable equality -/

mutual

/-- Equality of values, by recursion on the first. -/
def beq : Json → Json → Bool
  | .null, .null => true
  | .bool b, .bool b' => b == b'
  | .int n, .int n' => n == n'
  | .float r, .float r' => r == r'
  | .str s, .str s' => s == s'
  | .arr xs, .arr ys => beqItems xs ys
  | .obj ms, .obj ns => beqMembers ms ns
  | _, _ => false

def beqItems : List Json → List Json → Bool
  | [], [] => true
  | x :: xs, y :: ys => beq x y && beqItems xs ys
  | _, _ => false

def beqMembers : List (String × Json) → List (String × Json) → Bool
  | [], [] => true
  | (k, x) :: ms, (k', y) :: ns => k == k' && beq x y && beqMembers ms ns
  | _, _ => false

end

mutual

theorem beq_iff : ∀ a b : Json, beq a b = true ↔ a = b
  | .null, b => by cases b <;> simp [beq]
  | .bool _, b => by cases b <;> simp [beq]
  | .int _, b => by cases b <;> simp [beq]
  | .float _, b => by cases b <;> simp [beq]
  | .str _, b => by cases b <;> simp [beq]
  | .arr xs, b => by
    cases b with
    | arr ys => simp [beq, beqItems_iff xs ys]
    | _ => simp [beq]
  | .obj ms, b => by
    cases b with
    | obj ns => simp [beq, beqMembers_iff ms ns]
    | _ => simp [beq]

theorem beqItems_iff : ∀ xs ys : List Json, beqItems xs ys = true ↔ xs = ys
  | [], ys => by cases ys <;> simp [beqItems]
  | x :: xs, ys => by
    cases ys with
    | nil => simp [beqItems]
    | cons y ys => simp [beqItems, beq_iff x y, beqItems_iff xs ys]

theorem beqMembers_iff : ∀ ms ns : List (String × Json), beqMembers ms ns = true ↔ ms = ns
  | [], ns => by cases ns <;> simp [beqMembers]
  | (k, x) :: ms, ns => by
    cases ns with
    | nil => simp [beqMembers]
    | cons n ns =>
      obtain ⟨k', y⟩ := n
      simp [beqMembers, beq_iff x y, beqMembers_iff ms ns, and_assoc]

end

instance : DecidableEq Json := fun a b => decidable_of_iff _ (beq_iff a b)

/-! ## Python's reading of a value -/

/-- `dict.get(key)`: a missing key reads as null.  Only an object has the method; callers that
    reach it with anything else ask `isObj` first. -/
def get (j : Json) (key : String) : Json :=
  match j with
  | .obj members => (members.lookup key).getD .null
  | _ => .null

/-- `dict.get(key, default)`: the default stands for a missing key only. -/
def getD (j : Json) (key : String) (default : Json) : Json :=
  match j with
  | .obj members => (members.lookup key).getD default
  | _ => default

/-- `key in dict`. -/
def has (j : Json) (key : String) : Bool :=
  match j with
  | .obj members => (members.lookup key).isSome
  | _ => false

/-- `_get_or`: the default stands for an explicit null too. -/
def getOr (j : Json) (key : String) (default : Json) : Json :=
  match j.get key with
  | .null => default
  | v => v

/-- `isinstance(x, dict)`. -/
def isObj : Json → Bool
  | .obj _ => true
  | _ => false

/-- The members other than the named ones. -/
def without (j : Json) (keys : List String) : Json :=
  match j with
  | .obj members => .obj (members.filter fun m => !keys.contains m.1)
  | j => j

/-- Python truthiness. -/
def truthy : Json → Bool
  | .null => false
  | .bool b => b
  | .int n => n != 0
  | .float repr => repr != "0.0" && repr != "-0.0"
  | .str s => s != ""
  | .arr items => !items.isEmpty
  | .obj members => !members.isEmpty

/-- `isinstance(x, int)`, with the value: a boolean is an integer. -/
def asInt? : Json → Option Int
  | .int n => some n
  | .bool b => some (if b then 1 else 0)
  | _ => none

/-- `isinstance(x, str)`, with the value. -/
def asStr? : Json → Option String
  | .str s => some s
  | _ => none

/-- What a `for` loop iterates over: a list's items, an object's keys, a string's characters.
    `none` is the `TypeError`. -/
def iter? : Json → Option (List Json)
  | .arr items => some items
  | .obj members => some (members.map fun m => .str m.1)
  | .str s => some (s.toList.map fun c => .str (String.singleton c))
  | _ => none

/-! ## `str()` -/

/-- One character of a string's `repr`.  Characters above ASCII are printed as they are. -/
def reprChar (quote c : Char) : String :=
  if c = quote ∨ c = '\\' then String.ofList ['\\', c]
  else if c = '\n' then "\\n"
  else if c = '\r' then "\\r"
  else if c = '\t' then "\\t"
  else if c.toNat < 32 ∨ c.toNat = 127 then
    String.ofList ['\\', 'x', Nat.digitChar (c.toNat / 16), Nat.digitChar (c.toNat % 16)]
  else String.singleton c

/-- `repr` of a string: double quotes only when it holds an apostrophe and no double quote. -/
def reprStr (s : String) : String :=
  let apostrophe := Char.ofNat 39
  let doubleQuote := Char.ofNat 34
  let quote :=
    if s.toList.contains apostrophe && !s.toList.contains doubleQuote then doubleQuote
    else apostrophe
  String.singleton quote ++ String.join (s.toList.map (reprChar quote)) ++ String.singleton quote

mutual

/-- `repr(x)`. -/
def pyRepr : Json → String
  | .null => "None"
  | .bool b => if b then "True" else "False"
  | .int n => toString n
  | .float repr => repr
  | .str s => reprStr s
  | .arr items => "[" ++ ", ".intercalate (reprItems items) ++ "]"
  | .obj members => "\x7b" ++ ", ".intercalate (reprMembers members) ++ "\x7d"

def reprItems : List Json → List String
  | [] => []
  | x :: xs => pyRepr x :: reprItems xs

def reprMembers : List (String × Json) → List String
  | [] => []
  | (k, x) :: ms => (reprStr k ++ ": " ++ pyRepr x) :: reprMembers ms

end

/-- `str(x)`: a string is itself, anything else its `repr`. -/
def pyStr : Json → String
  | .str s => s
  | j => pyRepr j

/-- `str.isspace` of one character. -/
def isPySpace (c : Char) : Bool :=
  let n := c.toNat
  (9 ≤ n && n ≤ 13) || (28 ≤ n && n ≤ 32) || n == 0x85 || n == 0xa0 || n == 0x1680 ||
    (0x2000 ≤ n && n ≤ 0x200a) || n == 0x2028 || n == 0x2029 || n == 0x202f || n == 0x205f ||
    n == 0x3000

/-- `str.strip()`. -/
def strip (s : String) : String :=
  String.ofList ((s.toList.dropWhile isPySpace).reverse.dropWhile isPySpace).reverse

/-! ## Reading lemmas -/


/-- The default stands for a missing key. -/
theorem getD_eq_ite (j : Json) (key : String) (default : Json) :
    j.getD key default = if j.has key then j.get key else default := by
  cases j with
  | obj members =>
    show (members.lookup key).getD default =
      if (members.lookup key).isSome then (members.lookup key).getD .null else default
    cases members.lookup key <;> rfl
  | _ => rfl

/-- A member that is present and not null is read whatever the default. -/
theorem getD_of_get {j : Json} {key : String} (h : j.get key ≠ .null) (default : Json) :
    j.getD key default = j.get key := by
  cases j with
  | obj members =>
    have hne : (members.lookup key).getD .null ≠ .null := h
    show (members.lookup key).getD default = (members.lookup key).getD .null
    cases hm : members.lookup key with
    | none =>
      rw [hm] at hne
      exact absurd rfl hne
    | some value => rfl
  | _ => exact absurd rfl h

theorem ne_null_of_truthy {j : Json} (h : j.truthy = true) : j ≠ .null := by
  rintro rfl
  cases h

end Json

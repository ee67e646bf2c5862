import TelemetryLog.Number.Layout
import TelemetryLog.Text.Quoted

/-! Values of a document: scalars, arrays and objects. The members of an object stand in the order
in which their keys first came, and each key has one value. A value is written in two ways: inside
a message, where a text stands between quotation marks, and on its own, where a text is itself. -/

namespace TelemetryLog

open Text

inductive Scalar where
  | null
  | bool (b : Bool)
  | int (i : Int)
  | number (x : Binary64)
  | text (s : String)
  deriving DecidableEq, Repr, Inhabited

inductive Value where
  | scalar (s : Scalar)
  | array (items : List Value)
  | object (members : List (Scalar × Value))
  deriving Repr, Inhabited

namespace Value

mutual

def decEq : (a b : Value) → Decidable (a = b)
  | .scalar s, .scalar t => decidable_of_iff (s = t) (by rw [scalar.injEq])
  | .array items, .array others =>
    have := decEqItems items others
    decidable_of_iff (items = others) (by rw [array.injEq])
  | .object members, .object others =>
    have := decEqMembers members others
    decidable_of_iff (members = others) (by rw [object.injEq])
  | .scalar _, .array _ | .scalar _, .object _ | .array _, .scalar _ | .array _, .object _
  | .object _, .scalar _ | .object _, .array _ => .isFalse nofun

def decEqItems : (items others : List Value) → Decidable (items = others)
  | [], [] => .isTrue rfl
  | value :: rest, other :: others =>
    have := decEq value other
    have := decEqItems rest others
    decidable_of_iff (value = other ∧ rest = others) (by rw [List.cons.injEq])
  | [], _ :: _ | _ :: _, [] => .isFalse nofun

def decEqMembers : (members others : List (Scalar × Value)) → Decidable (members = others)
  | [], [] => .isTrue rfl
  | (key, value) :: rest, (key', other) :: others =>
    have := decEq value other
    have := decEqMembers rest others
    decidable_of_iff ((key = key' ∧ value = other) ∧ rest = others)
      (by rw [List.cons.injEq, Prod.mk.injEq])
  | [], _ :: _ | _ :: _, [] => .isFalse nofun

end

instance : DecidableEq Value := decEq

end Value

namespace Scalar

/-- The form in which keys are compared: a truth value counts as one or zero, and a number without
a fraction as that integer. -/
def keyForm : Scalar → Scalar
  | .bool b => .int (if b then 1 else 0)
  | .number x =>
    match x.integer? with
    | some i => .int i
    | none => .number x
  | s => s

/-- Whether two scalars are the same key. What is not a number is no key twice. -/
def sameKey (a b : Scalar) : Bool := a.keyForm = b.keyForm && a.keyForm ≠ .number .nan

/-- A scalar inside a message. -/
def literal : Scalar → List Char
  | .null => "None".toList
  | .bool true => "True".toList
  | .bool false => "False".toList
  | .int i => integerText i
  | .number x => x.chars
  | .text s => quoted s.toList

def sortName : Scalar → String
  | .null => "NoneType"
  | .bool _ => "bool"
  | .int _ => "int"
  | .number _ => "float"
  | .text _ => "str"

/-- A scalar on its own. -/
def plain : Scalar → List Char
  | .text s => s.toList
  | s => s.literal

end Scalar

/-- The members with `value` for `key`: at the place of that key if it is among them, else at the
end. -/
def setMember {α : Type} (key : Scalar) (value : α) :
    List (Scalar × α) → List (Scalar × α)
  | [] => [(key, value)]
  | (key', value') :: rest =>
    if key.sameKey key' then (key', value) :: rest else (key', value') :: setMember key value rest

namespace Value

/-- The object that the members give one after another: a key that comes again keeps its place and
takes the later value. -/
def ofMembers (members : List (Scalar × Value)) : Value :=
  .object (members.foldl (fun done (key, value) => setMember key value done) [])

mutual

def literal : Value → List Char
  | .scalar s => s.literal
  | .array items => '[' :: itemLiterals items ++ [']']
  | .object members => '\x7b' :: memberLiterals members ++ ['\x7d']

def itemLiterals : List Value → List Char
  | [] => []
  | [value] => value.literal
  | value :: rest => value.literal ++ ',' :: ' ' :: itemLiterals rest

def memberLiterals : List (Scalar × Value) → List Char
  | [] => []
  | [(key, value)] => key.literal ++ ':' :: ' ' :: value.literal
  | (key, value) :: rest =>
    key.literal ++ ':' :: ' ' :: (value.literal ++ ',' :: ' ' :: memberLiterals rest)

end

mutual

/-- The number of levels of a value; a scalar has one. -/
def depth : Value → Nat
  | .scalar _ => 1
  | .array items => itemDepth items + 1
  | .object members => memberDepth members + 1

def itemDepth : List Value → Nat
  | [] => 0
  | value :: rest => max value.depth (itemDepth rest)

def memberDepth : List (Scalar × Value) → Nat
  | [] => 0
  | (_, value) :: rest => max value.depth (memberDepth rest)

end

def isTooDeep (greatest : Nat) (value : Value) : Bool := greatest < value.depth

def plain : Value → List Char
  | .scalar s => s.plain
  | value => value.literal

def text (s : String) : Value := .scalar (.text s)

end Value

end TelemetryLog

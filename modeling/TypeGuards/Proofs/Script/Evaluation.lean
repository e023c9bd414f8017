import TypeGuards.Proofs.Script.Syntax
/-!
What functions of the scripting language do with a value. Objects are given by what they have under
each key, inherited properties included; looking up a key runs no code. An evaluation that does not
throw gives a value, and a function that ends without a return gives undefined.
-/
namespace TypeGuards.Script

/-- Texts and keys are made of units of sixteen bits, in pairs or alone. -/
abbrev Units := List UInt16

/-- The units of a text: a character beyond the first plane takes two. -/
def units (text : String) : Units :=
  text.toList.flatMap fun c =>
    let n := c.toNat
    if n < 0x10000 then [n.toUInt16]
    else [(0xd800 + (n - 0x10000) / 1024).toUInt16, (0xdc00 + (n - 0x10000) % 1024).toUInt16]

inductive Value where
  | undefined
  | null
  | boolean (value : Bool)
  | number (value : Float)
  | bigint (value : Int)
  | string (value : Units)
  | symbol (identity : Nat)
  | function (identity : Nat) (properties : Units → Option Value)
  | object (identity : Nat) (properties : Units → Option Value)

inductive Thrown where
  | noProperties
  | notAnObject
  | notDeclared (name : String)

/-- What the values that are neither objects nor undefined nor null have under a key. -/
abbrev Realm := Value → Units → Value

namespace Value

def typeTag : Value → String
  | undefined => "undefined"
  | null => "object"
  | boolean _ => "boolean"
  | number _ => "number"
  | bigint _ => "bigint"
  | string _ => "string"
  | symbol _ => "symbol"
  | function _ _ => "function"
  | object _ _ => "object"

def isTrue : Value → Bool
  | undefined | null => false
  | boolean b => b
  | number x => !(x == 0 || x.isNaN)
  | bigint n => n ≠ 0
  | string s => s ≠ []
  | symbol _ | function _ _ | object _ _ => true

/-- Equality without conversion. Functions and objects are equal to themselves alone. -/
def same : Value → Value → Bool
  | undefined, undefined => true
  | null, null => true
  | boolean a, boolean b => a = b
  | number a, number b => a == b
  | bigint a, bigint b => a = b
  | string a, string b => a = b
  | symbol a, symbol b => a = b
  | function a _, function b _ => a = b
  | object a _, object b _ => a = b
  | _, _ => false

def read (realm : Realm) (key : Units) : Value → Except Thrown Value
  | undefined | null => .error .noProperties
  | function _ properties | object _ properties => .ok ((properties key).getD undefined)
  | v => .ok (realm v key)

def has (key : Units) : Value → Except Thrown Bool
  | function _ properties | object _ properties => .ok (properties key).isSome
  | _ => .error .notAnObject

end Value

abbrev Scope := List (String × Value)

def Scope.value (scope : Scope) (name : String) : Except Thrown Value :=
  match scope.lookup name with
  | some v => .ok v
  | none => if name = "undefined" then .ok .undefined else .error (.notDeclared name)

/-- The tag of an operand that has been evaluated; a name that is not declared has one, too. -/
def tagOf (operand : Expr) (result : Except Thrown Value) : Except Thrown Value :=
  match operand, result with
  | .name _, .error (.notDeclared _) => .ok (.string (units "undefined"))
  | _, .error e => .error e
  | _, .ok v => .ok (.string (units v.typeTag))

def Expr.eval (realm : Realm) (scope : Scope) : Expr → Except Thrown Value
  | .name x => scope.value x
  | .null => .ok .null
  | .boolean b => .ok (.boolean b)
  | .text t => .ok (.string (units t))
  | .member e key => do (← e.eval realm scope).read realm (units key)
  | .typeOf e => tagOf e (e.eval realm scope)
  | .not e => do return .boolean !(← e.eval realm scope).isTrue
  | .isIn key e => do return .boolean (← (← e.eval realm scope).has (units key))
  | .same a b => do
      let v ← a.eval realm scope
      let w ← b.eval realm scope
      return .boolean (v.same w)
  | .differ a b => do
      let v ← a.eval realm scope
      let w ← b.eval realm scope
      return .boolean !(v.same w)
  | .both a b => do
      let v ← a.eval realm scope
      if v.isTrue then b.eval realm scope else return v
  | .either a b => do
      let v ← a.eval realm scope
      if v.isTrue then return v else b.eval realm scope

inductive Flow where
  | next (scope : Scope)
  | returned (value : Value)

mutual

def Stmt.exec (realm : Realm) (scope : Scope) : Stmt → Except Thrown Flow
  | .ifThen condition body => do
      let v ← condition.eval realm scope
      if v.isTrue then
        -- What a block declares ends with it.
        match ← Stmt.execAll realm scope body with
        | .next _ => return .next scope
        | .returned w => return .returned w
      else return .next scope
  | .const name e => do return .next ((name, ← e.eval realm scope) :: scope)
  | .returns e => do return .returned (← e.eval realm scope)

def Stmt.execAll (realm : Realm) (scope : Scope) : List Stmt → Except Thrown Flow
  | [] => .ok (.next scope)
  | s :: rest => do
      match ← Stmt.exec realm scope s with
      | .next scope => Stmt.execAll realm scope rest
      | .returned v => return .returned v

end

/-- What a function gives for an argument. -/
def Function.call (realm : Realm) (f : Function) (argument : Value) : Except Thrown Value := do
  match ← Stmt.execAll realm [(f.parameter, argument)] f.body with
  | .next _ => return .undefined
  | .returned v => return v

end TypeGuards.Script

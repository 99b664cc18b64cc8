import Mountaineer.PyDict

/-! The JavaScript that the builder emits into `server.tsx` and each `useServer.ts`, as far as
its meaning is at stake: the expressions it interpolates, their text, and their values.
Objects keep their properties in insertion order, which is JavaScript's order for the
non-index keys the emitted code uses. -/
namespace Mountaineer.Client

/-- A JavaScript value. Numbers are kept to integers: the emitted code does no arithmetic. -/
inductive JsValue where
  | undefined
  | null
  | bool (b : Bool)
  | num (n : Int)
  | str (s : String)
  | obj (props : List (String × JsValue))
  | fn (name : String)

/-- An exception that evaluation throws. -/
inductive JsError where
  | referenceError (name : String)
  | typeError (msg : String)
  deriving DecidableEq, Repr

namespace JsValue

/-- `ToBoolean`. -/
def truthy : JsValue → Bool
  | undefined | null => false
  | bool b => b
  | num n => n ≠ 0
  | str s => s ≠ ""
  | obj _ | fn _ => true

/-- `ToPropertyKey`. -/
def toPropertyKey : JsValue → String
  | undefined => "undefined"
  | null => "null"
  | bool b => if b then "true" else "false"
  | num n => toString n
  | str s => s
  | obj _ => "[object Object]"
  | fn name => name

/-- Reading a property. `undefined` and `null` have none; the emitted code reads no property
of other primitives, whose reads are `undefined` here. -/
def getProp : JsValue → String → Except JsError JsValue
  | undefined, key => .error (.typeError ("Cannot read properties of undefined (reading " ++ key ++ ")"))
  | null, key => .error (.typeError ("Cannot read properties of null (reading " ++ key ++ ")"))
  | obj props, key => .ok ((props.lookup key).getD undefined)
  | _, _ => .ok undefined

/-- The own enumerable properties that a spread `...v` copies. -/
def ownProps : JsValue → List (String × JsValue)
  | obj props => props
  | str s => s.data.enum.map fun e => (toString e.1, str e.2.toString)
  | _ => []

end JsValue

/-- An expression of the emitted code. -/
inductive JsExpr where
  | ident (name : String)
  | str (s : String)
  | undefined
  | member (obj : JsExpr) (field : String)
  | index (obj : JsExpr) (key : JsExpr)
  | cond (test yes no : JsExpr)
  | call (fn : String) (args : List JsExpr)
  | object (items : List (Option String × JsExpr)) (trailingComma : Bool)

namespace JsExpr

/-- The text of an expression as the builder writes it: one property of an object literal a
line, a spread being `...e`. -/
def print : JsExpr → String
  | ident name => name
  | str s => "'" ++ s ++ "'"
  | undefined => "undefined"
  | member o f => print o ++ "." ++ f
  | index o k => print o ++ "[" ++ print k ++ "]"
  | cond t y n => print t ++ " ? " ++ print y ++ " : " ++ print n
  | call f args => f ++ "(" ++ ", ".intercalate (printArgs args) ++ ")"
  | object items tc =>
    "\x7b\n" ++ ",\n".intercalate (printItems items) ++ (if tc then ",\n" else "\n") ++ "\x7d"
where
  printArgs : List JsExpr → List String
    | [] => []
    | e :: es => print e :: printArgs es
  printItems : List (Option String × JsExpr) → List String
    | [] => []
    | (none, e) :: rest => ("..." ++ print e) :: printItems rest
    | (some k, e) :: rest => (k ++ ": " ++ print e) :: printItems rest

/-- The text of one property of an object literal. -/
def printItem : Option String × JsExpr → String
  | (none, e) => "..." ++ print e
  | (some k, e) => k ++ ": " ++ print e

/-- A variable of the environment, or a `ReferenceError`. -/
def lookupVar (env : List (String × JsValue)) (name : String) : Except JsError JsValue :=
  match env.lookup name with
  | some v => .ok v
  | none => .error (.referenceError name)

/-- Evaluation in an environment of variables. A call is to a function the environment binds;
the emitted code only calls `applySideEffect`, whose result, a function, is kept opaque. -/
def eval (env : List (String × JsValue)) : JsExpr → Except JsError JsValue
  | ident name => lookupVar env name
  | str s => .ok (.str s)
  | undefined => .ok .undefined
  | member o f => do (← eval env o).getProp f
  | index o k => do
    let v ← eval env o
    v.getProp (← eval env k).toPropertyKey
  | cond t y n => do if (← eval env t).truthy then eval env y else eval env n
  | call f args => do
    let callee ← lookupVar env f
    let _ ← evalArgs env args
    match callee with
    | .fn _ => pure (.fn f)
    | _ => throw (.typeError (f ++ " is not a function"))
  | object items _ => do pure (.obj (← evalItems env [] items))
where
  evalArgs (env : List (String × JsValue)) : List JsExpr → Except JsError (List JsValue)
    | [] => .ok []
    | e :: es => do pure ((← eval env e) :: (← evalArgs env es))
  evalItems (env : List (String × JsValue)) (acc : List (String × JsValue)) :
      List (Option String × JsExpr) → Except JsError (List (String × JsValue))
    | [] => .ok acc
    | (none, e) :: rest => do evalItems env (assocMerge acc (← eval env e).ownProps) rest
    | (some k, e) :: rest => do evalItems env (assocSet k (← eval env e) acc) rest

end JsExpr

end Mountaineer.Client

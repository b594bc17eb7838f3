import ObjectModel.Error

/-!
# Scenarios

A manifest is a list of scenarios, and a scenario a list of steps over named objects, named host
functions and named value cells.  This file has their types only; objects, functions and cells are
referred to by name, so a scenario is independent of any realm.
-/

namespace ObjectModel

/-- A value in a scenario; objects are named. -/
inductive ScenarioValue where
  | undefined
  | null
  | nan
  | infinity
  | bool (b : Bool)
  | number (x : Double)
  | string (s : String)
  | object (name : String)
deriving DecidableEq, Inhabited

/-- A descriptor literal whose functions are named; `some none` is an explicit `undefined`. -/
structure ScenarioDescriptor where
  value : Option ScenarioValue := none
  writable : Option Bool := none
  get : Option (Option String) := none
  set : Option (Option String) := none
  enumerable : Option Bool := none
  configurable : Option Bool := none
deriving DecidableEq, Inhabited

/-- What a host function of a scenario does when it is called. -/
inductive FunctionBehavior where
  | returnConstant (value : ScenarioValue)
  /-- Returns the value of a cell, plus a number if there is one. -/
  | readCell (cell : String) (plus : Option Double)
  /-- Stores the first argument in a cell. -/
  | writeCell (cell : String)
deriving DecidableEq, Inhabited

/-- One entry of an object initialiser; functions are named. -/
inductive ScenarioLiteralEntry where
  | data (key : String) (value : ScenarioValue)
  | getter (key function : String)
  | setter (key function : String)
deriving DecidableEq, Inhabited

/-- One step of a scenario. -/
inductive ScenarioStep where
  /-- Without a prototype, the object inherits from the intrinsic object prototype. -/
  | createObject (name : String) (proto : Option String) (nullPrototype : Bool)
  | objectLiteral (name : String) (entries : List ScenarioLiteralEntry)
  /-- If a receiver cell is given, each call stores its receiver there. -/
  | createFunction (name : String) (behavior : FunctionBehavior) (recordReceiver : Option String)
  | construct (name function : String)
  /-- Names the object that a property holds. -/
  | bind (name object key : String)
  | setCell (cell : String) (value : ScenarioValue)
  | setPrototype (object : String) (proto : Option String)
  | define (object key : String) (descriptor : ScenarioDescriptor)
      (expectError : Option DefineErrorKind)
  | put (object key : String) (value : ScenarioValue) (receiver : Option String)
  | delete (object key : String) (expect : Bool)
  | expectValue (object key : String) (value : ScenarioValue) (receiver : Option String)
  /-- Compares the fields that the descriptor specifies; without one the key has to be absent. -/
  | expectDescriptor (object key : String) (descriptor : Option ScenarioDescriptor)
  | expectKeys (object : String) (keys : List String)
  | expectCell (cell : String) (value : ScenarioValue)
  | expectReceiver (cell object : String)
deriving DecidableEq, Inhabited

/-- The name of what a step does. -/
def ScenarioStep.op : ScenarioStep → String
  | createObject .. => "create_object"
  | objectLiteral .. => "object_literal"
  | createFunction .. => "create_function"
  | construct .. => "construct"
  | bind .. => "bind"
  | setCell .. => "set_cell"
  | setPrototype .. => "set_prototype"
  | define .. => "define"
  | put .. => "put"
  | delete .. => "delete"
  | expectValue .. => "expect_value"
  | expectDescriptor .. => "expect_descriptor"
  | expectKeys .. => "expect_keys"
  | expectCell .. => "expect_cell"
  | expectReceiver .. => "expect_receiver"

/-- A list of steps that are run in a realm of their own. -/
structure Scenario where
  id : String
  description : String := ""
  steps : List ScenarioStep
deriving DecidableEq, Inhabited

/-- A list of scenarios. -/
structure ScenarioManifest where
  schemaVersion : String
  scenarios : List Scenario
deriving DecidableEq, Inhabited

end ObjectModel

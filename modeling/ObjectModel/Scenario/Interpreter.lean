import ObjectModel.Literal
import ObjectModel.Scenario.Basic
import ObjectModel.Scenario.Detail

/-!
# Running the steps of a scenario

A step is a program over the realm of its scenario.  Names of objects are kept beside the program
and only ever grow or change their object; cells are the host's state, since host functions read and
write them.  A step either ends with the names afterwards, or stops the scenario: an expectation
that does not hold is a mismatch, and anything that keeps a step from being carried out, such as an
unknown name or an error of the realm, is a broken set-up.
-/

namespace ObjectModel

/-- The value cells of a scenario. -/
abbrev Cells := OrderedMap String Value

/-- The objects that a scenario has named. -/
abbrev Names := OrderedMap String ObjectHandle

/-- What a host function does once the names in it have been looked up. -/
inductive FunctionAction where
  | returnConstant (value : Value)
  | readCell (cell : String) (plus : Option Double)
  | writeCell (cell : String)
deriving DecidableEq, Inhabited

/-- The body of a host function of a scenario. -/
structure ScenarioFunction where
  action : FunctionAction
  /-- The cell that receives the receiver of each call. -/
  recordReceiver : Option String
deriving DecidableEq, Inhabited

/-- Why a scenario stopped. -/
inductive StepFailure where
  /-- An expectation did not hold. -/
  | mismatch (detail : String)
  /-- The step could not be carried out. -/
  | setup (code detail : String)
deriving DecidableEq, Inhabited

namespace StepFailure

/-- The code of every mismatch. -/
def mismatchCode : String := "OM-SCENARIO-0001"

/-- The code of a scenario that does not fit together. -/
def setupCode : String := "OM-SCENARIO-0002"

def unknownObject (name : String) : StepFailure :=
  .setup setupCode ("unknown object `" ++ name ++ "`")

def ofError (e : ObjectError) : StepFailure := .setup e.code e.message

end StepFailure

/-- A program of a scenario. -/
abbrev ScenarioProgram (α : Type) := Program ScenarioFunction Cells α

/-- A part of a step, which may stop the scenario. -/
abbrev StepProgram := ExceptT StepFailure (Program ScenarioFunction Cells)

namespace Cells

/-- The value of a cell; undefined if it was never set. -/
def read (cells : Cells) (cell : String) : Value := (cells.get? cell).getD .undefined

end Cells

namespace ScenarioFunction

/-- The cells after a call. -/
def updateCells (f : ScenarioFunction) (this : Value) (args : List Value) (cells : Cells) :
    Cells :=
  let recorded := match f.recordReceiver with
    | some cell => cells.insert cell this
    | none => cells
  match f.action with
  | .writeCell cell => recorded.insert cell (args.head?.getD .undefined)
  | _ => recorded

/-- The result of a call, from the cells after it. -/
def result (f : ScenarioFunction) (cells : Cells) : Value :=
  match f.action with
  | .returnConstant value => value
  | .readCell cell none => cells.read cell
  | .readCell cell (some plus) => .number ((cells.read cell).toNumber + plus)
  | .writeCell _ => .undefined

/-- What a call does. -/
def run (f : ScenarioFunction) (this : Value) (args : List Value) : ScenarioProgram Value :=
  .host (f.updateCells this args) fun cells => pure (f.result cells)

end ScenarioFunction

namespace Names

/-- The names that every scenario starts with. -/
def ofIntrinsics (i : Intrinsics) : Names :=
  .ofList [("global", i.global), ("Math", i.math), ("Object.prototype", i.objectPrototype),
    ("Function.prototype", i.functionPrototype), ("Array.prototype", i.arrayPrototype)]

/-- The object with a name. -/
def object (names : Names) (name : String) : Except StepFailure ObjectHandle :=
  match names.get? name with
  | some h => .ok h
  | none => .error (.unknownObject name)

def value (names : Names) : ScenarioValue → Except StepFailure Value
  | .undefined => .ok .undefined
  | .null => .ok .null
  | .nan => .ok (.number .nan)
  | .infinity => .ok (.number (.infinity false))
  | .bool b => .ok (.bool b)
  | .number x => .ok (.number x)
  | .string s => .ok (.string s)
  | .object name => return .object (← names.object name)

/-- Looks up what is there. -/
def option {α γ : Type} (f : α → Except StepFailure γ) : Option α → Except StepFailure (Option γ)
  | none => .ok none
  | some a => return some (← f a)

def fields (names : Names) (d : ScenarioDescriptor) : Except StepFailure DescriptorFields := do
  return {
    value := ← option names.value d.value
    writable := d.writable
    get := ← option (option names.object) d.get
    set := ← option (option names.object) d.set
    enumerable := d.enumerable
    configurable := d.configurable }

/-- The named receiver, or the object itself. -/
def receiver (names : Names) (object : ObjectHandle) (name : Option String) :
    Except StepFailure Value :=
  match name with
  | some name => return .object (← names.object name)
  | none => .ok (.object object)

def literalEntry (names : Names) : ScenarioLiteralEntry → Except StepFailure LiteralEntry
  | .data key value => return .data ⟨key⟩ (← names.value value)
  | .getter key function => return .getter ⟨key⟩ (← names.object function)
  | .setter key function => return .setter ⟨key⟩ (← names.object function)

def action (names : Names) : FunctionBehavior → Except StepFailure FunctionAction
  | .returnConstant value => return .returnConstant (← names.value value)
  | .readCell cell plus => .ok (.readCell cell plus)
  | .writeCell cell => .ok (.writeCell cell)

end Names

namespace StepProgram

/-- A part of a step that needs the names only. -/
def lookUp {α : Type} (e : Except StepFailure α) : StepProgram α := ExceptT.mk (pure e)

/-- A part of a step that operates on the realm or the cells. -/
def act {α : Type} (p : ScenarioProgram α) : StepProgram α := ExceptT.lift p

/-- Stops the scenario at an expectation that does not hold. -/
def mismatch {α : Type} (detail : String) : StepProgram α := throw (.mismatch detail)

/-- Stops the scenario unless a condition holds. -/
def expect (condition : Bool) (detail : String) : StepProgram Unit :=
  if condition then pure () else mismatch detail

/-- The result of a program, with its error as a value. -/
def attempt {α : Type} (p : ScenarioProgram α) : StepProgram (Except ObjectError α) :=
  act ((Except.ok <$> p).orElse fun e => pure (.error e))

end StepProgram

namespace ScenarioStep

open StepProgram

/-- A property of an object in a detail. -/
def path (object key : String) : String := "`" ++ object ++ "." ++ key ++ "`"

/-- Compares a definition with the error it was expected to be rejected with. -/
def checkDefine (key : String) (expected : Option DefineErrorKind) :
    Except ObjectError DefineOutcome → StepProgram Unit
  | .ok outcome =>
    match expected with
    | none => pure ()
    | some kind =>
      mismatch ("define `" ++ key ++ "` was " ++ outcome.name ++ ", expected " ++ kind.code)
  | .error e =>
    expect (expected.isSome && e.defineKind? == expected)
      ("define `" ++ key ++ "` failed with " ++ e.code ++ ": " ++ e.message)

/-- Compares a property with a descriptor literal. -/
def checkDescriptor (names : Names) (place : String) (descriptor : Option ScenarioDescriptor)
    (actual : Option PropertyDescriptor) : StepProgram Unit :=
  match descriptor, actual with
  | none, none => pure ()
  | none, some actual =>
    mismatch (place ++ " exists (" ++ Detail.ofDescriptor actual ++ "), expected absent")
  | some _, none => mismatch (place ++ " is absent")
  | some descriptor, some actual => do
    let expected ← lookUp (names.fields descriptor)
    expect (expected.holdsOf actual)
      (place ++ " is " ++ Detail.ofDescriptor actual ++ ", expected " ++ Detail.ofFields expected)

/-- What a step does: the names afterwards. -/
def execute (names : Names) : ScenarioStep → StepProgram Names
  | .createObject name proto nullPrototype => do
    let handle ←
      if nullPrototype then act (Program.createObject none)
      else match proto with
        | some proto => do
          let proto ← lookUp (names.object proto)
          act (Program.createObject (some proto))
        | none => act Program.newObject
    return names.insert name handle
  | .objectLiteral name entries => do
    let entries ← lookUp (entries.mapM names.literalEntry)
    let handle ← act (ObjectLiteral.mk entries).build
    return names.insert name handle
  | .createFunction name behavior recordReceiver => do
    let action ← lookUp (names.action behavior)
    let handle ← act (Program.createFunction name { action, recordReceiver })
    return names.insert name handle
  | .construct name function => do
    let function ← lookUp (names.object function)
    let handle ← act (Program.construct function [])
    return names.insert name handle
  | .bind name object key => do
    let object ← lookUp (names.object object)
    match ← act (Program.getValue object ⟨key⟩) with
    | .object handle => return names.insert name handle
    | other =>
      throw (.setup StepFailure.setupCode
        ("`" ++ key ++ "` holds " ++ other.toText ++ ", not an object"))
  | .setCell cell value => do
    let value ← lookUp (names.value value)
    act (Program.modifyHost fun cells : Cells => cells.insert cell value)
    return names
  | .setPrototype object proto => do
    let object ← lookUp (names.object object)
    let proto ← lookUp (Names.option names.object proto)
    let _ ← act (Program.setPrototype object proto)
    return names
  | .define object key descriptor expectError => do
    let object ← lookUp (names.object object)
    let fields ← lookUp (names.fields descriptor)
    checkDefine key expectError (← attempt (Program.define object ⟨key⟩ fields))
    return names
  | .put object key value receiver => do
    let object ← lookUp (names.object object)
    let receiver ← lookUp (names.receiver object receiver)
    let value ← lookUp (names.value value)
    act (Program.put object ⟨key⟩ value receiver)
    return names
  | .delete object key expected => do
    let object ← lookUp (names.object object)
    let deleted ← act (Program.delete object ⟨key⟩)
    expect (deleted == expected)
      ("delete `" ++ key ++ "` returned " ++ Detail.ofBool deleted ++ ", expected " ++
        Detail.ofBool expected)
    return names
  | .expectValue object key value receiver => do
    let handle ← lookUp (names.object object)
    let receiver ← lookUp (names.receiver handle receiver)
    let expected ← lookUp (names.value value)
    let actual ← act (Program.get handle ⟨key⟩ receiver)
    expect (actual.sameValue expected)
      (path object key ++ " is " ++ actual.toText ++ ", expected " ++ expected.toText)
    return names
  | .expectDescriptor object key descriptor => do
    let handle ← lookUp (names.object object)
    let o ← act (Program.object handle)
    checkDescriptor names (path object key) descriptor (o.getOwn? ⟨key⟩)
    return names
  | .expectKeys object keys => do
    let handle ← lookUp (names.object object)
    let actual := (← act (Program.enumerateKeys handle)).map PropertyKey.text
    expect (actual == keys)
      ("keys of `" ++ object ++ "` are " ++ Detail.ofTexts actual ++ ", expected " ++
        Detail.ofTexts keys)
    return names
  | .expectCell cell value => do
    let expected ← lookUp (names.value value)
    let actual := (← act Program.hostState).read cell
    expect (actual.sameValue expected)
      ("cell `" ++ cell ++ "` is " ++ actual.toText ++ ", expected " ++ expected.toText)
    return names
  | .expectReceiver cell object => do
    let expected := Value.object (← lookUp (names.object object))
    let actual := (← act Program.hostState).read cell
    expect (actual == expected)
      ("receiver in `" ++ cell ++ "` is " ++ actual.toText ++ ", expected `" ++ object ++ "`")
    return names

end ScenarioStep

/-- How far a scenario got. -/
structure Verdict where
  /-- The number of steps that were begun. -/
  stepsRun : Nat
  /-- The step that stopped the scenario, as its position and name, and why. -/
  failure : Option (String × StepFailure)
deriving DecidableEq, Inhabited

namespace Scenario

/-- Runs steps until one stops the scenario; `position` is that of the first. -/
def runSteps (names : Names) (position : Nat) : List ScenarioStep → ScenarioProgram Verdict
  | [] => pure ⟨position, none⟩
  | step :: rest => do
    let result ← (step.execute names).run.orElse fun e => pure (.error (.ofError e))
    match result with
    | .ok names => runSteps names (position + 1) rest
    | .error failure =>
      return ⟨position + 1, some (Nat.repr position ++ ":" ++ step.op, failure)⟩

/-- Runs a scenario: its verdict, and the number of events that are still buffered at the end. -/
def program (s : Scenario) : ScenarioProgram (Verdict × Nat) := do
  let intrinsics ← Program.inspect Realm.intrinsics
  let verdict ← runSteps (.ofIntrinsics intrinsics) 0 s.steps
  let events ← Program.drainEvents
  return (verdict, events.length)

end Scenario

end ObjectModel

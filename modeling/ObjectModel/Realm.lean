import ObjectModel.Realm.Intrinsics
import ObjectModel.Enumeration
import ObjectModel.EventLog
import ObjectModel.Config

/-!
# Realms

A realm is a heap with intrinsic objects, a table of host functions, settings and an event log.
The bodies of host functions are data of a type `β`, so a realm is plain data too; what a body does
is said elsewhere.

Every operation here is one step.  An operation that has to run a function (a call, or reading or
writing an accessor property) does not run it: it answers with `Reply.call`, the body together with
its receiver and arguments and what becomes of its result.  Everything else is answered at once with
`Reply.done`.  The third answer, `Reply.exhausted`, means that the heap has no handle left.
-/

namespace ObjectModel

/-- A function of the host. -/
structure HostFunction (β : Type) where
  name : String
  body : β
deriving Inhabited

/-- The answer to an operation on a realm. -/
inductive Reply (β α : Type) where
  | done (result : Except ObjectError α)
  /-- The body is to be run, and its value passed on through `finish`. -/
  | call (body : β) (this : Value) (args : List Value) (finish : Value → α)
  | exhausted

/-- A heap, its host functions, settings and events. -/
structure Realm (β : Type) where
  heap : Heap
  functions : OrderedMap ObjectHandle (HostFunction β)
  intrinsics : Intrinsics
  config : RealmConfig
  events : EventLog
deriving Inhabited

namespace Realm

variable {β : Type}

/-- A new realm. -/
def ofConfig (config : RealmConfig) : Realm β where
  heap := Intrinsics.heap
  functions := .empty
  intrinsics := .standard
  config := config
  events := .new config.tracePrefix config.eventCapacity.toNat config.recordEvents

/-- A new realm, if its configuration is valid. -/
def withConfig (config : RealmConfig) : Except ConfigError (Realm β) := do
  return ofConfig (← config.validate)

/-- The number of prototype links that lookups follow. -/
def maxHops (r : Realm β) : Nat := r.config.maxPrototypeDepth.toNat

def isCallable (r : Realm β) (h : ObjectHandle) : Bool := r.functions.contains h

def functionName? (r : Realm β) (h : ObjectHandle) : Option String :=
  (r.functions.get? h).map HostFunction.name

/-! ## Events -/

def emit (r : Realm β) (report : Report) : Realm β := { r with events := r.events.emit report }

/-- Reports that a walk ended early, if it did. -/
def noteTruncation (r : Realm β) (object : ObjectHandle) (key : Option PropertyKey)
    (truncation : Option WalkTruncation) : Realm β :=
  match truncation with
  | none => r
  | some t =>
    r.emit { event := "walk_truncated", outcome := t.name, object := some object, key }

/-- Reports an assignment that had no effect. -/
def notePutIgnored (r : Realm β) (object : ObjectHandle) (key : PropertyKey) (reason : String) :
    Realm β :=
  r.emit { event := "put_ignored", outcome := reason, object := some object, key := some key }

/-- Reports a definition. -/
def noteDefine (r : Realm β) (object : ObjectHandle) (key : PropertyKey)
    (result : Except ObjectError DefineOutcome) : Realm β :=
  let outcome := match result with
    | .ok outcome => outcome.name
    | .error _ => "rejected"
  let errorCode := match result with
    | .ok _ => none
    | .error e => some e.code
  r.emit
    { event := "define_property", outcome, errorCode, object := some object, key := some key }

/-- Takes the buffered events out. -/
def drainEvents (r : Realm β) : List ObjectModelEvent × Realm β :=
  let (events, log) := r.events.drain
  (events, { r with events := log })

/-! ## Allocation -/

/-- Adds an object. -/
def alloc (r : Realm β) (o : OrdinaryObject) : Reply β ObjectHandle × Realm β :=
  match r.heap.alloc? o with
  | some (h, heap) => (.done (.ok h), { r with heap })
  | none => (.exhausted, r)

/-- Adds a plain object. -/
def newObject (r : Realm β) : Reply β ObjectHandle × Realm β :=
  r.alloc (.tagged (some r.intrinsics.objectPrototype) "Object")

/-- Adds a plain object with the given prototype, which has to exist. -/
def createObject (r : Realm β) (prototype : Option ObjectHandle) :
    Reply β ObjectHandle × Realm β :=
  match prototype.filter fun p => !r.heap.contains p with
  | some p => (.done (.error (.objectNotFound p)), r)
  | none => r.alloc (.tagged prototype "Object")

/-- Adds a host function.  It gets an own `prototype`, an object whose `constructor` is the
function. -/
def createFunction (r : Realm β) (name : String) (body : β) : Reply β ObjectHandle × Realm β :=
  let function :=
    { OrdinaryObject.tagged (some r.intrinsics.functionPrototype) "Function" with callable := true }
  match r.heap.alloc? function with
  | none => (.exhausted, r)
  | some (h, heap) =>
    let prototype := (OrdinaryObject.tagged (some r.intrinsics.objectPrototype) "Object").setOwn
      ⟨"constructor"⟩ (.builtin (.object h))
    match heap.alloc? prototype with
    | none => (.exhausted, r)
    | some (p, heap) =>
      let heap := heap.modify h
        (·.setOwn ⟨"prototype"⟩ (.data (.object p) true false false))
      (.done (.ok h), { r with heap, functions := r.functions.insert h ⟨name, body⟩ })

/-! ## Calls -/

/-- The error of calling an object that is no function. -/
def callError (r : Realm β) (h : ObjectHandle) : ObjectError :=
  if r.heap.contains h then .notCallable h else .objectNotFound h

/-- Calls a function. -/
def call {α : Type} (r : Realm β) (function : ObjectHandle) (this : Value) (args : List Value)
    (finish : Value → α) : Reply β α :=
  match r.functions.get? function with
  | some f => .call f.body this args finish
  | none => .done (.error (r.callError function))

/-! ## Reading and writing properties -/

/-- Reads a property along the prototype chain.  A getter is called on the receiver; a missing
property or getter reads as undefined. -/
def get (r : Realm β) (object : ObjectHandle) (key : PropertyKey) (receiver : Value) :
    Reply β Value × Realm β :=
  match r.heap.findProperty object key r.maxHops with
  | .error e => (.done (.error e), r)
  | .ok lookup =>
    let r := r.noteTruncation object (some key) lookup.truncation
    match lookup.found with
    | some (_, .data value _ _ _) => (.done (.ok value), r)
    | some (_, .accessor (some getter) _ _ _) => (r.call getter receiver [] id, r)
    | some (_, .accessor none _ _ _) => (.done (.ok .undefined), r)
    | none => (.done (.ok .undefined), r)

/-- Writes a property.  A setter along the chain is called on the receiver.  A writable own data
property takes the value; otherwise an open data property is added to the object, unless the
nearest property is not writable or the object not extensible.  A write that is refused is a no-op,
not an error. -/
def put (r : Realm β) (object : ObjectHandle) (key : PropertyKey) (value receiver : Value) :
    Reply β Unit × Realm β :=
  match r.heap.findProperty object key r.maxHops with
  | .error e => (.done (.error e), r)
  | .ok lookup =>
    let r := r.noteTruncation object (some key) lookup.truncation
    let add : Realm β :=
      if (r.heap.get? object).any (·.extensible) then
        { r with heap := r.heap.modify object (·.setOwn key (.openData value)) }
      else r.notePutIgnored object key "not_extensible"
    match lookup.found with
    | some (_, .accessor _ (some setter) _ _) =>
      (r.call setter receiver [value] (fun _ => ()), r)
    | some (_, .accessor _ none _ _) => (.done (.ok ()), r.notePutIgnored object key "no_setter")
    | some (_, .data _ false _ _) => (.done (.ok ()), r.notePutIgnored object key "non_writable")
    | some (owner, .data _ true enumerable configurable) =>
      if owner = object then
        (.done (.ok ()), { r with
          heap := r.heap.modify object
            (·.setOwn key (.data value true enumerable configurable)) })
      else (.done (.ok ()), add)
    | none => (.done (.ok ()), add)

/-- Is there a property along the prototype chain? -/
def has (r : Realm β) (object : ObjectHandle) (key : PropertyKey) : Reply β Bool × Realm β :=
  match r.heap.findProperty object key r.maxHops with
  | .error e => (.done (.error e), r)
  | .ok lookup =>
    (.done (.ok lookup.found.isSome), r.noteTruncation object (some key) lookup.truncation)

/-- Defines an own property.  Accessor functions that are not callable are rejected first. -/
def define (r : Realm β) (object : ObjectHandle) (key : PropertyKey) (fields : DescriptorFields) :
    Reply β DefineOutcome × Realm β :=
  match r.heap.get object with
  | .error e => (.done (.error e), r)
  | .ok o =>
    match fields.accessorFunctions.find? fun f => !r.isCallable f with
    | some f =>
      (.done (.error (.notCallable f)), r.noteDefine object key (.error (.notCallable f)))
    | none =>
      match o.define key fields with
      | .error e =>
        (.done (.error (.define e)), r.noteDefine object key (.error (.define e)))
      | .ok (outcome, o) =>
        let r := { r with heap := r.heap.modify object fun _ => o }
        (.done (.ok outcome), r.noteDefine object key (.ok outcome))

/-- Deletes an own property; `false` if it is non-configurable. -/
def delete (r : Realm β) (object : ObjectHandle) (key : PropertyKey) :
    Reply β Bool × Realm β :=
  match r.heap.get object with
  | .error e => (.done (.error e), r)
  | .ok o =>
    let (deleted, o) := o.delete key
    (.done (.ok deleted), { r with heap := r.heap.modify object fun _ => o })

/-- The keys that a `for … in` loop visits. -/
def enumerateKeys (r : Realm β) (object : ObjectHandle) :
    Reply β (List PropertyKey) × Realm β :=
  match r.heap.enumerateKeys object r.maxHops with
  | .error e => (.done (.error e), r)
  | .ok enumeration =>
    (.done (.ok enumeration.keys), r.noteTruncation object none enumeration.truncation)

/-! ## Objects as a whole -/

/-- Changes an object, which has to exist. -/
def update (r : Realm β) (object : ObjectHandle) (f : OrdinaryObject → OrdinaryObject) :
    Reply β Unit × Realm β :=
  if r.heap.contains object then (.done (.ok ()), { r with heap := r.heap.modify object f })
  else (.done (.error (.objectNotFound object)), r)

/-- Relinks a prototype. -/
def setPrototype (r : Realm β) (object : ObjectHandle) (prototype : Option ObjectHandle) :
    Reply β Bool × Realm β :=
  match r.heap.setPrototype object prototype with
  | .error e => (.done (.error e), r)
  | .ok (accepted, heap) => (.done (.ok accepted), { r with heap })

end Realm

end ObjectModel

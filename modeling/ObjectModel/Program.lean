import ObjectModel.Realm

/-!
# Programs over a realm

A `Program β σ α` is a computation that operates on a realm and on a state `σ` of the host, and
ends with an `α` or an `ObjectError`.  It is a finite tree: each node asks the realm for one
operation, looks at the realm, or changes the host's state, and continues with the answer.  The
algorithms of this library, the bodies of host functions and whole scenarios are programs, so a
property that every operation keeps is kept by everything that can be written with them.

`Program.run` gives a program its meaning.  Running a function that an operation calls for means
running the program that the host gives for its body; `depth` bounds how many such calls may be
running at once.  A run that would need more, or more objects than there are handles, has no result.
-/

namespace ObjectModel

/-- One operation on a realm. -/
inductive Request (β : Type) where
  | newObject
  | createObject (prototype : Option ObjectHandle)
  /-- Adds an object of any class whose prototype need not exist. -/
  | allocate (prototype : Option ObjectHandle) (classTag : String)
  | createFunction (name : String) (body : β)
  | call (function : ObjectHandle) (this : Value) (args : List Value)
  | get (object : ObjectHandle) (key : PropertyKey) (receiver : Value)
  | put (object : ObjectHandle) (key : PropertyKey) (value receiver : Value)
  | has (object : ObjectHandle) (key : PropertyKey)
  | define (object : ObjectHandle) (key : PropertyKey) (fields : DescriptorFields)
  | delete (object : ObjectHandle) (key : PropertyKey)
  | enumerateKeys (object : ObjectHandle)
  | preventExtensions (object : ObjectHandle)
  | makeSealed (object : ObjectHandle)
  | makeFrozen (object : ObjectHandle)
  | setPrototype (object : ObjectHandle) (prototype : Option ObjectHandle)
  | drainEvents

/-- The type of the answer to an operation. -/
def Request.Answer {β : Type} : Request β → Type
  | newObject | createObject _ | allocate .. | createFunction .. => ObjectHandle
  | call .. | get .. => Value
  | put .. | preventExtensions _ | makeSealed _ | makeFrozen _ => Unit
  | has .. | delete .. | setPrototype .. => Bool
  | define .. => DefineOutcome
  | enumerateKeys _ => List PropertyKey
  | drainEvents => List ObjectModelEvent

/-- Performs one operation. -/
def Realm.perform {β : Type} (r : Realm β) : (q : Request β) → Reply β q.Answer × Realm β
  | .newObject => r.newObject
  | .createObject prototype => r.createObject prototype
  | .allocate prototype classTag => r.alloc (.tagged prototype classTag)
  | .createFunction name body => r.createFunction name body
  | .call function this args => (r.call function this args id, r)
  | .get object key receiver => r.get object key receiver
  | .put object key value receiver => r.put object key value receiver
  | .has object key => r.has object key
  | .define object key fields => r.define object key fields
  | .delete object key => r.delete object key
  | .enumerateKeys object => r.enumerateKeys object
  | .preventExtensions object => r.update object .preventExtensions
  | .makeSealed object => r.update object .sealed
  | .makeFrozen object => r.update object .frozen
  | .setPrototype object prototype => r.setPrototype object prototype
  | .drainEvents => let (events, r) := r.drainEvents; (.done (.ok events), r)

/-- A computation over a realm and a state of the host. -/
inductive Program (β σ α : Type) where
  /-- Ends with a value or an error. -/
  | done (result : Except ObjectError α)
  /-- Asks the realm for an operation. -/
  | ask (q : Request β) (next : Except ObjectError q.Answer → Program β σ α)
  /-- Looks at the realm. -/
  | look (next : Realm β → Program β σ α)
  /-- Changes the state of the host and continues with the new state. -/
  | host (change : σ → σ) (next : σ → Program β σ α)

namespace Program

variable {β σ α γ : Type}

/-- Runs a second program on the value of the first; an error ends both. -/
def andThen : Program β σ α → (α → Program β σ γ) → Program β σ γ
  | done (.ok a), f => f a
  | done (.error e), _ => done (.error e)
  | ask q next, f => ask q fun answer => (next answer).andThen f
  | look next, f => look fun r => (next r).andThen f
  | host change next, f => host change fun s => (next s).andThen f

/-- Runs a second program on the error of the first. -/
def orElse : Program β σ α → (ObjectError → Program β σ α) → Program β σ α
  | done (.ok a), _ => done (.ok a)
  | done (.error e), f => f e
  | ask q next, f => ask q fun answer => (next answer).orElse f
  | look next, f => look fun r => (next r).orElse f
  | host change next, f => host change fun s => (next s).orElse f

instance : Monad (Program β σ) where
  pure a := done (.ok a)
  bind := andThen

instance : MonadExceptOf ObjectError (Program β σ) where
  throw e := done (.error e)
  tryCatch := orElse

/-- One operation of the realm. -/
def request (q : Request β) : Program β σ q.Answer := ask q done

/-- What the realm shows. -/
def inspect (f : Realm β → α) : Program β σ α := look fun r => pure (f r)

/-- What the realm shows, or an error. -/
def inspectOrThrow (f : Realm β → Except ObjectError α) : Program β σ α := look fun r => done (f r)

/-- The state of the host. -/
def hostState : Program β σ σ := host id pure

/-- Changes the state of the host. -/
def modifyHost (f : σ → σ) : Program β σ Unit := host f fun _ => pure ()

/-! ## The operations of a realm, as programs -/

def newObject : Program β σ ObjectHandle := request .newObject

def createObject (prototype : Option ObjectHandle) : Program β σ ObjectHandle :=
  request (.createObject prototype)

def allocate (prototype : Option ObjectHandle) (classTag : String) : Program β σ ObjectHandle :=
  request (.allocate prototype classTag)

def createFunction (name : String) (body : β) : Program β σ ObjectHandle :=
  request (.createFunction name body)

def call (function : ObjectHandle) (this : Value) (args : List Value) : Program β σ Value :=
  request (.call function this args)

def get (object : ObjectHandle) (key : PropertyKey) (receiver : Value) : Program β σ Value :=
  request (.get object key receiver)

/-- Reads a property with the object as the receiver. -/
def getValue (object : ObjectHandle) (key : PropertyKey) : Program β σ Value :=
  get object key (.object object)

def put (object : ObjectHandle) (key : PropertyKey) (value receiver : Value) :
    Program β σ Unit :=
  request (.put object key value receiver)

/-- Writes a property with the object as the receiver. -/
def putValue (object : ObjectHandle) (key : PropertyKey) (value : Value) : Program β σ Unit :=
  put object key value (.object object)

def has (object : ObjectHandle) (key : PropertyKey) : Program β σ Bool :=
  request (.has object key)

def define (object : ObjectHandle) (key : PropertyKey) (fields : DescriptorFields) :
    Program β σ DefineOutcome :=
  request (.define object key fields)

def delete (object : ObjectHandle) (key : PropertyKey) : Program β σ Bool :=
  request (.delete object key)

def enumerateKeys (object : ObjectHandle) : Program β σ (List PropertyKey) :=
  request (.enumerateKeys object)

def preventExtensions (object : ObjectHandle) : Program β σ Unit :=
  request (.preventExtensions object)

def makeSealed (object : ObjectHandle) : Program β σ Unit := request (.makeSealed object)

def makeFrozen (object : ObjectHandle) : Program β σ Unit := request (.makeFrozen object)

def setPrototype (object : ObjectHandle) (prototype : Option ObjectHandle) : Program β σ Bool :=
  request (.setPrototype object prototype)

def drainEvents : Program β σ (List ObjectModelEvent) := request .drainEvents

/-- The object under a handle. -/
def object (h : ObjectHandle) : Program β σ OrdinaryObject := inspectOrThrow (·.heap.get h)

def isCallable (h : ObjectHandle) : Program β σ Bool := inspect (·.isCallable h)

/-- Fails unless a handle is that of a function. -/
def requireCallable (h : ObjectHandle) : Program β σ Unit :=
  inspectOrThrow fun r => if r.isCallable h then .ok () else .error (r.callError h)

/-- Constructs an object: a new object that inherits from the function's `prototype` (or from the
intrinsic object prototype if that is no object) is passed to the function as the receiver.  An
object that the function returns takes its place. -/
def construct (function : ObjectHandle) (args : List Value) : Program β σ ObjectHandle := do
  requireCallable function
  let intrinsics ← inspect Realm.intrinsics
  let prototype ← getValue function ⟨"prototype"⟩
  let object ← allocate (some (prototype.asObject?.getD intrinsics.objectPrototype)) "Object"
  let returned ← call function (.object object) args
  return returned.asObject?.getD object

end Program

/-- A realm together with the state of the host. -/
structure World (β σ : Type) where
  realm : Realm β
  host : σ

namespace Program

variable {β σ α : Type}

/-- The meaning of a program when `callee` runs the bodies of functions. -/
def runWith (callee : β → Value → List Value → World β σ →
    Option (Except ObjectError Value × World β σ)) :
    Program β σ α → World β σ → Option (Except ObjectError α × World β σ)
  | done result, w => some (result, w)
  | ask q next, ⟨realm, state⟩ =>
    match realm.perform q with
    | (.done result, realm) => (next result).runWith callee ⟨realm, state⟩
    | (.call body this args finish, realm) =>
      match callee body this args ⟨realm, state⟩ with
      | some (result, w) => (next (result.map finish)).runWith callee w
      | none => none
    | (.exhausted, _) => none
  | look next, w => (next w.realm).runWith callee w
  | host change next, ⟨realm, state⟩ =>
    let state := change state
    (next state).runWith callee ⟨realm, state⟩

/-- Runs the body of a function, as `bodies` says, while at most `depth` calls may be running at
once. -/
def runBody (bodies : β → Value → List Value → Program β σ Value) :
    (depth : Nat) → β → Value → List Value → World β σ →
      Option (Except ObjectError Value × World β σ)
  | 0, _, _, _, _ => none
  | depth + 1, body, this, args, w => (bodies body this args).runWith (runBody bodies depth) w

/-- The meaning of a program when `bodies` says what the body of a function does and at most
`depth` calls may be running at once. -/
def run (bodies : β → Value → List Value → Program β σ Value) (depth : Nat) (p : Program β σ α)
    (w : World β σ) : Option (Except ObjectError α × World β σ) :=
  p.runWith (runBody bodies depth) w

end Program

end ObjectModel
